import FilmQuery.Entries
import FilmQuery.Settings.Template

/-!
# Files of settings

Settings may be kept in a file of lines `NAME=value`, with or without a byte order mark in front. A
name may be quoted, and the word `export` may stand in front of it. A value in single or double
quotes may hold escapes and go over several lines; any other value ends at its line or at a comment,
which a number sign opens behind a blank. A name alone is bound to nothing. A line that fits none of
this is skipped.
-/

namespace FilmQuery.SettingsFile

/-- Every end of line becomes a line feed. -/
def unixLines : Text → Text
  | [] => []
  | [c] => if c = 13 then [10] else [c]
  | c :: d :: t =>
    if c = 13 then
      if d = 10 then 10 :: unixLines t else 10 :: unixLines (d :: t)
    else c :: unixLines (d :: t)

def skipInline (t : Text) : Text := t.dropWhile isInlineBlank

/-- The text after the end of the current line. -/
def nextLine (t : Text) : Text := (t.dropWhile (· != 10)).drop 1

/-- Skips the word `export` and the blanks after it. -/
def skipExport (t : Text) : Text :=
  match Text.after? (lit "export") t with
  | some (c :: rest) => if isInlineBlank c then skipInline rest else t
  | _ => t

/-! ## Names -/

/-- A name that ends before an equals sign, a number sign or a blank. -/
def bareName? (t : Text) : Option (Text × Text) :=
  match t.span fun c => c != '='.toNat && c != '#'.toNat && !isBlank c with
  | ([], _) => none
  | (name, rest) => some (name, rest)

/-- A name between single quotes, the first of which has been passed. -/
def quotedName? (t : Text) : Option (Text × Text) :=
  match Text.splitAt? 0x27 t with
  | none | some ([], _) => none
  | some (name, rest) => some (name, rest)

/-- The name of a line, and `some none` where a comment takes its place. -/
def name? : Text → Option (Option Text × Text)
  | [] => none
  | c :: t =>
    if c = '#'.toNat then some (none, c :: t)
    else
      (if c = 0x27 then quotedName? t else bareName? (c :: t)).map fun (name, rest) =>
        (some name, rest)

/-! ## Values -/

/-- What stands before the closing quote `q`, and what follows it. A backslash takes the character
after it along, so neither a quote nor a backslash there has its usual part. -/
def untilQuote? (q : CodePoint) : (escaped : Bool) → Text → Option (Text × Text)
  | _, [] => none
  | escaped, c :: t =>
    if c = q && !escaped then some ([], t)
    else (untilQuote? q (!escaped && c == '\\'.toNat) t).map fun (a, b) => (c :: a, b)

/-- What an escape in single quotes stands for. -/
def singleEscape? (c : CodePoint) : Option CodePoint :=
  if c = '\\'.toNat ∨ c = 0x27 then some c else none

/-- What an escape in double quotes stands for. -/
def doubleEscape? (c : CodePoint) : Option CodePoint :=
  if c = '\\'.toNat ∨ c = 0x27 ∨ c = '"'.toNat then some c
  else if c = 'a'.toNat then some 7
  else if c = 'b'.toNat then some 8
  else if c = 'f'.toNat then some 12
  else if c = 'n'.toNat then some 10
  else if c = 'r'.toNat then some 13
  else if c = 't'.toNat then some 9
  else if c = 'v'.toNat then some 11
  else none

/-- Replaces the escapes that are known; any other backslash stands for itself. -/
def unescape (escape? : CodePoint → Option CodePoint) : Text → Text
  | [] => []
  | [c] => [c]
  | c :: d :: t =>
    if c = '\\'.toNat then
      match escape? d with
      | some e => e :: unescape escape? t
      | none => c :: unescape escape? (d :: t)
    else c :: unescape escape? (d :: t)

/-- Cuts a line at a number sign that has a blank in front of it, with all the blanks there. -/
def withoutComment : Text → Text
  | [] => []
  | c :: t =>
    if isBlank c && (t.dropWhile isBlank).head? == some '#'.toNat then [] else c :: withoutComment t

/-- A value without quotes: the rest of the line up to a comment, without blanks at its ends. -/
def bareValue (line : Text) : Text := Text.trim isBlank (withoutComment line)

/-- A value in quotes `q`, the first of which has been passed, and the rest of the text. -/
def quotedValue? (q : CodePoint) (escape? : CodePoint → Option CodePoint) (t : Text) :
    Option (Text × Text) :=
  (untilQuote? q false t).map fun (inner, rest) => (unescape escape? inner, rest)

/-- The value after an equals sign, and the rest of the text. -/
def value? (t : Text) : Option (Text × Text) :=
  let (line, rest) := t.span (· != 10)
  let bare := some (bareValue line, rest)
  match skipInline t with
  | [] => bare
  | c :: inner =>
    if c = 0x27 then quotedValue? 0x27 singleEscape? inner
    else if c = '"'.toNat then quotedValue? '"'.toNat doubleEscape? inner
    else bare

/-! ## Lines -/

/-- The text after a comment and the end of a line, if nothing else stands there. -/
def endOfLine? (t : Text) : Option Text :=
  let t := skipInline t
  let t := if t.head? = some '#'.toNat then t.dropWhile (· != 10) else t
  match t with
  | [] => some []
  | c :: rest => if c = 10 then some rest else none

/-- The binding at the start of a text, if there is one, and the text after its line. -/
def binding (t : Text) : Option (Text × Option Text) × Text :=
  let t := skipExport t
  match name? t with
  | none => (none, nextLine t)
  | some (name, rest) =>
    let close (value : Option Text) (rest : Text) :=
      match endOfLine? rest with
      | some rest => (name.map fun name => (name, value), rest)
      | none => (none, nextLine rest)
    match skipInline rest with
    | [] => close none []
    | c :: rest =>
      if c = '='.toNat then
        match value? rest with
        | some (value, rest) => close (some value) rest
        | none => (none, nextLine rest)
      else close none (c :: rest)

/-- The bindings of a text, line by line. -/
def bindingsFrom : (fuel : Nat) → Text → List (Text × Option Text)
  | 0, _ => []
  | fuel + 1, t =>
    match t.dropWhile isBlank with
    | [] => []
    | t =>
      let (found, rest) := binding t
      match found with
      | some entry => entry :: bindingsFrom fuel rest
      | none => bindingsFrom fuel rest

/-- Drops a byte order mark in front. -/
def withoutMark (file : Text) : Text := (Text.after? [0xFEFF] file).getD file

/-- The bindings of a file as they are written. -/
def bindings (file : Text) : List (Text × Option Text) :=
  bindingsFrom (file.length + 1) (unixLines (withoutMark file))

/-- The variables that the values of a file refer to. -/
def references (file : Text) : List Text :=
  (bindings file).flatMap fun (_, value) => Template.references (value.getD [])

/-- The value of a variable for a later line: what the lines before bind, or the environment. -/
def lookup (environment : List (Text × Text)) (before : List (Text × Option Text)) (name : Text) :
    Option Text :=
  match before.lookup name with
  | some value => some (value.getD [])
  | none => environment.lookup name

/-- The settings of a file, the references in each value replaced. -/
def load (environment : List (Text × Text)) (file : Text) : List (Text × Option Text) :=
  (bindings file).foldl (fun before (name, value) =>
    Entries.put name (value.map (Template.expand (lookup environment before))) before) []

end FilmQuery.SettingsFile
