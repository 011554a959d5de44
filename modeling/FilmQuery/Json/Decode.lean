import FilmQuery.Entries
import FilmQuery.Json.Value
import FilmQuery.Number.Numeral

/-!
# Reading JSON

A recursive reader over what is left of the text. A container hands the reader of the next level to
the loop over its members, so the levels still allowed are what bounds the recursion, and each loop
is bounded by the length of the text. How many levels there are depends on the stack that the reader
runs on, and so on who calls it: every function that reads JSON takes their number as `depth`. A
failure holds the rest of the text from which it is reported; its position is the length before
that. White space is space, tab, line feed and carriage return. `NaN`, `Infinity` and `-Infinity`
are numbers.
-/

namespace FilmQuery.Json

/-- What can be wrong with a text as JSON. -/
inductive Fault where
  | expectingValue
  | expectingName
  | expectingColon
  | expectingComma
  | controlCharacter
  | unknownEscape
  | unicodeEscape
  | unterminated
  | extraData
  | byteOrderMark
  deriving DecidableEq, Repr

/-- The wording of a fault. -/
def Fault.message : Fault → Text
  | expectingValue => lit "Expecting value"
  | expectingName => lit "Expecting property name enclosed in double quotes"
  | expectingColon => lit "Expecting ':' delimiter"
  | expectingComma => lit "Expecting ',' delimiter"
  | controlCharacter => lit "Invalid control character at"
  | unknownEscape => lit "Invalid \\escape"
  | unicodeEscape => lit "Invalid \\uXXXX escape"
  | unterminated => lit "Unterminated string starting at"
  | extraData => lit "Extra data"
  | byteOrderMark => lit "Unexpected UTF-8 BOM (decode using utf-8-sig)"

/-- Why a text is no JSON value: a fault at a position, an integer with too many digits, or
containers nested too deeply. -/
inductive DecodeError where
  | malformed (fault : Fault) (position : Nat)
  | digits (limit : DigitLimit)
  | tooDeep
  deriving DecidableEq, Repr

/-- A failure inside the reader: a fault is reported at the head of `rest`. -/
inductive Stop where
  | malformed (fault : Fault) (rest : Text)
  | digits (limit : DigitLimit)
  | tooDeep
  deriving DecidableEq, Repr

/-- The levels of containers that may be open at once for a caller who does not say how many. -/
def usualDepth : Nat := 1000

def isSpace (c : CodePoint) : Bool := c == 0x20 || c == 9 || c == 10 || c == 13

def skipSpace (t : Text) : Text := t.dropWhile isSpace

/-! ## Strings -/

/-- One element of a string as it is spelled: a character, or an escaped UTF-16 unit. -/
inductive Piece where
  | raw (c : CodePoint)
  | unit (u : Nat)
  deriving DecidableEq, Repr

def isHighSurrogate (u : Nat) : Bool := 0xD800 ≤ u && u ≤ 0xDBFF

def isLowSurrogate (u : Nat) : Bool := 0xDC00 ≤ u && u ≤ 0xDFFF

/-- The code point that a pair of surrogates stands for. -/
def joinSurrogates (high low : Nat) : CodePoint :=
  0x10000 + (high - 0xD800) * 0x400 + (low - 0xDC00)

/-- The text of the pieces: an escaped pair of surrogates is one code point. -/
def spelled : List Piece → Text
  | [] => []
  | .raw c :: rest => c :: spelled rest
  | [.unit u] => [u]
  | .unit u :: .raw c :: rest => u :: c :: spelled rest
  | .unit u :: .unit v :: rest =>
    if isHighSurrogate u && isLowSurrogate v then joinSurrogates u v :: spelled rest
    else u :: spelled (.unit v :: rest)

/-- The unit that four hexadecimal digits spell. -/
def hexUnit? (a b c d : CodePoint) : Option Nat := do
  let a ← hexValue? a
  let b ← hexValue? b
  let c ← hexValue? c
  let d ← hexValue? d
  return ((a * 16 + b) * 16 + c) * 16 + d

/-- The character that a one-letter escape stands for. -/
def shortEscape? (c : CodePoint) : Option CodePoint :=
  if c = '"'.toNat ∨ c = '\\'.toNat ∨ c = '/'.toNat then some c
  else if c = 'b'.toNat then some 8
  else if c = 'f'.toNat then some 12
  else if c = 'n'.toNat then some 10
  else if c = 'r'.toNat then some 13
  else if c = 't'.toNat then some 9
  else none

/-- Reads the pieces of a string up to its closing quote; `opening` is the text from the opening
quote on. Four digits of an escape must be followed by something, if only the quote. -/
def pieces (opening : Text) : Text → Except Stop (List Piece × Text)
  | [] => .error (.malformed .unterminated opening)
  | c :: t =>
    if c = '"'.toNat then .ok ([], t)
    else if c = '\\'.toNat then
      match t with
      | [] => .error (.malformed .unterminated opening)
      | e :: t =>
        if e = 'u'.toNat then
          match t with
          | h₁ :: h₂ :: h₃ :: h₄ :: next :: t =>
            match hexUnit? h₁ h₂ h₃ h₄ with
            | some u => (pieces opening (next :: t)).map fun (ps, r) => (.unit u :: ps, r)
            | none => .error (.malformed .unicodeEscape (e :: h₁ :: h₂ :: h₃ :: h₄ :: next :: t))
          | t => .error (.malformed .unicodeEscape (e :: t))
        else
          match shortEscape? e with
          | some s => (pieces opening t).map fun (ps, r) => (.raw s :: ps, r)
          | none => .error (.malformed .unknownEscape (c :: e :: t))
    else if c < 0x20 then .error (.malformed .controlCharacter (c :: t))
    else (pieces opening t).map fun (ps, r) => (.raw c :: ps, r)

/-- Reads a string whose opening quote has been passed. -/
def stringBody (opening t : Text) : Except Stop (Text × Text) :=
  (pieces opening t).map fun (ps, r) => (spelled ps, r)

/-! ## Numbers -/

/-- The digits of an integer part: a zero alone, or digits that do not begin with zero. -/
def wholePart : Text → Text × Text
  | [] => ([], [])
  | c :: t =>
    if c = '0'.toNat then ([c], t)
    else if isAsciiDigit c then (c :: t).span isAsciiDigit
    else ([], c :: t)

/-- A point with at least one digit after it, or nothing. -/
def fractionPart : Text → Option Text × Text
  | [] => (none, [])
  | c :: t =>
    let (ds, r) := t.span isAsciiDigit
    if c = '.'.toNat && !ds.isEmpty then (some ds, r) else (none, c :: t)

/-- An exponent mark with an optional sign and at least one digit after it, or nothing. -/
def exponentPart : Text → Option Int × Text
  | [] => (none, [])
  | c :: t =>
    let (negative, s) := Numeral.sign t
    let (ds, r) := s.span isAsciiDigit
    if (c = 'e'.toNat ∨ c = 'E'.toNat) ∧ ¬ds.isEmpty then
      let n : Nat := Text.decimalValue ds
      (some (if negative then -n else n), r)
    else (none, c :: t)

/-- Reads a number, with its value and the rest of the text; a minus sign may stand in front. -/
def numeral (t : Text) : Except Stop (Json × Text) :=
  let (negative, s) :=
    match t with
    | c :: r => if c = '-'.toNat then (true, r) else (false, t)
    | [] => (false, [])
  let (whole, s) := wholePart s
  if whole.isEmpty then .error (.malformed .expectingValue t)
  else
    let (fraction, s) := fractionPart s
    let (exponent, s) := exponentPart s
    if fraction.isNone && exponent.isNone then
      if maxDigits < whole.length then .error (.digits ⟨whole.length⟩)
      else
        let n : Nat := Text.decimalValue whole
        .ok (.number (.int (if negative then -n else n)), s)
    else
      let fraction := fraction.getD []
      let x := Binary64.ofDecimal negative (Text.decimalValue (whole ++ fraction))
        (exponent.getD 0 - fraction.length)
      .ok (.number (.real x), s)

/-- The words that are values. -/
def wordValues : List (Text × Json) := [
  (lit "null", .null),
  (lit "true", .bool true),
  (lit "false", .bool false),
  (lit "NaN", .number (.real .nan)),
  (lit "Infinity", .number (.real (.infinite false))),
  (lit "-Infinity", .number (.real (.infinite true)))]

/-- Reads a word or a number. -/
def scalar (t : Text) : Except Stop (Json × Text) :=
  match wordValues.findSome? fun (w, j) => (Text.after? w t).map fun r => (j, r) with
  | some found => .ok found
  | none => numeral t

/-! ## Containers -/

/-- Reads the elements of an array from the first one to the closing bracket. -/
def elements (value : Text → Except Stop (Json × Text)) :
    (fuel : Nat) → Text → Except Stop (List Json × Text)
  | 0, t => .error (.malformed .expectingValue t)
  | fuel + 1, t => do
    let (j, t) ← value t
    match skipSpace t with
    | [] => .error (.malformed .expectingComma [])
    | c :: t =>
      if c = ']'.toNat then .ok ([j], t)
      else if c = ','.toNat then
        let (js, t) ← elements value fuel (skipSpace t)
        .ok (j :: js, t)
      else .error (.malformed .expectingComma (c :: t))

/-- Reads the name of a member and the colon after it. -/
def memberName : Text → Except Stop (Text × Text)
  | [] => .error (.malformed .expectingName [])
  | c :: t =>
    if c = '"'.toNat then do
      let (name, t) ← stringBody (c :: t) t
      match skipSpace t with
      | [] => .error (.malformed .expectingColon [])
      | c :: t =>
        if c = ':'.toNat then .ok (name, skipSpace t)
        else .error (.malformed .expectingColon (c :: t))
    else .error (.malformed .expectingName (c :: t))

/-- Reads the members of an object from the first name to the closing brace. -/
def members (value : Text → Except Stop (Json × Text)) :
    (fuel : Nat) → Text → Except Stop (List (Text × Json) × Text)
  | 0, t => .error (.malformed .expectingName t)
  | fuel + 1, t => do
    let (name, t) ← memberName t
    let (j, t) ← value t
    match skipSpace t with
    | [] => .error (.malformed .expectingComma [])
    | c :: t =>
      if c = '\x7d'.toNat then .ok ([(name, j)], t)
      else if c = ','.toNat then
        let (rest, t) ← members value fuel (skipSpace t)
        .ok ((name, j) :: rest, t)
      else .error (.malformed .expectingComma (c :: t))

/-- Reads an array whose opening bracket has been passed. -/
def arrayBody (value : Text → Except Stop (Json × Text)) (t : Text) : Except Stop (Json × Text) :=
  match skipSpace t with
  | [] => .error (.malformed .expectingValue [])
  | c :: t =>
    if c = ']'.toNat then .ok (.array [], t)
    else (elements value (t.length + 1) (c :: t)).map fun (js, r) => (.array js, r)

/-- Reads an object whose opening brace has been passed. -/
def objectBody (value : Text → Except Stop (Json × Text)) (t : Text) : Except Stop (Json × Text) :=
  match skipSpace t with
  | [] => .error (.malformed .expectingName [])
  | c :: t =>
    if c = '\x7d'.toNat then .ok (.object [], t)
    else
      (members value (t.length + 1) (c :: t)).map fun (ms, r) => (.object (Entries.ofMembers ms), r)

/-- Reads a value in which containers may be nested `depth` levels deep. -/
def value (depth : Nat) (t : Text) : Except Stop (Json × Text) :=
  match t with
  | [] => .error (.malformed .expectingValue [])
  | c :: r =>
    if c = '"'.toNat then (stringBody (c :: r) r).map fun (s, r) => (.string s, r)
    else if c = '\x7b'.toNat ∨ c = '['.toNat then
      match depth with
      | 0 => .error .tooDeep
      | depth + 1 =>
        if c = '['.toNat then arrayBody (value depth) r else objectBody (value depth) r
    else scalar (c :: r)

/-- Reads a text that holds one value and nothing else. -/
def document (t : Text) (depth : Nat) : Except Stop Json := do
  if t.head? = some 0xFEFF then .error (.malformed .byteOrderMark t)
  else
    let (j, r) ← value depth (skipSpace t)
    match skipSpace r with
    | [] => .ok j
    | r => .error (.malformed .extraData r)

/-- The value of a JSON text. -/
def decode (t : Text) (depth : Nat := usualDepth) : Except DecodeError Json :=
  match document t depth with
  | .ok j => .ok j
  | .error (.malformed fault rest) => .error (.malformed fault (t.length - rest.length))
  | .error (.digits limit) => .error (.digits limit)
  | .error .tooDeep => .error .tooDeep

end FilmQuery.Json
