import FilmQuery.Text.Blank
import FilmQuery.Text.Digit

/-!
# Options of the command line

A question in one or more words, a flag to show the query, and a level for the log. A long option
may be cut short as long as it stays unambiguous, and its value may follow it after an equals sign.
After the word `--` no word is an option. Nor is a word with a space in it, or one that is a
negative number.
-/

namespace FilmQuery.CommandLine

structure Options where
  question : List Text
  showQuery : Bool := false
  logLevel : Option Text := none
  deriving DecidableEq, Repr

/-- An ending before any question is asked: help was asked for, or the words make no sense. -/
inductive Exit where
  | help
  | usage
  deriving DecidableEq, Repr

/-- The status that a process ends with. -/
def Exit.code : Exit → Nat
  | help => 0
  | usage => 2

inductive Flag where
  | help
  | showQuery
  | logLevel
  deriving DecidableEq, Repr

/-! ## Words -/

/-- The part that a word plays. A value may be attached to an option. -/
inductive Word where
  | plain (t : Text)
  | marker
  | option (flag : Flag) (attached : Option Text)
  | unknown
  deriving DecidableEq, Repr

/-- The long spellings of the options. -/
def longSpellings : List (Text × Flag) :=
  [(lit "--help", .help), (lit "--show-query", .showQuery), (lit "--log-level", .logLevel)]

/-- What comes before an equals sign, and the value after it. -/
def attachment (t : Text) : Text × Option Text :=
  match Text.splitAt? '='.toNat t with
  | some (name, value) => (name, some value)
  | none => (t, none)

/-- Whether a text is all digits, at least one of them. -/
def isDigits (t : Text) : Bool := !t.isEmpty && t.all isDigit

/-- Whether a word is a negative number; a line feed may end it. -/
def isNegativeNumber : Text → Bool
  | [] => false
  | c :: t =>
    let t := if t.getLast? = some 10 then t.dropLast else t
    c == '-'.toNat &&
      match t.span isDigit with
      | (whole, []) => !whole.isEmpty
      | (_, d :: rest) => d == '.'.toNat && isDigits rest

/-- A word with two dashes in front: the option of which it is a spelling, whole or cut short. -/
def longOption (t : Text) : Except Exit (Option Word) :=
  let (name, value) := attachment t
  match longSpellings.filter fun (spelling, _) => spelling.startsWith name with
  | [] => .ok none
  | [(_, flag)] => .ok (some (.option flag value))
  | _ => .error .usage

/-- A word with one dash in front: the option with one letter, which may be repeated. Anything else
behind the letter is a value attached to it. -/
def shortOption (t : Text) : Option Word :=
  (Text.after? (lit "-h") t).map fun rest =>
    let value := (Text.after? (lit "=") rest).getD rest
    let isRepeated := value.all (· == 'h'.toNat) && !value.isEmpty
    .option .help (if rest.isEmpty || isRepeated then none else some value)

/-- The part of a word that begins with a dash and is no option. -/
def otherWord (t : Text) : Word :=
  if isNegativeNumber t || t.contains ' '.toNat then .plain t else .unknown

/-- The part that a word plays before the marker. -/
def classify (t : Text) : Except Exit Word :=
  let dash := '-'.toNat
  match t with
  | c :: d :: _ =>
    if c ≠ dash then .ok (.plain t)
    else if d = dash then (longOption t).map fun w => w.getD (otherWord t)
    else .ok ((shortOption t).getD (otherWord t))
  | _ => .ok (.plain t)

/-- The parts that the words play; all those after the marker are plain. -/
def classifyAll : List Text → Except Exit (List Word)
  | [] => .ok []
  | t :: rest =>
    if t = lit "--" then .ok (.marker :: rest.map .plain)
    else do
      let w ← classify t
      let ws ← classifyAll rest
      return w :: ws

/-! ## Reading the words -/

/-- What the words so far amount to. The words of a question stand together, so the question is
closed by the first option after it. -/
structure Draft where
  question : List Text := []
  closed : Bool := false
  surplus : Bool := false
  showQuery : Bool := false
  logLevel : Option Text := none

namespace Draft

/-- Takes a plain word. -/
def addWord (d : Draft) (t : Text) : Draft :=
  if d.closed then { d with surplus := true } else { d with question := d.question ++ [t] }

/-- Takes the marker, which belongs to the question if that is not closed. -/
def addMarker (d : Draft) : Draft := if d.closed then { d with surplus := true } else d

/-- Closes the question if it has begun. -/
def close (d : Draft) : Draft := { d with closed := d.closed || !d.question.isEmpty }

end Draft

/-- Reads the words from left to right; help and misuse end the reading where they occur. The
marker attached to an option is no value. -/
def readWords (d : Draft) : List Word → Except Exit Draft
  | [] => .ok d
  | .plain t :: rest => readWords (d.addWord t) rest
  | .marker :: rest => readWords d.addMarker rest
  | .unknown :: rest => readWords { d.close with surplus := true } rest
  | .option .help none :: _ => .error .help
  | .option .help (some _) :: _ => .error .usage
  | .option .showQuery none :: rest => readWords { d.close with showQuery := true } rest
  | .option .showQuery (some _) :: _ => .error .usage
  | .option .logLevel (some value) :: rest =>
    readWords { d.close with logLevel := if value = lit "--" then none else some value } rest
  | .option .logLevel none :: .plain t :: rest =>
    readWords { d.close with logLevel := some t } rest
  | .option .logLevel none :: _ => .error .usage

/-- The options that the words of a command line give. -/
def parse (words : List Text) : Except Exit Options := do
  let d ← readWords {} (← classifyAll words)
  if d.surplus || d.question.isEmpty then .error .usage
  else return ⟨d.question, d.showQuery, d.logLevel⟩

end FilmQuery.CommandLine
