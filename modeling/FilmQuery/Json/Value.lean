import FilmQuery.Number.Binary64
import FilmQuery.Text.Basic

/-!
# JSON values

Values as the wire gives them. An integer literal is an unbounded integer and every other number a
double, so `8` and `8.0` differ. Objects keep the order of their entries. That keys are distinct is
a property of what is read (`Entries.ofMembers`), not of the type.
-/

namespace FilmQuery

inductive Number where
  | int (i : Int)
  | real (x : Binary64)
  deriving DecidableEq, Repr

inductive Json where
  | null
  | bool (b : Bool)
  | number (n : Number)
  | string (t : Text)
  | array (items : List Json)
  | object (entries : List (Text × Json))
  deriving Repr

namespace Json

/-- The value of a key, if `j` is an object that has it. -/
def field? (key : Text) : Json → Option Json
  | object entries => entries.lookup key
  | _ => none

def string? : Json → Option Text
  | string t => some t
  | _ => none

def array? : Json → Option (List Json)
  | array items => some items
  | _ => none

def object? : Json → Option (List (Text × Json))
  | object entries => some entries
  | _ => none

/-- Null and the empty string leave a slot open. -/
def isUnset : Json → Bool
  | null => true
  | string t => t.isEmpty
  | _ => false

end Json

end FilmQuery
