import FilmQuery.Http.Url
import FilmQuery.Json.Display
import FilmQuery.Number.Numeral

/-!
# Failures

What can go wrong while a question is answered: the language model's service fails, the movie store
fails, or something happens that neither of them reports. The last kind is told apart for the log
and never shown to the user.
-/

namespace FilmQuery

/-- The kinds of values, as a message names them. -/
inductive ValueKind where
  | absent
  | truth
  | integer
  | real
  | text
  | list
  | mapping
  deriving DecidableEq, Repr

namespace ValueKind

def name : ValueKind → Text
  | absent => lit "NoneType"
  | truth => lit "bool"
  | integer => lit "int"
  | real => lit "float"
  | text => lit "str"
  | list => lit "list"
  | mapping => lit "dict"

def of : Json → ValueKind
  | .null => absent
  | .bool _ => truth
  | .number (.int _) => integer
  | .number (.real _) => real
  | .string _ => text
  | .array _ => list
  | .object _ => mapping

end ValueKind

/-- Failures that no service reports. -/
inductive Unexpected where
  | badUrl (error : UrlError)
  | digits (limit : DigitLimit)
  | tooDeep
  | notText (index : Nat) (kind : ValueKind)
  | missingKey (message : Text)
  | badValue (message : Text)
  | broken (message : Text)
  deriving DecidableEq, Repr

/-- The sentence about an unexpected failure. -/
def Unexpected.message : Unexpected → Text
  | badUrl error => error.message
  | digits limit => limit.message
  | tooDeep => []
  | notText index kind =>
    lit "sequence item " ++ Text.ofNat index ++ lit ": expected str instance, " ++ kind.name
      ++ lit " found"
  | missingKey m | badValue m | broken m => m

inductive Failure where
  | model (reason : Text)
  | store (reason : Text)
  | unexpected (cause : Unexpected)
  deriving DecidableEq, Repr

def Failure.message : Failure → Text
  | model reason | store reason => reason
  | unexpected cause => cause.message

end FilmQuery
