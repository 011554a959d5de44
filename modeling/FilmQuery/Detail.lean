import FilmQuery.Text.Basic

/-!
# Details of a refusal

A record of named slots is refused with one detail for each slot that does not fit: where the slot
is, what kind of misfit it is, and a sentence about it.
-/

namespace FilmQuery

/-- Why a slot, or the whole record, does not fit. -/
inductive Misfit where
  | loneSurrogate
  | notAnObject
  | badUrl
  | noModel
  | notANumber
  | notPositive
  deriving DecidableEq, Repr

namespace Misfit

/-- The kind of misfit as it is reported. -/
def code : Misfit → Text
  | loneSurrogate => lit "string_unicode"
  | notAnObject => lit "model_type"
  | badUrl | noModel => lit "value_error"
  | notANumber => lit "float_parsing"
  | notPositive => lit "greater_than"

/-- The sentence about a misfit. -/
def message : Misfit → Text
  | loneSurrogate =>
    lit "Input should be a valid string, unable to parse raw data as a unicode string"
  | notAnObject => lit "Input should be a valid dictionary or instance of Intent"
  | badUrl => lit "Value error, must be an http:// or https:// URL"
  | noModel => lit "Value error, OLLAMA_MODEL must not be empty"
  | notANumber => lit "Input should be a valid number, unable to parse string as a number"
  | notPositive => lit "Input should be greater than 0"

end Misfit

/-- A misfit and the keys that lead to it. -/
structure Detail where
  path : List Text
  misfit : Misfit
  deriving DecidableEq, Repr

end FilmQuery
