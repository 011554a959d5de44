import FilmQuery.Question.Search

/-!
# Persons in a question

A person is named after the whole word `director` or `actor`, perhaps with the word `is`, a colon or
an equals sign between. A name begins with a letter and runs on through letters, spaces, points,
apostrophes and hyphens. Where no name follows `is`, that word itself is taken for the name.
-/

namespace FilmQuery.Question

/-- A character that a name may hold after its first letter. -/
def inName (c : CodePoint) : Bool :=
  isLetter c || c == 0x20 || c == '.'.toNat || c == 0x27 || c == '-'.toNat

/-- The name that stands here. -/
def name? : Text → Option Text
  | [] => none
  | c :: t => if isLetter c then some (c :: t.takeWhile inName) else none

/-- The text after the word `is`, a colon or an equals sign. -/
def afterPersonLink? (t : Text) : Option Text :=
  match (Text.afterFolded? (lit "is") t).filter wordEnds with
  | some rest => some rest
  | none =>
    match t with
    | c :: rest => if c = ':'.toNat ∨ c = '='.toNat then some rest else none
    | [] => none

/-- The name after a role such as `director`. -/
def personClause? (role : Text) : Recognizer Text := fun before t =>
  (wholeWord? role before t).bind fun rest =>
    let rest := skipBlanks rest
    ((afterPersonLink? rest).bind fun r => name? (skipBlanks r)).or (name? rest)

/-- The person that a question names in a role. -/
def person? (role : Text) (t : Text) : Option Text := (find? (personClause? role) t).bind filled?

end FilmQuery.Question
