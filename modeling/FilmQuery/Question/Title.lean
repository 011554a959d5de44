import FilmQuery.Question.Search

/-!
# Titles in a question

A title is named outright as `title "Heat"`, perhaps with `is`, a colon or an equals sign between.
Otherwise a quoted text of 2 to 200 characters is the title if it is the only one and the question
has the word `title` or `movie`. Either quote opens and either closes.
-/

namespace FilmQuery.Question

def isQuote (c : CodePoint) : Bool := c == '"'.toNat || c == 0x27

/-- A text between two quotes, not empty. -/
def quotedRun? : Text → Option Text
  | [] => none
  | c :: t =>
    if isQuote c then
      match t.span fun c => !isQuote c with
      | ([], _) | (_, []) => none
      | (run, _ :: _) => some run
    else none

/-- Skips `is`, a colon or an equals sign. -/
def skipTitleLink (t : Text) : Text :=
  match Text.afterFolded? (lit "is") t with
  | some rest => rest
  | none =>
    match t with
    | c :: rest => if c = ':'.toNat ∨ c = '='.toNat then rest else c :: rest
    | [] => []

/-- The word `title` and a quoted text. -/
def titleClause? : Recognizer Text := fun _ t =>
  (Text.afterFolded? (lit "title") t).bind fun rest =>
    quotedRun? (skipBlanks (skipTitleLink (skipBlanks rest)))

/-- The quoted texts of 2 to 200 characters. `run` holds, in reverse, what follows the last quote
that did not close a text. -/
def quotedTexts : (run : Option Text) → Text → List Text
  | _, [] => []
  | run, c :: t =>
    if isQuote c then
      match run with
      | some run =>
        if 2 ≤ run.length ∧ run.length ≤ 200 then run.reverse :: quotedTexts none t
        else quotedTexts (some []) t
      | none => quotedTexts (some []) t
    else quotedTexts (run.map (c :: ·)) t

/-- Whether the question speaks of a title or a movie. -/
def mentionsTitle (t : Text) : Bool :=
  (find? (fun before t =>
    (wholeWord? (lit "title") before t).or (wholeWord? (lit "movie") before t)) t).isSome

/-- The title that a question names. -/
def title? (t : Text) : Option Text :=
  match find? titleClause? t with
  | some run => filled? run
  | none =>
    match quotedTexts none t with
    | [run] => if mentionsTitle t then filled? run else none
    | _ => none

end FilmQuery.Question
