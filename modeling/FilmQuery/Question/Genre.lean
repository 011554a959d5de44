import FilmQuery.Question.Search

/-!
# Genres in a question

The genre is the first whole word of the question that is one of a few terms, as the user wrote it.
The term `sci-fi` may be written with a space or with nothing in place of the hyphen.
-/

namespace FilmQuery.Question

/-- The spellings of the genres that are recognised. -/
def genreTerms : List Text :=
  [lit "action", lit "drama", lit "comedy", lit "thriller", lit "horror", lit "romance",
    lit "sci-fi", lit "sci fi", lit "scifi", lit "adventure"]

/-- A genre term that stands here as a whole word, as it is written. -/
def genreTerm? : Recognizer Text := fun before t =>
  (genreTerms.find? fun term => (wholeWord? term before t).isSome).map fun term =>
    t.take term.length

def genre? (t : Text) : Option Text := find? genreTerm? t

end FilmQuery.Question
