import FilmQuery.Text.Basic

/-!
# The selection of a query

Only seven fields can be selected. Names that are not known are dropped, a field is selected once,
where it first occurs, and if no name is known all seven are selected. Main statements: each field
has one name, no field is selected twice, and no selection is empty.
-/

namespace FilmQuery

inductive Field where
  | ids
  | title
  | year
  | rating
  | directors
  | actors
  | genres
  deriving DecidableEq, Repr

namespace Field

/-- The fields in the order of the default selection. -/
def all : List Field := [ids, title, year, rating, directors, actors, genres]

def name : Field → Text
  | ids => lit "ids"
  | title => lit "title"
  | year => lit "year"
  | rating => lit "rating"
  | directors => lit "directors"
  | actors => lit "actors"
  | genres => lit "genres"

def ofName? (t : Text) : Option Field := all.find? fun f => f.name == t

theorem ofName?_name (f : Field) : ofName? f.name = some f := by
  cases f <;> decide

/-- What is selected of the movies that a field relates to. -/
def inner? : Field → Option Text
  | directors | actors => some (lit "name")
  | genres => some (lit "type")
  | _ => none

/-- A field in a selection, with what is selected inside it. -/
def render (f : Field) : Text :=
  match f.inner? with
  | some inner => f.name ++ lit " \x7b " ++ inner ++ lit " \x7d"
  | none => f.name

/-- The members of a list, each where it first occurs. -/
def firsts : List Field → List Field
  | [] => []
  | f :: fs => f :: (firsts fs).filter (· != f)

@[simp] theorem mem_firsts {f : Field} {fs : List Field} : f ∈ firsts fs ↔ f ∈ fs := by
  induction fs with
  | nil => rfl
  | cons g fs ih =>
    by_cases h : f = g <;> simp [firsts, h, ih]

theorem nodup_firsts (fs : List Field) : (firsts fs).Nodup := by
  induction fs with
  | nil => simp [firsts]
  | cons g fs ih =>
    rw [firsts, List.nodup_cons]
    exact ⟨by simp, ih.filter _⟩

/-- The fields that a list of names selects. -/
def selected (names : List Text) : List Field :=
  match firsts (names.filterMap ofName?) with
  | [] => all
  | fs => fs

theorem selected_ne_nil (names : List Text) : selected names ≠ [] := by
  rw [selected]
  split
  · simp [all]
  · assumption

/-- The text of a selection. -/
def renderAll (fs : List Field) : Text := Text.join (lit " ") (fs.map render)

end Field

end FilmQuery
