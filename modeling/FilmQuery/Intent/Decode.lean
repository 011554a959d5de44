import FilmQuery.Detail
import FilmQuery.Intent.Basic
import FilmQuery.Json.Display
import FilmQuery.Number.Numeral

/-!
# Intents from JSON

Decoding is lenient. Unknown keys are ignored and a value of the wrong shape leaves its slot open,
so an object is refused only where a text filter holds a lone surrogate. Two slots have a second
spelling of their key, which counts where the first is absent.
-/

namespace FilmQuery.Intent

/-- The text of a value that may fill a text slot: a text, or a number as it is displayed. -/
def scalarText? : Json → Option Text
  | .string t => some t
  | .number n => some (Json.displayNumber n)
  | _ => none

/-- The text filter that a value gives, without white space at its ends. -/
def filterText (value : Option Json) : Option Text :=
  (value.bind scalarText?).map (Text.trim isWhite)

/-- Whether a value is a text with a lone surrogate. -/
def isIllFormed (value : Option Json) : Bool :=
  (value.bind Json.string?).any fun t => !t.isWellFormed

/-- The key of the exact title: the first spelling if it is there. -/
def titleExactKey (j : Json) : Text :=
  if (j.field? (lit "titleExact")).isSome then lit "titleExact" else lit "title_exact"

/-- The keys of the text filters, in the order in which they are checked. -/
def textKeys (filters : Json) : List Text :=
  [lit "ids", lit "title", titleExactKey filters, lit "director", lit "actor", lit "genre"]

/-- One detail for each text filter that cannot be a text. -/
def filterDetails (filters : Json) : List Detail :=
  ((textKeys filters).filter fun key => isIllFormed (filters.field? key)).map fun key =>
    ⟨[lit "filters", key], .loneSurrogate⟩

/-- The rating filter: only an object gives one, with `GT` unless it names an operator. -/
def rating? (value : Json) : Option Rating :=
  match value with
  | .object _ =>
    let op :=
      match value.field? (lit "op") with
      | some op => scalarText? op
      | none => some (lit "GT")
    some { op, value := (value.field? (lit "value")).getD .null }
  | _ => none

/-- The filters that an object gives. -/
def filtersOf (j : Json) : Filters where
  ids := filterText (j.field? (lit "ids"))
  title := filterText (j.field? (lit "title"))
  titleExact := filterText (j.field? (titleExactKey j))
  director := filterText (j.field? (lit "director"))
  actor := filterText (j.field? (lit "actor"))
  genre := filterText (j.field? (lit "genre"))
  rating := (j.field? (lit "rating")).bind rating?
  year := (j.field? (lit "year")).getD .null
  yearFrom := ((j.field? (lit "year_GTE")).or (j.field? (lit "year_gte"))).getD .null

/-- The number of rows asked for: an integer, a finite number cut to one, or a text naming one. -/
def topN? : Json → Option Int
  | .number (.int i) => some i
  | .number (.real x) => x.truncate?
  | .string t =>
    match Numeral.readInt? t with
    | .ok n => n
    | .error _ => none
  | _ => none

/-- The `filters` object of an intent; anything else counts as no filters. -/
def filtersObject (j : Json) : Json :=
  match j.field? (lit "filters") with
  | some (.object entries) => .object entries
  | _ => .object []

/-- The names in the `fields` array; anything but an array names none. -/
def fieldNames (j : Json) : List Text :=
  (((j.field? (lit "fields")).bind Json.array?).getD []).filterMap Json.string?

/-- The intent that a decoded value gives, or the details of what does not fit. -/
def ofJson (j : Json) : Except (List Detail) Intent :=
  match j with
  | .object _ =>
    let filters := filtersObject j
    match filterDetails filters with
    | [] =>
      .ok {
        purpose := ((j.field? (lit "intent")).bind Json.string?).getD []
        filters := filtersOf filters
        fields := fieldNames j
        topN := (j.field? (lit "top_n")).bind topN? }
    | details => .error details
  | _ => .error [⟨[], .notAnObject⟩]

end FilmQuery.Intent
