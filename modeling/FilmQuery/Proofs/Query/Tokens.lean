import FilmQuery.Proofs.GraphQL.NumberLiteral
import FilmQuery.Proofs.GraphQL.StringLiteral
import FilmQuery.Query.Document
import Mathlib.Data.List.Basic

/-!
# The tokens of a query

The document of a query is read piece by piece. Each predicate gives the tokens of its entry, each
field those of its selection, and every piece ends where a gap follows. Only the literal of a text
needs a condition, that the text is contained; numbers are finite because no others are used.
-/

namespace FilmQuery

open GraphQL

namespace Predicate

/-- The text that a predicate puts between quotes. -/
def text? : Predicate → Option Text
  | ids t | title t | titleContains t | director t | actor t | genre t => some t
  | rating .. | yearFrom _ | year _ => none

/-- The number that a predicate writes as a literal. -/
def number? : Predicate → Option Binary64
  | rating _ x | yearFrom x | year x => some x
  | _ => none

/-- The tokens of an entry whose value is an object with one text in it. -/
def someTokens (relation key : String) (t : Text) : List Token :=
  [.name (lit relation), .punct .colon, .punct .braceOpen, .name (lit key), .punct .colon,
    .string (escapeQuotes t), .punct .braceClose]

/-- The tokens of an entry of the filter object. -/
def tokens : Predicate → List Token
  | ids t => [.name (lit "ids"), .punct .colon, .string (escapeQuotes t)]
  | title t => [.name (lit "title"), .punct .colon, .string (escapeQuotes t)]
  | titleContains t => [.name (lit "title_CONTAINS"), .punct .colon, .string (escapeQuotes t)]
  | director t => someTokens "directors_SOME" "name_CONTAINS" t
  | actor t => someTokens "actors_SOME" "name_CONTAINS" t
  | genre t => someTokens "genres_SOME" "type_CONTAINS" t
  | rating c x => [.name (lit "rating_" ++ c.name), .punct .colon, .number x.literal]
  | yearFrom x => [.name (lit "year_GTE"), .punct .colon, .number x.literal]
  | year x => [.name (lit "year"), .punct .colon, .number x.literal]

/-- What a predicate needs to be read as its tokens. -/
def IsReadable (p : Predicate) : Prop :=
  (∀ t ∈ p.text?, IsContained t) ∧ ∀ x ∈ p.number?, x.isFinite = true

theorem whole_someEntry {relation key : String} {t : Text}
    (hrelation : Whole (lit relation ++ lit ": \x7b " ++ lit key ++ lit ": ")
      [.name (lit relation), .punct .colon, .punct .braceOpen, .name (lit key), .punct .colon])
    (ht : IsContained t) : Whole (someEntry relation key t) (someTokens relation key t) := by
  have hclose : Whole (lit " \x7d") [.punct .braceClose] := by decide
  exact (hrelation.append (whole_stringLiteral ht)).append hclose

theorem reads_render {p : Predicate} (hp : p.IsReadable) : Reads p.render p.tokens := by
  obtain ⟨htext, hnumber⟩ := hp
  cases p with
  | ids t =>
      have hkey : Whole (lit "ids: ") [.name (lit "ids"), .punct .colon] := by decide
      exact (hkey.append (whole_stringLiteral (htext t rfl))).reads
  | title t =>
      have hkey : Whole (lit "title: ") [.name (lit "title"), .punct .colon] := by decide
      exact (hkey.append (whole_stringLiteral (htext t rfl))).reads
  | titleContains t =>
      have hkey : Whole (lit "title_CONTAINS: ")
          [.name (lit "title_CONTAINS"), .punct .colon] := by decide
      exact (hkey.append (whole_stringLiteral (htext t rfl))).reads
  | director t => exact (whole_someEntry (by decide) (htext t rfl)).reads
  | actor t => exact (whole_someEntry (by decide) (htext t rfl)).reads
  | genre t => exact (whole_someEntry (by decide) (htext t rfl)).reads
  | rating c x =>
      have hkey : Whole (lit "rating_" ++ c.name ++ lit ": ")
          [.name (lit "rating_" ++ c.name), .punct .colon] := by cases c <;> decide
      exact hkey.append_reads (reads_literal (hnumber x rfl))
  | yearFrom x =>
      have hkey : Whole (lit "year_GTE: ") [.name (lit "year_GTE"), .punct .colon] := by decide
      exact hkey.append_reads (reads_literal (hnumber x rfl))
  | year x =>
      have hkey : Whole (lit "year: ") [.name (lit "year"), .punct .colon] := by decide
      exact hkey.append_reads (reads_literal (hnumber x rfl))

end Predicate

namespace Field

/-- The tokens of a field in a selection. -/
def tokens (f : Field) : List Token :=
  match f.inner? with
  | some inner => [.name f.name, .punct .braceOpen, .name inner, .punct .braceClose]
  | none => [.name f.name]

theorem reads_render (f : Field) : Reads f.render f.tokens := by
  cases f <;> decide

end Field

namespace Query

/-- The tokens of the argument of a query, if it has one. -/
def argumentTokens (q : Query) : List Token :=
  match q.predicates with
  | [] => []
  | ps =>
    [.punct .parenOpen, .name (lit "where"), .punct .colon, .punct .braceOpen]
      ++ ps.flatMap Predicate.tokens ++ [.punct .braceClose, .punct .parenClose]

/-- The tokens of a document. -/
def tokens (q : Query) : List Token :=
  [.name (lit "query"), .punct .braceOpen, .name (lit "movies")] ++ q.argumentTokens
    ++ [.punct .braceOpen] ++ q.selection.flatMap Field.tokens
    ++ [.punct .braceClose, .punct .braceClose]

theorem reads_selectionText (q : Query) :
    Reads q.selectionText (q.selection.flatMap Field.tokens) :=
  reads_join (by decide) (by decide) fun f _ => f.reads_render

theorem whole_filterObject {ps : List Predicate} (h : ∀ p ∈ ps, p.IsReadable) :
    Whole (lit "\x7b " ++ Text.join (lit ", ") (ps.map Predicate.render) ++ lit " \x7d")
      ([.punct .braceOpen] ++ ps.flatMap Predicate.tokens ++ [.punct .braceClose]) := by
  have hopen : Whole (lit "\x7b ") [.punct .braceOpen] := by decide
  have hclose : Whole (lit " \x7d") [.punct .braceClose] := by decide
  have hentries : Reads (Text.join (lit ", ") (ps.map Predicate.render))
      (ps.flatMap Predicate.tokens) :=
    reads_join (by decide) (by decide) fun p hp => Predicate.reads_render (h p hp)
  exact (hopen.append_reads hentries).append (by decide) hclose

/-- A document is read as the tokens of its query if all its texts are contained. -/
theorem lex_document {q : Query} (h : ∀ p ∈ q.predicates, p.IsReadable) :
    lex q.document = some q.tokens := by
  have hselection := q.reads_selectionText
  have hclose : Whole (lit " \x7d \x7d") [.punct .braceClose, .punct .braceClose] := by decide
  apply Reads.lex_eq
  apply Whole.reads
  unfold document tokens filterObject? argumentTokens
  cases hps : q.predicates with
  | nil =>
      have hhead : Whole (lit "query \x7b movies" ++ [] ++ lit " \x7b ")
          ([.name (lit "query"), .punct .braceOpen, .name (lit "movies")] ++ [] ++
            [.punct .braceOpen]) := by decide
      exact (hhead.append_reads hselection).append (by decide) hclose
  | cons p ps =>
      -- the argument is joined to what stands around it before the pieces are read, since the
      -- name in front of it ends only at its parenthesis
      have hreadable : ∀ r ∈ p :: ps, r.IsReadable := fun r hr => h r (hps ▸ hr)
      have hobject := whole_filterObject hreadable
      have hhead : Whole (lit "query \x7b movies" ++ lit "(where: ")
          ([.name (lit "query"), .punct .braceOpen, .name (lit "movies")] ++
            [.punct .parenOpen, .name (lit "where"), .punct .colon]) := by decide
      have htail : Whole (lit ")" ++ lit " \x7b ")
          ([.punct .parenClose] ++ [.punct .braceOpen]) := by decide
      have hdocument :=
        (((hhead.append hobject).append htail).append_reads hselection).append (by decide) hclose
      simpa only [List.append_assoc, List.cons_append, List.nil_append] using hdocument

end Query

/-! ## The predicates of an intent -/

theorem isSome_setText? (slot : Option Text) : (setText? slot).isSome = !isOpen slot := by
  cases slot with
  | none => rfl
  | some t => cases t <;> rfl

theorem isFinite_of_finite? {j : Json} {x : Binary64} (h : j.finite? = some x) :
    x.isFinite = true := by
  obtain ⟨-, hx⟩ := Option.filter_eq_some_iff.1 h
  exact hx

namespace Filters

/-- The texts that the filters use, in the order of their literals. -/
def usedTexts (f : Filters) : List Text :=
  [setText? f.ids, (setText? f.titleExact).or (setText? f.title), setText? f.director,
    setText? f.actor, setText? f.genre].filterMap id

/-- The numbers that the filters use, in the order of their literals. -/
def usedNumbers (f : Filters) : List Binary64 :=
  [f.rating.bind fun r => r.value.finite?, f.yearFrom.finite?, f.year.finite?].filterMap id

/-- What a partial function makes of the predicates, slot by slot. -/
theorem filterMap_predicates {α : Type} (f : Filters) (g : Predicate → Option α) :
    f.predicates.filterMap g =
      [(setText? f.ids).bind fun t => g (.ids t), f.titlePredicate?.bind g,
        (setText? f.director).bind fun t => g (.director t),
        (setText? f.actor).bind fun t => g (.actor t),
        (setText? f.genre).bind fun t => g (.genre t),
        (f.rating.bind Rating.predicate?).bind g,
        f.yearFrom.finite?.bind fun x => g (.yearFrom x),
        f.year.finite?.bind fun x => g (.year x)].filterMap id := by
  have hbind : ∀ slots : List (Option Predicate),
      (slots.filterMap id).filterMap g = (slots.map (·.bind g)).filterMap id := by
    intro slots
    rw [List.filterMap_filterMap, List.filterMap_map]
    rfl
  rw [predicates, hbind]
  simp only [List.map_cons, List.map_nil, Option.bind_map, Function.comp_def]

/-- What a function makes of the predicates, slot by slot. -/
theorem map_predicates {α : Type} (f : Filters) (g : Predicate → α) :
    f.predicates.map g =
      [(setText? f.ids).map fun t => g (.ids t), f.titlePredicate?.map g,
        (setText? f.director).map fun t => g (.director t),
        (setText? f.actor).map fun t => g (.actor t),
        (setText? f.genre).map fun t => g (.genre t),
        (f.rating.bind Rating.predicate?).map g,
        f.yearFrom.finite?.map fun x => g (.yearFrom x),
        f.year.finite?.map fun x => g (.year x)].filterMap id := by
  have hmap : ∀ slots : List (Option Predicate),
      (slots.filterMap id).map g = (slots.map (Option.map g)).filterMap id := by
    intro slots
    rw [List.map_filterMap, List.filterMap_map]
    rfl
  rw [predicates, hmap]
  simp only [List.map_cons, List.map_nil, Option.map_map, Function.comp_def]

theorem predicates_texts (f : Filters) : f.predicates.filterMap Predicate.text? = f.usedTexts := by
  have htitle : f.titlePredicate?.bind Predicate.text? =
      (setText? f.titleExact).or (setText? f.title) := by
    unfold titlePredicate?
    cases setText? f.titleExact <;>
      simp [Predicate.text?, Option.bind_map, Function.comp_def]
  have hrating : (f.rating.bind Rating.predicate?).bind Predicate.text? = none := by
    cases f.rating <;> simp [Rating.predicate?, Predicate.text?]
  rw [filterMap_predicates, usedTexts, htitle, hrating]
  simp [Predicate.text?, List.filterMap_cons]

theorem predicates_numbers (f : Filters) :
    f.predicates.filterMap Predicate.number? = f.usedNumbers := by
  have htitle : f.titlePredicate?.bind Predicate.number? = none := by
    unfold titlePredicate?
    cases setText? f.titleExact <;> simp [Predicate.number?]
  have hrating : (f.rating.bind Rating.predicate?).bind Predicate.number? =
      f.rating.bind fun r => r.value.finite? := by
    cases f.rating <;>
      simp [Rating.predicate?, Predicate.number?, Option.bind_map, Function.comp_def]
  rw [filterMap_predicates, usedNumbers, htitle, hrating]
  simp [Predicate.number?, List.filterMap_cons]

theorem isFinite_of_mem_usedNumbers {f : Filters} {x : Binary64} (hx : x ∈ f.usedNumbers) :
    x.isFinite = true := by
  obtain ⟨slot, hslot, rfl⟩ : ∃ slot ∈ [f.rating.bind fun r => r.value.finite?,
      f.yearFrom.finite?, f.year.finite?], slot = some x := by
    simpa [usedNumbers] using hx
  simp only [List.mem_cons, List.not_mem_nil, or_false] at hslot
  rcases hslot with hrating | hyearFrom | hyear
  · obtain ⟨r, -, hr⟩ := Option.bind_eq_some_iff.1 hrating.symm
    exact isFinite_of_finite? hr
  · exact isFinite_of_finite? hyearFrom.symm
  · exact isFinite_of_finite? hyear.symm

theorem isReadable_of_contained {f : Filters} (h : ∀ t ∈ f.usedTexts, IsContained t)
    {p : Predicate} (hp : p ∈ f.predicates) : p.IsReadable := by
  constructor
  · intro t ht
    apply h
    rw [← f.predicates_texts]
    exact List.mem_filterMap.2 ⟨p, hp, ht⟩
  · intro x hx
    apply isFinite_of_mem_usedNumbers (f := f)
    rw [← f.predicates_numbers]
    exact List.mem_filterMap.2 ⟨p, hp, hx⟩

end Filters

end FilmQuery
