import FilmQuery.Answer
import FilmQuery.Proofs.Query.Tokens
import FilmQuery.Proofs.Question.Slots

/-!
# A question narrows a query

A slot that makes a predicate is not open, so completing an intent leaves each predicate where it
is and only puts new ones between them; what is selected stays the same. The one slot that could
take the place of another is the exact title, which stands in front of the title, and it is open
only while there is no title.
-/

namespace FilmQuery

/-- A list of optional things keeps those of another list in its place if each of those is missing
there or the same here. -/
theorem filterMap_sublist_of_forall₂ {α : Type} {as bs : List (Option α)}
    (h : List.Forall₂ (fun a b => a = none ∨ b = a) as bs) :
    (as.filterMap id).Sublist (bs.filterMap id) := by
  induction h with
  | nil => exact .slnil
  | @cons a b as bs hab _ ih =>
      rcases hab with rfl | rfl
      · cases b with
        | none => exact ih
        | some b => exact ih.cons b
      · cases b with
        | none => exact ih
        | some b => exact ih.cons_cons b

theorem setText?_of_isOpen {slot : Option Text} (h : isOpen slot = true) :
    setText? slot = none := by
  have hsome := isSome_setText? slot
  rw [h, Bool.not_true] at hsome
  simpa using hsome

theorem finite?_of_isUnset {j : Json} (h : j.isUnset = true) : j.finite? = none := by
  cases j with
  | null => rfl
  | string t =>
      obtain rfl : t = [] := List.isEmpty_iff.1 h
      rfl
  | bool | number | array | object => cases h

/-- A row is admitted by a query if it satisfies every entry of the filter object, whatever the
entries mean. -/
def Query.Admits {Row : Type} (holds : Text → Row → Prop) (q : Query) (row : Row) : Prop :=
  ∀ p ∈ q.predicates, holds p.render row

namespace Question

section

variable {i j : Intent} {question : Text} (h : enrich i question = .ok j)

include h

/-- What is missing while a slot is open, and depends on what the slot holds, is missing or
stays. -/
theorem kept_of_enrich {α : Type} {a b : Option α} (slot : Slot)
    (hopen : slot.isOpen i = true → a = none) (hget : slot.get j = slot.get i → b = a) :
    a = none ∨ b = a := by
  rw [get_of_enrich h] at hget
  split at hget
  · next hslot => exact Or.inl (hopen hslot)
  · exact Or.inr (hget rfl)

theorem text_kept {a b : Option Text} (slot : Slot) (ha : slot.isOpen i = isOpen a)
    (hb : slot.get j = slot.get i → b = a) (make : Text → Predicate) :
    (setText? a).map make = none ∨ (setText? b).map make = (setText? a).map make := by
  apply kept_of_enrich h slot
  · intro hopen
    rw [setText?_of_isOpen (ha ▸ hopen)]
    rfl
  · intro hget
    rw [hb hget]

theorem title_kept :
    i.filters.titlePredicate? = none ∨
      j.filters.titlePredicate? = i.filters.titlePredicate? := by
  have htitle : j.filters.title = i.filters.title := congrArg (·.2.1) (given_of_enrich h)
  unfold Filters.titlePredicate?
  apply kept_of_enrich h .title
  · intro hopen
    obtain ⟨hnone, hexact⟩ := Bool.and_eq_true_iff.1 hopen
    rw [setText?_of_isOpen hnone, setText?_of_isOpen hexact]
    rfl
  · intro hexact
    change j.filters.titleExact = i.filters.titleExact at hexact
    rw [htitle, hexact]

theorem rating_kept :
    i.filters.rating.bind Rating.predicate? = none ∨
      j.filters.rating.bind Rating.predicate? = i.filters.rating.bind Rating.predicate? := by
  apply kept_of_enrich h .rating
  · intro hopen
    rw [Option.isNone_iff_eq_none.1 hopen]
    rfl
  · intro hrating
    change j.filters.rating = i.filters.rating at hrating
    rw [hrating]

theorem yearFrom_kept :
    i.filters.yearFrom.finite?.map Predicate.yearFrom = none ∨
      j.filters.yearFrom.finite?.map Predicate.yearFrom =
        i.filters.yearFrom.finite?.map Predicate.yearFrom := by
  apply kept_of_enrich h .yearFrom
  · intro hopen
    rw [finite?_of_isUnset hopen]
    rfl
  · intro hyear
    change j.filters.yearFrom = i.filters.yearFrom at hyear
    rw [hyear]

/-- Completing an intent keeps its predicates in their order. -/
theorem predicates_sublist : i.filters.predicates.Sublist j.filters.predicates := by
  have hyear : j.filters.year = i.filters.year := congrArg (·.2.2) (given_of_enrich h)
  apply filterMap_sublist_of_forall₂
  refine .cons (text_kept h .ids rfl id _) (.cons (title_kept h) ?_)
  refine .cons (text_kept h .director rfl id _) ?_
  refine .cons (text_kept h .actor rfl id _) ?_
  refine .cons (text_kept h .genre rfl id _) ?_
  refine .cons (rating_kept h) (.cons (yearFrom_kept h) (.cons (Or.inr ?_) .nil))
  rw [hyear]

/-- The default fields are those that are selected where no field is asked for. -/
theorem selected_fields : Field.selected j.fields = Field.selected i.fields := by
  have hfields := get_of_enrich h .fields
  split at hfields
  · next hopen =>
    have hnone : i.fields = [] := List.isEmpty_iff.1 hopen
    have hdefault : j.fields = Intent.defaultFields := hfields
    rw [hdefault, hnone]
    decide
  · exact congrArg Field.selected hfields

end

/-- **A question only narrows the query.** If an intent can be read from an envelope and completed
from a question, the query has all entries that it would have without the question, in the same
order, and selects the same; so each row that it admits satisfies whatever the model asked for. -/
theorem compile_narrows {depth : Nat} {envelope : Json} {question : Text} {i j : Intent}
    (hread : Intent.ofEnvelope envelope depth = .ok i) (hcompleted : enrich i question = .ok j) :
    Answer.compile envelope question depth = .ok (j, Query.ofIntent j) ∧
      ((Query.ofIntent i).predicates.map Predicate.render).Sublist
        ((Query.ofIntent j).predicates.map Predicate.render) ∧
      (Query.ofIntent j).selectionText = (Query.ofIntent i).selectionText ∧
      ∀ {Row : Type} (holds : Text → Row → Prop) (row : Row),
        (Query.ofIntent j).Admits holds row → (Query.ofIntent i).Admits holds row := by
  have hpredicates := predicates_sublist hcompleted
  refine ⟨?_, hpredicates.map _, congrArg Field.renderAll (selected_fields hcompleted), ?_⟩
  · rw [Answer.compile, hread]
    dsimp only
    rw [hcompleted]
  · intro Row holds row hadmits p hp
    exact hadmits p (hpredicates.subset hp)

/-- A model's answer that names a title. -/
def heatAnswer : Text := lit "\x7b\"filters\": \x7b\"title\": \"Heat\"\x7d\x7d"

theorem ofEnvelope_heatAnswer :
    Intent.ofEnvelope (.string heatAnswer) 2 =
      .ok { filters := { title := some (lit "Heat") } } := by
  have hdecode : Json.decode heatAnswer 2 =
      .ok (.object [(lit "filters", .object [(lit "title", .string (lit "Heat"))])]) := by cbv
  have hfirst : Braces.firstObject? heatAnswer = some heatAnswer := by decide
  have htrim : Text.trim isBlank (Envelope.bestText (.string heatAnswer)) = heatAnswer := by decide
  rw [Intent.ofEnvelope, htrim]
  split
  · next hnil => cases hnil
  · rw [hfirst]
    dsimp only
    rw [Intent.parse, hdecode]
    rfl

/-- The question names another title, which is not used, an id that stands in front of the title
and an actor that stands behind it. -/
theorem compile_narrows_heat :
    Intent.ofEnvelope (.string heatAnswer) 2 = .ok { filters := { title := some (lit "Heat") } } ∧
      enrich { filters := { title := some (lit "Heat") } }
          (lit "movie 'Ronin', id 7, actor De Niro") =
        .ok { filters := { ids := some (lit "7"), title := some (lit "Heat"),
                           actor := some (lit "De Niro") }
              fields := Intent.defaultFields } ∧
      ([Predicate.titleContains (lit "Heat")].map Predicate.render).Sublist
        ([Predicate.ids (lit "7"), .titleContains (lit "Heat"), .actor (lit "De Niro")].map
          Predicate.render) := by
  have hcompleted : enrich { filters := { title := some (lit "Heat") } }
      (lit "movie 'Ronin', id 7, actor De Niro") =
        .ok { filters := { ids := some (lit "7"), title := some (lit "Heat"),
                           actor := some (lit "De Niro") }
              fields := Intent.defaultFields } := rfl
  exact ⟨ofEnvelope_heatAnswer, hcompleted,
    (compile_narrows ofEnvelope_heatAnswer hcompleted).2.1⟩

end Question

end FilmQuery
