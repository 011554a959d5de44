import FilmQuery.Proofs.Number.Integer
import FilmQuery.Proofs.Query.Literal
import FilmQuery.Proofs.Query.Operator
import FilmQuery.Proofs.Query.Tokens

/-!
# Integers as years and ratings

A year or a rating value that is an integer is written as the integer rounded to 53 bits, whether it
came as a number or as a text of digits. Up to `2 ^ 53` nothing is rounded, and from half a unit
beyond the greatest double on nothing is written.
-/

namespace FilmQuery

namespace Binary64

/-- Digits of an integer are read as its double. -/
theorem readReal?_ofInt (v : ℤ) : Numeral.readReal? (Text.ofInt v) = some (ofInt v) := by
  have hcoefficient : (NumberText.ofInt v).coefficient = v.natAbs := by
    rw [NumberText.coefficient, NumberText.ofInt, List.append_nil, Text.decimalValue_ofNat]
  have hexponent : (NumberText.ofInt v).exponent - (NumberText.ofInt v).fraction.length = 0 := rfl
  rw [← NumberText.text_ofInt, Numeral.readReal?_text (NumberText.isNumber_ofInt v), hcoefficient,
    hexponent, Option.some.injEq]
  exact ofDecimal_zero _ _

end Binary64

/-! ## The predicates of an integer -/

theorem Json.finite?_ofInt (v : ℤ) :
    (Json.string (Text.ofInt v)).finite? = (Json.number (.int v)).finite? := by
  have hblank : (Text.ofInt v).isAllBlank = false := by
    rw [← NumberText.text_ofInt]
    exact (NumberText.isNumber_ofInt v).not_isAllBlank
  simp only [Json.finite?, Json.toReal?, hblank, Binary64.readReal?_ofInt, if_neg Bool.false_ne_true]

/-- A slot of the filters that holds a number. -/
inductive NumberSlot where
  | rating (op : Option Text)
  | yearFrom
  | year

namespace NumberSlot

/-- Filters with a value in the slot. -/
def set (s : NumberSlot) (j : Json) (f : Filters) : Filters :=
  match s with
  | rating op => { f with rating := some ⟨op, j⟩ }
  | yearFrom => { f with yearFrom := j }
  | year => { f with year := j }

/-- The key of the slot in a query. -/
def key : NumberSlot → Text
  | rating op => lit "rating_" ++ operatorWord op
  | yearFrom => lit "year_GTE"
  | year => lit "year"

/-- The predicates that the slot gives rise to. -/
def owns : NumberSlot → Predicate → Bool
  | rating _, .rating _ _ | yearFrom, .yearFrom _ | year, .year _ => true
  | _, _ => false

/-- What the filter object says for the slot. -/
def entries (s : NumberSlot) (f : Filters) : List Text :=
  f.predicates.filterMap fun p => if s.owns p then some p.render else none

/-- The slot has one entry if its value is a number, and none otherwise. -/
theorem entries_set (s : NumberSlot) (j : Json) (f : Filters) :
    s.entries (s.set j f) =
      (j.finite?.map fun x => s.key ++ lit ": " ++ x.literal).toList := by
  have htitle : ∀ f : Filters, f.titlePredicate?.bind
      (fun p => if s.owns p then some p.render else none) = none := by
    intro f
    unfold Filters.titlePredicate?
    cases setText? f.titleExact <;> cases s <;> simp [owns]
  have hrating : (∀ op, s ≠ rating op) → (f.rating.bind Rating.predicate?).bind
      (fun p => if s.owns p then some p.render else none) = none := by
    intro hs
    cases s with
    | rating op => exact absurd rfl (hs op)
    | yearFrom | year => cases f.rating <;> simp [Rating.predicate?, owns]
  rw [entries, Filters.filterMap_predicates, htitle]
  cases s with
  | rating op =>
      have hword := Rating.name_comparison ⟨op, j⟩
      simp only [set, owns, key, Option.bind_some, Rating.predicate?]
      cases j.finite? <;> simp [Predicate.render, hword]
  | yearFrom =>
      simp only [set, hrating (fun _ => NumberSlot.noConfusion)]
      cases j.finite? <;> simp [owns, key, Predicate.render, lit]
  | year =>
      simp only [set, hrating (fun _ => NumberSlot.noConfusion)]
      cases j.finite? <;> simp [owns, key, Predicate.render, lit]

theorem predicates_set_congr {j j' : Json} (h : j.finite? = j'.finite?) (s : NumberSlot)
    (f : Filters) : (s.set j f).predicates = (s.set j' f).predicates := by
  cases s <;> simp [set, Filters.predicates, Filters.titlePredicate?, Rating.predicate?, h,
    Rating.comparison]

/-- **Integers as years and ratings.** A JSON integer and the text of its digits give the same
predicates, whatever the other filters are. The slot has no entry exactly from half a unit beyond
the greatest double on; below, its literal is the integer rounded to 53 bits, a tie to even, and up
to `2 ^ 53` the integer itself. -/
theorem entries_of_integer (s : NumberSlot) (f : Filters) (v : ℤ) :
    (s.set (.number (.int v)) f).predicates = (s.set (.string (Text.ofInt v)) f).predicates ∧
      (s.entries (s.set (.number (.int v)) f) = [] ↔ 2 ^ 1024 - 2 ^ 970 ≤ |v|) ∧
      (|v| < 2 ^ 1024 - 2 ^ 970 → ∃ w, IsRounded v w ∧
        s.entries (s.set (.number (.int v)) f) = [s.key ++ lit ": " ++ Text.ofInt w]) ∧
      (|v| ≤ 2 ^ 53 →
        s.entries (s.set (.number (.int v)) f) = [s.key ++ lit ": " ++ Text.ofInt v]) := by
  have hfinite? : (Json.number (.int v)).finite? =
      if (Binary64.ofInt v).isFinite then some (.ofInt v) else none := Option.filter_some
  have hrounded : |v| < 2 ^ 1024 - 2 ^ 970 → ∃ w, IsRounded v w ∧
      s.entries (s.set (.number (.int v)) f) = [s.key ++ lit ": " ++ Text.ofInt w] := by
    intro hlt
    have hfinite := (Binary64.isFinite_ofInt v).2 hlt
    obtain ⟨w, hw, hvalue⟩ := Binary64.exists_isRounded_ofInt hfinite
    refine ⟨w, hw, ?_⟩
    rw [entries_set, hfinite?, if_pos hfinite, Option.map_some, Option.toList_some,
      Binary64.literal_of_toRat_eq hfinite hvalue]
  refine ⟨predicates_set_congr (Json.finite?_ofInt v).symm s f, ?_, hrounded, fun hv => ?_⟩
  · rw [entries_set, hfinite?, ← not_lt, ← Binary64.isFinite_ofInt]
    cases (Binary64.ofInt v).isFinite <;> simp
  · have hlt : (2 : ℤ) ^ 53 < 2 ^ 1024 - 2 ^ 970 := by decide +kernel
    obtain ⟨w, hw, hentries⟩ := hrounded (hv.trans_lt hlt)
    rw [hentries, hw.eq_of_abs_le hv]

/-- The first integer that is no double lies half-way, and goes to the even side: as a year, and as
a rating with an operator in small letters. -/
theorem entries_of_integer_tie :
    |(2 ^ 53 + 1 : ℤ)| < 2 ^ 1024 - 2 ^ 970 ∧
      year.entries (year.set (.number (.int (2 ^ 53 + 1))) {}) =
        [lit "year: 9007199254740992"] ∧
      (rating (some (lit "eq"))).entries
          ((rating (some (lit "eq"))).set (.number (.int (2 ^ 53 + 1))) {}) =
        [lit "rating_EQ: 9007199254740992"] := by
  have hlt : |(2 ^ 53 + 1 : ℤ)| < 2 ^ 1024 - 2 ^ 970 := by decide +kernel
  have hunit : roundingUnit (2 ^ 53 + 1) = 2 := by decide +kernel
  have hslot : ∀ s : NumberSlot, s.entries (s.set (.number (.int (2 ^ 53 + 1))) {}) =
      [s.key ++ lit ": " ++ Text.ofInt (2 ^ 52 * 2)] := by
    intro s
    obtain ⟨w, ⟨k, rfl, hle, htie⟩, hentries⟩ := (entries_of_integer s {} (2 ^ 53 + 1)).2.2.1 hlt
    have hk : k = 2 ^ 52 := by
      rw [hunit, Int.abs_eq_natAbs] at hle htie
      omega
    rwa [hk, hunit] at hentries
  have hyear : year.key ++ lit ": " ++ Text.ofInt (2 ^ 52 * 2) =
      lit "year: 9007199254740992" := by decide +kernel
  have hrating : (rating (some (lit "eq"))).key ++ lit ": " ++ Text.ofInt (2 ^ 52 * 2) =
      lit "rating_EQ: 9007199254740992" := by decide +kernel
  exact ⟨hlt, hyear ▸ hslot year, hrating ▸ hslot (rating (some (lit "eq")))⟩

end NumberSlot

end FilmQuery
