import FilmQuery.Proofs.Question.Limits

/-!
# The order of slots

Slots are filled one after the other, but none looks at what another one takes: what a run of slots
makes of an intent, and whether it fails, depends only on which slots are in the run. So they may be
taken in any order, and filling a slot once more changes nothing.
-/

namespace FilmQuery.Question

/-- What filling slots makes of an intent is settled by which slots they are. -/
theorem Filled.unique {slots slots' : List Slot} {t : Text} {i j k : Intent}
    (hsame : ∀ slot, slot ∈ slots ↔ slot ∈ slots') (h : Filled slots t i j)
    (h' : Filled slots' t i k) : j = k := by
  apply eq_of_get _ (h.given.trans h'.given.symm)
  intro slot
  rw [h.get slot, h'.get slot]
  simp only [hsame slot]

theorem fillAll_error_congr {slots slots' : List Slot} {t : Text} {i : Intent} {e : DigitLimit}
    (hsame : ∀ slot, slot ∈ slots ↔ slot ∈ slots') (h : fillAll slots t i = .error e) :
    fillAll slots' t i = .error e := by
  obtain ⟨hmem, hfails⟩ := fillAll_eq_error_iff.1 h
  exact fillAll_eq_error_iff.2 ⟨(hsame .topN).1 hmem, hfails⟩

/-- Two runs through the same slots, in whatever order and however often, come to the same. -/
theorem fillAll_congr {slots slots' : List Slot} (hsame : ∀ slot, slot ∈ slots ↔ slot ∈ slots')
    (t : Text) (i : Intent) : fillAll slots t i = fillAll slots' t i := by
  cases h : fillAll slots t i with
  | error e => exact (fillAll_error_congr hsame h).symm
  | ok j =>
      cases h' : fillAll slots' t i with
      | error e =>
          have hfails := fillAll_error_congr (fun slot => (hsame slot).symm) h'
          cases h.symm.trans hfails
      | ok k =>
          have heq := (filled_of_fillAll h).unique hsame (filled_of_fillAll h')
          rw [heq]

/-- **The order of the slots does not matter.** Filling all nine in any order completes the intent
as it is completed, or fails with the same refusal. -/
theorem fillAll_perm_eq_enrich {slots : List Slot} (h : slots.Perm Slot.all) (i : Intent)
    (question : Text) : fillAll slots (Text.trim isBlank question) i = enrich i question :=
  fillAll_congr (fun _ => h.mem_iff) _ i

/-- Backwards, from a question that has something for several slots. -/
theorem fillAll_perm_eq_enrich_reverse :
    Slot.all.reverse.Perm Slot.all ∧
      fillAll Slot.all.reverse
          (Text.trim isBlank (lit " top 3 by director Mann, title 'Heat' from 1995")) {} =
        enrich {} (lit " top 3 by director Mann, title 'Heat' from 1995") ∧
      (enrich {} (lit " top 3 by director Mann, title 'Heat' from 1995")).toOption.map
          (fun i => (i.filters.director, i.filters.titleExact, i.topN)) =
        some (some (lit "Mann"), some (lit "Heat"), some 3) := by
  have hperm : Slot.all.reverse.Perm Slot.all := Slot.all.reverse_perm
  exact ⟨hperm, fillAll_perm_eq_enrich hperm _ _, by decide⟩

end FilmQuery.Question
