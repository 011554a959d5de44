import FilmQuery.Proofs.Envelope.Best
import FilmQuery.Proofs.Intent.Refusal

/-!
# Envelopes without a text

An envelope is refused for having no text if its best text is blank. That is so if no text in it has
anything in it. It is also so if a blank text stands in a place made for the answer, though there
may be another with something in it: such a place is not passed over.
-/

namespace FilmQuery.Intent

open Envelope

theorem ofEnvelope_eq_noText_iff {envelope : Json} {depth : Nat} :
    ofEnvelope envelope depth = .error .noText ↔ (bestText envelope).isAllBlank = true := by
  rw [← Text.trim_isBlank_eq_nil_iff]
  unfold ofEnvelope
  split
  · next hnil => exact iff_of_true rfl hnil
  · next hne =>
    refine iff_of_false ?_ hne
    split
    · simp
    · intro h
      cases isMissing_of_parse h

/-- **An envelope is refused for having no text exactly if it has none, or if the text it should
answer with is blank.** Of an envelope of no more than ten thousand containers, the first text under
a text key, or else the first of a response array, is taken even if nothing is in it. -/
theorem ofEnvelope_noText_iff (envelope : Json) (hsize : containers envelope ≤ 10000)
    (depth : Nat) :
    ofEnvelope envelope depth = .error .noText ↔
      Textless envelope ∨ ∃ t, Prefers envelope t ∧ t.isAllBlank = true := by
  rw [ofEnvelope_eq_noText_iff]
  exact isAllBlank_bestText_iff hsize

/-- An empty response in front of an object. -/
def emptyResponse : Json :=
  .object [(lit "response", .string []), (lit "text", .string (lit "\x7b\x7d"))]

theorem ofEnvelope_noText_emptyResponse :
    containers emptyResponse = 1 ∧ Prefers emptyResponse [] ∧
      ∀ depth, ofEnvelope emptyResponse depth = .error .noText := by
  have hprefers : Prefers emptyResponse [] := prefers_iff.2 rfl
  exact ⟨rfl, hprefers, fun depth =>
    (ofEnvelope_noText_iff emptyResponse (by decide) depth).2 (Or.inr ⟨[], hprefers, rfl⟩)⟩

/-- An envelope that holds an object is refused for having no text, with any number of levels. -/
theorem exists_text_not_seen :
    ¬∃ depth, ∀ envelope, containers envelope ≤ 10000 →
      (ofEnvelope envelope depth = .error .noText ↔ Textless envelope) := by
  rintro ⟨depth, hall⟩
  have htextless := (hall emptyResponse (by decide)).1 (ofEnvelope_eq_noText_iff.2 rfl)
  have hobject : HoldsAt 1 (lit "\x7b\x7d") emptyResponse :=
    .inside (List.mem_cons_of_mem _ List.mem_cons_self) (.here _)
  exact absurd (htextless 1 _ hobject) (by decide)

end FilmQuery.Intent
