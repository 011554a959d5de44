import FilmQuery.Proofs.Answer
import FilmQuery.Proofs.Json.Depth

/-!
# Refusals of a model's answer

An answer without an intent is refused because it holds no text, no object, or an object that does
not give an intent, and the user is told that it could not be read. One refusal is none of these and
ends as an internal error: the object nests more containers than the reader has levels for. Neither
the length of a text nor the length of its numbers leads to it. How many levels there are is left
open: whatever their number, there is such an object.
-/

namespace FilmQuery

open Json (NestsTooDeep)

namespace Intent

/-- Refused for what the object says: as JSON, or as an intent. -/
def ReadError.isMalformed : ReadError → Bool
  | malformed .. | digits _ | notAnObject | invalid _ => true
  | noText | noObject | tooDeep => false

/-- Every refusal but one says that something was missing or malformed. -/
theorem ReadError.isReported_iff (e : ReadError) :
    e.isMissing = true ∨ e.isMalformed = true ↔ e ≠ .tooDeep := by
  cases e <;> simp [isMissing, isMalformed]

/-- What is cut out of an envelope to be read as an object. -/
def cut? (envelope : Json) : Option Text :=
  Braces.firstObject? (Text.trim isBlank (Envelope.bestText envelope))

section

variable {depth : Nat}

/-- Where there is a text to read, nothing is missing. -/
theorem isMissing_of_parse {t : Text} {e : ReadError} (h : parse t depth = .error e) :
    e.isMissing = false := by
  unfold parse at h
  split at h
  · cases h; rfl
  · cases h; rfl
  · cases h; rfl
  · split at h <;> cases h
    rfl
  · cases h; rfl

theorem parse_eq_tooDeep_iff {t : Text} :
    parse t depth = .error .tooDeep ↔ NestsTooDeep depth t := by
  rw [← Json.decode_eq_tooDeep_iff]
  unfold parse
  split
  · next hdecode => simp [hdecode]
  · next hdecode => simp [hdecode]
  · next hdecode => simp [hdecode]
  · next hdecode => split <;> simp [hdecode]
  · next hdecode => simp [hdecode]

theorem ofEnvelope_of_cut?_eq_none {envelope : Json} (h : cut? envelope = none) (depth : Nat) :
    ∃ e, ofEnvelope envelope depth = .error e ∧ e.isMissing = true := by
  unfold cut? at h
  unfold ofEnvelope
  split
  · exact ⟨_, rfl, rfl⟩
  · exact ⟨_, by rw [h], rfl⟩

theorem ofEnvelope_of_cut?_eq_some {envelope : Json} {o : Text} (h : cut? envelope = some o) :
    ofEnvelope envelope depth = parse o depth := by
  unfold cut? at h
  unfold ofEnvelope
  split
  · next hnil =>
    rw [hnil] at h
    cases h
  · rw [h]

theorem ofEnvelope_eq_tooDeep_iff {envelope : Json} :
    ofEnvelope envelope depth = .error .tooDeep ↔
      ∃ o, cut? envelope = some o ∧ NestsTooDeep depth o := by
  cases hcut : cut? envelope with
  | none =>
      obtain ⟨e, he, hmissing⟩ := ofEnvelope_of_cut?_eq_none hcut depth
      refine iff_of_false (fun hdeep => ?_) (by simp)
      cases he.symm.trans hdeep
      cases hmissing
  | some o => simp [ofEnvelope_of_cut?_eq_some hcut, parse_eq_tooDeep_iff]

/-- An outcome is an intent or a refusal of the kinds `p`, if no other refusal can come. -/
theorem ok_or_error_iff {x : Except ReadError Intent} {p : ReadError → Prop}
    (hp : ∀ e, x = .error e → (p e ↔ e ≠ .tooDeep)) :
    ((∃ i, x = .ok i) ∨ ∃ e, x = .error e ∧ p e) ↔ x ≠ .error .tooDeep := by
  cases x with
  | ok i => simp
  | error e => simp [hp e rfl]

theorem parse_reported_iff (t : Text) :
    ((∃ i, parse t depth = .ok i) ∨ ∃ e, parse t depth = .error e ∧ e.isMalformed = true) ↔
      ¬NestsTooDeep depth t := by
  rw [← parse_eq_tooDeep_iff]
  apply ok_or_error_iff
  intro e h
  rw [← e.isReported_iff, isMissing_of_parse h]
  simp

theorem ofEnvelope_reported_iff (envelope : Json) :
    ((∃ i, ofEnvelope envelope depth = .ok i) ∨
        ∃ e, ofEnvelope envelope depth = .error e ∧
          (e.isMissing = true ∨ e.isMalformed = true)) ↔
      ¬∃ o, cut? envelope = some o ∧ NestsTooDeep depth o := by
  rw [← ofEnvelope_eq_tooDeep_iff]
  exact ok_or_error_iff fun e _ => e.isReported_iff

end

/-- There is no number of levels with which all texts are reported: with one bracket more than that,
a text of brackets is refused in another way. -/
theorem exists_text_unreported :
    ¬∃ depth, ∀ t, (∃ i, parse t depth = .ok i) ∨
      ∃ e, parse t depth = .error e ∧ e.isMalformed = true := by
  rintro ⟨depth, hall⟩
  exact (parse_reported_iff _).1 (hall _) (Json.nestsTooDeep_replicate depth)

end Intent

namespace Answer

theorem output_of_ofEnvelope {w : World} {question : Text} {envelope : Json} {e : Intent.ReadError}
    (hasked : question.isAllBlank = false) (hmodel : w.model question = .ok envelope)
    (h : Intent.ofEnvelope envelope w.depth = .error e) :
    (w.run (some question)).1.output =
      if e = .tooDeep then internalError else unreadableIntent := by
  have hcompile := compile_eq_unreadable_iff (t := question).2 h
  obtain ⟨record, -, hanswer⟩ := ends_ofCompileError hmodel hcompile
  rw [World.run_eq, Option.getD_some, hasked, if_neg Bool.false_ne_true, after_output,
    answerTo_of_compileError hmodel hcompile, hanswer]
  cases e <;> rfl

/-- **A model's answer that cannot be read is reported as such, unless it is nested too deeply.**
Whatever number of levels there are, a text gives an intent or is refused as malformed, and an
envelope gives an intent or is refused for what it misses or for a malformed object, exactly if the
text that is read does not nest more containers than that. The user is told so in the same cases,
and reads of an internal error in the others. -/
theorem unreadable_reported_iff (depth : Nat) (t : Text) (envelope : Json) :
    (((∃ i, Intent.parse t depth = .ok i) ∨
        ∃ e, Intent.parse t depth = .error e ∧ e.isMalformed = true) ↔ ¬NestsTooDeep depth t) ∧
      (((∃ i, Intent.ofEnvelope envelope depth = .ok i) ∨
          ∃ e, Intent.ofEnvelope envelope depth = .error e ∧
            (e.isMissing = true ∨ e.isMalformed = true)) ↔
        ¬∃ o, Intent.cut? envelope = some o ∧ NestsTooDeep depth o) ∧
      ∀ (w : World) (question : Text), w.depth = depth → question.isAllBlank = false →
        w.model question = .ok envelope → (∀ i, Intent.ofEnvelope envelope depth ≠ .ok i) →
        ((w.run (some question)).1.output = unreadableIntent ↔
            ¬∃ o, Intent.cut? envelope = some o ∧ NestsTooDeep depth o) ∧
          ((w.run (some question)).1.output = internalError ↔
            ∃ o, Intent.cut? envelope = some o ∧ NestsTooDeep depth o) := by
  refine ⟨Intent.parse_reported_iff t, Intent.ofEnvelope_reported_iff envelope, ?_⟩
  rintro w question rfl hasked hmodel hnone
  rw [← Intent.ofEnvelope_eq_tooDeep_iff]
  cases h : Intent.ofEnvelope envelope w.depth with
  | ok i => exact absurd h (hnone i)
  | error e =>
      rw [output_of_ofEnvelope hasked hmodel h]
      by_cases hdeep : e = .tooDeep
      · simp [hdeep, unreadableIntent_ne_internalError.symm]
      · simp [hdeep, unreadableIntent_ne_internalError]

/-- A question to which the model answers with a comma in braces, read with one level and no
more. -/
theorem unreadable_reported_comma :
    let w : World := ⟨fun _ => .ok (.string (lit "\x7b,\x7d")), fun _ => .ok none, 1⟩
    (lit "Heat").isAllBlank = false ∧
      Intent.ofEnvelope (.string (lit "\x7b,\x7d")) w.depth =
        .error (.malformed .expectingName 1) ∧
      (w.run (some (lit "Heat"))).1.output = unreadableIntent := by
  intro w
  have hasked : (lit "Heat").isAllBlank = false := by decide
  have hcut : Intent.cut? (.string (lit "\x7b,\x7d")) = some (lit "\x7b,\x7d") := by decide
  have hrefused : Intent.ofEnvelope (.string (lit "\x7b,\x7d")) w.depth =
      .error (.malformed .expectingName 1) := by
    rw [Intent.ofEnvelope_of_cut?_eq_some hcut]
    rfl
  have hshallow : ¬∃ o, Intent.cut? (.string (lit "\x7b,\x7d")) = some o ∧
      NestsTooDeep w.depth o := by
    rintro ⟨o, ho, hdeep⟩
    obtain rfl := Option.some.inj (hcut.symm.trans ho)
    exact Json.not_nestsTooDeep (by decide) hdeep
  have hnone : ∀ i, Intent.ofEnvelope (.string (lit "\x7b,\x7d")) w.depth ≠ .ok i := by
    simp [hrefused]
  have hreported := (unreadable_reported_iff w.depth (lit "\x7b,\x7d")
    (.string (lit "\x7b,\x7d"))).2.2 w (lit "Heat") rfl hasked rfl hnone
  exact ⟨hasked, hrefused, hreported.1.2 hshallow⟩

end Answer

end FilmQuery
