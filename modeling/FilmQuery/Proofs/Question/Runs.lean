import FilmQuery.Proofs.Question.Limits

/-!
# Questions one after the other

An intent is completed from one question, then from the next, and so on; a question from which it
cannot be completed leaves it as it is. In such a run each slot is written at most once: it keeps
what it had at the start if it was set, and takes the first proposal otherwise.
-/

namespace FilmQuery.Question

/-- The intent after one more question. -/
def ask (i : Intent) (question : Text) : Intent :=
  match enrich i question with
  | .ok j => j
  | .error _ => i

/-- The intent after a run of questions. -/
def askAll (i : Intent) (questions : List Text) : Intent := questions.foldl ask i

/-- The questions of a run from which the intent could be completed when their turn came. -/
def heard (i : Intent) : List Text → List Text
  | [] => []
  | q :: qs =>
    match enrich i q with
    | .ok j => q :: heard j qs
    | .error _ => heard i qs

section

variable {i j : Intent} {q : Text} {e : DigitLimit}

theorem ask_of_ok (h : enrich i q = .ok j) : ask i q = j := by rw [ask, h]

theorem ask_of_error (h : enrich i q = .error e) : ask i q = i := by rw [ask, h]

theorem heard_of_ok (h : enrich i q = .ok j) (qs : List Text) :
    heard i (q :: qs) = q :: heard j qs := by rw [heard, h]

theorem heard_of_error (h : enrich i q = .error e) (qs : List Text) :
    heard i (q :: qs) = heard i qs := by rw [heard, h]

end

theorem askAll_cons (i : Intent) (q : Text) (qs : List Text) :
    askAll i (q :: qs) = askAll (ask i q) qs := rfl

/-! ## What a run keeps and what it writes -/

theorem given_ask (i : Intent) (q : Text) : (ask i q).given = i.given := by
  cases h : enrich i q with
  | ok j => rw [ask_of_ok h, given_of_enrich h]
  | error e => rw [ask_of_error h]

theorem given_askAll (i : Intent) (qs : List Text) : (askAll i qs).given = i.given := by
  induction qs generalizing i with
  | nil => rfl
  | cons q qs ih => rw [askAll_cons, ih, given_ask]

/-- A slot that is open in the end was open all the time, and nothing was proposed for it. -/
theorem isOpen_askAll (slot : Slot) (i : Intent) (qs : List Text) :
    slot.isOpen (askAll i qs) = true ↔
      slot.isOpen i = true ∧ ∀ q ∈ heard i qs, slot.proposed q = none := by
  induction qs generalizing i with
  | nil => simp [askAll, heard]
  | cons q qs ih =>
      cases h : enrich i q with
      | ok j =>
          rw [askAll_cons, ask_of_ok h, heard_of_ok h, ih, isOpen_of_enrich h,
            List.forall_mem_cons, and_assoc]
      | error e => rw [askAll_cons, ask_of_error h, heard_of_error h, ih]

/-- The first proposal that is heard wins. -/
theorem get_askAll (slot : Slot) (i : Intent) (qs : List Text) :
    slot.get (askAll i qs) =
      if slot.isOpen i = true then ((heard i qs).findSome? slot.proposed).getD (slot.get i)
      else slot.get i := by
  induction qs generalizing i with
  | nil => simp [askAll, heard]
  | cons q qs ih =>
      cases h : enrich i q with
      | error e => rw [askAll_cons, ask_of_error h, heard_of_error h, ih]
      | ok j =>
          have hopen := isOpen_of_enrich h slot
          rw [askAll_cons, ask_of_ok h, heard_of_ok h, ih, get_of_enrich h, List.findSome?_cons]
          cases hproposed : slot.proposed q with
          | none => simp [hopen, hproposed]
          | some v => simp [hopen, hproposed]

/-! ## Questions that are asked again -/

/-- A question is not heard to the end only because of the number of rows, so one that was heard
with that slot open is heard with any intent. -/
theorem exists_enrich_of_open {i i' k : Intent} {q : Text} (h : enrich i q = .ok i')
    (hopen : Slot.topN.isOpen k = true → Slot.topN.isOpen i = true) :
    ∃ j, enrich k q = .ok j := by
  rw [exists_eq_ok_iff]
  intro e he
  obtain ⟨hnone, hrows⟩ := enrich_eq_error_iff.1 he
  have hi : Slot.topN.isOpen i = true := hopen (Option.isNone_iff_eq_none.2 hnone)
  have hfails := enrich_eq_error_iff.2 ⟨Option.isNone_iff_eq_none.1 hi, hrows⟩
  cases h.symm.trans hfails

/-- An intent in which no slot is open that a question proposes for is not changed by it. -/
theorem enrich_eq_self {i j : Intent} {q : Text} (h : enrich i q = .ok j)
    (hclosed : ∀ slot : Slot, slot.isOpen i = true → slot.proposed q = none) :
    enrich i q = .ok i := by
  have hsame : j = i := by
    refine eq_of_get (fun slot => ?_) (given_of_enrich h)
    rw [get_of_enrich h]
    split
    · next hopen => rw [hclosed slot hopen, Option.getD_none]
    · rfl
  rw [h, hsame]

/-- A question that was heard in a run can be heard once more at the end of it. -/
theorem enrich_askAll_of_heard {i : Intent} {qs : List Text} {q : Text} (hq : q ∈ heard i qs) :
    enrich (askAll i qs) q = .ok (askAll i qs) := by
  have hclosed : ∀ slot : Slot, slot.isOpen (askAll i qs) = true → slot.proposed q = none :=
    fun slot hopen => ((isOpen_askAll slot i qs).1 hopen).2 q hq
  obtain ⟨j, hj⟩ : ∃ j, enrich (askAll i qs) q = .ok j := by
    clear hclosed
    induction qs generalizing i with
    | nil => simp [heard] at hq
    | cons first qs ih =>
        cases h : enrich i first with
        | error e =>
            rw [heard_of_error h] at hq
            rw [askAll_cons, ask_of_error h]
            exact ih hq
        | ok i' =>
            rw [heard_of_ok h, List.mem_cons] at hq
            rw [askAll_cons, ask_of_ok h]
            rcases hq with rfl | hq
            · refine exists_enrich_of_open h fun hopen => ?_
              exact ((isOpen_of_enrich h _).1 ((isOpen_askAll _ _ _).1 hopen).1).1
            · exact ih hq
  exact enrich_eq_self hj hclosed

/-- **Slots are written once and the first proposal wins.** After any run of questions a slot that
was set at the start holds what it held, and a slot that was open holds the first proposal among
the questions that were heard, or what it held if there is none. Nothing else is changed, and
neither a question heard before nor the last question once more changes anything. -/
theorem askAll_firstProposal (i : Intent) (qs : List Text) :
    (∀ slot : Slot, slot.get (askAll i qs) =
        if slot.isOpen i = true then ((heard i qs).findSome? slot.proposed).getD (slot.get i)
        else slot.get i) ∧
      (askAll i qs).given = i.given ∧
      (∀ q ∈ heard i qs, enrich (askAll i qs) q = .ok (askAll i qs)) ∧
      ∀ q, ask (ask i q) q = ask i q := by
  refine ⟨fun slot => get_askAll slot i qs, given_askAll i qs,
    fun q hq => enrich_askAll_of_heard hq, fun q => ?_⟩
  cases h : enrich i q with
  | error e => rw [ask_of_error h, ask_of_error h]
  | ok j =>
      have hheard : q ∈ heard i [q] := by rw [heard_of_ok h]; exact List.mem_cons_self
      exact ask_of_ok (enrich_askAll_of_heard hheard)

/-- Two directors, a title and a number of rows. -/
def twoDirectors : List Text :=
  [lit "director Mann, title 'Ronin'", lit "top 3 by director Scott"]

/-- Both questions are heard, once more too; the first director and the given title stand. -/
theorem askAll_firstProposal_twoDirectors :
    lit "top 3 by director Scott" ∈
        heard { filters := { title := some (lit "Heat") } } twoDirectors ∧
      enrich (askAll { filters := { title := some (lit "Heat") } } twoDirectors)
          (lit "top 3 by director Scott") =
        .ok (askAll { filters := { title := some (lit "Heat") } } twoDirectors) ∧
      (askAll { filters := { title := some (lit "Heat") } } twoDirectors).filters.director =
        some (lit "Mann") ∧
      (askAll { filters := { title := some (lit "Heat") } } twoDirectors).filters.titleExact =
        none := by
  have hheard : lit "top 3 by director Scott" ∈
      heard { filters := { title := some (lit "Heat") } } twoDirectors := by decide
  exact ⟨hheard, (askAll_firstProposal _ _).2.2.1 _ hheard, by decide, by decide⟩

end FilmQuery.Question
