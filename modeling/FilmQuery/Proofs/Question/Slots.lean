import FilmQuery.Proofs.Outcome
import FilmQuery.Proofs.Question.Genre
import FilmQuery.Proofs.Question.Words
import FilmQuery.Question.Enrich

/-!
# Slots that are written once

A slot is read and written apart from all others, except that a title of any kind closes the slot
of the exact title. What a question proposes for a slot belongs to that slot and closes it. So
after a question each slot holds what it held before if it was not open, and else what the question
proposes for it alone.
-/

namespace FilmQuery

/-- The parts of an intent that no question fills: its purpose, its title and its year. -/
def Intent.given (i : Intent) : Text × Option Text × Json :=
  (i.purpose, i.filters.title, i.filters.year)

namespace Question

/-! ## Reading and writing -/

/-- What a slot holds. -/
abbrev Slot.Value : Slot → Type
  | .title | .director | .actor | .genre | .ids => Option Text
  | .rating => Option Rating
  | .yearFrom => Json
  | .topN => Option Int
  | .fields => List Text

/-- What an intent has in a slot; the title slot is the one of the exact title. -/
def Slot.get : (slot : Slot) → Intent → slot.Value
  | .title, i => i.filters.titleExact
  | .director, i => i.filters.director
  | .actor, i => i.filters.actor
  | .genre, i => i.filters.genre
  | .ids, i => i.filters.ids
  | .rating, i => i.filters.rating
  | .yearFrom, i => i.filters.yearFrom
  | .topN, i => i.topN
  | .fields, i => i.fields

namespace Fact

/-- The slot that a fact is written into. -/
def slot : Fact → Slot
  | titleExact _ => .title
  | director _ => .director
  | actor _ => .actor
  | genre _ => .genre
  | ids _ => .ids
  | rating _ => .rating
  | yearFrom _ => .yearFrom
  | topN _ => .topN
  | fields _ => .fields

theorem get_write_congr (fact : Fact) (i j : Intent) :
    fact.slot.get (fact.write i) = fact.slot.get (fact.write j) := by
  cases fact <;> rfl

theorem get_write_of_ne {fact : Fact} {slot : Slot} (h : slot ≠ fact.slot) (i : Intent) :
    slot.get (fact.write i) = slot.get i := by
  cases fact <;> cases slot <;> first | rfl | exact absurd rfl h

@[simp] theorem given_write (fact : Fact) (i : Intent) : (fact.write i).given = i.given := by
  cases fact <;> rfl

end Fact

attribute [ext] Filters Intent

/-- The slots and the given parts make up an intent. -/
theorem eq_of_get {i j : Intent} (hslots : ∀ slot : Slot, slot.get i = slot.get j)
    (hgiven : i.given = j.given) : i = j := by
  obtain ⟨hpurpose, hrest⟩ := Prod.mk.inj hgiven
  obtain ⟨htitle, hyear⟩ := Prod.mk.inj hrest
  apply Intent.ext hpurpose _ (hslots .fields) (hslots .topN)
  exact Filters.ext (hslots .ids) htitle (hslots .title) (hslots .director) (hslots .actor)
    (hslots .genre) (hslots .rating) hyear (hslots .yearFrom)

/-- Whether a slot is open depends on what it holds and on the given title. -/
theorem Slot.isOpen_congr {slot : Slot} {i j : Intent} (hget : slot.get i = slot.get j)
    (hgiven : i.given = j.given) : slot.isOpen i = slot.isOpen j := by
  have htitle : i.filters.title = j.filters.title := congrArg (·.2.1) hgiven
  cases slot <;> simp_all [Slot.isOpen, Slot.get]

theorem Slot.isOpen_write_of_ne {slot : Slot} {fact : Fact} (h : slot ≠ fact.slot) (i : Intent) :
    slot.isOpen (fact.write i) = slot.isOpen i :=
  Slot.isOpen_congr (Fact.get_write_of_ne h i) (fact.given_write i)

theorem Slot.isOpen_empty (slot : Slot) : slot.isOpen {} = true := by
  cases slot <;> rfl

theorem Slot.mem_all (slot : Slot) : slot ∈ Slot.all := by
  cases slot <;> decide

/-! ## What is proposed is something

A proposal is never blank, so a slot that has taken one is not open any more.
-/

theorem title?_ne_nil {t u : Text} (h : title? t = some u) : u ≠ [] := by
  unfold title? at h
  split at h
  · exact filled?_ne_nil h
  · split at h
    · split at h
      · exact filled?_ne_nil h
      · cases h
    · cases h

theorem person?_ne_nil {role t u : Text} (h : person? role t = some u) : u ≠ [] := by
  obtain ⟨name, -, hname⟩ := Option.bind_eq_some_iff.1 h
  exact filled?_ne_nil hname

/-- A genre is written in the text, and is one of the terms in some case. -/
theorem exists_of_genreTerm? {before : Option CodePoint} {t u : Text}
    (h : genreTerm? before t = some u) : ∃ rest, t = u ++ rest ∧ u.map fold ∈ genreTerms := by
  have hterm : term? genreTerms before t = some u := h
  obtain ⟨hmem, -, rest, ht, -⟩ := exists_of_term? hterm
  exact ⟨rest, ht, hmem⟩

theorem genre?_ne_nil {t u : Text} (h : genre? t = some u) : u ≠ [] := by
  obtain ⟨before, rest, hterm⟩ := exists_of_find? h
  obtain ⟨-, -, hmem⟩ := exists_of_genreTerm? hterm
  rintro rfl
  exact absurd hmem (by decide)

/-- An id is the digits that end a word, behind a lower-case `id` at the beginning of a word. -/
theorem exists_of_idClause? {before : Option CodePoint} {t u : Text}
    (h : idClause? before t = some u) :
    wordStarts before = true ∧ ∃ gap rest, t = lit "id" ++ (gap ++ (u ++ rest)) ∧
      (∀ b ∈ gap, isBlank b = true) ∧ (u ≠ [] ∧ ∀ c ∈ u, isAsciiDigit c = true) ∧
      wordEnds rest = true := by
  unfold idClause? at h
  split at h
  · next hstart =>
    obtain ⟨behind, hid, hdigits⟩ := Option.bind_eq_some_iff.1 h
    obtain rfl := Text.after?_eq_some_iff.1 hid
    obtain ⟨gap, hgap, hblanks⟩ := exists_skipBlanks_append behind
    obtain ⟨rest, hrest, hne, hall, hends⟩ := wordDigits?_eq_some_iff.1 hdigits
    rw [hrest] at hgap
    exact ⟨hstart, gap, rest, by rw [hgap], hblanks, ⟨hne, hall⟩, hends⟩
  · cases h

theorem ids?_ne_nil {t u : Text} (h : ids? t = some u) : u ≠ [] := by
  obtain ⟨before, rest, hclause⟩ := exists_of_find? h
  obtain ⟨-, -, -, -, -, ⟨hne, -⟩, -⟩ := exists_of_idClause? hclause
  exact hne

theorem exists_of_ok_map {α : Type} {found : Option α} {make : α → Fact} {fact : Fact}
    (h : (Except.ok (found.map make) : Except DigitLimit (Option Fact)) = .ok (some fact)) :
    ∃ a, found = some a ∧ make a = fact :=
  Option.map_eq_some_iff.1 (Except.ok.inj h)

/-- What a question proposes for a slot belongs to it and closes it. -/
theorem closes_of_propose {slot : Slot} {t : Text} {fact : Fact}
    (h : slot.propose t = .ok (some fact)) :
    fact.slot = slot ∧ ∀ i, slot.isOpen (fact.write i) = false := by
  cases slot with
  | title =>
      obtain ⟨u, hu, rfl⟩ := exists_of_ok_map h
      exact ⟨rfl, fun i => by simp [Slot.isOpen, Fact.write, isOpen, title?_ne_nil hu]⟩
  | director =>
      obtain ⟨u, hu, rfl⟩ := exists_of_ok_map h
      exact ⟨rfl, fun i => by simp [Slot.isOpen, Fact.write, isOpen, person?_ne_nil hu]⟩
  | actor =>
      obtain ⟨u, hu, rfl⟩ := exists_of_ok_map h
      exact ⟨rfl, fun i => by simp [Slot.isOpen, Fact.write, isOpen, person?_ne_nil hu]⟩
  | genre =>
      obtain ⟨u, hu, rfl⟩ := exists_of_ok_map h
      exact ⟨rfl, fun i => by simp [Slot.isOpen, Fact.write, isOpen, genre?_ne_nil hu]⟩
  | ids =>
      obtain ⟨u, hu, rfl⟩ := exists_of_ok_map h
      exact ⟨rfl, fun i => by simp [Slot.isOpen, Fact.write, isOpen, ids?_ne_nil hu]⟩
  | rating =>
      obtain ⟨r, -, rfl⟩ := exists_of_ok_map h
      exact ⟨rfl, fun _ => rfl⟩
  | yearFrom =>
      obtain ⟨n, -, rfl⟩ := exists_of_ok_map h
      exact ⟨rfl, fun _ => rfl⟩
  | topN =>
      obtain ⟨found, -, hmap⟩ := map_eq_ok_iff.1 h
      obtain ⟨n, -, rfl⟩ := Option.map_eq_some_iff.1 hmap
      exact ⟨rfl, fun _ => rfl⟩
  | fields =>
      obtain rfl := Option.some.inj (Except.ok.inj h)
      exact ⟨rfl, fun _ => rfl⟩

/-! ## Filling a slot -/

/-- What a question writes into a slot when it fills that slot alone, in an intent where nothing
is set. -/
def Slot.proposal (slot : Slot) (t : Text) : Option slot.Value :=
  match slot.fill t {} with
  | .ok i => if slot.isOpen i then none else some (slot.get i)
  | .error _ => none

/-- A proposal is what the slot holds once the fact that is found has been written. -/
theorem Slot.proposal_of_propose {slot : Slot} {t : Text} {found : Option Fact}
    (h : slot.propose t = .ok found) :
    slot.proposal t = found.map fun fact => slot.get (fact.write {}) := by
  unfold proposal fill fact?
  rw [if_pos slot.isOpen_empty, h]
  cases found with
  | none => exact if_pos slot.isOpen_empty
  | some fact =>
      have hclosed := (closes_of_propose h).2 {}
      simp [Except.map, hclosed]

/-- Behind a proposal there is a fact of the slot. -/
theorem Slot.exists_propose_of_proposal {slot : Slot} {t : Text} {v : slot.Value}
    (h : slot.proposal t = some v) :
    ∃ fact : Fact, slot.propose t = .ok (some fact) ∧ fact.slot = slot ∧
      ∀ i, v = slot.get (fact.write i) := by
  cases hpropose : slot.propose t with
  | error e =>
      unfold proposal fill fact? at h
      rw [if_pos slot.isOpen_empty, hpropose] at h
      cases h
  | ok found =>
      rw [proposal_of_propose hpropose] at h
      obtain ⟨fact, rfl, rfl⟩ := Option.map_eq_some_iff.1 h
      obtain ⟨rfl, -⟩ := closes_of_propose hpropose
      exact ⟨fact, rfl, rfl, fact.get_write_congr {}⟩

/-- What filling a slot can come to: nothing is done to a slot that is not open or for which the
question has nothing, and else the proposal is written. -/
theorem Slot.fill_cases {slot : Slot} {t : Text} {i j : Intent} (h : slot.fill t i = .ok j) :
    (j = i ∧ (slot.isOpen i = true → slot.proposal t = none)) ∨
      ∃ fact : Fact, slot = fact.slot ∧ j = fact.write i ∧ slot.isOpen i = true ∧
        slot.isOpen j = false ∧ slot.proposal t = some (slot.get j) := by
  unfold fill fact? at h
  split at h
  · next hopen =>
    obtain ⟨found, hpropose, rfl⟩ := map_eq_ok_iff.1 h
    unfold proposal fill fact?
    rw [if_pos slot.isOpen_empty, hpropose]
    cases found with
    | none => exact Or.inl ⟨rfl, fun _ => if_pos slot.isOpen_empty⟩
    | some fact =>
        obtain ⟨rfl, hcloses⟩ := closes_of_propose hpropose
        refine Or.inr ⟨fact, rfl, rfl, hopen, hcloses i, ?_⟩
        simp only [Except.map, hcloses, Bool.false_eq_true, if_false, fact.get_write_congr {} i]
  · next hopen =>
    obtain rfl : i = j := Except.ok.inj h
    exact Or.inl ⟨rfl, fun h => absurd h hopen⟩

/-- No slot is opened by filling one. -/
theorem Slot.isOpen_of_fill {slot filled : Slot} {t : Text} {i j : Intent}
    (h : filled.fill t i = .ok j) (hopen : slot.isOpen j = true) : slot.isOpen i = true := by
  rcases filled.fill_cases h with ⟨rfl, -⟩ | ⟨fact, rfl, rfl, -, hclosed, -⟩
  · exact hopen
  · have hne : slot ≠ fact.slot := by
      rintro rfl
      exact Bool.false_ne_true (hclosed.symm.trans hopen)
    rwa [Slot.isOpen_write_of_ne hne] at hopen

/-- What filling slots from a text makes of an intent. -/
structure Filled (slots : List Slot) (t : Text) (i j : Intent) : Prop where
  get : ∀ slot : Slot, slot.get j =
    if slot ∈ slots ∧ slot.isOpen i = true then (slot.proposal t).getD (slot.get i)
    else slot.get i
  isOpen : ∀ slot : Slot,
    slot.isOpen j = true ↔ slot.isOpen i = true ∧ (slot ∈ slots → slot.proposal t = none)
  given : j.given = i.given

/-- One slot is filled, and no other is touched. -/
theorem filled_of_fill {first : Slot} {t : Text} {i j : Intent} (h : first.fill t i = .ok j) :
    Filled [first] t i j := by
  rcases first.fill_cases h with
    ⟨rfl, hnone⟩ | ⟨fact, rfl, rfl, hopen, hclosed, hproposal⟩
  · refine ⟨fun slot => ?_, fun slot => ?_, rfl⟩
    · split
      · next hslot =>
        obtain rfl := List.mem_singleton.1 hslot.1
        rw [hnone hslot.2, Option.getD_none]
      · rfl
    · by_cases hslot : slot = first
      · subst hslot
        simp +contextual [hnone]
      · simp [hslot]
  · refine ⟨fun slot => ?_, fun slot => ?_, fact.given_write i⟩
    · by_cases hslot : slot = fact.slot
      · subst hslot
        simp [hopen, hproposal]
      · simp [hslot, Fact.get_write_of_ne hslot]
    · by_cases hslot : slot = fact.slot
      · subst hslot
        simp [hclosed, hproposal]
      · simp [hslot, Slot.isOpen_write_of_ne hslot]

/-- A slot that has taken a proposal is passed over by what comes after. -/
theorem Filled.append {before after : List Slot} {t : Text} {i j k : Intent}
    (h : Filled before t i j) (h' : Filled after t j k) : Filled (before ++ after) t i k := by
  refine ⟨fun slot => ?_, fun slot => ?_, h'.given.trans h.given⟩
  · rw [h'.get slot, h.get slot]
    cases hproposal : slot.proposal t with
    | none => simp
    | some v =>
        by_cases hmem : slot ∈ before
        · simp [hmem, hproposal, h.isOpen slot]
        · simp [hmem, h.isOpen slot]
  · rw [h'.isOpen slot, h.isOpen slot, List.mem_append, or_imp, and_assoc]

theorem filled_of_fillAll {slots : List Slot} {t : Text} {i j : Intent}
    (h : fillAll slots t i = .ok j) : Filled slots t i j := by
  induction slots generalizing i with
  | nil =>
      obtain rfl : i = j := Except.ok.inj h
      exact ⟨fun slot => by simp, fun slot => by simp, rfl⟩
  | cons first rest ih =>
      obtain ⟨i', hfirst, hrest⟩ := bind_eq_ok_iff.1 h
      exact (filled_of_fill hfirst).append (ih hrest)

/-- What a question proposes for a slot: what it writes there when it fills that slot alone, in an
intent where nothing is set, from its text without blanks at the ends. -/
def Slot.proposed (slot : Slot) (question : Text) : Option slot.Value :=
  slot.proposal (Text.trim isBlank question)

/-! ## Completing an intent -/

section

variable {i j : Intent} {question : Text}

/-- A slot that was not open keeps what it held; one that was open takes what the question proposes
for it, if it proposes anything. -/
theorem get_of_enrich (h : enrich i question = .ok j) (slot : Slot) :
    slot.get j =
      if slot.isOpen i = true then (slot.proposed question).getD (slot.get i) else slot.get i := by
  rw [(filled_of_fillAll h).get slot]
  simp only [slot.mem_all, true_and, Slot.proposed]

/-- A slot stays open exactly if nothing is proposed for it. -/
theorem isOpen_of_enrich (h : enrich i question = .ok j) (slot : Slot) :
    slot.isOpen j = true ↔ slot.isOpen i = true ∧ slot.proposed question = none := by
  rw [(filled_of_fillAll h).isOpen slot]
  simp only [slot.mem_all, true_implies, Slot.proposed]

/-- An open slot takes the fact that the question has for it. -/
theorem get_of_propose (h : enrich i question = .ok j) {slot : Slot} {found : Option Fact}
    (hfound : slot.propose (Text.trim isBlank question) = .ok found)
    (hopen : slot.isOpen i = true) :
    slot.get j = (found.map fun fact => slot.get (fact.write i)).getD (slot.get i) := by
  rw [get_of_enrich h, if_pos hopen, Slot.proposed, Slot.proposal_of_propose hfound]
  cases found with
  | none => rfl
  | some fact =>
      obtain ⟨rfl, -⟩ := closes_of_propose hfound
      exact fact.get_write_congr {} i

theorem given_of_enrich (h : enrich i question = .ok j) : j.given = i.given :=
  (filled_of_fillAll h).given

end

end Question

end FilmQuery
