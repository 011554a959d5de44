import FilmQuery.Intent.Decode
import FilmQuery.Proofs.Question.Slots

/-!
# When an intent cannot be completed

Years, ratings and ids are read from digits without a limit: a year has four of them, a rating
becomes a double however long it is, and an id stays a text. Only the number of rows is an integer
of any length, and the conversion of such a text has a limit. It is made only while no number of
rows is set.
-/

namespace FilmQuery.Question

/-! ## The number of rows in a question -/

/-- A number of rows stands at the beginning of `t`: the word `top` in any case, blanks, and the
digits `ds`, which end a word. -/
def NamesRows (before : Option CodePoint) (t ds : Text) : Prop :=
  wordStarts before = true ∧ ∃ word gap rest, t = word ++ (gap ++ (ds ++ rest)) ∧
    word.map fold = lit "top" ∧ (gap ≠ [] ∧ ∀ c ∈ gap, isBlank c = true) ∧
    (ds ≠ [] ∧ ∀ c ∈ ds, isAsciiDigit c = true) ∧ wordEnds rest = true

/-- The digits `ds` are those of the first number of rows that `t` names. -/
def FirstRows (t ds : Text) : Prop :=
  ∃ pre post, t = pre ++ post ∧ NamesRows pre.getLast? post ds ∧
    ∀ pre' post', t = pre' ++ post' → pre'.length < pre.length →
      ∀ ds', ¬NamesRows pre'.getLast? post' ds'

theorem topClause?_eq_some_iff {before : Option CodePoint} {t ds : Text} :
    topClause? before t = some ds ↔ NamesRows before t ds := by
  unfold topClause? NamesRows
  split
  · next hstart =>
    simp only [hstart, true_and, Option.bind_eq_some_iff, Text.afterFolded?_eq_some_iff,
      blanks?_eq_some_iff, wordDigits?_eq_some_iff]
    constructor
    · rintro ⟨_, ⟨word, rfl, hword⟩, _, ⟨gap, rfl, hne, hgap, -⟩, rest, rfl, hds, hdigits, hends⟩
      exact ⟨word, gap, rest, rfl, hword, ⟨hne, hgap⟩, ⟨hds, hdigits⟩, hends⟩
    · rintro ⟨word, gap, rest, rfl, hword, ⟨hne, hgap⟩, ⟨hds, hdigits⟩, hends⟩
      refine ⟨_, ⟨word, rfl, hword⟩, _, ⟨gap, rfl, hne, hgap, ?_⟩, rest, rfl, hds, hdigits, hends⟩
      obtain ⟨d, ds, rfl⟩ := List.exists_cons_of_ne_nil hds
      exact not_isBlank_of_isAsciiDigit (hdigits d List.mem_cons_self)
  · next hstart => simp [hstart]

theorem find?_topClause?_eq_some_iff {t ds : Text} :
    find? topClause? t = some ds ↔ FirstRows t ds := by
  simp only [find?_eq_some_iff, topClause?_eq_some_iff, FirstRows,
    Option.eq_none_iff_forall_not_mem, Option.mem_def]

theorem topN?_eq_error_iff {t : Text} {e : DigitLimit} :
    topN? t = .error e ↔ ∃ ds, FirstRows t ds ∧ maxDigits < ds.length ∧ e = ⟨ds.length⟩ := by
  simp only [← find?_topClause?_eq_some_iff]
  unfold topN?
  cases find? topClause? t with
  | none => simp
  | some ds =>
      rw [map_eq_error_iff, Numeral.readNat]
      by_cases hlong : maxDigits < ds.length <;> simp [hlong, eq_comm]

/-! ## Slots whose filling fails -/

theorem Slot.propose_eq_error_iff {slot : Slot} {t : Text} {e : DigitLimit} :
    slot.propose t = .error e ↔ slot = .topN ∧ topN? t = .error e := by
  cases slot <;> simp [propose, map_eq_error_iff]

theorem Slot.fill_eq_error_iff {slot : Slot} {t : Text} {i : Intent} {e : DigitLimit} :
    slot.fill t i = .error e ↔ slot = .topN ∧ i.topN = none ∧ topN? t = .error e := by
  rw [fill, map_eq_error_iff, fact?]
  split
  · next hopen =>
    rw [propose_eq_error_iff]
    constructor
    · rintro ⟨rfl, htop⟩
      exact ⟨rfl, Option.isNone_iff_eq_none.1 hopen, htop⟩
    · rintro ⟨rfl, -, htop⟩
      exact ⟨rfl, htop⟩
  · next hopen =>
    refine iff_of_false (by simp) ?_
    rintro ⟨rfl, hnone, -⟩
    exact hopen (Option.isNone_iff_eq_none.2 hnone)

/-- A slot other than the number of rows leaves that number as it is. -/
theorem topN_of_fill {slot : Slot} {t : Text} {i j : Intent} (h : slot.fill t i = .ok j)
    (hslot : slot ≠ .topN) : j.topN = i.topN := by
  rcases slot.fill_cases h with ⟨rfl, -⟩ | ⟨fact, rfl, rfl, -⟩
  · rfl
  · exact fact.get_write_of_ne hslot.symm i

theorem fillAll_eq_error_iff {slots : List Slot} {t : Text} {i : Intent} {e : DigitLimit} :
    fillAll slots t i = .error e ↔ Slot.topN ∈ slots ∧ i.topN = none ∧ topN? t = .error e := by
  induction slots generalizing i with
  | nil => simp [fillAll, pure, Except.pure]
  | cons first rest ih =>
      have hcons : fillAll (first :: rest) t i = first.fill t i >>= fillAll rest t := rfl
      rw [hcons, bind_eq_error_iff, Slot.fill_eq_error_iff]
      constructor
      · rintro (⟨rfl, hnone, htop⟩ | ⟨j, hfill, hrest⟩)
        · exact ⟨List.mem_cons_self, hnone, htop⟩
        · obtain ⟨hmem, hnone, htop⟩ := ih.1 hrest
          have hopen : Slot.topN.isOpen i = true :=
            Slot.isOpen_of_fill hfill (Option.isNone_iff_eq_none.2 hnone)
          exact ⟨List.mem_cons_of_mem _ hmem, Option.isNone_iff_eq_none.1 hopen, htop⟩
      · rintro ⟨hmem, hnone, htop⟩
        by_cases hfirst : first = .topN
        · exact Or.inl ⟨hfirst, hnone, htop⟩
        · cases hfill : first.fill t i with
          | error e' => exact absurd (Slot.fill_eq_error_iff.1 hfill).1 hfirst
          | ok j =>
              have hrest := List.mem_of_ne_of_mem (Ne.symm hfirst) hmem
              exact Or.inr ⟨j, rfl, ih.2 ⟨hrest, (topN_of_fill hfill hfirst).trans hnone, htop⟩⟩

theorem enrich_eq_error_iff {i : Intent} {question : Text} {e : DigitLimit} :
    enrich i question = .error e ↔ i.topN = none ∧
      ∃ ds, FirstRows (Text.trim isBlank question) ds ∧ maxDigits < ds.length ∧
        e = ⟨ds.length⟩ := by
  rw [enrich, fillAll_eq_error_iff, topN?_eq_error_iff]
  simp only [Slot.mem_all, true_and]

/-- The number of rows does not keep an intent from being completed: it is set already, or the first
one that the question names has not more digits than can be converted. -/
def RowsFit (i : Intent) (question : Text) : Prop :=
  i.topN ≠ none ∨ ∀ ds, FirstRows (Text.trim isBlank question) ds → ds.length ≤ maxDigits

theorem rowsFit_iff {i : Intent} {question : Text} :
    RowsFit i question ↔ ∀ e, enrich i question ≠ .error e := by
  rw [← not_iff_not, RowsFit]
  simp only [ne_eq, enrich_eq_error_iff, not_or, not_not, not_forall, Nat.not_le]
  constructor
  · rintro ⟨hnone, ds, hds, hlong⟩
    exact ⟨_, hnone, ds, hds, hlong, rfl⟩
  · rintro ⟨e, hnone, ds, hds, hlong, -⟩
    exact ⟨hnone, ds, hds, hlong⟩

/-- **An intent is completed unless the number of rows is too long.** Whatever else a question
holds, an intent can be completed from it exactly if its number of rows is set already, or the
first one that the question names has not more digits than can be converted. -/
theorem enrich_completes_iff (i : Intent) (question : Text) :
    (∃ j, enrich i question = .ok j) ↔
      i.topN ≠ none ∨
        ∀ ds, FirstRows (Text.trim isBlank question) ds → ds.length ≤ maxDigits := by
  rw [exists_eq_ok_iff]
  exact rowsFit_iff.symm

/-- A question that asks for a number of rows with `n` digits. -/
def rowsQuestion (n : Nat) : Text := lit "top " ++ List.replicate n '9'.toNat

theorem firstRows_rowsQuestion {n : Nat} (hn : 0 < n) :
    FirstRows (Text.trim isBlank (rowsQuestion n)) (List.replicate n '9'.toNat) := by
  obtain ⟨n, rfl⟩ : ∃ k, n = k + 1 := ⟨n - 1, by omega⟩
  have htrim : Text.trim isBlank (rowsQuestion (n + 1)) = rowsQuestion (n + 1) := by
    have hends := Text.trim_eq_self (p := isBlank) (a := 't'.toNat) (b := '9'.toNat)
      (by decide) (by decide) (lit "op " ++ List.replicate n '9'.toNat)
    rwa [List.append_assoc, ← List.replicate_succ'] at hends
  have hdigits : ∀ c ∈ List.replicate (n + 1) '9'.toNat, isAsciiDigit c = true := by
    intro c hc
    rw [List.eq_of_mem_replicate hc]
    decide
  rw [htrim]
  have hparts : rowsQuestion (n + 1) =
      lit "top" ++ (lit " " ++ (List.replicate (n + 1) '9'.toNat ++ [])) := by
    rw [List.append_nil]
    rfl
  exact ⟨[], _, rfl, ⟨rfl, _, _, _, hparts, by decide, by decide, ⟨by simp, hdigits⟩, rfl⟩, by simp⟩

/-- With one digit more than can be converted, an intent that says nothing cannot be completed. -/
theorem exists_question_failing :
    ¬∀ (j : Json) (i : Intent) (question : Text), Intent.ofJson j = .ok i →
      ∃ k, enrich i question = .ok k := by
  intro hall
  have hlong : maxDigits < (List.replicate (maxDigits + 1) '9'.toNat).length := by
    rw [List.length_replicate]
    exact Nat.lt_succ_self maxDigits
  have hfails : enrich {} (rowsQuestion (maxDigits + 1)) = .error ⟨_⟩ :=
    enrich_eq_error_iff.2
      ⟨rfl, _, firstRows_rowsQuestion (Nat.succ_pos maxDigits), hlong, rfl⟩
  obtain ⟨k, hk⟩ := hall (.object []) {} (rowsQuestion (maxDigits + 1)) rfl
  cases hfails.symm.trans hk

end FilmQuery.Question
