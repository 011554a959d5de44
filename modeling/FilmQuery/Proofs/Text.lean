import FilmQuery.Text.Blank
import Mathlib.Data.List.TakeDrop
import Mathlib.Data.List.TakeWhile

/-!
# More on texts

Joining texts one after the other, trimming a text whose middle stays, the run of a class at the
beginning of a text, the parts that a text is split into, and texts without surrogates or of ASCII
characters alone.
-/

namespace FilmQuery.Text

@[simp] theorem join_nil (sep : Text) : join sep [] = [] := rfl

@[simp] theorem join_singleton (sep t : Text) : join sep [t] = t := by
  simp [join, List.intercalate]

theorem join_cons_cons (sep t u : Text) (ts : List Text) :
    join sep (t :: u :: ts) = t ++ sep ++ join sep (u :: ts) := by
  simp [join, List.intercalate]

/-- A join begins with its first text. -/
theorem exists_join_cons (sep t : Text) (ts : List Text) :
    ∃ rest, join sep (t :: ts) = t ++ rest := by
  cases ts with
  | nil => exact ⟨[], by simp⟩
  | cons u ts => exact ⟨sep ++ join sep (u :: ts), by rw [join_cons_cons, List.append_assoc]⟩

/-- What holds of a separator and of the texts between holds of the join. -/
theorem forall_mem_join {P : CodePoint → Prop} {sep : Text} {ts : List Text}
    (hsep : ∀ c ∈ sep, P c) (hts : ∀ t ∈ ts, ∀ c ∈ t, P c) : ∀ c ∈ join sep ts, P c := by
  induction ts with
  | nil =>
      intro c hc
      cases hc
  | cons t ts ih =>
      rw [List.forall_mem_cons] at hts
      cases ts with
      | nil => simpa using hts.1
      | cons u us =>
          intro c hc
          rw [join_cons_cons, List.mem_append, List.mem_append] at hc
          rcases hc with (hc | hc) | hc
          · exact hts.1 c hc
          · exact hsep c hc
          · exact ih hts.2 c hc

/-- A join is at least as long as there are texts in it, if none of them is empty. -/
theorem length_le_length_join {sep : Text} {ts : List Text} (h : ∀ t ∈ ts, t ≠ []) :
    ts.length ≤ (join sep ts).length := by
  induction ts with
  | nil => exact Nat.zero_le _
  | cons t ts ih =>
      rw [List.forall_mem_cons] at h
      have ht : 0 < t.length := List.length_pos_iff.2 h.1
      have hts := ih h.2
      cases ts with
      | nil =>
          rw [join_singleton]
          exact ht
      | cons u us =>
          rw [join_cons_cons, List.length_append, List.length_append, List.length_cons]
          omega

/-- The run of a class goes on as long as the class does. -/
theorem span_eq_iff {p : CodePoint → Bool} {t u r : Text} :
    t.span p = (u, r) ↔ t = u ++ r ∧ (∀ c ∈ u, p c = true) ∧ r.head?.any p = false := by
  rw [List.span_eq_takeWhile_dropWhile, Prod.mk.injEq]
  constructor
  · rintro ⟨rfl, rfl⟩
    refine ⟨List.takeWhile_append_dropWhile.symm, fun c hc => List.mem_takeWhile_imp hc, ?_⟩
    have hstop := List.head?_dropWhile_not p t
    cases hhead : (t.dropWhile p).head? <;> simp_all
  · rintro ⟨rfl, hu, hr⟩
    rw [List.takeWhile_append_of_pos hu, List.dropWhile_append_of_pos hu]
    cases r <;> simp_all

/-- The run of a class at the beginning. -/
theorem takeWhile_eq_iff {p : CodePoint → Bool} {t u : Text} :
    t.takeWhile p = u ↔ ∃ r, t = u ++ r ∧ (∀ c ∈ u, p c = true) ∧ r.head?.any p = false := by
  simp only [← span_eq_iff, List.span_eq_takeWhile_dropWhile, Prod.mk.injEq, exists_and_left,
    exists_eq', and_true]

/-- What is left behind the run of a class. -/
theorem dropWhile_eq_iff {p : CodePoint → Bool} {t r : Text} :
    t.dropWhile p = r ↔ ∃ u, t = u ++ r ∧ (∀ c ∈ u, p c = true) ∧ r.head?.any p = false := by
  simp only [← span_eq_iff, List.span_eq_takeWhile_dropWhile, Prod.mk.injEq, exists_eq_left']

/-- What trimming takes off at the end, and that it takes all there is. -/
theorem exists_trimEnd_append (p : CodePoint → Bool) (t : Text) :
    ∃ w, t = trimEnd p t ++ w ∧ (∀ c ∈ w, p c = true) ∧ (trimEnd p t).getLast?.any p = false := by
  obtain ⟨w, hrest, hw, hlast⟩ := (dropWhile_eq_iff (t := t.reverse)).1 rfl
  refine ⟨w.reverse, ?_, by simpa using hw, ?_⟩
  · simpa [trimEnd] using congrArg List.reverse hrest
  · rwa [trimEnd, List.getLast?_reverse]

/-- What trimming leaves is what stands between two runs of the class and neither begins nor ends in
it. -/
theorem trim_eq_iff {p : CodePoint → Bool} {t m : Text} :
    trim p t = m ↔ ∃ u w, t = u ++ (m ++ w) ∧ (∀ c ∈ u, p c = true) ∧ (∀ c ∈ w, p c = true) ∧
      m.head?.any p = false ∧ m.getLast?.any p = false := by
  constructor
  · rintro rfl
    obtain ⟨u, ht, hu, hhead⟩ := (dropWhile_eq_iff (t := t)).1 rfl
    obtain ⟨w, hsplit, hw, hlast⟩ := exists_trimEnd_append p (t.dropWhile p)
    refine ⟨u, w, hsplit ▸ ht, hu, hw, ?_, hlast⟩
    cases hm : trim p t with
    | nil => rfl
    | cons c m =>
        rw [hsplit, show trimEnd p (t.dropWhile p) = c :: m from hm] at hhead
        exact hhead
  · rintro ⟨u, w, rfl, hu, hw, hhead, hlast⟩
    cases hm : m with
    | nil =>
        subst hm
        rw [trim_eq_nil_iff]
        simpa [or_imp, forall_and] using ⟨hu, hw⟩
    | cons c m' =>
        rw [← hm]
        have hstart : (u ++ (m ++ w)).dropWhile p = m ++ w := by
          refine dropWhile_eq_iff.2 ⟨u, rfl, hu, ?_⟩
          rw [hm] at hhead ⊢
          exact hhead
        have hend : (m ++ w).reverse.dropWhile p = m.reverse := by
          refine dropWhile_eq_iff.2 ⟨w.reverse, List.reverse_append, by simpa using hw, ?_⟩
          rwa [List.head?_reverse]
        rw [trim, hstart, trimEnd, hend, List.reverse_reverse]

/-- Trimming takes from what surrounds a text whose ends stay. -/
theorem trim_append_append {p : CodePoint → Bool} {m : Text} (hne : m ≠ [])
    (hhead : m.head?.any p = false) (hlast : m.getLast?.any p = false) (u w : Text) :
    trim p (u ++ (m ++ w)) = u.dropWhile p ++ (m ++ trimEnd p w) := by
  obtain ⟨u', hu, hu', hstart⟩ := (dropWhile_eq_iff (p := p) (t := u)).1 rfl
  obtain ⟨w', hw, hw', hend⟩ := exists_trimEnd_append p w
  obtain ⟨c, v, rfl⟩ := List.exists_cons_of_ne_nil hne
  refine trim_eq_iff.2 ⟨u', w', ?_, hu', hw', ?_, ?_⟩
  · conv_lhs => rw [hu, hw]
    simp only [List.append_assoc]
  · rw [List.head?_append]
    cases hu : (u.dropWhile p).head? with
    | none => exact hhead
    | some d => rwa [hu] at hstart
  · rw [List.getLast?_append, List.getLast?_append]
    cases hw : (trimEnd p w).getLast? with
    | none =>
        cases hv : (c :: v).getLast? with
        | none => simp at hv
        | some d => rwa [hv] at hlast
    | some d => rwa [hw] at hend

/-- The same for a text whose first and last characters stay. -/
theorem trim_surrounded {p : CodePoint → Bool} {a b : CodePoint} (ha : p a = false)
    (hb : p b = false) (u v w : Text) :
    trim p (u ++ (a :: (v ++ [b])) ++ w) =
      u.dropWhile p ++ (a :: (v ++ [b])) ++ trimEnd p w := by
  have htrim := trim_append_append (p := p) (m := a :: (v ++ [b])) (by simp) ha
    (by rwa [← List.cons_append, List.getLast?_concat]) u w
  simpa using htrim

/-- A text whose ends stay is not trimmed. -/
theorem trim_eq_self {p : CodePoint → Bool} {a b : CodePoint} (ha : p a = false)
    (hb : p b = false) (v : Text) : trim p (a :: (v ++ [b])) = a :: (v ++ [b]) := by
  have htrim := trim_surrounded ha hb [] v []
  simpa [trimEnd] using htrim

/-! ## Parts of a text -/

/-- The first part runs up to the first occurrence of `c`, or to the end. -/
theorem exists_splitOn_eq_cons (c : CodePoint) (t : Text) :
    ∃ s parts rest, splitOn c t = s :: parts ∧ t = s ++ rest ∧ ∀ d ∈ rest.head?, d = c := by
  induction t with
  | nil => exact ⟨[], [], [], rfl, rfl, by simp⟩
  | cons d t ih =>
      by_cases hd : d = c
      · exact ⟨[], splitOn c t, d :: t, by simp [splitOn, hd], rfl, by simp [hd]⟩
      · obtain ⟨s, parts, rest, hsplit, rfl, hrest⟩ := ih
        exact ⟨d :: s, parts, rest, by simp [splitOn, hd, hsplit], rfl, hrest⟩

/-- Each part but the first stands right behind an occurrence of `c`. -/
theorem exists_of_mem_tail_splitOn {c : CodePoint} {t s : Text} (h : s ∈ (splitOn c t).tail) :
    ∃ pre rest, t = pre ++ c :: (s ++ rest) ∧ ∀ d ∈ rest.head?, d = c := by
  induction t with
  | nil => simp [splitOn] at h
  | cons d t ih =>
      by_cases hd : d = c
      · obtain ⟨first, parts, rest, hsplit, ht, hrest⟩ := exists_splitOn_eq_cons c t
        rw [splitOn, if_pos hd, List.tail_cons, hsplit, List.mem_cons] at h
        rcases h with rfl | h
        · exact ⟨[], rest, by rw [hd, ht]; rfl, hrest⟩
        · obtain ⟨pre, rest, rfl, hrest⟩ := ih (by rw [hsplit]; exact h)
          exact ⟨d :: pre, rest, rfl, hrest⟩
      · rw [splitOn, if_neg hd, List.tail_modifyHead] at h
        obtain ⟨pre, rest, rfl, hrest⟩ := ih h
        exact ⟨d :: pre, rest, rfl, hrest⟩

theorem not_mem_of_mem_splitOn {c : CodePoint} {t s : Text} (h : s ∈ splitOn c t) : c ∉ s := by
  induction t generalizing s with
  | nil =>
      rw [List.mem_singleton.1 h]
      exact List.not_mem_nil
  | cons d t ih =>
      by_cases hd : d = c
      · rw [splitOn, if_pos hd, List.mem_cons] at h
        rcases h with rfl | h
        · exact List.not_mem_nil
        · exact ih h
      · obtain ⟨first, parts, hsplit⟩ := List.exists_cons_of_ne_nil (splitOn_ne_nil c t)
        rw [hsplit] at ih
        rw [splitOn, if_neg hd, hsplit, List.modifyHead_cons, List.mem_cons] at h
        rcases h with rfl | h
        · rw [List.mem_cons, not_or]
          exact ⟨Ne.symm hd, ih List.mem_cons_self⟩
        · exact ih (List.mem_cons_of_mem first h)

theorem splitOn_of_not_mem {c : CodePoint} {t : Text} (h : c ∉ t) : splitOn c t = [t] := by
  induction t with
  | nil => rfl
  | cons d t ih =>
      rw [List.mem_cons, not_or] at h
      rw [splitOn, if_neg (Ne.symm h.1), ih h.2, List.modifyHead_cons]

theorem splitOn_append_cons {c : CodePoint} {s : Text} (h : c ∉ s) (t : Text) :
    splitOn c (s ++ c :: t) = s :: splitOn c t := by
  induction s with
  | nil => rw [List.nil_append, splitOn, if_pos rfl]
  | cons d s ih =>
      rw [List.mem_cons, not_or] at h
      rw [List.cons_append, splitOn, if_neg (Ne.symm h.1), ih h.2, List.modifyHead_cons]

/-- Texts that are put together at a code point are the parts exactly if none of them holds it. -/
theorem splitOn_join_eq_self_iff {c : CodePoint} {ts : List Text} (hne : ts ≠ []) :
    splitOn c (join [c] ts) = ts ↔ ∀ t ∈ ts, c ∉ t := by
  constructor
  · intro h t ht
    rw [← h] at ht
    exact not_mem_of_mem_splitOn ht
  · intro h
    induction ts with
    | nil => exact absurd rfl hne
    | cons t ts ih =>
        rw [List.forall_mem_cons] at h
        cases ts with
        | nil => rw [join_singleton, splitOn_of_not_mem h.1]
        | cons u us =>
            rw [join_cons_cons, List.append_assoc, List.singleton_append,
              splitOn_append_cons h.1, ih (List.cons_ne_nil u us) h.2]

/-- What stands in a join and not in the separator stands in one of the texts. -/
theorem mem_join_iff {c : CodePoint} {sep : Text} (hsep : c ∉ sep) {ts : List Text} :
    c ∈ join sep ts ↔ ∃ t ∈ ts, c ∈ t := by
  induction ts with
  | nil => simp
  | cons t ts ih =>
      cases ts with
      | nil => simp
      | cons u us => simp [join_cons_cons, hsep, ih]

theorem not_mem_join {c : CodePoint} {sep : Text} (hsep : c ∉ sep) {ts : List Text}
    (hts : ∀ t ∈ ts, c ∉ t) : c ∉ join sep ts := fun h =>
  have ⟨t, ht, hc⟩ := (mem_join_iff hsep).1 h
  hts t ht hc

/-! ## Well-formed texts and texts in ASCII -/

theorem isScalar_iff {c : Nat} :
    isScalar c = true ↔ c < 0x110000 ∧ (c < 0xD800 ∨ 0xDFFF < c) := by
  simp only [isScalar, isSurrogate, Bool.and_eq_true, decide_eq_true_eq, Bool.not_eq_true',
    Bool.and_eq_false_iff, decide_eq_false_iff_not, Nat.not_le]

/-- The characters of a string are no surrogates. -/
theorem isWellFormed_lit (s : String) : (lit s).isWellFormed = true := by
  rw [isWellFormed, List.all_eq_true]
  intro c hc
  obtain ⟨d, -, rfl⟩ := List.mem_map.1 hc
  have hvalid : d.toNat < 0xD800 ∨ 0xDFFF < d.toNat ∧ d.toNat < 0x110000 := d.valid
  rw [isScalar_iff]
  omega

theorem isWellFormed_append {t u : Text} (ht : t.isWellFormed = true)
    (hu : u.isWellFormed = true) : (t ++ u).isWellFormed = true := by
  rw [isWellFormed] at ht hu ⊢
  rw [List.all_append, ht, hu]
  rfl

/-- Every code point is an ASCII character. -/
def IsAscii (t : Text) : Prop := ∀ c ∈ t, c < 0x80

instance (t : Text) : Decidable t.IsAscii := inferInstanceAs (Decidable (∀ c ∈ t, c < 0x80))

theorem IsAscii.append {t u : Text} (ht : t.IsAscii) (hu : u.IsAscii) : (t ++ u).IsAscii := by
  intro c hc
  rcases List.mem_append.1 hc with hc | hc
  · exact ht c hc
  · exact hu c hc

theorem isAscii_flatMap {t : Text} {f : CodePoint → Text} (h : ∀ c ∈ t, (f c).IsAscii) :
    IsAscii (t.flatMap f) := by
  intro d hd
  obtain ⟨c, hc, hd⟩ := List.mem_flatMap.1 hd
  exact h c hc d hd

end FilmQuery.Text
