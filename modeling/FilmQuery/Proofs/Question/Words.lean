import FilmQuery.Proofs.Text
import FilmQuery.Question.Numbers
import Mathlib.Data.List.Basic
import Mathlib.Tactic.SplitIfs

/-!
# Words, blanks and digits in a question

Where the recognisers find what they look for, said without them: a whole word stands between two
places where no word character is, blanks run on to something that is none, and the digits of a
number run on to the end of a word.
-/

namespace FilmQuery.Question

variable {before : Option CodePoint} {t : Text}

/-! ## Searches of a whole text -/

theorem find?_eq_some_iff {α : Type} {p : Recognizer α} {a : α} :
    find? p t = some a ↔
      ∃ pre post, t = pre ++ post ∧ p pre.getLast? post = some a ∧
        ∀ pre' post', t = pre' ++ post' → pre'.length < pre.length →
          p pre'.getLast? post' = none := by
  simp only [find?, search_eq_some_iff, Option.or_none]

theorem exists_of_find? {α : Type} {p : Recognizer α} {a : α} (h : find? p t = some a) :
    ∃ before rest, p before rest = some a := by
  obtain ⟨pre, post, -, hp, -⟩ := find?_eq_some_iff.1 h
  exact ⟨_, post, hp⟩

/-- A search finds something exactly if its recogniser does so somewhere. -/
theorem isSome_find?_iff {α : Type} {p : Recognizer α} :
    (find? p t).isSome = true ↔
      ∃ pre post, t = pre ++ post ∧ (p pre.getLast? post).isSome = true := by
  rw [← not_iff_not, Bool.not_eq_true, Option.isSome_eq_false_iff, Option.isNone_iff_eq_none, find?,
    search_eq_none_iff]
  simp only [Option.or_none, not_exists, not_and, Bool.not_eq_true, Option.isSome_eq_false_iff,
    Option.isNone_iff_eq_none]

/-! ## Words and blanks -/

theorem skipBlanks_append {gap t : Text} (hgap : ∀ c ∈ gap, isBlank c = true)
    (ht : t.head?.any isBlank = false) : skipBlanks (gap ++ t) = t :=
  Text.dropWhile_eq_iff.2 ⟨gap, rfl, hgap, ht⟩

/-- What is skipped is blank. -/
theorem exists_skipBlanks_append (t : Text) :
    ∃ gap, t = gap ++ skipBlanks t ∧ ∀ b ∈ gap, isBlank b = true := by
  obtain ⟨gap, ht, hgap, -⟩ := Text.dropWhile_eq_iff.1 (rfl : skipBlanks t = _)
  exact ⟨gap, ht, hgap⟩

theorem filled?_eq_some_iff {t u : Text} :
    filled? t = some u ↔ Text.trim isBlank t = u ∧ u ≠ [] := by
  unfold filled?
  split
  · next hnil =>
    rw [hnil]
    constructor
    · intro h
      cases h
    · rintro ⟨rfl, hne⟩
      exact absurd rfl hne
  · next hne =>
    rw [Option.some.injEq]
    exact ⟨fun h => ⟨h, h ▸ hne⟩, fun h => h.1⟩

theorem filled?_ne_nil {u : Text} (h : filled? t = some u) : u ≠ [] :=
  (filled?_eq_some_iff.1 h).2

/-- Trimming takes off blanks only. -/
theorem mem_trim_isBlank_iff {t : Text} {c : CodePoint} (hc : isBlank c = false) :
    c ∈ Text.trim isBlank t ↔ c ∈ t := by
  obtain ⟨u, w, ht, hu, hw, -⟩ := Text.trim_eq_iff.1 (rfl : Text.trim isBlank t = _)
  have hout : ∀ v : Text, (∀ b ∈ v, isBlank b = true) → c ∉ v := by
    intro v hv hmem
    exact Bool.false_ne_true (hc.symm.trans (hv c hmem))
  conv_rhs => rw [ht]
  simp [hout u hu, hout w hw]

/-- Something is left of a text that is more than blanks. -/
theorem exists_filled? {c : CodePoint} (hmem : c ∈ t) (hc : isBlank c = false) :
    ∃ u, filled? t = some u :=
  ⟨_, filled?_eq_some_iff.2 ⟨rfl, List.ne_nil_of_mem ((mem_trim_isBlank_iff hc).2 hmem)⟩⟩

/-- What begins with a character of a class without blanks is more than blanks. -/
theorem exists_filled?_of_head? {p : CodePoint → Bool} (hp : ∀ c, p c = true → isBlank c = false)
    (h : t.head?.any p = true) : ∃ u, filled? t = some u := by
  obtain ⟨c, hc, hin⟩ := (Option.any_eq_true _ _).1 h
  exact exists_filled? (List.mem_of_head? hc) (hp c hin)

theorem wholeWord?_eq_some_iff {word rest : Text} :
    wholeWord? word before t = some rest ↔
      wordStarts before = true ∧ wordEnds rest = true ∧ ∃ u, t = u ++ rest ∧ u.map fold = word := by
  rw [← Text.afterFolded?_eq_some_iff]
  unfold wholeWord?
  split
  · next hstart =>
    simp only [Option.bind_eq_some_iff, hstart, true_and]
    constructor
    · rintro ⟨r, hafter, hends⟩
      split at hends
      · next hr =>
        obtain rfl := Option.some.inj hends
        exact ⟨hr, hafter⟩
      · cases hends
    · rintro ⟨hr, hafter⟩
      exact ⟨rest, hafter, if_pos hr⟩
  · next hstart => simp [hstart]

/-- A word stands in `t` as a whole, in any case. -/
def HasWord (word t : Text) : Prop :=
  ∃ pre u post, t = pre ++ (u ++ post) ∧ u.map fold = word ∧ wordStarts pre.getLast? = true ∧
    wordEnds post = true

theorem hasWord_iff {word : Text} :
    HasWord word t ↔
      ∃ pre post, t = pre ++ post ∧ (wholeWord? word pre.getLast? post).isSome = true := by
  simp only [Option.isSome_iff_exists, wholeWord?_eq_some_iff]
  constructor
  · rintro ⟨pre, u, post, rfl, hu, hstarts, hends⟩
    exact ⟨pre, u ++ post, rfl, post, hstarts, hends, u, rfl, hu⟩
  · rintro ⟨pre, post, rfl, rest, hstarts, hends, u, rfl, hu⟩
    exact ⟨pre, u, rest, rfl, hu, hstarts, hends⟩

theorem blanks?_eq_some_iff {rest : Text} :
    blanks? t = some rest ↔
      ∃ s, t = s ++ rest ∧ s ≠ [] ∧ (∀ c ∈ s, isBlank c = true) ∧
        rest.head?.any isBlank = false := by
  cases t with
  | nil => simp [blanks?]
  | cons c t =>
      rw [blanks?]
      split
      · next hc =>
        simp only [skipBlanks, Option.some.injEq, Text.dropWhile_eq_iff]
        constructor
        · rintro ⟨s, rfl, hs, hrest⟩
          exact ⟨c :: s, rfl, List.cons_ne_nil c s, by simpa [hc] using hs, hrest⟩
        · rintro ⟨_ | ⟨d, s⟩, heq, hne, hs, hrest⟩
          · exact absurd rfl hne
          · obtain ⟨rfl, rfl⟩ := List.cons.inj heq
            exact ⟨s, rfl, fun b hb => hs b (List.mem_cons_of_mem _ hb), hrest⟩
      · next hc =>
        refine iff_of_false (by simp) ?_
        rintro ⟨_ | ⟨d, s⟩, heq, hne, hs, -⟩
        · exact hne rfl
        · obtain ⟨rfl, -⟩ := List.cons.inj heq
          exact hc (hs _ List.mem_cons_self)

theorem isBlank_iff {c : Nat} :
    isBlank c = true ↔ 9 ≤ c ∧ c ≤ 13 ∨ 0x1C ≤ c ∧ c ≤ 0x20 ∨ c = 0x85 ∨ c = 0xA0 ∨ c = 0x1680 ∨
      0x2000 ≤ c ∧ c ≤ 0x200A ∨ c = 0x2028 ∨ c = 0x2029 ∨ c = 0x202F ∨ c = 0x205F ∨
      c = 0x3000 := by
  have hwhite : isBlank c = true ↔ (9 ≤ c ∧ c ≤ 13 ∨ c = 0x20 ∨ c = 0x85 ∨ c = 0xA0 ∨
      c = 0x1680 ∨ 0x2000 ≤ c ∧ c ≤ 0x200A ∨ c = 0x2028 ∨ c = 0x2029 ∨ c = 0x202F ∨
      c = 0x205F ∨ c = 0x3000) ∨ 0x1C ≤ c ∧ c ≤ 0x1F := by
    simp only [isBlank, isWhite, Bool.or_eq_true, Bool.and_eq_true, decide_eq_true_eq, beq_iff_eq,
      or_assoc]
  rw [hwhite]
  omega

/-- The letters, those among them that fold to a plain one. -/
theorem isLetter_cases {c : Nat} (h : isLetter c = true) :
    0x41 ≤ c ∧ c ≤ 0x5A ∨ 0x61 ≤ c ∧ c ≤ 0x7A ∨ c = 0x130 ∨ c = 0x131 ∨ c = 0x17F ∨
      c = 0x212A := by
  unfold isLetter fold at h
  split_ifs at h with hupper hi hs hk
  · have hrange : 65 ≤ c ∧ c ≤ 90 := by simpa [isUpperAscii] using hupper
    exact Or.inl hrange
  · rcases hi with rfl | rfl <;> decide
  · subst hs
    decide
  · subst hk
    decide
  · have hrange : 97 ≤ c ∧ c ≤ 122 := by simpa [isLowerAscii] using h
    exact Or.inr (Or.inl hrange)

theorem not_isBlank_of_isLetter {c : Nat} (h : isLetter c = true) : isBlank c = false := by
  have hletter := isLetter_cases h
  have hblank : ¬isBlank c = true := by
    rw [isBlank_iff]
    omega
  simpa using hblank

/-- A word that is written in any case has only letters. -/
theorem isLetter_of_map_fold {word u : Text} (hword : ∀ c ∈ word, isLowerAscii c = true)
    (hu : u.map fold = word) : ∀ c ∈ u, isLetter c = true := by
  subst hu
  intro c hc
  exact hword (fold c) (List.mem_map_of_mem hc)

theorem not_isBlank_of_isWord {c : Nat} (h : isWord c = true) : isBlank c = false := by
  have hpoints : ∀ c ∈ List.range 0x21 ++ List.range' 0x2000 11 ++
      [0x85, 0xA0, 0x1680, 0x2028, 0x2029, 0x202F, 0x205F, 0x3000], isWord c = false := by
    decide +kernel
  by_contra hblank
  have hcases := isBlank_iff.1 (by simpa using hblank)
  have hmem : c ∈ List.range 0x21 ++ List.range' 0x2000 11 ++
      [0x85, 0xA0, 0x1680, 0x2028, 0x2029, 0x202F, 0x205F, 0x3000] := by
    simp only [List.mem_append, List.mem_range, List.mem_range'_1, List.mem_cons, List.not_mem_nil]
    omega
  exact Bool.false_ne_true ((hpoints c hmem).symm.trans h)

/-! ## Blanks around a text

A class without blanks does not see blanks that are put around a text, so a word stands in a text
exactly where it stands in the text without blanks at its ends.
-/

section

variable {p : CodePoint → Bool} {u w : Text}

theorem head?_append_blanks (hp : ∀ c, p c = true → isBlank c = false)
    (hw : ∀ c ∈ w, isBlank c = true) (t : Text) : (t ++ w).head?.any p = t.head?.any p := by
  cases t with
  | cons c t => rfl
  | nil =>
      cases w with
      | nil => rfl
      | cons c w =>
          have hc : ¬p c = true := fun h =>
            Bool.false_ne_true ((hp c h).symm.trans (hw c List.mem_cons_self))
          simpa using hc

theorem getLast?_blanks_append (hp : ∀ c, p c = true → isBlank c = false)
    (hu : ∀ c ∈ u, isBlank c = true) (t : Text) : (u ++ t).getLast?.any p = t.getLast?.any p := by
  have hreverse := head?_append_blanks hp (w := u.reverse) (by simpa using hu) t.reverse
  rwa [← List.reverse_append, List.head?_reverse, List.head?_reverse] at hreverse

theorem wordEnds_append_blanks (hw : ∀ c ∈ w, isBlank c = true) (t : Text) :
    wordEnds (t ++ w) = wordEnds t :=
  congrArg not (head?_append_blanks (fun _ => not_isBlank_of_isWord) hw t)

theorem wordStarts_blanks_append (hu : ∀ c ∈ u, isBlank c = true) (t : Text) :
    wordStarts (u ++ t).getLast? = wordStarts t.getLast? :=
  congrArg not (getLast?_blanks_append (fun _ => not_isBlank_of_isWord) hu t)

/-- A part without blanks stands behind the blanks at the beginning. -/
theorem exists_eq_blanks_append {t pre x post : Text} (h : u ++ t = pre ++ (x ++ post))
    (hu : ∀ c ∈ u, isBlank c = true) (hne : x ≠ []) (hx : ∀ c ∈ x, isBlank c = false) :
    ∃ pre', pre = u ++ pre' ∧ t = pre' ++ (x ++ post) := by
  rcases List.append_eq_append_iff.1 h with ⟨pre', rfl, ht⟩ | ⟨u', rfl, hrest⟩
  · exact ⟨pre', rfl, ht⟩
  · cases u' with
    | nil => exact ⟨[], by simp, hrest.symm⟩
    | cons c u' =>
        obtain ⟨d, x, rfl⟩ := List.exists_cons_of_ne_nil hne
        obtain ⟨rfl, -⟩ := List.cons.inj hrest
        exact absurd ((hx d List.mem_cons_self).symm.trans (hu d (by simp))) Bool.false_ne_true

/-- A part without blanks stands between the blanks at the two ends. -/
theorem exists_eq_append_append {m pre x post : Text} (h : u ++ (m ++ w) = pre ++ (x ++ post))
    (hu : ∀ c ∈ u, isBlank c = true) (hw : ∀ c ∈ w, isBlank c = true) (hne : x ≠ [])
    (hx : ∀ c ∈ x, isBlank c = false) :
    ∃ pre' post', pre = u ++ pre' ∧ post = post' ++ w ∧ m = pre' ++ (x ++ post') := by
  obtain ⟨pre', rfl, hm⟩ := exists_eq_blanks_append h hu hne hx
  have hreverse : w.reverse ++ m.reverse = post.reverse ++ (x.reverse ++ pre'.reverse) := by
    simpa using congrArg List.reverse hm
  obtain ⟨post', hpost, hm'⟩ := exists_eq_blanks_append hreverse (by simpa using hw)
    (by simpa using hne) (by simpa using hx)
  refine ⟨pre', post'.reverse, rfl, ?_, ?_⟩
  · simpa using congrArg List.reverse hpost
  · simpa using congrArg List.reverse hm'

theorem hasWord_trim_iff {word t : Text} (hne : word ≠ [])
    (hletters : ∀ c ∈ word, isLowerAscii c = true) :
    HasWord word (Text.trim isBlank t) ↔ HasWord word t := by
  obtain ⟨u, w, ht, hu, hw, -⟩ := Text.trim_eq_iff.1 (rfl : Text.trim isBlank t = _)
  generalize Text.trim isBlank t = m at ht
  subst ht
  constructor
  · rintro ⟨pre, x, post, rfl, hx, hstarts, hends⟩
    refine ⟨u ++ pre, x, post ++ w, by simp, hx, ?_, ?_⟩
    · rwa [wordStarts_blanks_append hu]
    · rwa [wordEnds_append_blanks hw]
  · rintro ⟨pre, x, post, hsplit, rfl, hstarts, hends⟩
    have hblank : ∀ c ∈ x, isBlank c = false := fun c hc =>
      not_isBlank_of_isLetter (isLetter_of_map_fold hletters rfl c hc)
    have hx : x ≠ [] := by simpa using hne
    obtain ⟨pre', post', rfl, rfl, rfl⟩ := exists_eq_append_append hsplit hu hw hx hblank
    rw [wordStarts_blanks_append hu] at hstarts
    rw [wordEnds_append_blanks hw] at hends
    exact ⟨pre', x, post', rfl, rfl, hstarts, hends⟩

end

/-! ## Words that do not overlap themselves -/

/-- No end of `w` but the whole is also a beginning of it, so no two places of `w` overlap. -/
def Unbordered (w : Text) : Prop := ∀ k < w.length, 0 < k → ¬w.drop k <+: w

instance (w : Text) : Decidable (Unbordered w) :=
  inferInstanceAs (Decidable (∀ k < w.length, _ → _))

/-- Of two places of such a word the first ends before the second begins. -/
theorem Unbordered.infix_of_eq {w p r x y : Text} (hw : Unbordered w)
    (h : p ++ (w ++ r) = x ++ (w ++ y)) (hlt : x.length < p.length) : w <:+: p := by
  obtain ⟨z, rfl⟩ : x <+: p :=
    List.prefix_of_prefix_length_le ⟨_, rfl⟩ ⟨_, h⟩ (Nat.le_of_lt hlt)
  rw [List.append_assoc, List.append_cancel_left_eq] at h
  rcases Nat.lt_or_ge z.length w.length with hz | hz
  · -- the end of `w` behind `z` is a beginning of `w`
    obtain ⟨w', hw'⟩ : z <+: w :=
      List.prefix_of_prefix_length_le ⟨_, h⟩ ⟨_, rfl⟩ (Nat.le_of_lt hz)
    have hpos : 0 < z.length := by simpa using hlt
    have hdrop : w.drop z.length = w' := by rw [← hw', List.drop_left]
    have hrest : w ++ r = w' ++ y := by
      rw [← List.append_cancel_left_eq z, h, ← List.append_assoc, hw']
    refine absurd ?_ (hw z.length hz hpos)
    rw [hdrop]
    refine List.prefix_of_prefix_length_le ⟨y, rfl⟩ ⟨r, hrest⟩ ?_
    rw [← hdrop, List.length_drop]
    exact Nat.sub_le _ _
  · obtain ⟨z', rfl⟩ : w <+: z := List.prefix_of_prefix_length_le ⟨_, h.symm⟩ ⟨_, rfl⟩ hz
    exact ⟨x, z', List.append_assoc x w z'⟩

/-- No place of such a word in any case comes before the first one. -/
theorem Unbordered.length_le_of_eq {w pre u rest pre' u' rest' : Text} (hw : Unbordered w)
    (hpre : ¬w <:+: pre.map fold) (hu : u.map fold = w) (hu' : u'.map fold = w)
    (h : pre ++ (u ++ rest) = pre' ++ (u' ++ rest')) : pre.length ≤ pre'.length := by
  by_contra hlt
  have hfold := congrArg (List.map fold) h
  simp only [List.map_append, hu, hu'] at hfold
  exact hpre (hw.infix_of_eq hfold (by simpa using hlt))

/-! ## Digits -/

theorem isWord_of_isAsciiDigit {c : Nat} (h : isAsciiDigit c = true) : isWord c = true := by
  have hrange : 48 ≤ c ∧ c ≤ 57 := by simpa [isAsciiDigit] using h
  have hascii : c < 0x80 := by omega
  simp [isWord, hascii, h]

theorem not_isBlank_of_isAsciiDigit {c : Nat} (h : isAsciiDigit c = true) :
    isBlank c = false :=
  not_isBlank_of_isWord (isWord_of_isAsciiDigit h)

theorem isDigit_of_isAsciiDigit {c : Nat} (h : isAsciiDigit c = true) : isDigit c = true := by
  have hrange : 48 ≤ c ∧ c ≤ 57 := by simpa [isAsciiDigit] using h
  have hascii : c < 0x80 := by omega
  simp [isDigit, digitValue?, hascii, h]

/-- The digits of every script are word characters. -/
theorem isWord_of_isDigit {c : Nat} (h : isDigit c = true) : isWord c = true := by
  unfold isDigit digitValue? at h
  split_ifs at h with hascii hdigit
  · exact isWord_of_isAsciiDigit hdigit
  · cases h
  · rw [Option.isSome_map] at h
    obtain ⟨z, hz⟩ := Option.isSome_iff_exists.1 h
    have hblock : z ≤ c ∧ c ≤ z + 9 := by simpa using List.find?_some hz
    -- a block begins and ends in one range, which is looked for once for each block
    have hblocks : digitZeros.all (fun z => Nat.ble (z + 9) 0x7F ||
        wordRanges.any fun r => Nat.ble r.1 z && Nat.ble (z + 9) r.2) = true := by
      decide +kernel
    have hbeyond : ¬z + 9 ≤ 0x7F := Nat.not_le.2 ((Nat.le_of_not_lt hascii).trans hblock.2)
    obtain ⟨r, hr, hlow, hhigh⟩ : ∃ r ∈ wordRanges, r.1 ≤ z ∧ z + 9 ≤ r.2 := by
      have hrange := List.all_eq_true.1 hblocks z (List.mem_of_find?_eq_some hz)
      simpa [Nat.ble_eq, hbeyond] using hrange
    rw [isWord, if_neg hascii, inRanges, List.any_eq_true]
    exact ⟨r, hr, by simpa using ⟨hlow.trans hblock.1, hblock.2.trans hhigh⟩⟩

theorem not_isBlank_of_isDigit {c : Nat} (h : isDigit c = true) : isBlank c = false :=
  not_isBlank_of_isWord (isWord_of_isDigit h)

/-- Where a word ends, nothing follows that is a word character. -/
theorem not_head?_of_wordEnds {p : CodePoint → Bool} (hp : ∀ c, p c = true → isWord c = true)
    {rest : Text} (h : wordEnds rest = true) : rest.head?.any p = false := by
  cases rest with
  | nil => rfl
  | cons c rest =>
      by_contra hc
      have hword : isWord c = true := hp c (by simpa using hc)
      simp [wordEnds, hword] at h

theorem wordDigits?_eq_some_iff {ds : Text} :
    wordDigits? t = some ds ↔
      ∃ rest, t = ds ++ rest ∧ ds ≠ [] ∧ (∀ c ∈ ds, isAsciiDigit c = true) ∧
        wordEnds rest = true := by
  constructor
  · intro h
    unfold wordDigits? at h
    split at h
    · cases h
    · next run rest hne hspan =>
      obtain ⟨rfl, hrun, -⟩ := Text.span_eq_iff.1 hspan
      split at h
      · next hends =>
        obtain rfl := Option.some.inj h
        exact ⟨rest, rfl, hne, hrun, hends⟩
      · cases h
  · rintro ⟨rest, rfl, hne, hdigits, hends⟩
    -- a digit behind the run would be a word character
    have hstop : rest.head?.any isAsciiDigit = false :=
      not_head?_of_wordEnds (fun _ => isWord_of_isAsciiDigit) hends
    have hspan : (ds ++ rest).span isAsciiDigit = (ds, rest) :=
      Text.span_eq_iff.2 ⟨rfl, hdigits, hstop⟩
    unfold wordDigits?
    rw [hspan]
    split
    · next heq => exact absurd (congrArg Prod.fst heq) hne
    · next heq =>
      obtain ⟨rfl, rfl⟩ := Prod.mk.inj heq
      exact if_pos hends

end FilmQuery.Question
