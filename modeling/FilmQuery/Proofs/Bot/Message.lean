import FilmQuery.Bot.Message
import FilmQuery.Proofs.Text

/-!
# What a message says and what fits into one

A message says its text, or its caption where it has no text, and it asks a question unless what it
says is blank or a command. A reply that fits is never empty and never too long; where it leaves
something out, it stops before a line feed or fills the message. The lines that it keeps are as many
as fit, except that a line which ends just where the message is full is lost if another line ends
before it.
-/

namespace FilmQuery.Bot

/-! ## What a message asks -/

/-- A message says `t`: as its text, or as its caption where its text is missing or empty. -/
def Says (msg : Message) (t : Text) : Prop :=
  msg.text = some t ∧ t ≠ [] ∨ (msg.text = none ∨ msg.text = some []) ∧ msg.caption.getD [] = t

/-- A slash stands first, perhaps behind blanks. -/
def IsCommand (t : Text) : Prop :=
  ∃ blanks rest, t = blanks ++ '/'.toNat :: rest ∧ ∀ c ∈ blanks, isBlank c = true

/-- A message asks `t`: it says so, and this is neither blank nor a command. -/
def Asks (msg : Message) (t : Text) : Prop :=
  Says msg t ∧ (∃ c ∈ t, isBlank c = false) ∧ ¬IsCommand t

theorem says_iff {msg : Message} {t : Text} : Says msg t ↔ msg.content = t := by
  unfold Says Message.content setText?
  cases msg.text with
  | none => simp
  | some u =>
      cases u with
      | nil => simp [Option.filter]
      | cons c u =>
          simp only [Option.filter, List.isEmpty_cons, Bool.not_false, if_true, Option.some_or,
            Option.getD_some, Option.some.injEq, reduceCtorEq, false_and, or_false]
          constructor
          · rintro ⟨rfl, -⟩
            rfl
          · rintro rfl
            exact ⟨rfl, List.cons_ne_nil _ _⟩

theorem isCommand_iff {t : Text} : isCommand t = true ↔ IsCommand t := by
  have hslash : isBlank '/'.toNat = false := by decide
  unfold isCommand IsCommand
  rw [beq_iff_eq]
  constructor
  · intro h
    obtain ⟨rest, hrest⟩ := List.head?_eq_some_iff.1 h
    obtain ⟨blanks, ht, hblanks, -⟩ := Text.dropWhile_eq_iff.1 hrest
    exact ⟨blanks, rest, ht, hblanks⟩
  · rintro ⟨blanks, rest, ht, hblanks⟩
    rw [Text.dropWhile_eq_iff.2 ⟨blanks, ht, hblanks, hslash⟩]
    rfl

theorem asks_iff {msg : Message} {t : Text} :
    Asks msg t ↔ msg.isQuestion = true ∧ msg.content = t := by
  unfold Asks
  rw [says_iff, and_comm]
  refine and_congr_left ?_
  rintro rfl
  rw [Message.isQuestion, Bool.and_eq_true, Bool.not_eq_true', Bool.not_eq_true', ← isCommand_iff,
    Bool.not_eq_true, Text.isAllBlank, List.all_eq_false]
  simp only [Bool.not_eq_true]

/-! ## What fits into a message -/

/-- A reply gives as much of `t` as a message takes: all of it where that is not too long, and else
a beginning that is not empty and stops before a line feed or fills the message. -/
structure Fits (t reply : Text) : Prop where
  nonempty : 1 ≤ reply.length
  bounded : reply.length ≤ 4096
  taken : reply <+: t
  whole : t.length ≤ 4096 → reply = t
  stops : reply ≠ t → reply.length = 4096 ∨ reply ++ [10] <+: t

/-- Reading backwards, the first line feed is the last. -/
theorem beforeLastLine?_eq_some_iff {t lines : Text} :
    beforeLastLine? t = some lines ↔ ∃ rest, t = lines ++ 10 :: rest ∧ 10 ∉ rest := by
  simp only [beforeLastLine?, Option.map_eq_some_iff, Prod.exists, Text.splitAt?_eq_some_iff]
  constructor
  · rintro ⟨rest, before, ⟨ht, hrest⟩, rfl⟩
    refine ⟨rest.reverse, ?_, by simpa using hrest⟩
    simpa using congrArg List.reverse ht
  · rintro ⟨rest, rfl, hrest⟩
    exact ⟨rest.reverse, lines.reverse, ⟨by simp, by simpa using hrest⟩, List.reverse_reverse _⟩

/-- A text is cut before the last line feed that fits with something in front of it, or where the
message is full. -/
theorem cut_cases (t : Text) :
    (cut t ≠ [] ∧ ∃ rest, t.take maxLength = cut t ++ 10 :: rest ∧ 10 ∉ rest) ∨
      cut t = t.take maxLength ∧
        ∀ lines rest, t.take maxLength = lines ++ 10 :: rest → 10 ∉ rest → lines = [] := by
  unfold cut
  dsimp only
  cases hlines : beforeLastLine? (t.take maxLength) with
  | none =>
      refine Or.inr ⟨rfl, fun lines rest heq hrest => ?_⟩
      cases hlines.symm.trans (beforeLastLine?_eq_some_iff.2 ⟨rest, heq, hrest⟩)
  | some lines =>
      cases lines with
      | nil =>
          refine Or.inr ⟨rfl, fun lines rest heq hrest => ?_⟩
          have hlast := beforeLastLine?_eq_some_iff.2 ⟨rest, heq, hrest⟩
          exact Option.some.inj (hlast.symm.trans hlines)
      | cons c lines =>
          exact Or.inl ⟨List.cons_ne_nil c lines, beforeLastLine?_eq_some_iff.1 hlines⟩

theorem linefeed_prefix_of_take {t lines rest : Text}
    (h : t.take maxLength = lines ++ 10 :: rest) : lines ++ [10] <+: t := by
  refine List.IsPrefix.trans ⟨rest, ?_⟩ (List.take_prefix maxLength t)
  rw [h, List.append_assoc, List.singleton_append]

theorem fits_cut {t : Text} (h : maxLength < t.length) : Fits t (cut t) := by
  have hlength : (t.take maxLength).length = maxLength := by
    rw [List.length_take]
    omega
  rcases cut_cases t with ⟨hne, rest, htake, -⟩ | ⟨hcut, -⟩
  · have hbefore := linefeed_prefix_of_take htake
    exact {
      nonempty := List.length_pos_iff.2 hne
      bounded := by
        rw [htake, List.length_append] at hlength
        exact (Nat.le_add_right _ _).trans hlength.le
      taken := (List.prefix_append _ _).trans hbefore
      whole := fun hle => absurd hle (Nat.not_le_of_lt h)
      stops := fun _ => Or.inr hbefore }
  · rw [hcut]
    exact {
      nonempty := by rw [hlength]; decide
      bounded := hlength.le
      taken := List.take_prefix maxLength t
      whole := fun hle => absurd hle (Nat.not_le_of_lt h)
      stops := fun _ => Or.inl hlength }

/-- Of an output that is not blank, as much is sent as fits once it is trimmed. -/
theorem fits_fit {output : Text} (h : output.isAllBlank = false) :
    Fits (Text.trim isBlank output) (fit output) := by
  unfold fit
  cases htrim : Text.trim isBlank output with
  | nil =>
      rw [Text.trim_isBlank_eq_nil_iff] at htrim
      exact absurd (h.symm.trans htrim) Bool.false_ne_true
  | cons c t =>
      dsimp only
      split
      · next hle =>
        exact {
          nonempty := Nat.succ_pos _
          bounded := hle
          taken := List.prefix_rfl
          whole := fun _ => rfl
          stops := fun hne => absurd rfl hne }
      · next hlong => exact fits_cut (Nat.lt_of_not_le hlong)

theorem fit_internalError : fit Answer.internalError = Answer.internalError := by decide

/-! ## Whole lines -/

theorem fit_of_long {reply : Text} (hlong : maxLength < (Text.trim isBlank reply).length) :
    fit reply = cut (Text.trim isBlank reply) := by
  unfold fit
  split
  · next hnil =>
    rw [hnil] at hlong
    exact absurd hlong (Nat.not_lt_zero _)
  · exact if_neg (Nat.not_le_of_lt hlong)

/-- The prefix `lines` of `t` fits into a message and stands right before a line feed. -/
def IsWholeLines (t lines : Text) : Prop := lines.length ≤ 4096 ∧ lines ++ [10] <+: t

/-- No longer prefix of `t` fits into a message and stands right before a line feed. -/
def IsLongestLines (t lines : Text) : Prop :=
  IsWholeLines t lines ∧ ∀ other, IsWholeLines t other → other.length ≤ lines.length

theorem append_linefeed_prefix_iff {t lines : Text} :
    lines ++ [10] <+: t ↔ t.take lines.length = lines ∧ t[lines.length]? = some 10 := by
  constructor
  · rintro ⟨rest, rfl⟩
    simp
  · rintro ⟨htake, hget⟩
    refine ⟨t.drop (lines.length + 1), ?_⟩
    obtain ⟨hlt, hten⟩ := List.getElem?_eq_some_iff.1 hget
    conv_rhs => rw [← List.take_append_drop lines.length t, htake, List.drop_eq_getElem_cons hlt,
      hten]
    rw [List.append_assoc, List.singleton_append]

/-- Behind the last line feed that a cut sees there is none for it to see. -/
theorem getElem?_ne_of_take {t lines rest : Text} (h : t.take maxLength = lines ++ 10 :: rest)
    (hrest : 10 ∉ rest) {k : Nat} (hk : lines.length < k) (hmax : k < maxLength) :
    t[k]? ≠ some 10 := by
  intro hget
  have hseen : (t.take maxLength)[k]? = some 10 := by rw [List.getElem?_take_of_lt hmax, hget]
  rw [h, List.getElem?_append_right (Nat.le_of_lt hk)] at hseen
  obtain ⟨d, hd⟩ := Nat.exists_eq_add_of_lt hk
  have hshift : k - lines.length = d + 1 := by omega
  rw [hshift, List.getElem?_cons_succ] at hseen
  exact hrest (List.mem_of_getElem? hseen)

/-- The last line feed of a text. -/
theorem exists_last_linefeed {t : Text} (h : 10 ∈ t) :
    ∃ lines rest, t = lines ++ 10 :: rest ∧ 10 ∉ rest := by
  obtain ⟨rest, lines, hsplit, hrest⟩ := List.eq_append_cons_of_mem (List.mem_reverse.2 h)
  refine ⟨lines.reverse, rest.reverse, ?_, by simpa using hrest⟩
  simpa using congrArg List.reverse hsplit

/-- A text that fills a message when it is cut has no line feed there but at its beginning. -/
theorem getElem?_ne_of_full {t : Text} (hfull : ∀ lines rest,
    t.take maxLength = lines ++ 10 :: rest → 10 ∉ rest → lines = []) {k : Nat} (hk : 0 < k)
    (hmax : k < maxLength) : t[k]? ≠ some 10 := by
  intro hget
  have hseen : (t.take maxLength)[k]? = some 10 := by rw [List.getElem?_take_of_lt hmax, hget]
  obtain ⟨lines, rest, htake, hrest⟩ := exists_last_linefeed (List.mem_of_getElem? hseen)
  obtain rfl := hfull lines rest htake hrest
  exact getElem?_ne_of_take htake hrest hk hmax hget

/-- The lines before the last line feed that the cut sees are the longest that fit, if no line ends
where the message is full. -/
theorem isLongestLines_iff_of_take {t lines rest : Text}
    (h : t.take maxLength = lines ++ 10 :: rest) (hrest : 10 ∉ rest)
    (hlong : maxLength < t.length) : IsLongestLines t lines ↔ t[4096]? ≠ some 10 := by
  have hlength : (t.take 4096).length = 4096 := List.length_take_of_le (Nat.le_of_lt hlong)
  have hshort : lines.length < 4096 := by
    rw [show t.take 4096 = lines ++ 10 :: rest from h, List.length_append,
      List.length_cons] at hlength
    omega
  constructor
  · rintro ⟨-, hlongest⟩ hend
    have hother : IsWholeLines t (t.take 4096) := by
      refine ⟨hlength.le, append_linefeed_prefix_iff.2 ?_⟩
      rw [hlength]
      exact ⟨rfl, hend⟩
    have hle := hlongest _ hother
    rw [hlength] at hle
    exact Nat.not_le_of_lt hshort hle
  · intro hend
    refine ⟨⟨hshort.le, linefeed_prefix_of_take h⟩, fun other hother => ?_⟩
    by_contra hlonger
    have hget := (append_linefeed_prefix_iff.1 hother.2).2
    rcases Nat.lt_or_eq_of_le hother.1 with hlt | heq
    · exact getElem?_ne_of_take h hrest (Nat.lt_of_not_le hlonger) hlt hget
    · exact hend (heq ▸ hget)

/-- A full message in front of a line feed cannot be longer. -/
theorem isLongestLines_take {t : Text} (hget : t[4096]? = some 10) :
    IsLongestLines t (t.take 4096) := by
  obtain ⟨hlong, -⟩ := List.getElem?_eq_some_iff.1 hget
  have hlength : (t.take 4096).length = 4096 := List.length_take_of_le hlong.le
  refine ⟨⟨hlength.le, append_linefeed_prefix_iff.2 ?_⟩, fun other hother => ?_⟩
  · rw [hlength]
    exact ⟨rfl, hget⟩
  · rw [hlength]
    exact hother.1

/-- The cut of a text that is too long gives the longest whole lines exactly if no line ends where
the message is full, or none ends before. -/
theorem isLongestLines_cut_iff {t : Text} (hlong : maxLength < t.length)
    (hline : ∃ k, 1 ≤ k ∧ k ≤ 4096 ∧ t[k]? = some 10) :
    IsLongestLines t (cut t) ↔
      t[4096]? ≠ some 10 ∨ ∀ k, 1 ≤ k → k < 4096 → t[k]? ≠ some 10 := by
  rcases cut_cases t with ⟨hne, rest, htake, hrest⟩ | ⟨hcut, hfull⟩
  · have hget := (append_linefeed_prefix_iff.1 (linefeed_prefix_of_take htake)).2
    have hshort : (cut t).length < 4096 := by
      have hlength : (t.take 4096).length ≤ 4096 := List.length_take_le 4096 t
      rw [show t.take 4096 = cut t ++ 10 :: rest from htake, List.length_append,
        List.length_cons] at hlength
      omega
    have hearlier : ¬∀ k, 1 ≤ k → k < 4096 → t[k]? ≠ some 10 := fun hnone =>
      hnone _ (List.length_pos_iff.2 hne) hshort hget
    rw [or_iff_left hearlier]
    exact isLongestLines_iff_of_take htake hrest hlong
  · -- no line feed stands inside, so the one there is stands behind a full message
    have hnone : ∀ k, 1 ≤ k → k < 4096 → t[k]? ≠ some 10 := fun k hk hmax =>
      getElem?_ne_of_full hfull hk hmax
    obtain ⟨k, hk, hmax, hget⟩ := hline
    obtain rfl : k = 4096 := by
      by_contra hne
      exact hnone k hk (by omega) hget
    refine iff_of_true ?_ (Or.inr hnone)
    rw [hcut]
    exact isLongestLines_take hget

/-- **A long reply is cut to its longest whole lines, unless a line that just fits is lost.** Of a
reply that is too long once it is trimmed, with a line feed at one of the places 1 to 4096, the
longest whole lines that fit are sent exactly if there is no line feed at place 4096, or none at a
place from 1 to 4095. -/
theorem fit_longestLines_iff {reply : Text} (hlong : 4096 < (Text.trim isBlank reply).length)
    (hline : ∃ k, 1 ≤ k ∧ k ≤ 4096 ∧ (Text.trim isBlank reply)[k]? = some 10) :
    IsLongestLines (Text.trim isBlank reply) (fit reply) ↔
      (Text.trim isBlank reply)[4096]? ≠ some 10 ∨
        ∀ k, 1 ≤ k → k < 4096 → (Text.trim isBlank reply)[k]? ≠ some 10 := by
  rw [fit_of_long hlong]
  exact isLongestLines_cut_iff hlong hline

/-- A line of one character, a line of `n` characters, and a third line. -/
def threeLines (n : Nat) : Text := lit "a\n" ++ (List.replicate n 'b'.toNat ++ lit "\nc")

theorem trim_threeLines (n : Nat) : Text.trim isBlank (threeLines n) = threeLines n := by
  have hends := Text.trim_eq_self (p := isBlank) (a := 'a'.toNat) (b := 'c'.toNat) (by decide)
    (by decide) (10 :: (List.replicate n 'b'.toNat ++ [10]))
  simpa [threeLines, lit] using hends

theorem length_threeLines (n : Nat) : (threeLines n).length = n + 4 := by
  simp [threeLines, lit]

theorem threeLines_first (n : Nat) : (threeLines n)[1]? = some 10 := rfl

theorem threeLines_second (n : Nat) : (threeLines n)[n + 2]? = some 10 := by
  simp [threeLines, lit]

theorem threeLines_inner {n k : Nat} (hk : k < n) :
    (threeLines n)[k + 2]? = some 'b'.toNat := by
  simp [threeLines, lit, List.getElem?_append, hk]

/-- A second line that is one character too long is left out. -/
theorem fit_longestLines_threeLines :
    (4096 < (Text.trim isBlank (threeLines 4095)).length ∧
        (Text.trim isBlank (threeLines 4095))[1]? = some 10) ∧
      IsLongestLines (Text.trim isBlank (threeLines 4095)) (fit (threeLines 4095)) := by
  have hlong : 4096 < (Text.trim isBlank (threeLines 4095)).length := by
    rw [trim_threeLines, length_threeLines]
    decide
  have hline : (Text.trim isBlank (threeLines 4095))[1]? = some 10 := by
    rw [trim_threeLines, threeLines_first]
  refine ⟨⟨hlong, hline⟩, ?_⟩
  refine (fit_longestLines_iff hlong ⟨1, by decide, by decide, hline⟩).2 (Or.inl ?_)
  rw [trim_threeLines, threeLines_inner (n := 4095) (k := 4094) (by decide)]
  decide

/-- A second line that fills the message to the last character is left out as well. -/
theorem exists_full_line_lost :
    ¬∀ reply : Text, 4096 < (Text.trim isBlank reply).length →
      (∃ k, 1 ≤ k ∧ k ≤ 4096 ∧ (Text.trim isBlank reply)[k]? = some 10) →
      IsLongestLines (Text.trim isBlank reply) (fit reply) := by
  intro hall
  have hlong : 4096 < (threeLines 4094).length := by
    rw [length_threeLines]
    decide
  have hline : ∃ k, 1 ≤ k ∧ k ≤ 4096 ∧ (threeLines 4094)[k]? = some 10 :=
    ⟨1, by decide, by decide, threeLines_first _⟩
  have hlongest := hall (threeLines 4094)
  rw [trim_threeLines, fit_of_long (by rwa [trim_threeLines]), trim_threeLines] at hlongest
  rcases (isLongestLines_cut_iff hlong hline).1 (hlongest hlong hline) with hend | hnone
  · exact hend (threeLines_second 4094)
  · exact hnone 1 (by decide) (by decide) (threeLines_first _)

end FilmQuery.Bot
