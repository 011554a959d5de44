import FilmQuery.Proofs.Question.Title

/-!
# Apostrophes that are taken for quotes

In a question without double quotes where every apostrophe stands inside a word nothing is quoted,
and still a title may be read from it. The word `title` directly in front of an apostrophe takes
what follows up to the next one. Failing that, the parts between apostrophes are paired off from
left to right, and if exactly one of them has a fitting length and the question speaks of a title or
a movie, that part is the title. In all other questions of this kind no title is found.
-/

namespace FilmQuery.Question

/-! ## Apostrophes inside words -/

/-- Every apostrophe stands directly between two characters of the class `p`. -/
def ApostrophesWithin (p : CodePoint → Bool) (t : Text) : Prop :=
  ∀ k < t.length, t[k]? = some 0x27 →
    0 < k ∧ t[k - 1]?.any p = true ∧ t[k + 1]?.any p = true

instance (p : CodePoint → Bool) (t : Text) : Decidable (ApostrophesWithin p t) :=
  inferInstanceAs (Decidable (∀ k < t.length, _ → _))

theorem ApostrophesWithin.split {p : CodePoint → Bool} {a b : Text}
    (h : ApostrophesWithin p (a ++ 0x27 :: b)) :
    a.getLast?.any p = true ∧ b.head?.any p = true := by
  obtain ⟨hpos, hbefore, hbehind⟩ := h a.length (by simp) (by simp)
  rw [List.getElem?_append_left (by omega), ← List.getLast?_eq_getElem?] at hbefore
  rw [List.getElem?_append_right (by omega)] at hbehind
  refine ⟨hbefore, ?_⟩
  simpa [List.head?_eq_getElem?] using hbehind

/-- Nothing is quoted in `t`: there is no double quote, and what stands on either side of an
apostrophe is a word character. -/
structure QuotesNothing (t : Text) : Prop where
  noDouble : '"'.toNat ∉ t
  within : ∀ a b, t = a ++ 0x27 :: b → a.getLast?.any isWord = true ∧ b.head?.any isWord = true

/-- Blanks at the ends do not matter, since no apostrophe stands beside one. -/
theorem quotesNothing_trim {t : Text} (hdouble : '"'.toNat ∉ t)
    (hwithin : ApostrophesWithin isWord t) : QuotesNothing (Text.trim isBlank t) := by
  obtain ⟨u, w, ht, hu, hw, -⟩ := Text.trim_eq_iff.1 (rfl : Text.trim isBlank t = _)
  refine ⟨fun hmem => hdouble ((mem_trim_isBlank_iff (by decide)).1 hmem), ?_⟩
  intro a b hsplit
  have hparts : t = (u ++ a) ++ 0x27 :: (b ++ w) := by
    rw [ht, hsplit]
    simp
  obtain ⟨hbefore, hbehind⟩ := ApostrophesWithin.split (hparts ▸ hwithin)
  have hword : ∀ c, isWord c = true → isBlank c = false := fun _ => not_isBlank_of_isWord
  rw [getLast?_blanks_append hword hu] at hbefore
  rw [head?_append_blanks hword hw] at hbehind
  exact ⟨hbefore, hbehind⟩

/-! ## Parts between apostrophes -/

/-- The parts that are taken for quoted texts, out of those behind the apostrophes of a text: a part
of 2 to 200 characters with an apostrophe on either side. The apostrophes of a part that is taken
are used up; that behind a part that is not may still stand in front of another one. -/
def paired : List Text → List Text
  | s :: next :: rest =>
    if 2 ≤ s.length ∧ s.length ≤ 200 then s :: paired rest else paired (next :: rest)
  | _ => []

theorem mem_of_mem_paired {parts : List Text} {s : Text} (h : s ∈ paired parts) : s ∈ parts := by
  fun_induction paired parts with
  | case1 first next rest _ ih =>
      rcases List.mem_cons.1 h with rfl | h
      · exact List.mem_cons_self
      · exact List.mem_cons_of_mem _ (List.mem_cons_of_mem _ (ih h))
  | case2 first next rest _ ih => exact List.mem_cons_of_mem _ (ih h)
  | case3 => cases h

/-- Without double quotes, quoted texts are found part by part: from outside of quotes in the parts
behind the first apostrophe, and from inside in all of them, the first with what was read of it. -/
theorem quotedTexts_eq_paired {t : Text} (hdouble : '"'.toNat ∉ t) :
    quotedTexts none t = paired (Text.splitOn 0x27 t).tail ∧
      ∀ run : Text, quotedTexts (some run) t =
        paired ((Text.splitOn 0x27 t).modifyHead (run.reverse ++ ·)) := by
  induction t with
  | nil => exact ⟨rfl, fun run => rfl⟩
  | cons c t ih =>
      rw [List.mem_cons, not_or] at hdouble
      obtain ⟨houtside, hinside⟩ := ih hdouble.2
      obtain ⟨s, parts, -, hsplit, -⟩ := Text.exists_splitOn_eq_cons 0x27 t
      rw [hsplit] at houtside hinside
      by_cases hc : c = 0x27
      · subst hc
        have hquote : isQuote 0x27 = true := by decide
        constructor
        · rw [quotedTexts, if_pos hquote, hinside []]
          simp [Text.splitOn, hsplit]
        · intro run
          rw [quotedTexts, if_pos hquote, houtside, hinside []]
          simp [Text.splitOn, hsplit, paired]
      · have hquote : ¬isQuote c = true := by
          rw [isQuote_iff, not_or]
          exact ⟨Ne.symm hdouble.1, hc⟩
        constructor
        · rw [quotedTexts, if_neg hquote]
          simp [Text.splitOn, hc, hsplit, houtside]
        · intro run
          rw [quotedTexts, if_neg hquote, Option.map_some, hinside]
          simp [Text.splitOn, hc, hsplit]

/-- A part behind an apostrophe begins with a word character. -/
theorem QuotesNothing.head?_of_mem {t s : Text} (h : QuotesNothing t)
    (hs : s ∈ (Text.splitOn 0x27 t).tail) : s.head?.any isWord = true := by
  obtain ⟨pre, rest, rfl, hrest⟩ := Text.exists_of_mem_tail_splitOn hs
  have hword := (h.within pre (s ++ rest) rfl).2
  cases s with
  | cons c s => exact hword
  | nil =>
      rw [List.nil_append] at hword
      obtain ⟨d, hd, hword⟩ := (Option.any_eq_true _ _).1 hword
      rw [hrest d hd] at hword
      exact absurd hword (by decide)

/-! ## The word in front of an apostrophe -/

/-- The word `title`, perhaps with `is` behind it, stands directly in front of an apostrophe, and
another apostrophe follows. -/
def TitleBeforeApostrophe (t : Text) : Prop :=
  ∃ pre word link post, t = pre ++ (word ++ (link ++ 0x27 :: post)) ∧
    word.map fold = lit "title" ∧
    (link = [] ∨ ∃ gap is, link = gap ++ is ∧ (∀ c ∈ gap, isBlank c = true) ∧
      is.map fold = lit "is") ∧
    0x27 ∈ post

/-- No blank stands directly in front of an apostrophe. -/
theorem QuotesNothing.eq_nil_of_blanks {t a gap b : Text} (h : QuotesNothing t)
    (ht : t = a ++ (gap ++ 0x27 :: b)) (hgap : ∀ c ∈ gap, isBlank c = true) : gap = [] := by
  cases hlast : gap.getLast? with
  | none => exact List.getLast?_eq_none_iff.1 hlast
  | some c =>
      have hword := (h.within (a ++ gap) b (by rw [ht, List.append_assoc])).1
      rw [List.getLast?_append, hlast, Option.some_or] at hword
      have hblank := hgap c (List.mem_of_getLast? hlast)
      exact absurd (hblank.symm.trans (not_isBlank_of_isWord hword)) (by decide)

theorem QuotesNothing.isQuote_iff {t : Text} (h : QuotesNothing t) {c : CodePoint} (hc : c ∈ t) :
    isQuote c = true ↔ c = 0x27 := by
  rw [Question.isQuote_iff, or_iff_right]
  rintro rfl
  exact h.noDouble hc

/-- The title that such a word takes begins with a word character. -/
theorem QuotesNothing.titleBeforeApostrophe {pre post run : Text}
    (h : QuotesNothing (pre ++ post)) (hnames : NamesTitle post run) :
    TitleBeforeApostrophe (pre ++ post) ∧ run.head?.any isWord = true := by
  obtain ⟨word, gap, link, space, quoted, rfl, hword, hgap, hlink, hspace, hquoted⟩ := hnames
  obtain ⟨opening, closing, rest, rfl, hopening, hclosing, hne, -⟩ := hquoted
  obtain rfl : opening = 0x27 := (h.isQuote_iff (by simp)).1 hopening
  obtain rfl : closing = 0x27 := (h.isQuote_iff (by simp)).1 hclosing
  obtain rfl : space = [] :=
    h.eq_nil_of_blanks (a := pre ++ word ++ gap ++ link) (b := run ++ 0x27 :: rest) (by simp) hspace
  constructor
  · refine ⟨pre, word, gap ++ link, run ++ 0x27 :: rest, by simp, hword, ?_, by simp⟩
    have hlast := (h.within (pre ++ word ++ gap ++ link) (run ++ 0x27 :: rest) (by simp)).1
    rcases hlink with rfl | hlink | rfl | rfl
    · obtain rfl : gap = [] :=
        h.eq_nil_of_blanks (a := pre ++ word) (b := run ++ 0x27 :: rest) (by simp) hgap
      exact Or.inl rfl
    · exact Or.inr ⟨gap, link, rfl, hgap, hlink⟩
    -- no word ends in a colon or an equals sign
    · rw [List.getLast?_append, show (lit ":").getLast? = some ':'.toNat from rfl] at hlast
      exact absurd (show isWord ':'.toNat = true from hlast) (by decide)
    · rw [List.getLast?_append, show (lit "=").getLast? = some '='.toNat from rfl] at hlast
      exact absurd (show isWord '='.toNat = true from hlast) (by decide)
  · have hhead := (h.within (pre ++ word ++ gap ++ link) (run ++ 0x27 :: rest) (by simp)).2
    cases run with
    | nil => exact absurd rfl hne
    | cons c run => exact hhead

theorem QuotesNothing.exists_namesTitle {t : Text} (h : QuotesNothing t)
    (htitle : TitleBeforeApostrophe t) :
    ∃ pre post run, t = pre ++ post ∧ NamesTitle post run := by
  obtain ⟨pre, word, link, post, rfl, hword, hlink, hpost⟩ := htitle
  obtain ⟨run, rest, rfl, hrun⟩ := List.eq_append_cons_of_mem hpost
  have hne : run ≠ [] := by
    rintro rfl
    have hhead := (h.within (pre ++ (word ++ link)) ([] ++ 0x27 :: rest) (by simp)).2
    exact absurd (show isWord 0x27 = true from hhead) (by decide)
  have hclean : ∀ c ∈ run, isQuote c = false := by
    intro c hc
    by_contra hquote
    have hapostrophe := (h.isQuote_iff (c := c) (by simp [hc])).1 (by simpa using hquote)
    exact hrun (hapostrophe ▸ hc)
  have hquoted : IsQuoted (0x27 :: (run ++ 0x27 :: rest)) run :=
    ⟨0x27, 0x27, rest, rfl, by decide, by decide, hne, hclean⟩
  refine ⟨pre, _, run, rfl, ?_⟩
  rcases hlink with rfl | ⟨gap, is, rfl, hgap, his⟩
  · exact ⟨word, [], [], [], _, rfl, hword, by simp, Or.inl rfl, by simp, hquoted⟩
  · exact ⟨word, gap, is, [], _, by simp, hword, hgap, Or.inr (Or.inl his), by simp, hquoted⟩

/-! ## What apostrophes are taken for -/

theorem mentionsTitle_iff {t : Text} :
    mentionsTitle t = true ↔ HasWord (lit "title") t ∨ HasWord (lit "movie") t := by
  rw [mentionsTitle, isSome_find?_iff, hasWord_iff, hasWord_iff]
  simp only [Option.isSome_or, Bool.or_eq_true, and_or_left, exists_or]

/-- A title is read from the apostrophes of a text: behind the word `title`, or else between the
only two that are paired off in a text that speaks of a title or a movie. -/
def TakesApostrophes (t : Text) : Prop :=
  TitleBeforeApostrophe t ∨
    (HasWord (lit "title") t ∨ HasWord (lit "movie") t) ∧
      (paired (Text.splitOn 0x27 t).tail).length = 1

theorem QuotesNothing.title?_eq_none_iff {t : Text} (h : QuotesNothing t) :
    title? t = none ↔ ¬TakesApostrophes t := by
  unfold title?
  split
  · next run hclause =>
    obtain ⟨pre, post, rfl, hnames, -⟩ := find?_titleClause?_eq_some_iff.1 hclause
    obtain ⟨htitle, hhead⟩ := h.titleBeforeApostrophe hnames
    obtain ⟨u, hu⟩ := exists_filled?_of_head? (fun _ => not_isBlank_of_isWord) hhead
    rw [hu]
    exact iff_of_false (by simp) (not_not_intro (Or.inl htitle))
  · next hclause =>
    have htitle : ¬TitleBeforeApostrophe t := by
      intro htitle
      obtain ⟨pre, post, run, ht, hnames⟩ := h.exists_namesTitle htitle
      exact find?_titleClause?_eq_none_iff.1 hclause pre post ht run hnames
    rw [TakesApostrophes, or_iff_right htitle, ← mentionsTitle_iff,
      (quotedTexts_eq_paired h.noDouble).1]
    split
    · next run hpaired =>
      have hhead := h.head?_of_mem (mem_of_mem_paired (hpaired ▸ List.mem_singleton_self run))
      obtain ⟨u, hu⟩ := exists_filled?_of_head? (fun _ => not_isBlank_of_isWord) hhead
      simp [hpaired, hu]
    · next hpaired =>
      refine iff_of_true rfl fun htaken => ?_
      obtain ⟨run, hrun⟩ := List.length_eq_one_iff.1 htaken.2
      exact hpaired run hrun

/-- Completing an intent leaves its open exact title open if there is a title already, or the
question names none. -/
theorem isOpen_titleExact_of_enrich {i j : Intent} {question : Text}
    (h : enrich i question = .ok j) (hexact : isOpen i.filters.titleExact = true) :
    isOpen j.filters.titleExact = true ↔
      isOpen i.filters.title = false ∨ title? (Text.trim isBlank question) = none := by
  rw [titleExact_of_enrich h]
  cases htitle : isOpen i.filters.title with
  | false =>
      have hslot : Slot.title.isOpen i = false := by simp [Slot.isOpen, htitle]
      simp [hslot, hexact]
  | true =>
      have hslot : Slot.title.isOpen i = true := by simp [Slot.isOpen, htitle, hexact]
      cases hfound : title? (Text.trim isBlank question) with
      | none => simp [hexact]
      | some u => simp [hslot, isOpen, title?_ne_nil hfound]

/-- **Apostrophes are taken for quotes in these questions and in no others.** Where nothing is
quoted, the question is used and an open exact title stays open exactly if there is a title already,
or the word `title` does not stand in front of two apostrophes and not exactly one part is paired
off in a question that speaks of a title or a movie. -/
theorem unquoted_leaves_title_iff {i : Intent} {question : Text}
    (hexact : isOpen i.filters.titleExact = true) (hdouble : '"'.toNat ∉ question)
    (hwithin : ApostrophesWithin isWord question) :
    (∃ j, enrich i question = .ok j ∧ isOpen j.filters.titleExact = true) ↔
      RowsFit i question ∧
        (isOpen i.filters.title = false ∨ ¬TakesApostrophes (Text.trim isBlank question)) := by
  rw [rowsFit_iff, ← exists_eq_ok_iff,
    ← (quotesNothing_trim hdouble hwithin).title?_eq_none_iff]
  constructor
  · rintro ⟨j, hj, hopen⟩
    exact ⟨⟨j, hj⟩, (isOpen_titleExact_of_enrich hj hexact).1 hopen⟩
  · rintro ⟨⟨j, hj⟩, hnone⟩
    exact ⟨j, hj, (isOpen_titleExact_of_enrich hj hexact).2 hnone⟩

/-- The word `title` in front of an apostrophe takes what follows. -/
theorem unquoted_leaves_title_pacino :
    ('"'.toNat ∉ lit "Which title's Pacino's best?" ∧
        ApostrophesWithin isWord (lit "Which title's Pacino's best?")) ∧
      ¬∃ j, enrich {} (lit "Which title's Pacino's best?") = .ok j ∧
        isOpen j.filters.titleExact = true := by
  have hdouble : '"'.toNat ∉ lit "Which title's Pacino's best?" := by decide
  have hwithin : ApostrophesWithin isWord (lit "Which title's Pacino's best?") := by decide +kernel
  have htrim : Text.trim isBlank (lit "Which title's Pacino's best?") =
      lit "Which title's Pacino's best?" := by decide
  refine ⟨⟨hdouble, hwithin⟩, fun hleft => ?_⟩
  obtain ⟨-, htitle | htaken⟩ := (unquoted_leaves_title_iff rfl hdouble hwithin).1 hleft
  · cases htitle
  · rw [htrim] at htaken
    exact htaken (Or.inl ⟨lit "Which ", lit "title", [], lit "s Pacino's best?", rfl, by decide,
      Or.inl rfl, by decide⟩)

/-- Two contractions and the word `movie` make a title, though nothing is quoted. -/
theorem exists_apostrophes_taken :
    ¬∀ (i j : Intent) (question : Text), isOpen i.filters.titleExact = true →
      '"'.toNat ∉ question → ApostrophesWithin isLetter question → enrich i question = .ok j →
      isOpen j.filters.titleExact = true := by
  intro hall
  have htaken : enrich {} (lit "It's a movie I can't find") =
      .ok { filters := { titleExact := some (lit "s a movie I can") }
            fields := Intent.defaultFields } := rfl
  have hopen := hall {} _ (lit "It's a movie I can't find") rfl (by decide) (by decide) htaken
  exact absurd hopen (by decide)

end FilmQuery.Question
