import FilmQuery.Proofs.Question.Limits

/-!
# Titles named outright

The word `title` and a text in quotes name a title, and the first such clause of a question is used.
Either quote closes what the other one opened, so a title that holds an apostrophe is cut there: it
is taken whole exactly if it holds none.
-/

namespace FilmQuery.Question

/-! ## Texts in quotes -/

theorem isQuote_iff {c : CodePoint} : isQuote c = true ↔ c = '"'.toNat ∨ c = 0x27 := by
  simp [isQuote]

theorem forall_not_isQuote_iff {t : Text} :
    (∀ c ∈ t, isQuote c = false) ↔ '"'.toNat ∉ t ∧ 0x27 ∉ t := by
  constructor
  · intro h
    exact ⟨fun hmem => absurd (h _ hmem) (by decide), fun hmem => absurd (h _ hmem) (by decide)⟩
  · rintro ⟨hdouble, hsingle⟩ c hc
    by_contra hquote
    rcases isQuote_iff.1 (by simpa using hquote) with rfl | rfl
    · exact hdouble hc
    · exact hsingle hc

theorem not_isBlank_of_isQuote {c : CodePoint} (h : isQuote c = true) : isBlank c = false := by
  rcases isQuote_iff.1 h with rfl | rfl <;> decide

/-- A text in quotes stands at the beginning of `t`, and is `run`. -/
def IsQuoted (t run : Text) : Prop :=
  ∃ opening closing rest, t = opening :: (run ++ closing :: rest) ∧
    isQuote opening = true ∧ isQuote closing = true ∧ run ≠ [] ∧ ∀ c ∈ run, isQuote c = false

theorem IsQuoted.not_isQuote {t run : Text} (h : IsQuoted t run) :
    ∀ c ∈ run, isQuote c = false := by
  obtain ⟨opening, closing, rest, -, -, -, -, hclean⟩ := h
  exact hclean

theorem quotedRun?_eq_some_iff {t run : Text} : quotedRun? t = some run ↔ IsQuoted t run := by
  constructor
  · intro h
    cases t with
    | nil => cases h
    | cons opening t =>
        rw [quotedRun?] at h
        split at h
        · next hopening =>
          split at h
          · cases h
          · cases h
          · next u closing rest hne hspan =>
            obtain rfl := Option.some.inj h
            obtain ⟨rfl, hrun, hstop⟩ := Text.span_eq_iff.1 hspan
            exact ⟨opening, closing, rest, rfl, hopening, by simpa using hstop,
              fun hnil => hne hnil, by simpa using hrun⟩
        · cases h
  · rintro ⟨opening, closing, rest, rfl, hopening, hclosing, hne, hrun⟩
    have hspan : (run ++ closing :: rest).span (fun c => !isQuote c) = (run, closing :: rest) :=
      Text.span_eq_iff.2 ⟨rfl, by simpa using hrun, by simp [hclosing]⟩
    rw [quotedRun?, if_pos hopening, hspan]
    split
    · next heq => exact absurd (congrArg Prod.fst heq) hne
    · next heq => cases congrArg Prod.snd heq
    · next heq =>
      obtain ⟨rfl, -⟩ := Prod.mk.inj heq
      rfl

/-! ## The clause that names a title -/

/-- What may stand between the word `title` and the quoted text, blanks apart. -/
def IsTitleLink (link : Text) : Prop :=
  link = [] ∨ link.map fold = lit "is" ∨ link = lit ":" ∨ link = lit "="

/-- A title stands at the beginning of `t`: the word `title` in any case, perhaps a link, and `run`
in quotes. -/
def NamesTitle (t run : Text) : Prop :=
  ∃ word gap link space quoted, t = word ++ (gap ++ (link ++ (space ++ quoted))) ∧
    word.map fold = lit "title" ∧ (∀ c ∈ gap, isBlank c = true) ∧ IsTitleLink link ∧
    (∀ c ∈ space, isBlank c = true) ∧ IsQuoted quoted run

theorem isTitleLink_of_mem {link : Text} (h : link ∈ [[], lit "is", lit ":", lit "="]) :
    IsTitleLink link := by
  simp only [List.mem_cons, List.not_mem_nil, or_false] at h
  rcases h with rfl | rfl | rfl | rfl
  · exact Or.inl rfl
  · exact Or.inr (Or.inl (by decide))
  · exact Or.inr (Or.inr (Or.inl rfl))
  · exact Or.inr (Or.inr (Or.inr rfl))

/-- Skipping a link takes a link off, if only the empty one. -/
theorem skipTitleLink_eq (t : Text) : ∃ link, t = link ++ skipTitleLink t ∧ IsTitleLink link := by
  unfold skipTitleLink
  split
  · next rest hafter =>
    obtain ⟨link, rfl, hlink⟩ := Text.afterFolded?_eq_some_iff.1 hafter
    exact ⟨link, rfl, Or.inr (Or.inl hlink)⟩
  · split
    · next c rest =>
      split
      · next hc =>
        rcases hc with rfl | rfl
        · exact ⟨lit ":", rfl, Or.inr (Or.inr (Or.inl rfl))⟩
        · exact ⟨lit "=", rfl, Or.inr (Or.inr (Or.inr rfl))⟩
      · exact ⟨[], rfl, Or.inl rfl⟩
    · exact ⟨[], rfl, Or.inl rfl⟩

theorem skipTitleLink_of_isQuote {c : CodePoint} (hc : isQuote c = true) (t : Text) :
    skipTitleLink (c :: t) = c :: t := by
  rcases isQuote_iff.1 hc with rfl | rfl <;> rfl

theorem skipTitleLink_append {link : Text} (hlink : IsTitleLink link) (hne : link ≠ [])
    (t : Text) : skipTitleLink (link ++ t) = t := by
  rcases hlink with rfl | hlink | rfl | rfl
  · exact absurd rfl hne
  · have hafter : Text.afterFolded? (lit "is") (link ++ t) = some t :=
      Text.afterFolded?_eq_some_iff.2 ⟨link, rfl, hlink⟩
    unfold skipTitleLink
    simp only [hafter]
  · rfl
  · rfl

/-- No link begins with a blank. -/
theorem IsTitleLink.head? {link : Text} (hlink : IsTitleLink link) :
    link.head?.any isBlank = false := by
  rcases hlink with rfl | hlink | rfl | rfl
  · rfl
  · cases link with
    | nil => rfl
    | cons c link =>
        exact not_isBlank_of_isLetter
          (isLetter_of_map_fold (by decide) hlink c List.mem_cons_self)
  · rfl
  · rfl

/-- Blanks, a link and blanks again are passed over up to a quote. -/
theorem skip_to_quote {gap link space : Text} {c : CodePoint}
    (hgap : ∀ c ∈ gap, isBlank c = true) (hlink : IsTitleLink link)
    (hspace : ∀ c ∈ space, isBlank c = true) (hc : isQuote c = true) (t : Text) :
    skipBlanks (skipTitleLink (skipBlanks (gap ++ (link ++ (space ++ c :: t))))) = c :: t := by
  have hquote : (c :: t).head?.any isBlank = false := not_isBlank_of_isQuote hc
  cases hne : link with
  | nil =>
      have hblanks : ∀ b ∈ gap ++ space, isBlank b = true := by
        simpa [or_imp, forall_and] using ⟨hgap, hspace⟩
      rw [List.nil_append, ← List.append_assoc, skipBlanks_append hblanks hquote,
        skipTitleLink_of_isQuote hc]
      exact skipBlanks_append (t := c :: t) (by simp : ∀ b ∈ [], isBlank b = true) hquote
  | cons d link' =>
      rw [← hne]
      have hhead : (link ++ (space ++ c :: t)).head?.any isBlank = false := by
        have := hlink.head?
        rw [hne] at this ⊢
        exact this
      rw [skipBlanks_append hgap hhead, skipTitleLink_append hlink (by simp [hne]),
        skipBlanks_append hspace hquote]

theorem titleClause?_eq_some_iff {before : Option CodePoint} {t run : Text} :
    titleClause? before t = some run ↔ NamesTitle t run := by
  simp only [titleClause?, Option.bind_eq_some_iff, Text.afterFolded?_eq_some_iff]
  constructor
  · rintro ⟨rest, ⟨word, rfl, hword⟩, hrun⟩
    obtain ⟨gap, hgap, hblanks⟩ := exists_skipBlanks_append rest
    obtain ⟨link, hlink, hislink⟩ := skipTitleLink_eq (skipBlanks rest)
    obtain ⟨space, hspace, hspaces⟩ :=
      exists_skipBlanks_append (skipTitleLink (skipBlanks rest))
    refine ⟨word, gap, link, space, _, ?_, hword, hblanks, hislink, hspaces,
      quotedRun?_eq_some_iff.1 hrun⟩
    rw [← hspace, ← hlink]
    exact congrArg _ hgap
  · rintro ⟨word, gap, link, space, quoted, rfl, hword, hgap, hlink, hspace, hquoted⟩
    refine ⟨_, ⟨word, rfl, hword⟩, ?_⟩
    obtain ⟨opening, closing, rest, rfl, hopening, hbehind⟩ := hquoted
    rw [skip_to_quote hgap hlink hspace hopening]
    exact quotedRun?_eq_some_iff.2 ⟨opening, closing, rest, rfl, hopening, hbehind⟩

/-! ## What is taken for a title -/

theorem find?_titleClause?_eq_some_iff {t run : Text} :
    find? titleClause? t = some run ↔
      ∃ pre post, t = pre ++ post ∧ NamesTitle post run ∧
        ∀ pre' post', t = pre' ++ post' → pre'.length < pre.length →
          ∀ run', ¬NamesTitle post' run' := by
  simp only [find?_eq_some_iff, titleClause?_eq_some_iff, Option.eq_none_iff_forall_not_mem,
    Option.mem_def]

theorem find?_titleClause?_eq_none_iff {t : Text} :
    find? titleClause? t = none ↔
      ∀ pre post, t = pre ++ post → ∀ run, ¬NamesTitle post run := by
  rw [find?, search_eq_none_iff]
  simp only [Option.eq_none_iff_forall_not_mem, Option.mem_def, titleClause?_eq_some_iff]

/-- No text that is taken from between quotes holds one. -/
theorem not_isQuote_of_mem_quotedTexts {t : Text} {run : Option Text}
    (hrun : ∀ u ∈ run, ∀ c ∈ u, isQuote c = false) :
    ∀ u ∈ quotedTexts run t, ∀ c ∈ u, isQuote c = false := by
  induction t generalizing run with
  | nil => simp [quotedTexts]
  | cons d t ih =>
      unfold quotedTexts
      split
      · split
        · next u =>
          split
          · rw [List.forall_mem_cons]
            exact ⟨by simpa using hrun u rfl, ih (by simp)⟩
          · exact ih (by simp)
        · exact ih (by simp)
      · next hd =>
        apply ih
        cases run with
        | none => simp
        | some u => simpa [hd] using hrun u rfl

/-- No title that a question names holds a quote. -/
theorem not_isQuote_of_title? {t u : Text} (h : title? t = some u) :
    ∀ c ∈ u, isQuote c = false := by
  have hfilled : ∀ run, filled? run = some u → (∀ c ∈ run, isQuote c = false) →
      ∀ c ∈ u, isQuote c = false := by
    intro run hu hrun c hc
    obtain ⟨rfl, -⟩ := filled?_eq_some_iff.1 hu
    by_contra hquote
    have hquote : isQuote c = true := by simpa using hquote
    rw [mem_trim_isBlank_iff (not_isBlank_of_isQuote hquote)] at hc
    exact Bool.false_ne_true ((hrun c hc).symm.trans hquote)
  unfold title? at h
  split at h
  · next run hclause =>
    obtain ⟨pre, post, -, hnames, -⟩ := find?_titleClause?_eq_some_iff.1 hclause
    obtain ⟨word, gap, link, space, quoted, -, -, -, -, -, hquoted⟩ := hnames
    exact hfilled run h hquoted.not_isQuote
  · split at h
    · next run hquoted =>
      split at h
      · have hmem : run ∈ quotedTexts none t := hquoted ▸ List.mem_singleton_self run
        exact hfilled run h (not_isQuote_of_mem_quotedTexts (by simp) run hmem)
      · cases h
    · cases h

theorem Slot.proposed_title (question : Text) :
    Slot.title.proposed question = (title? (Text.trim isBlank question)).map some := by
  have hpropose : Slot.title.propose (Text.trim isBlank question) =
      .ok ((title? (Text.trim isBlank question)).map .titleExact) := rfl
  rw [proposed, proposal_of_propose hpropose, Option.map_map]
  rfl

/-- Completing an intent sets the exact title that the question names if no title is set, and
leaves it as it is in every other case. -/
theorem titleExact_of_enrich {i j : Intent} {question : Text} (h : enrich i question = .ok j) :
    j.filters.titleExact =
      if Slot.title.isOpen i = true then
        (title? (Text.trim isBlank question)).or i.filters.titleExact
      else i.filters.titleExact := by
  have hget := get_of_enrich h .title
  rw [Slot.proposed_title] at hget
  change j.filters.titleExact = _ at hget
  rw [hget]
  cases title? (Text.trim isBlank question) <;> rfl

/-! ## A title in double quotes -/

/-- A question that names a title outright, in double quotes. -/
def outright (pre link title post : Text) : Text :=
  pre ++ (lit "title " ++ (link ++ (lit " \"" ++ (title ++ (lit "\"" ++ post)))))

theorem not_namesTitle_before {pre word rest pre' post' run : Text}
    (hpre : ¬lit "title" <:+: pre.map fold) (hword : word.map fold = lit "title")
    (h : pre ++ (word ++ rest) = pre' ++ post') (hlt : pre'.length < pre.length) :
    ¬NamesTitle post' run := by
  rintro ⟨word', gap, link, space, quoted, rfl, hword', -⟩
  have htitle : Unbordered (lit "title") := by decide
  exact absurd (htitle.length_le_of_eq hpre hword hword' h) (Nat.not_le.2 hlt)

theorem trim_outright (pre link title post : Text) :
    Text.trim isBlank (outright pre link title post) =
      outright (pre.dropWhile isBlank) link title (Text.trimEnd isBlank post) := by
  have h := Text.trim_surrounded (p := isBlank) (a := 't'.toNat) (b := '"'.toNat) (by decide)
    (by decide) pre (lit "itle " ++ (link ++ (lit " \"" ++ title))) post
  have hleft : ∀ u w : Text, outright u link title w =
      u ++ ('t'.toNat :: (lit "itle " ++ (link ++ (lit " \"" ++ title)) ++ ['"'.toNat])) ++ w := by
    intro u w
    simp [outright, lit]
  rw [hleft, hleft, h]

/-- The first part of a title up to a quote is what stands between quotes. -/
theorem namesTitle_outright {link title post : Text} (hlink : IsTitleLink link)
    (hne : title.takeWhile (fun c => !isQuote c) ≠ []) :
    NamesTitle (outright [] link title post) (title.takeWhile fun c => !isQuote c) := by
  obtain ⟨closing, rest, hsplit, hclosing⟩ : ∃ closing rest,
      title ++ (lit "\"" ++ post) =
        title.takeWhile (fun c => !isQuote c) ++ closing :: rest ∧ isQuote closing = true := by
    obtain ⟨run, hrun, -, hstop⟩ :=
      (Text.dropWhile_eq_iff (p := fun c => !isQuote c) (t := title)).1 rfl
    have htake : title = title.takeWhile (fun c => !isQuote c) ++
        title.dropWhile fun c => !isQuote c := List.takeWhile_append_dropWhile.symm
    cases hdrop : title.dropWhile fun c => !isQuote c with
    | nil =>
        rw [hdrop, List.append_nil] at htake
        exact ⟨_, post, congrArg (· ++ _) htake, by decide⟩
    | cons c rest =>
        rw [hdrop] at htake hstop
        refine ⟨c, rest ++ (lit "\"" ++ post), ?_, by simpa using hstop⟩
        conv_lhs => rw [htake]
        simp
  have hquoted : IsQuoted (lit "\"" ++ (title ++ (lit "\"" ++ post)))
      (title.takeWhile fun c => !isQuote c) :=
    ⟨'"'.toNat, closing, rest, congrArg _ hsplit, by decide, hclosing, hne, fun c hc => by
      simpa using List.mem_takeWhile_imp hc⟩
  exact ⟨lit "title", lit " ", link, lit " ", _, by simp [outright, lit], by decide, by decide,
    hlink, by decide, hquoted⟩

/-- The first title that a question names outright is taken up to the first quote in it. -/
theorem find?_titleClause?_outright {pre link title post : Text}
    (hpre : ¬lit "title" <:+: pre.map fold) (hlink : IsTitleLink link)
    (hne : title.takeWhile (fun c => !isQuote c) ≠ []) :
    find? titleClause? (outright pre link title post) =
      some (title.takeWhile fun c => !isQuote c) := by
  rw [find?_titleClause?_eq_some_iff]
  refine ⟨pre, outright [] link title post, rfl, namesTitle_outright hlink hne, ?_⟩
  intro pre' post' h hlt run'
  have hparts : pre ++ (lit "title" ++ (lit " " ++ (link ++ (lit " \"" ++
      (title ++ (lit "\"" ++ post)))))) = pre' ++ post' := h
  exact not_namesTitle_before hpre (by decide) hparts hlt

theorem trim_isBlank_ne_nil {t : Text} (h : t.isAllBlank = false) : Text.trim isBlank t ≠ [] := by
  rw [ne_eq, Text.trim_isBlank_eq_nil_iff, h]
  exact Bool.false_ne_true

theorem title?_outright {pre link title post : Text} (hpre : ¬lit "title" <:+: pre.map fold)
    (hlink : IsTitleLink link) (hclean : ∀ c ∈ title, isQuote c = false)
    (hblank : title.isAllBlank = false) :
    title? (Text.trim isBlank (outright pre link title post)) =
      some (Text.trim isBlank title) := by
  have hpre' : ¬lit "title" <:+: (pre.dropWhile isBlank).map fold := fun h =>
    hpre (h.trans ((List.dropWhile_suffix isBlank).map fold).isInfix)
  have hwhole : title.takeWhile (fun c => !isQuote c) = title :=
    List.takeWhile_eq_self_iff.2 (by simpa using hclean)
  have htrim := trim_isBlank_ne_nil hblank
  have hne : title.takeWhile (fun c => !isQuote c) ≠ [] := by
    rw [hwhole]
    rintro rfl
    exact htrim rfl
  rw [title?, trim_outright, find?_titleClause?_outright hpre' hlink hne, hwhole]
  exact filled?_eq_some_iff.2 ⟨rfl, htrim⟩

/-- **A quoted title is taken whole exactly if it holds no apostrophe.** An intent without a title
takes the title that a question names outright in double quotes, without blanks at its ends, if that
title holds no apostrophe and the question can be used at all. -/
theorem quotedTitle_taken_iff {i : Intent} {pre link title post : Text}
    (htitle : isOpen i.filters.title = true) (hexact : isOpen i.filters.titleExact = true)
    (hpre : ¬lit "title" <:+: pre.map fold) (hlink : link ∈ [[], lit "is", lit ":", lit "="])
    (hquote : '"'.toNat ∉ title) (hblank : title.isAllBlank = false) :
    (∃ j, enrich i (outright pre link title post) = .ok j ∧
        j.filters.titleExact = some (Text.trim isBlank title)) ↔
      0x27 ∉ title ∧ RowsFit i (outright pre link title post) := by
  have hopen : Slot.title.isOpen i = true := Bool.and_eq_true_iff.2 ⟨htitle, hexact⟩
  rw [rowsFit_iff, ← exists_eq_ok_iff]
  constructor
  · rintro ⟨j, hj, htaken⟩
    refine ⟨fun hmem => ?_, j, hj⟩
    have hset := titleExact_of_enrich hj
    rw [if_pos hopen, htaken] at hset
    cases hfound : title? (Text.trim isBlank (outright pre link title post)) with
    | none =>
        rw [hfound, Option.none_or] at hset
        rw [← hset] at hexact
        exact trim_isBlank_ne_nil hblank (List.isEmpty_iff.1 hexact)
    | some u =>
        rw [hfound, Option.some_or, Option.some.injEq] at hset
        have hkept : 0x27 ∈ u := hset ▸ (mem_trim_isBlank_iff (by decide)).2 hmem
        exact Bool.false_ne_true ((not_isQuote_of_title? hfound _ hkept).symm.trans (by decide))
  · rintro ⟨hmem, j, hj⟩
    have hset := titleExact_of_enrich hj
    rw [if_pos hopen, title?_outright hpre (isTitleLink_of_mem hlink)
      (forall_not_isQuote_iff.2 ⟨hquote, hmem⟩) hblank] at hset
    exact ⟨j, hj, hset⟩

/-- With a link in the question and blanks in the quotes. -/
theorem quotedTitle_taken_heat :
    (¬lit "title" <:+: (lit "Find one, ").map fold ∧
        lit "is" ∈ [[], lit "is", lit ":", lit "="] ∧ '"'.toNat ∉ lit " Heat " ∧
        Text.isAllBlank (lit " Heat ") = false) ∧
      ∃ j, enrich { topN := some 3 }
          (outright (lit "Find one, ") (lit "is") (lit " Heat ") (lit ", not 'Ronin'")) = .ok j ∧
        j.filters.titleExact = some (lit "Heat") := by
  have hpre : ¬lit "title" <:+: (lit "Find one, ").map fold := by
    intro h
    have hletter : 't'.toNat ∈ (lit "Find one, ").map fold := h.subset (by decide)
    exact absurd hletter (by decide)
  have hlink : lit "is" ∈ [[], lit "is", lit ":", lit "="] := by decide
  have hquote : '"'.toNat ∉ lit " Heat " := by decide
  have hblank : Text.isAllBlank (lit " Heat ") = false := by decide
  have htrim : Text.trim isBlank (lit " Heat ") = lit "Heat" := by decide
  refine ⟨⟨hpre, hlink, hquote, hblank⟩, ?_⟩
  rw [← htrim]
  exact (quotedTitle_taken_iff rfl rfl hpre hlink hquote hblank).2
    ⟨by decide, Or.inl (by simp)⟩

/-- A title with an apostrophe is cut there. -/
theorem exists_title_cut :
    ¬∀ (i j : Intent) (pre link title post : Text), isOpen i.filters.title = true →
      isOpen i.filters.titleExact = true → ¬lit "title" <:+: pre.map fold →
      link ∈ [[], lit "is", lit ":", lit "="] → '"'.toNat ∉ title → title.isAllBlank = false →
      enrich i (outright pre link title post) = .ok j →
      j.filters.titleExact = some (Text.trim isBlank title) := by
  intro hall
  have hcut : enrich {} (outright [] (lit "is") (lit "Schindler's List") []) =
      .ok { filters := { titleExact := some (lit "Schindler") }
            fields := Intent.defaultFields } := rfl
  have hwhole := hall {} _ [] (lit "is") (lit "Schindler's List") [] rfl rfl (by simp [lit])
    (by decide) (by decide) (by decide) hcut
  exact absurd hwhole (by decide)

end FilmQuery.Question
