import FilmQuery.Proofs.Question.Slots

/-!
# Persons in a question

A name follows the whole word `director` or `actor`, and the word `is`, a colon or an equals sign may
stand between. The word `is` is passed over only if a name follows it. Where none does, the word
itself is taken for the name, so a question in which the role is never followed by a name leaves the
slot open only if it does not have the role at all.
-/

namespace FilmQuery.Question

/-! ## Names -/

theorem inName_of_isLetter {c : CodePoint} (h : isLetter c = true) : inName c = true := by
  simp [inName, h]

/-- A name begins with a letter and has only letters, spaces, points, apostrophes and hyphens. -/
def IsName (u : Text) : Prop := u.head?.any isLetter = true ∧ ∀ c ∈ u, inName c = true

/-- The longest name is taken. -/
theorem name?_eq_some_iff {t name : Text} :
    name? t = some name ↔
      ∃ rest, t = name ++ rest ∧ IsName name ∧ rest.head?.any inName = false := by
  cases t with
  | nil =>
      refine iff_of_false (by simp [name?]) ?_
      rintro ⟨rest, hnil, ⟨hhead, -⟩, -⟩
      obtain ⟨rfl, rfl⟩ := List.append_eq_nil_iff.1 hnil.symm
      cases hhead
  | cons c t =>
      rw [name?]
      split
      · next hc =>
        rw [Option.some.injEq]
        constructor
        · rintro rfl
          obtain ⟨rest, ht, hrun, hstop⟩ := (Text.takeWhile_eq_iff (p := inName) (t := t)).1 rfl
          exact ⟨rest, congrArg _ ht,
            ⟨hc, List.forall_mem_cons.2 ⟨inName_of_isLetter hc, hrun⟩⟩, hstop⟩
        · rintro ⟨rest, hsplit, ⟨hhead, hname⟩, hstop⟩
          cases name with
          | nil => cases hhead
          | cons d name =>
              obtain ⟨rfl, rfl⟩ := List.cons.inj hsplit
              rw [List.forall_mem_cons] at hname
              exact congrArg _ (Text.takeWhile_eq_iff.2 ⟨rest, rfl, hname.2, hstop⟩)
      · next hc =>
        refine iff_of_false (by simp) ?_
        rintro ⟨rest, hsplit, ⟨hhead, -⟩, -⟩
        cases name with
        | nil => cases hhead
        | cons d name =>
            obtain ⟨rfl, -⟩ := List.cons.inj hsplit
            exact hc hhead

theorem name?_eq_none_of_head? {t : Text} (h : t.head?.any isLetter = false) : name? t = none := by
  cases t with
  | nil => rfl
  | cons c t => exact if_neg (Bool.not_eq_true _ ▸ h)

theorem exists_name?_of_head? {t : Text} (h : t.head?.any isLetter = true) :
    ∃ name, name? t = some name := by
  cases t with
  | nil => cases h
  | cons c t => exact ⟨_, if_pos h⟩

/-- A link between the role and the name is a beginning of the text. -/
theorem exists_of_afterPersonLink? {t rest : Text} (h : afterPersonLink? t = some rest) :
    ∃ link, t = link ++ rest := by
  unfold afterPersonLink? at h
  split at h
  · next r hafter =>
    obtain rfl := Option.some.inj h
    obtain ⟨link, rfl, -⟩ := Text.afterFolded?_eq_some_iff.1 (Option.filter_eq_some_iff.1 hafter).1
    exact ⟨link, rfl⟩
  · cases t with
    | nil => cases h
    | cons c r =>
        dsimp only at h
        split at h
        · obtain rfl := Option.some.inj h
          exact ⟨[c], rfl⟩
        · cases h

/-- What a clause gives is a name, and stands in the text behind the role. -/
theorem exists_of_personClause? {role : Text} {before : Option CodePoint} {t name : Text}
    (h : personClause? role before t = some name) :
    ∃ skipped rest, t = skipped ++ (name ++ rest) ∧ IsName name := by
  obtain ⟨post, hword, hname⟩ := Option.bind_eq_some_iff.1 h
  obtain ⟨-, -, word, rfl, -⟩ := wholeWord?_eq_some_iff.1 hword
  obtain ⟨gap, hgap, -⟩ := exists_skipBlanks_append post
  rcases Option.or_eq_some_iff.1 hname with hname | ⟨-, hname⟩
  · obtain ⟨behind, hlink, hname⟩ := Option.bind_eq_some_iff.1 hname
    obtain ⟨link, hlink⟩ := exists_of_afterPersonLink? hlink
    obtain ⟨space, hspace, -⟩ := exists_skipBlanks_append behind
    obtain ⟨rest, hrest, hisname, -⟩ := name?_eq_some_iff.1 hname
    refine ⟨word ++ gap ++ link ++ space, rest, ?_, hisname⟩
    conv_lhs => rw [hgap, hlink, hspace, hrest]
    simp only [List.append_assoc]
  · obtain ⟨rest, hrest, hisname, -⟩ := name?_eq_some_iff.1 hname
    refine ⟨word ++ gap, rest, ?_, hisname⟩
    conv_lhs => rw [hgap, hrest]
    simp only [List.append_assoc]

/-! ## The word `is` without a name -/

/-- The word `is` follows and no name behind it: blanks, the word in any case, and then, blanks
apart, the end of the text or something other than a letter. -/
def NamelessLink (post : Text) : Prop :=
  ∃ gap link rest, post = gap ++ (link ++ rest) ∧ (∀ b ∈ gap, isBlank b = true) ∧
    link.map fold = lit "is" ∧ wordEnds rest = true ∧ (skipBlanks rest).head?.any isLetter = false

/-- Wherever `role` stands in `t` as a whole word, the word `is` follows and no name behind it. -/
def LinksNoName (role t : Text) : Prop :=
  ∀ pre word post, t = pre ++ (word ++ post) → word.map fold = role →
    wordStarts pre.getLast? = true → wordEnds post = true → NamelessLink post

/-- The word is taken for the name. -/
theorem exists_personClause?_of_namelessLink {role : Text} {before : Option CodePoint}
    {t post : Text} (hword : wholeWord? role before t = some post) (h : NamelessLink post) :
    ∃ name, personClause? role before t = some name := by
  obtain ⟨gap, link, rest, rfl, hgap, hlink, hends, hnone⟩ := h
  obtain ⟨c, link', rfl⟩ : ∃ c link', link = c :: link' := by
    cases link with
    | nil => cases hlink
    | cons c link' => exact ⟨c, link', rfl⟩
  have hletter : isLetter c = true :=
    isLetter_of_map_fold (by decide) hlink c List.mem_cons_self
  have hskip : skipBlanks (gap ++ (c :: link' ++ rest)) = c :: link' ++ rest :=
    skipBlanks_append hgap (not_isBlank_of_isLetter hletter)
  have hafter : afterPersonLink? (c :: link' ++ rest) = some rest := by
    have hfolded : Text.afterFolded? (lit "is") (c :: link' ++ rest) = some rest :=
      Text.afterFolded?_eq_some_iff.2 ⟨_, rfl, hlink⟩
    unfold afterPersonLink?
    rw [hfolded, Option.filter_some_pos hends]
  obtain ⟨name, hname⟩ := exists_name?_of_head? (t := c :: link' ++ rest) hletter
  refine ⟨name, ?_⟩
  rw [personClause?, hword, Option.bind_some, hskip]
  dsimp only
  rw [hafter, Option.bind_some, name?_eq_none_of_head? hnone, Option.none_or, hname]

/-- A clause is found only where the role stands. -/
theorem exists_wholeWord?_of_personClause? {role : Text} {before : Option CodePoint}
    {t name : Text} (h : personClause? role before t = some name) :
    ∃ post, wholeWord? role before t = some post := by
  obtain ⟨post, hword, -⟩ := Option.bind_eq_some_iff.1 h
  exact ⟨post, hword⟩

/-- The letter at the beginning of a name is left when blanks are taken off. -/
theorem exists_filled?_of_personClause? {role : Text} {before : Option CodePoint} {t name : Text}
    (h : personClause? role before t = some name) : ∃ u, filled? name = some u := by
  obtain ⟨-, -, -, hhead, -⟩ := exists_of_personClause? h
  exact exists_filled?_of_head? (fun _ => not_isBlank_of_isLetter) hhead

/-- Where the role is never followed by a name, a person is found exactly if the role stands
there. -/
theorem person?_eq_none_iff {role t : Text} (h : LinksNoName role t) :
    person? role t = none ↔ ¬HasWord role t := by
  have hclause : ∀ pre post, t = pre ++ post →
      ((personClause? role pre.getLast? post).isSome = true ↔
        (wholeWord? role pre.getLast? post).isSome = true) := by
    intro pre post ht
    simp only [Option.isSome_iff_exists]
    constructor
    · rintro ⟨name, hname⟩
      exact exists_wholeWord?_of_personClause? hname
    · rintro ⟨rest, hrest⟩
      obtain ⟨hstarts, hends, word, rfl, hword⟩ := wholeWord?_eq_some_iff.1 hrest
      exact exists_personClause?_of_namelessLink hrest (h pre word rest ht hword hstarts hends)
  have hfound : (find? (personClause? role) t).isSome = true ↔ HasWord role t := by
    rw [isSome_find?_iff, hasWord_iff]
    exact exists_congr fun pre => exists_congr fun post =>
      and_congr_right fun ht => hclause pre post ht
  rw [← hfound, person?]
  cases hname : find? (personClause? role) t with
  | none => simp
  | some name =>
      obtain ⟨before, rest, hpre⟩ := exists_of_find? hname
      obtain ⟨u, hu⟩ := exists_filled?_of_personClause? hpre
      simp [hu]

/-! ## Blanks around the question -/

theorem NamelessLink.of_append_blanks {post w : Text} (h : NamelessLink (post ++ w))
    (hw : ∀ c ∈ w, isBlank c = true) : NamelessLink post := by
  obtain ⟨gap, link, rest, hsplit, hgap, hlink, hends, hnone⟩ := h
  have hletter : ∀ c ∈ link, isBlank c = false := fun c hc =>
    not_isBlank_of_isLetter (isLetter_of_map_fold (by decide) hlink c hc)
  have hne : link ≠ [] := by
    rintro rfl
    cases hlink
  obtain ⟨gap, rest, rfl, rfl, rfl⟩ :=
    exists_eq_append_append (u := []) hsplit (by simp) hw hne hletter
  refine ⟨_, link, rest, rfl, hgap, hlink, ?_, ?_⟩
  · rwa [wordEnds_append_blanks hw] at hends
  · cases hskip : skipBlanks rest with
    | nil => rfl
    | cons c r =>
        obtain ⟨space, rfl, hspace, hhead⟩ := Text.dropWhile_eq_iff.1 hskip
        have hbehind : skipBlanks (space ++ c :: (r ++ w)) = c :: (r ++ w) :=
          skipBlanks_append hspace hhead
        rwa [List.append_assoc, List.cons_append, hbehind] at hnone

theorem LinksNoName.trim {role question : Text} (h : LinksNoName role question) :
    LinksNoName role (Text.trim isBlank question) := by
  obtain ⟨u, w, ht, hu, hw, -⟩ := Text.trim_eq_iff.1 (rfl : Text.trim isBlank question = _)
  intro pre word post hsplit hword hstarts hends
  rw [hsplit] at ht
  refine (h (u ++ pre) word (post ++ w) (by simpa using ht) hword ?_ ?_).of_append_blanks hw
  · rwa [wordStarts_blanks_append hu]
  · rwa [wordEnds_append_blanks hw]

/-! ## The slots of a person -/

/-- The word that introduces the person of a slot. -/
def Slot.role? : Slot → Option Text
  | .director => some (lit "director")
  | .actor => some (lit "actor")
  | _ => none

section

variable {slot : Slot} {role : Text}

theorem Slot.isLowerAscii_of_role? (h : slot.role? = some role) :
    role ≠ [] ∧ ∀ c ∈ role, isLowerAscii c = true := by
  cases slot <;> cases h <;> decide

theorem Slot.proposed_eq_none_iff_of_role? (h : slot.role? = some role) (question : Text) :
    slot.proposed question = none ↔ person? role (Text.trim isBlank question) = none := by
  have hpropose : ∃ write : Text → Fact, slot.propose (Text.trim isBlank question) =
      .ok ((person? role (Text.trim isBlank question)).map write) := by
    cases slot <;> cases h <;> exact ⟨_, rfl⟩
  obtain ⟨write, hwrite⟩ := hpropose
  rw [Slot.proposed, Slot.proposal_of_propose hwrite, Option.map_eq_none_iff,
    Option.map_eq_none_iff]

/-- **A role without a name takes the word behind it.** In a question where the role is followed by
the word `is` and no name wherever it stands, an open slot stays open only if the role does not
stand there at all. -/
theorem nameless_leaves_open_iff {i j : Intent} {question : Text} (hrole : slot.role? = some role)
    (hopen : slot.isOpen i = true) (hnameless : LinksNoName role question)
    (h : enrich i question = .ok j) :
    slot.isOpen j = true ↔ ¬HasWord role question := by
  obtain ⟨hne, hletters⟩ := Slot.isLowerAscii_of_role? hrole
  rw [isOpen_of_enrich h, Slot.proposed_eq_none_iff_of_role? hrole, and_iff_right hopen,
    person?_eq_none_iff hnameless.trim, hasWord_trim_iff hne hletters]

/-- The word `director` stands in this question once, and only `is` follows it. -/
theorem linksNoName_whoIs : LinksNoName (lit "director") (lit "Who is the director is?") := by
  intro pre word post hsplit hword hstarts hends
  have hlength : word.length = 8 := by
    rw [← List.length_map fold, hword]
    rfl
  have hplaces : ∀ k < 24, (((lit "Who is the director is?").drop k).take 8).map fold =
      lit "director" → k = 11 := by
    decide
  have htake : ((lit "Who is the director is?").drop pre.length).take 8 = word := by
    rw [hsplit, List.drop_left, ← hlength, List.take_left]
  have hpre : pre.length = 11 := by
    refine hplaces pre.length ?_ (by rw [htake, hword])
    have hlengths := congrArg List.length hsplit
    rw [List.length_append] at hlengths
    change 23 = _ at hlengths
    omega
  have hpost : lit " is?" = post := by
    have hdrop : ((lit "Who is the director is?").drop pre.length).drop word.length = post := by
      rw [hsplit, List.drop_left, List.drop_left]
    rwa [hpre, hlength] at hdrop
  rw [← hpost]
  exact ⟨lit " ", lit "is", lit "?", rfl, by decide, by decide, by decide, by decide⟩

/-- The director is `is`. -/
theorem nameless_leaves_open_whoIs :
    LinksNoName (lit "director") (lit "Who is the director is?") ∧
      ∃ j, enrich {} (lit "Who is the director is?") = .ok j ∧
        ¬Slot.director.isOpen j = true ∧ j.filters.director = some (lit "is") := by
  obtain ⟨j, hj, hname⟩ : ∃ j, enrich {} (lit "Who is the director is?") = .ok j ∧
      j.filters.director = some (lit "is") := ⟨_, rfl, rfl⟩
  have hrole : Slot.director.role? = some (lit "director") := rfl
  refine ⟨linksNoName_whoIs, j, hj, ?_, hname⟩
  rw [nameless_leaves_open_iff hrole rfl linksNoName_whoIs hj, not_not]
  exact ⟨lit "Who is the ", lit "director", lit " is?", rfl, by decide, by decide, by decide⟩

/-- A question without a name for the director sets the director. -/
theorem exists_link_taken :
    ¬∀ (slot : Slot) (role : Text) (i j : Intent) (question : Text), slot.role? = some role →
      slot.isOpen i = true → LinksNoName role question → enrich i question = .ok j →
      slot.isOpen j = true := by
  intro hall
  obtain ⟨j, hj, hname⟩ : ∃ j, enrich {} (lit "Who is the director is?") = .ok j ∧
      j.filters.director = some (lit "is") := ⟨_, rfl, rfl⟩
  have hopen := hall .director (lit "director") {} j _ rfl rfl linksNoName_whoIs hj
  rw [Slot.isOpen, hname] at hopen
  exact absurd hopen (by decide)

end

end FilmQuery.Question
