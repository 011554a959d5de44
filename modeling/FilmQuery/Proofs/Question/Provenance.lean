import FilmQuery.Proofs.Question.Limits
import FilmQuery.Proofs.Question.Person
import FilmQuery.Proofs.Question.Rating
import FilmQuery.Proofs.Question.Title

/-!
# Where the values come from

Whatever a question fills into an intent stands in that question, apart from the fields that are
shown when none are asked for. Texts are excerpts of the question and numbers are the values of
numerals in it. A title stands between quotes, and an id, a year, a rating and a number of rows stand
behind the words that announce them.
-/

namespace FilmQuery.Question

/-! ## Excerpts -/

/-- `u` is an excerpt of `t`: a part of it that is not empty and has no blank at its ends. -/
structure IsExcerpt (t u : Text) : Prop where
  isInfix : u <:+: t
  ne_nil : u ≠ []
  head? : u.head?.any isBlank = false
  getLast? : u.getLast?.any isBlank = false

theorem IsExcerpt.mono {t t' u : Text} (h : IsExcerpt t u) (ht : t <:+: t') : IsExcerpt t' u :=
  ⟨h.isInfix.trans ht, h.ne_nil, h.head?, h.getLast?⟩

/-- What is left of a part without blanks at its ends is an excerpt, and blanks stand around it. -/
theorem isExcerpt_of_filled? {run u : Text} (h : filled? run = some u) :
    IsExcerpt run u ∧ ∃ gap space, run = gap ++ (u ++ space) ∧
      (∀ b ∈ gap, isBlank b = true) ∧ ∀ b ∈ space, isBlank b = true := by
  obtain ⟨htrim, hne⟩ := filled?_eq_some_iff.1 h
  obtain ⟨gap, space, hrun, hgap, hspace, hhead, hlast⟩ := Text.trim_eq_iff.1 htrim
  exact ⟨⟨⟨gap, space, by rw [hrun, List.append_assoc]⟩, hne, hhead, hlast⟩, gap, space, hrun, hgap,
    hspace⟩

/-- A character that is a letter is no blank. -/
theorem not_any_isBlank_of_isLetter {o : Option CodePoint} (h : o.any isLetter = true) :
    o.any isBlank = false := by
  cases o with
  | none => cases h
  | some c => exact not_isBlank_of_isLetter h

/-! ## What announces a value -/

/-- `u` stands between two quotes in `t`, with or without blanks around it. -/
def IsEnclosed (t u : Text) : Prop :=
  ∃ pre opening gap space closing post,
    t = pre ++ opening :: (gap ++ (u ++ (space ++ closing :: post))) ∧
    isQuote opening = true ∧ isQuote closing = true ∧ (∀ b ∈ gap, isBlank b = true) ∧
    ∀ b ∈ space, isBlank b = true

/-- An id stands at the beginning of `t`: a word that begins with a lower-case `id`, and the run of
digits `ds` right behind or behind blanks. -/
def NamesId (before : Option CodePoint) (t ds : Text) : Prop :=
  wordStarts before = true ∧ ∃ gap rest, t = lit "id" ++ (gap ++ (ds ++ rest)) ∧
    (∀ b ∈ gap, isBlank b = true) ∧ (ds ≠ [] ∧ ∀ c ∈ ds, isAsciiDigit c = true) ∧
    rest.head?.any isAsciiDigit = false

/-- A first year stands at the beginning of `t`: the word `after` or `from` in any case, blanks, and
a run of four digits of any script with the value `n`. -/
def NamesYear (before : Option CodePoint) (t : Text) (n : Nat) : Prop :=
  wordStarts before = true ∧ ∃ word gap ds rest, t = word ++ (gap ++ (ds ++ rest)) ∧
    (word.map fold = lit "after" ∨ word.map fold = lit "from") ∧
    (gap ≠ [] ∧ ∀ b ∈ gap, isBlank b = true) ∧
    (ds.length = 4 ∧ ∀ c ∈ ds, isDigit c = true) ∧ rest.head?.any isDigit = false ∧
    n = Text.decimalValue ds

/-- A rating stands at the beginning of `t`, with a sign or in words. -/
def NamesRating (t : Text) (c : Comparison) (n : Decimal) : Prop :=
  ComparesRating t c n ∨ c = .gt ∧ RatesAbove t n

/-- A description fits somewhere in `t`, given the code point before and the text from there on. -/
def Somewhere (t : Text) (P : Option CodePoint → Text → Prop) : Prop :=
  ∃ pre post, t = pre ++ post ∧ P pre.getLast? post

/-- Where in `t` a fact comes from. -/
def Fact.ComesFrom (t : Text) : Fact → Prop
  | titleExact u => IsExcerpt t u ∧ (∀ c ∈ u, isQuote c = false) ∧ IsEnclosed t u
  | director u | actor u => IsExcerpt t u ∧ IsName u
  | genre u => IsExcerpt t u ∧ u.map fold ∈ genreTerms
  | ids u => IsExcerpt t u ∧ Somewhere t fun before rest => NamesId before rest u
  | rating r =>
    ∃ (c : Comparison) (n : Decimal) (x : Binary64), r = ⟨some c.name, .number (.real x)⟩ ∧
      x.IsNearest n.value ∧ Somewhere t fun _ rest => NamesRating rest c n
  | yearFrom n => Somewhere t fun before rest => NamesYear before rest n
  | topN n =>
    ∃ ds, n = Text.decimalValue ds ∧ Somewhere t fun before rest => NamesRows before rest ds
  | fields names => names = Intent.defaultFields

/-! ## Slot by slot -/

section

variable {t u : Text}

theorem somewhere_of_find? {α : Type} {p : Recognizer α} {a : α} (h : find? p t = some a) :
    Somewhere t fun before rest => p before rest = some a := by
  obtain ⟨pre, post, ht, hp, -⟩ := find?_eq_some_iff.1 h
  exact ⟨pre, post, ht, hp⟩

theorem Somewhere.imp {P Q : Option CodePoint → Text → Prop} (h : Somewhere t P)
    (himp : ∀ before rest, P before rest → Q before rest) : Somewhere t Q := by
  obtain ⟨pre, post, ht, hP⟩ := h
  exact ⟨pre, post, ht, himp _ _ hP⟩

/-- A part between two quotes. -/
theorem isEnclosed_of_filled? {pre post run : Text} {opening closing : CodePoint}
    (ht : t = pre ++ opening :: (run ++ closing :: post)) (hopening : isQuote opening = true)
    (hclosing : isQuote closing = true) (h : filled? run = some u) :
    IsExcerpt t u ∧ IsEnclosed t u := by
  obtain ⟨hexcerpt, gap, space, hrun, hgap, hspace⟩ := isExcerpt_of_filled? h
  refine ⟨hexcerpt.mono ⟨pre ++ [opening], closing :: post, by simp [ht]⟩, pre, opening, gap, space,
    closing, post, ?_, hopening, hclosing, hgap, hspace⟩
  rw [ht, hrun]
  simp only [List.append_assoc]

/-- A text that is taken from between quotes has a quote on either side. The induction is on what
is still to be read; `front` is what has been read, and ends in the open text and its quote. -/
theorem exists_quotes_of_mem_quotedTexts {run : Option Text} (front : Text)
    (hfront : ∀ r ∈ run, ∃ pre opening, front = pre ++ opening :: r.reverse ∧
      isQuote opening = true) :
    ∀ s ∈ quotedTexts run t, ∃ pre opening closing post,
      front ++ t = pre ++ opening :: (s ++ closing :: post) ∧ isQuote opening = true ∧
        isQuote closing = true := by
  induction t generalizing run front with
  | nil => simp [quotedTexts]
  | cons c t ih =>
      have hstep : ∀ {run : Option Text}, (∀ r ∈ run, ∃ pre opening,
          front ++ [c] = pre ++ opening :: r.reverse ∧ isQuote opening = true) →
          ∀ s ∈ quotedTexts run t, ∃ pre opening closing post,
            front ++ c :: t = pre ++ opening :: (s ++ closing :: post) ∧
              isQuote opening = true ∧ isQuote closing = true := by
        intro run hrun
        simpa using ih (front ++ [c]) hrun
      unfold quotedTexts
      split
      · next hc =>
        have hopens : ∀ s ∈ quotedTexts (some []) t, _ := hstep fun r hr => by
          obtain rfl := Option.some.inj hr
          exact ⟨front, c, rfl, hc⟩
        split
        · next r =>
          split
          · rw [List.forall_mem_cons]
            obtain ⟨pre, opening, rfl, hopening⟩ := hfront r rfl
            exact ⟨⟨pre, opening, c, t, by simp, hopening, hc⟩, hstep (by simp)⟩
          · exact hopens
        · exact hopens
      · apply hstep
        cases run with
        | none => simp
        | some r =>
            obtain ⟨pre, opening, rfl, hopening⟩ := hfront r rfl
            simpa using ⟨pre, opening, by simp, hopening⟩

theorem comesFrom_of_title? (h : title? t = some u) : (Fact.titleExact u).ComesFrom t := by
  have hclean := not_isQuote_of_title? h
  suffices henclosed : IsExcerpt t u ∧ IsEnclosed t u from ⟨henclosed.1, hclean, henclosed.2⟩
  unfold title? at h
  split at h
  · next run hclause =>
    obtain ⟨pre, post, rfl, hnames, -⟩ := find?_titleClause?_eq_some_iff.1 hclause
    obtain ⟨word, gap, link, space, quoted, rfl, -, -, -, -, hquoted⟩ := hnames
    obtain ⟨opening, closing, rest, rfl, hopening, hclosing, -⟩ := hquoted
    have ht : pre ++ (word ++ (gap ++ (link ++ (space ++ opening :: (run ++ closing :: rest))))) =
        pre ++ word ++ gap ++ link ++ space ++ opening :: (run ++ closing :: rest) := by
      simp only [List.append_assoc]
    exact isEnclosed_of_filled? ht hopening hclosing h
  · split at h
    · next run hquoted =>
      split at h
      · obtain ⟨pre, opening, closing, post, ht, hopening, hclosing⟩ :=
          exists_quotes_of_mem_quotedTexts [] (by simp) run (hquoted ▸ List.mem_singleton_self run)
        exact isEnclosed_of_filled? ht hopening hclosing h
      · cases h
    · cases h

/-- The letter at the beginning of a name is kept, and nothing is added. -/
theorem isExcerpt_of_person? {role : Text} (h : person? role t = some u) :
    IsExcerpt t u ∧ IsName u := by
  obtain ⟨name, hfind, hfilled⟩ := Option.bind_eq_some_iff.1 h
  obtain ⟨pre, post, rfl, hclause⟩ := somewhere_of_find? hfind
  obtain ⟨skipped, rest, rfl, hhead, hname⟩ := exists_of_personClause? hclause
  obtain ⟨hexcerpt, gap, space, rfl, hgap, -⟩ := isExcerpt_of_filled? hfilled
  refine ⟨hexcerpt.mono ⟨pre ++ skipped, rest, by simp⟩, ?_, fun c hc => hname c (by simp [hc])⟩
  -- no blank stands in front of the letter
  cases gap with
  | nil =>
      obtain ⟨c, v, rfl⟩ := List.exists_cons_of_ne_nil hexcerpt.ne_nil
      exact hhead
  | cons b gap =>
      have hblank := not_isBlank_of_isLetter hhead
      exact absurd (hblank.symm.trans (hgap b List.mem_cons_self)) Bool.false_ne_true

theorem comesFrom_of_genre? (h : genre? t = some u) : (Fact.genre u).ComesFrom t := by
  obtain ⟨pre, post, rfl, hterm⟩ := somewhere_of_find? h
  obtain ⟨rest, rfl, hmem⟩ := exists_of_genreTerm? hterm
  have hends : ∀ term ∈ genreTerms, term ≠ [] ∧ term.head?.any isLowerAscii = true ∧
      term.getLast?.any isLowerAscii = true := by
    decide
  obtain ⟨hne, hhead, hlast⟩ := hends _ hmem
  rw [List.head?_map, Option.any_map] at hhead
  rw [List.getLast?_map, Option.any_map] at hlast
  exact ⟨⟨⟨pre, rest, by simp⟩, fun hnil => hne (by rw [hnil]; rfl),
    not_any_isBlank_of_isLetter hhead, not_any_isBlank_of_isLetter hlast⟩, hmem⟩

theorem namesId_of_idClause? {before : Option CodePoint} (h : idClause? before t = some u) :
    NamesId before t u := by
  obtain ⟨hstart, gap, rest, rfl, hgap, hdigits, hends⟩ := exists_of_idClause? h
  exact ⟨hstart, gap, rest, rfl, hgap, hdigits,
    not_head?_of_wordEnds (fun _ => isWord_of_isAsciiDigit) hends⟩

theorem comesFrom_of_ids? (h : ids? t = some u) : (Fact.ids u).ComesFrom t := by
  obtain ⟨pre, post, rfl, hclause⟩ := somewhere_of_find? h
  have hnames := namesId_of_idClause? hclause
  refine ⟨?_, pre, post, rfl, hnames⟩
  obtain ⟨-, gap, rest, rfl, -, ⟨hne, hdigits⟩, -⟩ := hnames
  have hblank : ∀ c ∈ u, isBlank c = false := fun c hc =>
    not_isBlank_of_isAsciiDigit (hdigits c hc)
  refine ⟨⟨pre ++ (lit "id" ++ gap), rest, by simp⟩, hne, ?_, ?_⟩
  · rw [List.head?_eq_some_head hne]
    exact hblank _ (List.head_mem hne)
  · rw [List.getLast?_eq_some_getLast hne]
    exact hblank _ (List.getLast_mem hne)

theorem namesYear_of_yearClause? {before : Option CodePoint} {word : Text} {n : Nat}
    (hword : word = lit "after" ∨ word = lit "from") (h : yearClause? word before t = some n) :
    NamesYear before t n := by
  unfold yearClause? at h
  split at h
  · next hstart =>
    simp only [Option.bind_eq_some_iff, Text.afterFolded?_eq_some_iff, blanks?_eq_some_iff] at h
    obtain ⟨_, ⟨written, rfl, rfl⟩, behind, ⟨gap, rfl, hne, hgap, -⟩, hyear⟩ := h
    rw [year?] at hyear
    split at hyear
    · next hdigits =>
      simp only [Bool.and_eq_true, decide_eq_true_eq, List.all_eq_true] at hdigits
      obtain ⟨⟨hlength, hall⟩, hends⟩ := hdigits
      refine ⟨hstart, written, gap, behind.take 4, behind.drop 4, by rw [List.take_append_drop],
        hword, ⟨hne, hgap⟩, ⟨hlength, hall⟩, ?_, (Option.some.inj hyear).symm⟩
      exact not_head?_of_wordEnds (fun _ => isWord_of_isDigit) hends
    · cases hyear
  · cases h

theorem comesFrom_of_yearFrom? {n : Nat} (h : yearFrom? t = some n) :
    (Fact.yearFrom n).ComesFrom t := by
  rcases Option.or_eq_some_iff.1 h with hafter | ⟨-, hfrom⟩
  · exact (somewhere_of_find? hafter).imp fun _ _ => namesYear_of_yearClause? (Or.inl rfl)
  · exact (somewhere_of_find? hfrom).imp fun _ _ => namesYear_of_yearClause? (Or.inr rfl)

theorem comesFrom_of_topN? {n : Nat} (h : topN? t = .ok (some n)) : (Fact.topN n).ComesFrom t := by
  unfold topN? at h
  split at h
  · cases h
  · next ds hfind =>
    obtain ⟨m, hread, hm⟩ := map_eq_ok_iff.1 h
    obtain rfl := Option.some.inj hm
    unfold Numeral.readNat at hread
    split at hread
    · cases hread
    · refine ⟨ds, (Except.ok.inj hread).symm, ?_⟩
      exact (somewhere_of_find? hfind).imp fun _ _ => topClause?_eq_some_iff.1

theorem comesFrom_of_rating? {r : Rating} (h : rating? t = some r) :
    (Fact.rating r).ComesFrom t := by
  unfold rating? at h
  split at h
  · next c x hfind =>
    obtain ⟨pre, post, rfl, hclause⟩ := somewhere_of_find? hfind
    obtain ⟨n, hnames, rfl⟩ := ratingComparison?_eq_some_iff.1 hclause
    exact ⟨c, n, n.double, (Option.some.inj h).symm, n.isNearest_double, pre, post, rfl,
      Or.inl hnames⟩
  · obtain ⟨x, hfind, rfl⟩ := Option.map_eq_some_iff.1 h
    obtain ⟨pre, post, rfl, hclause⟩ := somewhere_of_find? hfind
    obtain ⟨n, hnames, rfl⟩ := ratesAbove_of_ratingAbove? hclause
    exact ⟨.gt, n, n.double, rfl, n.isNearest_double, pre, post, rfl, Or.inr ⟨rfl, hnames⟩⟩

end

/-- What is proposed comes from the text. -/
theorem comesFrom_of_propose {slot : Slot} {t : Text} {fact : Fact}
    (h : slot.propose t = .ok (some fact)) : fact.ComesFrom t := by
  cases slot with
  | title =>
      obtain ⟨u, hu, rfl⟩ := exists_of_ok_map h
      exact comesFrom_of_title? hu
  | director | actor =>
      obtain ⟨u, hu, rfl⟩ := exists_of_ok_map h
      exact isExcerpt_of_person? hu
  | genre =>
      obtain ⟨u, hu, rfl⟩ := exists_of_ok_map h
      exact comesFrom_of_genre? hu
  | ids =>
      obtain ⟨u, hu, rfl⟩ := exists_of_ok_map h
      exact comesFrom_of_ids? hu
  | rating =>
      obtain ⟨r, hr, rfl⟩ := exists_of_ok_map h
      exact comesFrom_of_rating? hr
  | yearFrom =>
      obtain ⟨n, hn, rfl⟩ := exists_of_ok_map h
      exact comesFrom_of_yearFrom? hn
  | topN =>
      obtain ⟨found, hfound, hmap⟩ := map_eq_ok_iff.1 h
      obtain ⟨n, rfl, rfl⟩ := Option.map_eq_some_iff.1 hmap
      exact comesFrom_of_topN? hfound
  | fields =>
      obtain rfl := Option.some.inj (Except.ok.inj h)
      rfl

/-! ## Blanks around the text -/

section

variable {u m w : Text}

/-- A description that blanks do not change fits in a text with blanks around it. -/
theorem Somewhere.surrounded {P : Option CodePoint → Text → Prop} (h : Somewhere m P)
    (hP : ∀ pre post, P pre.getLast? post → P (u ++ pre).getLast? (post ++ w)) :
    Somewhere (u ++ (m ++ w)) P := by
  obtain ⟨pre, post, rfl, hfits⟩ := h
  exact ⟨u ++ pre, post ++ w, by simp, hP pre post hfits⟩

theorem IsEnclosed.surrounded {t : Text} (h : IsEnclosed m t) :
    IsEnclosed (u ++ (m ++ w)) t := by
  obtain ⟨pre, opening, gap, space, closing, post, rfl, hquotes⟩ := h
  exact ⟨u ++ pre, opening, gap, space, closing, post ++ w, by simp, hquotes⟩

variable (hu : ∀ c ∈ u, isBlank c = true) (hw : ∀ c ∈ w, isBlank c = true)

include hu hw

theorem NamesId.surrounded {pre post ds : Text} (h : NamesId pre.getLast? post ds) :
    NamesId (u ++ pre).getLast? (post ++ w) ds := by
  obtain ⟨hstart, gap, rest, rfl, hgap, hds, hstop⟩ := h
  refine ⟨by rwa [wordStarts_blanks_append hu], gap, rest ++ w, by simp, hgap, hds, ?_⟩
  rwa [head?_append_blanks (fun _ => not_isBlank_of_isAsciiDigit) hw]

theorem NamesYear.surrounded {pre post : Text} {n : Nat} (h : NamesYear pre.getLast? post n) :
    NamesYear (u ++ pre).getLast? (post ++ w) n := by
  obtain ⟨hstart, word, gap, ds, rest, rfl, hword, hgap, hds, hstop, hn⟩ := h
  refine ⟨by rwa [wordStarts_blanks_append hu], word, gap, ds, rest ++ w, by simp, hword, hgap, hds,
    ?_, hn⟩
  rwa [head?_append_blanks (fun _ => not_isBlank_of_isDigit) hw]

theorem NamesRows.surrounded {pre post ds : Text} (h : NamesRows pre.getLast? post ds) :
    NamesRows (u ++ pre).getLast? (post ++ w) ds := by
  obtain ⟨hstart, word, gap, rest, rfl, hword, hgap, hds, hends⟩ := h
  refine ⟨by rwa [wordStarts_blanks_append hu], word, gap, rest ++ w, by simp, hword, hgap, hds, ?_⟩
  rwa [wordEnds_append_blanks hw]

omit hu in
theorem NamesRating.surrounded {post : Text} {c : Comparison} {n : Decimal}
    (h : NamesRating post c n) : NamesRating (post ++ w) c n := by
  rcases h with ⟨word, gap, space, rest, rfl, hword, hgap, hspace, hn, hends⟩ |
    ⟨hc, start, gap, word, gap', bound, space, rest, rfl, hstart, hgap, hword, hgap', hbound,
      hspace, hn, hends⟩
  · exact Or.inl ⟨word, gap, space, rest ++ w, by simp, hword, hgap, hspace, hn,
      hends.append_blanks hw⟩
  · exact Or.inr ⟨hc, start, gap, word, gap', bound, space, rest ++ w, by simp, hstart, hgap, hword,
      hgap', hbound, hspace, hn, hends.append_blanks hw⟩

theorem Fact.ComesFrom.surrounded {fact : Fact} (h : fact.ComesFrom m) :
    fact.ComesFrom (u ++ (m ++ w)) := by
  have hwithin : m <:+: u ++ (m ++ w) := ⟨u, w, List.append_assoc u m w⟩
  cases fact with
  | titleExact t =>
      obtain ⟨hexcerpt, hclean, henclosed⟩ := h
      exact ⟨hexcerpt.mono hwithin, hclean, henclosed.surrounded⟩
  | director t | actor t | genre t => exact ⟨h.1.mono hwithin, h.2⟩
  | ids t =>
      obtain ⟨hexcerpt, hnames⟩ := h
      exact ⟨hexcerpt.mono hwithin, hnames.surrounded fun _ _ => NamesId.surrounded hu hw⟩
  | rating r =>
      obtain ⟨c, n, x, hr, hx, hnames⟩ := h
      exact ⟨c, n, x, hr, hx, hnames.surrounded fun _ _ => NamesRating.surrounded hw⟩
  | yearFrom n =>
      have hnames : Somewhere m fun before rest => NamesYear before rest n := h
      exact hnames.surrounded fun _ _ => NamesYear.surrounded hu hw
  | topN n =>
      obtain ⟨ds, hn, hnames⟩ := h
      exact ⟨ds, hn, hnames.surrounded fun _ _ => NamesRows.surrounded hu hw⟩
  | fields names => exact h

end

/-- **What is filled in comes from the question.** Where an intent can be completed from a question,
its given parts stay, and each slot holds what it held or was open and takes a fact that comes from
the question. -/
theorem enrich_comesFrom {i j : Intent} {question : Text} (h : enrich i question = .ok j) :
    j.given = i.given ∧ ∀ slot : Slot, slot.get j = slot.get i ∨
      slot.isOpen i = true ∧ ∃ fact : Fact, fact.slot = slot ∧
        slot.get j = slot.get (fact.write i) ∧ fact.ComesFrom question := by
  refine ⟨given_of_enrich h, fun slot => ?_⟩
  rw [get_of_enrich h]
  split
  · next hopen =>
    cases hproposed : slot.proposed question with
    | none => exact Or.inl rfl
    | some v =>
        obtain ⟨fact, hpropose, hslot, hget⟩ := Slot.exists_propose_of_proposal hproposed
        obtain ⟨u, w, hsplit, hu, hw, -⟩ :=
          Text.trim_eq_iff.1 (rfl : Text.trim isBlank question = _)
        have hcomes := (comesFrom_of_propose hpropose).surrounded hu hw
        rw [← hsplit] at hcomes
        exact Or.inr ⟨hopen, fact, hslot, hget i, hcomes⟩
  · exact Or.inl rfl

/-- A question that has something for every slot. -/
def fullQuestion : Text :=
  lit " movie ' Heat ' director=M. Mann, actor is De Niro: DRAMA, rating > 8.1 from 1990 id7 top 05"

/-- All nine slots of an empty intent are filled from it. -/
theorem enrich_comesFrom_full :
    ∃ j, enrich {} fullQuestion = .ok j ∧ j.filters.director = some (lit "M. Mann") ∧
      j.topN = some 5 ∧ ∀ slot : Slot, ∃ fact : Fact, fact.slot = slot ∧
        slot.get j = slot.get (fact.write {}) ∧ fact.ComesFrom fullQuestion := by
  obtain ⟨j, hj, hdirector, htop, hclosed⟩ : ∃ j, enrich {} fullQuestion = .ok j ∧
      j.filters.director = some (lit "M. Mann") ∧ j.topN = some 5 ∧
      ∀ slot : Slot, slot.isOpen j = false :=
    ⟨_, rfl, rfl, rfl, fun slot => by cases slot <;> rfl⟩
  refine ⟨j, hj, hdirector, htop, fun slot => ?_⟩
  obtain ⟨hgiven, hslots⟩ := enrich_comesFrom hj
  rcases hslots slot with hsame | ⟨-, hfact⟩
  · have hopen := Slot.isOpen_congr hsame hgiven
    rw [hclosed slot, slot.isOpen_empty] at hopen
    cases hopen
  · exact hfact

end FilmQuery.Question
