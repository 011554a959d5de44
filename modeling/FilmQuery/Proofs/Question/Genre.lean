import FilmQuery.Proofs.Question.Words
import FilmQuery.Question.Genre

/-!
# Where a genre stands

A genre is looked for among the spellings of a small vocabulary. No spelling begins another one, so
at most one of them stands at a place, and it does not matter in which order they are tried. Main
statement: the genre of a text is what stands at the first place where any genre stands as a whole
word, in any case, and there is none exactly if none stands anywhere.
-/

namespace FilmQuery.Question

/-- A term of a vocabulary that stands here as a whole word, as it is written. The terms are tried
in their order. -/
def term? (terms : List Text) : Recognizer Text := fun before t =>
  (terms.find? fun term => (wholeWord? term before t).isSome).map fun term => t.take term.length

/-- No term of a vocabulary begins another one. -/
def PrefixFree (terms : List Text) : Prop := ∀ a ∈ terms, ∀ b ∈ terms, a <+: b → a = b

instance (terms : List Text) : Decidable (PrefixFree terms) :=
  inferInstanceAs (Decidable (∀ a ∈ terms, ∀ b ∈ terms, a <+: b → a = b))

/-- A term stands at the position `i` of `t`, written as `g` in some case, and no word character
stands right before or behind it. -/
def StandsAt (terms : List Text) (g t : Text) (i : Nat) : Prop :=
  ∃ pre post, t = pre ++ (g ++ post) ∧ pre.length = i ∧ g.map fold ∈ terms ∧
    pre.getLast?.any isWord = false ∧ post.head?.any isWord = false

/-! ## Vocabularies -/

section

variable {terms : List Text} {before : Option CodePoint} {t g : Text}

theorem exists_of_term? (h : term? terms before t = some g) :
    g.map fold ∈ terms ∧ wordStarts before = true ∧
      ∃ post, t = g ++ post ∧ wordEnds post = true := by
  obtain ⟨term, hfind, rfl⟩ := Option.map_eq_some_iff.1 h
  have hfound : (wholeWord? term before t).isSome = true := by simpa using List.find?_some hfind
  obtain ⟨post, hword⟩ := Option.isSome_iff_exists.1 hfound
  obtain ⟨hstarts, hends, written, rfl, rfl⟩ := wholeWord?_eq_some_iff.1 hword
  rw [List.length_map, List.take_left]
  exact ⟨List.mem_of_find?_eq_some hfind, hstarts, post, rfl, hends⟩

/-- Where a term stands, one is found, though maybe another that is tried before it. -/
theorem exists_term?_of_mem {post : Text} (hmem : g.map fold ∈ terms)
    (hstarts : wordStarts before = true) (hends : wordEnds post = true) :
    ∃ g', term? terms before (g ++ post) = some g' := by
  have hword : wholeWord? (g.map fold) before (g ++ post) = some post :=
    wholeWord?_eq_some_iff.2 ⟨hstarts, hends, g, rfl, rfl⟩
  have hfind : (terms.find? fun term =>
      (wholeWord? term before (g ++ post)).isSome).isSome = true := by
    rw [List.find?_isSome]
    exact ⟨g.map fold, hmem, by rw [hword]; rfl⟩
  obtain ⟨term, hterm⟩ := Option.isSome_iff_exists.1 hfind
  exact ⟨_, by rw [term?, hterm]; rfl⟩

/-- Two terms at one place are one of them, since of two beginnings of a text the shorter one begins
the longer one. -/
theorem PrefixFree.eq_of_append_eq (hfree : PrefixFree terms) {g' post post' : Text}
    (hmem : g.map fold ∈ terms) (hmem' : g'.map fold ∈ terms) (h : g ++ post = g' ++ post') :
    g = g' := by
  have hfold : g.map fold = g'.map fold := by
    rcases Nat.le_total g.length g'.length with hle | hle
    · have hbegins : g <+: g' := List.prefix_of_prefix_length_le ⟨post, rfl⟩ ⟨post', h.symm⟩ hle
      exact hfree _ hmem _ hmem' (hbegins.map fold)
    · have hbegins : g' <+: g := List.prefix_of_prefix_length_le ⟨post', rfl⟩ ⟨post, h⟩ hle
      exact (hfree _ hmem' _ hmem (hbegins.map fold)).symm
  have hlength : g.length = g'.length := by simpa using congrArg List.length hfold
  exact (List.append_inj h hlength).1

theorem PrefixFree.term?_eq_some_iff (hfree : PrefixFree terms) :
    term? terms before t = some g ↔ g.map fold ∈ terms ∧ wordStarts before = true ∧
      ∃ post, t = g ++ post ∧ wordEnds post = true := by
  constructor
  · exact exists_of_term?
  · rintro ⟨hmem, hstarts, post, rfl, hends⟩
    obtain ⟨g', hg'⟩ := exists_term?_of_mem hmem hstarts hends
    obtain ⟨hmem', -, post', heq, -⟩ := exists_of_term? hg'
    rw [hg', hfree.eq_of_append_eq hmem hmem' heq]

/-- It does not matter in which order the terms are tried. -/
theorem PrefixFree.term?_congr (hfree : PrefixFree terms) {terms' : List Text}
    (hsame : ∀ term, term ∈ terms ↔ term ∈ terms') : term? terms' = term? terms := by
  have hfree' : PrefixFree terms' := fun a ha b hb =>
    hfree a ((hsame a).2 ha) b ((hsame b).2 hb)
  funext before t
  apply Option.ext
  intro g
  rw [hfree'.term?_eq_some_iff, hfree.term?_eq_some_iff, hsame]

theorem PrefixFree.standsAt_iff (hfree : PrefixFree terms) {i : Nat} :
    StandsAt terms g t i ↔
      ∃ pre post, t = pre ++ post ∧ pre.length = i ∧ term? terms pre.getLast? post = some g := by
  simp only [hfree.term?_eq_some_iff, StandsAt, wordStarts, wordEnds, Bool.not_eq_true']
  constructor
  · rintro ⟨pre, post, rfl, hi, hmem, hstarts, hends⟩
    exact ⟨pre, g ++ post, rfl, hi, hmem, hstarts, post, rfl, hends⟩
  · rintro ⟨pre, -, rfl, hi, hmem, hstarts, post, rfl, hends⟩
    exact ⟨pre, post, rfl, hi, hmem, hstarts, hends⟩

theorem PrefixFree.standsAt_unique (hfree : PrefixFree terms) {g' : Text} {i : Nat}
    (h : StandsAt terms g t i) (h' : StandsAt terms g' t i) : g = g' := by
  obtain ⟨pre, post, rfl, hi, hmem, -⟩ := h
  obtain ⟨pre', post', heq, hi', hmem', -⟩ := h'
  have hrest : g ++ post = g' ++ post' := (List.append_inj heq (hi.trans hi'.symm)).2
  exact hfree.eq_of_append_eq hmem hmem' hrest

/-- A search finds what stands at the first place where any term stands. -/
theorem PrefixFree.find?_eq_some_iff (hfree : PrefixFree terms) :
    find? (term? terms) t = some g ↔
      ∃ i, StandsAt terms g t i ∧ ∀ j < i, ∀ g', ¬StandsAt terms g' t j := by
  simp only [Question.find?_eq_some_iff, hfree.standsAt_iff]
  constructor
  · rintro ⟨pre, post, rfl, hterm, hfirst⟩
    refine ⟨pre.length, ⟨pre, post, rfl, rfl, hterm⟩, ?_⟩
    rintro j hj g' ⟨pre', post', heq, rfl, hterm'⟩
    rw [hfirst pre' post' heq hj] at hterm'
    cases hterm'
  · rintro ⟨_, ⟨pre, post, rfl, rfl, hterm⟩, hfirst⟩
    refine ⟨pre, post, rfl, hterm, fun pre' post' heq hlt => ?_⟩
    rw [Option.eq_none_iff_forall_ne_some]
    exact fun g' hterm' => hfirst _ hlt g' ⟨pre', post', heq, rfl, hterm'⟩

theorem PrefixFree.find?_eq_none_iff (hfree : PrefixFree terms) :
    find? (term? terms) t = none ↔ ∀ i g, ¬StandsAt terms g t i := by
  rw [← Option.not_isSome_iff_eq_none, isSome_find?_iff]
  simp only [hfree.standsAt_iff, Option.isSome_iff_exists]
  constructor
  · rintro hnone i g ⟨pre, post, heq, -, hterm⟩
    exact hnone ⟨pre, post, heq, g, hterm⟩
  · rintro hnone ⟨pre, post, heq, g, hterm⟩
    exact hnone _ g ⟨pre, post, heq, rfl, hterm⟩

end

/-! ## Genres -/

/-- The genres that are recognised. -/
def genres : List Text :=
  [lit "action", lit "drama", lit "comedy", lit "thriller", lit "horror", lit "romance",
    lit "sci-fi", lit "adventure"]

/-- How a genre may be written: `sci-fi` also with a space or nothing in place of the hyphen. -/
def spellings (genre : Text) : List Text :=
  if genre = lit "sci-fi" then [lit "sci-fi", lit "sci fi", lit "scifi"] else [genre]

theorem genreTerms_eq : genreTerms = genres.flatMap spellings := by decide

theorem prefixFree_genreTerms : PrefixFree genreTerms := by decide

theorem standsAt_genreTerms_iff {g t : Text} {i : Nat} :
    StandsAt genreTerms g t i ↔ ∃ genre ∈ genres, StandsAt (spellings genre) g t i := by
  simp only [StandsAt, genreTerms_eq, List.mem_flatMap]
  constructor
  · rintro ⟨pre, post, ht, hi, ⟨genre, hgenre, hmem⟩, hword⟩
    exact ⟨genre, hgenre, pre, post, ht, hi, hmem, hword⟩
  · rintro ⟨genre, hgenre, pre, post, ht, hi, hmem, hword⟩
    exact ⟨pre, post, ht, hi, ⟨genre, hgenre, hmem⟩, hword⟩

theorem forall_not_standsAt_genreTerms_iff {t : Text} {i : Nat} :
    (∀ g, ¬StandsAt genreTerms g t i) ↔ ∀ genre ∈ genres, ∀ g, ¬StandsAt (spellings genre) g t i := by
  simp only [standsAt_genreTerms_iff]
  constructor
  · intro hnone genre hgenre g h
    exact hnone g ⟨genre, hgenre, h⟩
  · rintro hnone g ⟨genre, hgenre, h⟩
    exact hnone genre hgenre g h

/-- No two genres are spelled the same. -/
theorem eq_of_mem_spellings {a b w : Text} (ha : a ∈ genres) (hb : b ∈ genres)
    (hwa : w ∈ spellings a) (hwb : w ∈ spellings b) : a = b := by
  have hdistinct : ∀ a ∈ genres, ∀ b ∈ genres, ∀ w ∈ spellings a, w ∈ spellings b → a = b := by
    decide
  exact hdistinct a ha b hb w hwa hwb

theorem genre_unique {a b g g' t : Text} {i : Nat} (ha : a ∈ genres) (hb : b ∈ genres)
    (h : StandsAt (spellings a) g t i) (h' : StandsAt (spellings b) g' t i) : a = b ∧ g = g' := by
  obtain rfl : g = g' := prefixFree_genreTerms.standsAt_unique
    (standsAt_genreTerms_iff.2 ⟨a, ha, h⟩) (standsAt_genreTerms_iff.2 ⟨b, hb, h'⟩)
  obtain ⟨-, -, -, -, hmem, -⟩ := h
  obtain ⟨-, -, -, -, hmem', -⟩ := h'
  exact ⟨eq_of_mem_spellings ha hb hmem hmem', rfl⟩

/-- **The genre of a text is the first one in it.** What is found is the part of the text, as it is
written, at the first position at which a genre stands as a whole word in any case; nothing is found
exactly if no genre stands anywhere. At each position at most one genre stands, so the genres may be
tried in any order. -/
theorem genre?_leftmost (t : Text) :
    (∀ g, genre? t = some g ↔
        ∃ i, (∃ genre ∈ genres, StandsAt (spellings genre) g t i) ∧
          ∀ j < i, ∀ genre ∈ genres, ∀ g', ¬StandsAt (spellings genre) g' t j) ∧
      (genre? t = none ↔ ∀ i, ∀ genre ∈ genres, ∀ g, ¬StandsAt (spellings genre) g t i) ∧
      (∀ i, ∀ a ∈ genres, ∀ b ∈ genres, ∀ g g', StandsAt (spellings a) g t i →
        StandsAt (spellings b) g' t i → a = b ∧ g = g') ∧
      ∀ order : List Text, order.Perm genres →
        find? (term? (order.flatMap spellings)) t = genre? t := by
  have hgenre : genre? t = find? (term? genreTerms) t := rfl
  refine ⟨fun g => ?_, ?_, fun i a ha b hb g g' => genre_unique ha hb, fun order horder => ?_⟩
  · rw [hgenre, prefixFree_genreTerms.find?_eq_some_iff]
    -- no genre before the first one; the other rewriting would hide where this one applies
    simp only [forall_not_standsAt_genreTerms_iff]
    simp only [standsAt_genreTerms_iff]
  · rw [hgenre, prefixFree_genreTerms.find?_eq_none_iff]
    simp only [forall_not_standsAt_genreTerms_iff]
  · have hperm : (order.flatMap spellings).Perm genreTerms := by
      rw [genreTerms_eq]
      exact horder.flatMap_right spellings
    rw [hgenre, prefixFree_genreTerms.term?_congr fun _ => hperm.mem_iff.symm]

/-- A genre within another word, one with a dotless i and a space, and one behind it. -/
def genreQuestion : Text := lit "melodrama, Sc\u0131 Fi or ACTION"

theorem genre?_leftmost_genreQuestion :
    genre? genreQuestion = some (lit "Sc\u0131 Fi") ∧
      (∃ i, (∃ genre ∈ genres,
          StandsAt (spellings genre) (lit "Sc\u0131 Fi") genreQuestion i) ∧
        ∀ j < i, ∀ genre ∈ genres, ∀ g', ¬StandsAt (spellings genre) g' genreQuestion j) ∧
      genres.reverse.Perm genres ∧
      find? (term? (genres.reverse.flatMap spellings)) genreQuestion =
        some (lit "Sc\u0131 Fi") := by
  obtain ⟨hsome, -, -, horder⟩ := genre?_leftmost genreQuestion
  have hfound : genre? genreQuestion = some (lit "Sc\u0131 Fi") := by decide
  have hperm : genres.reverse.Perm genres := genres.reverse_perm
  exact ⟨hfound, (hsome _).1 hfound, hperm, (horder _ hperm).trans hfound⟩

end FilmQuery.Question
