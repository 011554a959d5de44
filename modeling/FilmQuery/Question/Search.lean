import FilmQuery.Text.Blank
import FilmQuery.Text.Fold

/-!
# Searching a question

A recogniser looks at the text from one position on, knowing the code point before it, and says
what it finds there. A search takes the first position at which it finds something. Words are
recognised in any case. Main statements: a search gives what is found at the first position where
anything is found, and it fails exactly when nothing is found at any position.
-/

namespace FilmQuery.Question

variable {α : Type}

abbrev Recognizer (α : Type) := (before : Option CodePoint) → Text → Option α

/-- What a recogniser finds at the first position where it finds anything. -/
def search (p : Recognizer α) : (before : Option CodePoint) → Text → Option α
  | before, [] => p before []
  | before, c :: t =>
    match p before (c :: t) with
    | some a => some a
    | none => search p (some c) t

/-- A search fails exactly when its recogniser finds nothing at any position. -/
theorem search_eq_none_iff {p : Recognizer α} {before : Option CodePoint} {t : Text} :
    search p before t = none ↔
      ∀ pre post, t = pre ++ post → p (pre.getLast?.or before) post = none := by
  induction t generalizing before with
  | nil =>
    constructor
    · rintro h pre post heq
      obtain ⟨rfl, rfl⟩ := List.append_eq_nil_iff.1 heq.symm
      exact h
    · intro h
      exact h [] [] rfl
  | cons c t ih =>
    constructor
    · rintro h pre post heq
      rw [search] at h
      split at h
      · simp at h
      · next hp =>
        cases pre with
        | nil =>
          obtain rfl : c :: t = post := heq
          exact hp
        | cons d pre =>
          obtain ⟨rfl, rfl⟩ := List.cons.inj heq
          have := ih.1 h pre post rfl
          cases pre <;> simpa [List.getLast?_cons] using this
    · intro h
      rw [search, show p before (c :: t) = none from h [] _ rfl]
      refine ih.2 fun pre post heq => ?_
      have := h (c :: pre) post (by rw [heq]; rfl)
      cases pre <;> simpa [List.getLast?_cons] using this

/-- A search gives what its recogniser finds at the first position where it finds anything. -/
theorem search_eq_some_iff {p : Recognizer α} {before : Option CodePoint} {t : Text} {a : α} :
    search p before t = some a ↔
      ∃ pre post, t = pre ++ post ∧ p (pre.getLast?.or before) post = some a ∧
        ∀ pre' post', t = pre' ++ post' → pre'.length < pre.length →
          p (pre'.getLast?.or before) post' = none := by
  induction t generalizing before with
  | nil =>
    constructor
    · intro h
      exact ⟨[], [], rfl, h, by simp⟩
    · rintro ⟨pre, post, heq, h, -⟩
      obtain ⟨rfl, rfl⟩ := List.append_eq_nil_iff.1 heq.symm
      exact h
  | cons c t ih =>
    rw [search]
    split
    · next b hp =>
      constructor
      · rintro ⟨rfl⟩
        exact ⟨[], c :: t, rfl, hp, by simp⟩
      · rintro ⟨pre, post, heq, h, hfirst⟩
        cases pre with
        | nil =>
          obtain rfl : c :: t = post := heq
          exact hp.symm.trans h
        | cons d pre =>
          have : p before (c :: t) = none := hfirst [] (c :: t) rfl (by simp)
          simp [hp] at this
    · next hp =>
      rw [ih]
      constructor
      · rintro ⟨pre, post, rfl, h, hfirst⟩
        refine ⟨c :: pre, post, rfl, ?_, ?_⟩
        · cases pre <;> simpa [List.getLast?_cons] using h
        · intro pre' post' heq hlt
          cases pre' with
          | nil =>
            obtain rfl : c :: (pre ++ post) = post' := heq
            exact hp
          | cons d pre' =>
            obtain ⟨rfl, htail⟩ := List.cons.inj heq
            have := hfirst pre' post' htail (by simpa using hlt)
            cases pre' <;> simpa [List.getLast?_cons] using this
      · rintro ⟨pre, post, heq, h, hfirst⟩
        cases pre with
        | nil =>
          obtain rfl : c :: t = post := heq
          have : p before (c :: t) = some a := h
          simp [hp] at this
        | cons d pre =>
          obtain ⟨rfl, rfl⟩ := List.cons.inj heq
          refine ⟨pre, post, rfl, ?_, ?_⟩
          · cases pre <;> simpa [List.getLast?_cons] using h
          · intro pre' post' heq' hlt
            have := hfirst (c :: pre') post' (by rw [heq']; rfl) (by simpa using hlt)
            cases pre' <;> simpa [List.getLast?_cons] using this

/-- What a recogniser finds in a whole text. -/
def find? (p : Recognizer α) (t : Text) : Option α := search p none t

def skipBlanks (t : Text) : Text := t.dropWhile isBlank

/-- At least one blank, and all that follow it. -/
def blanks? : Text → Option Text
  | [] => none
  | c :: t => if isBlank c then some (skipBlanks t) else none

/-- A whole word: the text after it, if the word stands here with no word character beside it. -/
def wholeWord? (word : Text) : Recognizer Text := fun before t =>
  if wordStarts before then
    (Text.afterFolded? word t).bind fun rest => if wordEnds rest then some rest else none
  else none

/-- A text without blanks at its ends, if something is left of it. -/
def filled? (t : Text) : Option Text :=
  match Text.trim isBlank t with
  | [] => none
  | t => some t

end FilmQuery.Question
