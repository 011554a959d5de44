import FilmQuery.Text.Word

/-!
# Letters without case

The English words of a question are recognised in any case. Besides the capitals, four characters
fold to a plain letter: the dotted capital I (U+0130) and the dotless i (U+0131) to `i`, the long s
(U+017F) to `s` and the Kelvin sign (U+212A) to `k`.
Main statement: a folded word is found exactly where its letters stand in some case.
-/

namespace FilmQuery

/-- The letter that `c` stands for when case does not matter. -/
def fold (c : CodePoint) : CodePoint :=
  if isUpperAscii c then c + 0x20
  else if c = 0x130 ∨ c = 0x131 then 'i'.toNat
  else if c = 0x17F then 's'.toNat
  else if c = 0x212A then 'k'.toNat
  else c

/-- A letter from a to z in any case. -/
def isLetter (c : CodePoint) : Bool := isLowerAscii (fold c)

namespace Text

/-- What is left of `t` after the lower-case word `w`, written in any case. -/
def afterFolded? : (w t : Text) → Option Text
  | [], t => some t
  | _ :: _, [] => none
  | a :: w, c :: t => if a = fold c then afterFolded? w t else none

/-- A folded word is found exactly where its letters stand in some case. -/
theorem afterFolded?_eq_some_iff {w t r : Text} :
    afterFolded? w t = some r ↔ ∃ u, t = u ++ r ∧ u.map fold = w := by
  constructor
  · intro h
    induction w generalizing t with
    | nil => exact ⟨[], by simpa [afterFolded?] using h, rfl⟩
    | cons a w ih =>
      cases t with
      | nil => simp [afterFolded?] at h
      | cons c t =>
        by_cases hc : a = fold c
        · rw [afterFolded?, if_pos hc] at h
          obtain ⟨u, rfl, hu⟩ := ih h
          exact ⟨c :: u, rfl, by simp [hu, hc]⟩
        · simp [afterFolded?, hc] at h
  · rintro ⟨u, rfl, rfl⟩
    induction u with
    | nil => rfl
    | cons c u ih => simpa [afterFolded?] using ih

end Text

end FilmQuery
