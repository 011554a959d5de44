import FilmQuery.Text.Basic

/-!
# Blanks

Two sets of space characters are told apart. `isWhite` is the Unicode property White_Space (25
characters). `isBlank` adds the four separators U+001C to U+001F, which divide text without being
white. Slots of an intent lose white space at their ends; questions and replies lose blanks.
Main statement: trimming leaves nothing exactly of a text that is blank throughout.
-/

namespace FilmQuery

/-- The property White_Space. -/
def isWhite (c : CodePoint) : Bool :=
  (9 ≤ c && c ≤ 13) || c == 0x20 || c == 0x85 || c == 0xA0 || c == 0x1680
    || (0x2000 ≤ c && c ≤ 0x200A) || c == 0x2028 || c == 0x2029 || c == 0x202F
    || c == 0x205F || c == 0x3000

/-- White space or one of the separators U+001C to U+001F. -/
def isBlank (c : CodePoint) : Bool := isWhite c || (0x1C ≤ c && c ≤ 0x1F)

/-- A blank that does not end a line. -/
def isInlineBlank (c : CodePoint) : Bool := isBlank c && c != 10 && c != 13

namespace Text

/-- Drops the code points in the class `p` from the end. -/
def trimEnd (p : CodePoint → Bool) (t : Text) : Text := (t.reverse.dropWhile p).reverse

/-- Drops the code points in the class `p` from both ends. -/
def trim (p : CodePoint → Bool) (t : Text) : Text := trimEnd p (t.dropWhile p)

def isAllBlank (t : Text) : Bool := t.all isBlank

theorem dropWhile_eq_nil_iff {p : CodePoint → Bool} {t : Text} :
    t.dropWhile p = [] ↔ ∀ c ∈ t, p c = true := by
  induction t with
  | nil => simp
  | cons c t ih => cases h : p c <;> simp [h, ih]

theorem trimEnd_eq_nil_iff {p : CodePoint → Bool} {t : Text} :
    trimEnd p t = [] ↔ ∀ c ∈ t, p c = true := by
  rw [trimEnd, List.reverse_eq_nil_iff, dropWhile_eq_nil_iff]
  simp

/-- Trimming leaves nothing of a text exactly when all of it is to go. -/
theorem trim_eq_nil_iff {p : CodePoint → Bool} {t : Text} :
    trim p t = [] ↔ ∀ c ∈ t, p c = true := by
  rw [trim, trimEnd_eq_nil_iff]
  induction t with
  | nil => simp
  | cons c t ih => cases h : p c <;> simp [h, ih]

theorem trim_isBlank_eq_nil_iff {t : Text} : trim isBlank t = [] ↔ t.isAllBlank = true := by
  rw [trim_eq_nil_iff, isAllBlank, List.all_eq_true]

end Text

end FilmQuery
