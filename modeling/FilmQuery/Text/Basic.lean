/-!
# Text

A text is a list of code points. Surrogates are code points too: an escaped JSON string can spell
one without its partner, and such a string has to be held before it can be refused. Positions and
lengths are counted in code points. Main statements: taking off a prefix, splitting at a code point
and splitting at all its occurrences undo putting them together.
-/

namespace FilmQuery

/-- A code point; those that can stand in a text are below `0x110000`. -/
abbrev CodePoint := Nat

abbrev Text := List CodePoint

/-- The text that a string spells. -/
def lit (s : String) : Text := s.toList.map Char.toNat

/-- A surrogate stands for half a character and cannot be written on its own. -/
def isSurrogate (c : CodePoint) : Bool := 0xD800 ≤ c && c ≤ 0xDFFF

/-- A scalar value: a code point that is a character. -/
def isScalar (c : CodePoint) : Bool := c < 0x110000 && !isSurrogate c

def isAsciiDigit (c : CodePoint) : Bool := '0'.toNat ≤ c && c ≤ '9'.toNat

namespace Text

/-- What is left of `t` after the prefix `p`, if `t` begins with `p`. -/
def after? : (p t : Text) → Option Text
  | [], t => some t
  | _ :: _, [] => none
  | a :: p, c :: t => if a = c then after? p t else none

@[simp] theorem after?_append (p t : Text) : after? p (p ++ t) = some t := by
  induction p with
  | nil => rfl
  | cons a p ih => simp [after?, ih]

theorem after?_eq_some_iff {p t r : Text} : after? p t = some r ↔ t = p ++ r := by
  constructor
  · intro h
    induction p generalizing t with
    | nil => simpa [after?] using h
    | cons a p ih =>
      cases t with
      | nil => simp [after?] at h
      | cons c t =>
        by_cases hc : a = c
        · rw [after?, if_pos hc] at h
          rw [ih h, hc]
          rfl
        · simp [after?, hc] at h
  · rintro rfl
    exact after?_append p r

/-- A text that holds no lone surrogate. -/
def isWellFormed (t : Text) : Bool := t.all isScalar

/-- The decimal digits of a natural number, without leading zeros. -/
def ofNat (n : Nat) : Text := (Nat.toDigits 10 n).map Char.toNat

/-- An integer in decimal, with a minus sign if it is negative. -/
def ofInt (i : Int) : Text :=
  if i < 0 then '-'.toNat :: ofNat i.natAbs else ofNat i.natAbs

/-- Whether `t` begins with `p`. -/
def startsWith (t p : Text) : Bool := (after? p t).isSome

/-- Joins texts with a separator between neighbours. -/
def join (sep : Text) (ts : List Text) : Text := sep.intercalate ts

/-- What stands before the first `c` and what follows it. -/
def splitAt? (c : CodePoint) : Text → Option (Text × Text)
  | [] => none
  | d :: t => if d = c then some ([], t) else (splitAt? c t).map fun (a, b) => (d :: a, b)

theorem splitAt?_eq_some_iff {c : CodePoint} {t a b : Text} :
    splitAt? c t = some (a, b) ↔ t = a ++ c :: b ∧ c ∉ a := by
  induction t generalizing a with
  | nil => simp [splitAt?]
  | cons d t ih =>
    by_cases hd : d = c
    · subst hd
      cases a <;> simp [splitAt?]
      grind
    · cases a with
      | nil => simp [splitAt?, hd]
      | cons e a =>
        simp only [splitAt?, hd, if_false, Option.map_eq_some_iff, Prod.mk.injEq, Prod.exists]
        grind

theorem splitAt?_eq_none_iff {c : CodePoint} {t : Text} : splitAt? c t = none ↔ c ∉ t := by
  induction t with
  | nil => simp [splitAt?]
  | cons d t ih =>
    by_cases hd : d = c
    · simp [splitAt?, hd]
    · simp [splitAt?, hd, ih, eq_comm (a := c)]

/-- The parts of a text between the occurrences of `c`: one more than there are occurrences. -/
def splitOn (c : CodePoint) : Text → List Text
  | [] => [[]]
  | d :: t => if d = c then [] :: splitOn c t else (splitOn c t).modifyHead (d :: ·)

theorem length_splitOn (c : CodePoint) (t : Text) : (splitOn c t).length = t.count c + 1 := by
  induction t with
  | nil => rfl
  | cons d t ih => by_cases hd : d = c <;> simp [splitOn, hd, ih]

theorem splitOn_ne_nil (c : CodePoint) (t : Text) : splitOn c t ≠ [] := by
  intro h
  simpa [h] using length_splitOn c t

@[simp] theorem join_splitOn (c : CodePoint) (t : Text) : join [c] (splitOn c t) = t := by
  induction t with
  | nil => rfl
  | cons d t ih =>
    obtain ⟨p, ps, h⟩ := List.exists_cons_of_ne_nil (splitOn_ne_nil c t)
    rw [h] at ih
    by_cases hd : d = c
    · simpa [splitOn, hd, h, join, List.intercalate] using ih
    · cases ps <;> simpa [splitOn, hd, h, join, List.intercalate] using ih

/-- The string that a text spells, with the replacement character for what is no character. -/
def toString (t : Text) : String :=
  String.ofList (t.map fun c => if isScalar c then Char.ofNat c else Char.ofNat 0xFFFD)

end Text

/-- A text that is set: one that is there and not empty. -/
def setText? (slot : Option Text) : Option Text := slot.filter fun t => !t.isEmpty

end FilmQuery
