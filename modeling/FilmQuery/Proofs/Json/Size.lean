import FilmQuery.Bytes.Wide
import FilmQuery.Proofs.Json.Depth
import FilmQuery.Proofs.Text

/-!
# Texts that are too large to be read

The reader refuses a text for its size, and not for what it says, in two cases: too many containers
are open at once, or an integer has more digits than are converted. A number with a fraction or an
exponent is a double and is read however long it is. Both cases count only as far as the reader
comes, so a text with a fault in front of them is malformed.
-/

namespace FilmQuery

namespace Json

def Stop.isSize : Stop → Prop
  | malformed .. => False
  | digits _ | tooDeep => True

def DecodeError.isSize : DecodeError → Prop
  | malformed .. => False
  | digits _ | tooDeep => True

/-- A fraction or an exponent begins here, which makes a double of the number in front. -/
def RealPart (t : Text) : Prop :=
  (∃ d r, t = '.'.toNat :: d :: r ∧ isAsciiDigit d = true) ∨
    ∃ mark sign d r, t = mark :: (sign ++ d :: r) ∧ (mark = 'e'.toNat ∨ mark = 'E'.toNat) ∧
      (sign = [] ∨ sign = lit "+" ∨ sign = lit "-") ∧ isAsciiDigit d = true

/-- The digits `ds` of an integer, too many to be converted, stand at the beginning of `t`. -/
def LongDigits (t ds rest : Text) : Prop :=
  t = ds ++ rest ∧ (∀ c ∈ ds, isAsciiDigit c = true) ∧ ds.head? ≠ some '0'.toNat ∧
    maxDigits < ds.length ∧ rest.head?.any isAsciiDigit = false ∧ ¬RealPart rest

theorem LongDigits.exists_eq_cons {t ds rest : Text} (h : LongDigits t ds rest) :
    ∃ d r, t = d :: r ∧ isAsciiDigit d = true := by
  obtain ⟨rfl, hdigits, -, hlong, -⟩ := h
  cases ds with
  | nil => simp at hlong
  | cons d ds => exact ⟨d, ds ++ rest, rfl, hdigits d List.mem_cons_self⟩

/-- An integer with too many digits stands at the beginning of a text. -/
def LongInteger (t : Text) : Prop :=
  ∃ sign s ds rest, t = sign ++ s ∧ (sign = [] ∨ sign = lit "-") ∧ LongDigits s ds rest

/-! ## The parts of a number -/

theorem span_fst_ne_nil_iff {p : CodePoint → Bool} {t : Text} :
    (t.span p).1 ≠ [] ↔ ∃ d r, t = d :: r ∧ p d = true := by
  rw [List.span_eq_takeWhile_dropWhile]
  cases t with
  | nil => simp
  | cons c t => by_cases hc : p c = true <;> simp [hc]

theorem fractionPart_eq_none_iff {t : Text} :
    (fractionPart t).1 = none ↔ ¬∃ d r, t = '.'.toNat :: d :: r ∧ isAsciiDigit d = true := by
  cases t with
  | nil => simp [fractionPart]
  | cons c t =>
      have hdigits : (t.span isAsciiDigit).1 ≠ [] ↔ _ := span_fst_ne_nil_iff
      have hpoint : (∃ d r, c :: t = '.'.toNat :: d :: r ∧ isAsciiDigit d = true) ↔
          c = '.'.toNat ∧ ∃ d r, t = d :: r ∧ isAsciiDigit d = true := by
        simp only [List.cons.injEq, and_assoc, exists_and_left]
      rw [hpoint, ← hdigits, fractionPart]
      dsimp only
      split
      · next h => simpa using h
      · next h => simpa using h

theorem fractionPart_rest {t : Text} (h : (fractionPart t).1 = none) : (fractionPart t).2 = t := by
  cases t with
  | nil => rfl
  | cons c t =>
      rw [fractionPart] at h ⊢
      dsimp only at h ⊢
      split at h
      · cases h
      · next hc => rw [if_neg hc]

/-- Behind an optional sign stands a digit. -/
theorem sign_eq_cons_iff {t r : Text} {d : CodePoint} (hd : isAsciiDigit d = true) :
    (Numeral.sign t).2 = d :: r ↔
      ∃ sign, t = sign ++ d :: r ∧ (sign = [] ∨ sign = lit "+" ∨ sign = lit "-") := by
  have hminus : d ≠ '-'.toNat := by rintro rfl; exact absurd hd (by decide)
  have hplus : d ≠ '+'.toNat := by rintro rfl; exact absurd hd (by decide)
  constructor
  · intro h
    cases t with
    | nil => cases h
    | cons c t =>
        rw [Numeral.sign] at h
        split at h
        · next hc => exact ⟨lit "-", by rw [hc, ← h]; rfl, by simp⟩
        · split at h
          · next hc => exact ⟨lit "+", by rw [hc, ← h]; rfl, by simp⟩
          · exact ⟨[], h, by simp⟩
  · rintro ⟨sign, rfl, rfl | rfl | rfl⟩
    · simp only [List.nil_append, Numeral.sign, if_neg hminus, if_neg hplus]
    · rfl
    · rfl

theorem exponentPart_eq_none_iff {t : Text} :
    (exponentPart t).1 = none ↔
      ¬∃ mark sign d r, t = mark :: (sign ++ d :: r) ∧ (mark = 'e'.toNat ∨ mark = 'E'.toNat) ∧
        (sign = [] ∨ sign = lit "+" ∨ sign = lit "-") ∧ isAsciiDigit d = true := by
  cases t with
  | nil => simp [exponentPart]
  | cons c t =>
      have hdigits : ((Numeral.sign t).2.span isAsciiDigit).1 ≠ [] ↔ _ := span_fst_ne_nil_iff
      have hmark : (∃ mark sign d r, c :: t = mark :: (sign ++ d :: r) ∧
            (mark = 'e'.toNat ∨ mark = 'E'.toNat) ∧
            (sign = [] ∨ sign = lit "+" ∨ sign = lit "-") ∧ isAsciiDigit d = true) ↔
          (c = 'e'.toNat ∨ c = 'E'.toNat) ∧
            ∃ d r, (Numeral.sign t).2 = d :: r ∧ isAsciiDigit d = true := by
        constructor
        · rintro ⟨mark, sign, d, r, heq, hmark, hsign, hd⟩
          obtain ⟨rfl, rfl⟩ := List.cons.inj heq
          exact ⟨hmark, d, r, (sign_eq_cons_iff hd).2 ⟨sign, rfl, hsign⟩, hd⟩
        · rintro ⟨hmark, d, r, heq, hd⟩
          obtain ⟨sign, rfl, hsign⟩ := (sign_eq_cons_iff hd).1 heq
          exact ⟨c, sign, d, r, rfl, hmark, hsign, hd⟩
      rw [hmark, ← hdigits, exponentPart]
      dsimp only
      split
      · next h => simpa using h
      · next h => simpa using h

/-- A number has neither fraction nor exponent exactly where nothing that makes it real follows. -/
theorem realPart_iff {t : Text} :
    ¬RealPart t ↔
      (fractionPart t).1 = none ∧ (exponentPart (fractionPart t).2).1 = none := by
  rw [RealPart, not_or, ← fractionPart_eq_none_iff, ← exponentPart_eq_none_iff]
  apply and_congr_right
  intro h
  rw [fractionPart_rest h]

/-- Digits too many to be converted are the integer part of a number unless a zero leads them. -/
theorem wholePart_long_iff {t ds rest : Text} :
    wholePart t = (ds, rest) ∧ maxDigits < ds.length ↔
      t = ds ++ rest ∧ (∀ c ∈ ds, isAsciiDigit c = true) ∧ ds.head? ≠ some '0'.toNat ∧
        maxDigits < ds.length ∧ rest.head?.any isAsciiDigit = false := by
  have hshort : ∀ u : Text, u.length ≤ 1 → ¬maxDigits < u.length := by
    intro u hu
    simp only [maxDigits]
    omega
  constructor
  · rintro ⟨h, hlong⟩
    cases t with
    | nil =>
        cases h
        exact absurd hlong (hshort [] (by simp))
    | cons c t =>
        rw [wholePart] at h
        split at h
        · cases h
          exact absurd hlong (hshort [c] (by simp))
        · next hzero =>
          split at h
          · obtain ⟨heq, hdigits, hrest⟩ := Text.span_eq_iff.1 h
            refine ⟨heq, hdigits, ?_, hlong, hrest⟩
            cases ds with
            | nil => simp
            | cons d ds =>
                obtain ⟨rfl, -⟩ := List.cons.inj heq
                simpa using hzero
          · cases h
            exact absurd hlong (hshort [] (by simp))
  · rintro ⟨rfl, hdigits, hhead, hlong, hrest⟩
    cases ds with
    | nil => exact absurd hlong (hshort [] (by simp))
    | cons d ds =>
        have hzero : d ≠ '0'.toNat := by simpa using hhead
        have hspan : (d :: ds ++ rest).span isAsciiDigit = (d :: ds, rest) :=
          Text.span_eq_iff.2 ⟨rfl, hdigits, hrest⟩
        refine ⟨?_, hlong⟩
        rw [← hspan, List.cons_append, wholePart, if_neg hzero,
          if_pos (hdigits d List.mem_cons_self)]

/-! ## Refusals for size -/

theorem longDigits_iff {t : Text} :
    (∃ ds rest, LongDigits t ds rest) ↔
      maxDigits < (wholePart t).1.length ∧ ¬RealPart (wholePart t).2 := by
  constructor
  · rintro ⟨ds, rest, heq, hdigits, hhead, hlong, hrest, hreal⟩
    obtain ⟨hwhole, -⟩ := wholePart_long_iff.2 ⟨heq, hdigits, hhead, hlong, hrest⟩
    rw [hwhole]
    exact ⟨hlong, hreal⟩
  · rintro ⟨hlong, hreal⟩
    obtain ⟨heq, hdigits, hhead, -, hrest⟩ := wholePart_long_iff.1 ⟨rfl, hlong⟩
    exact ⟨_, _, heq, hdigits, hhead, hlong, hrest, hreal⟩

/-- A number is refused for its size where an integer with too many digits follows its sign. -/
theorem failsWith_numeral_iff {t s : Text}
    (h : s = t ∧ t.head? ≠ some '-'.toNat ∨ t = '-'.toNat :: s) :
    FailsWith Stop.isSize (numeral t) ↔ ∃ ds rest, LongDigits s ds rest := by
  rw [longDigits_iff, realPart_iff]
  have hempty : maxDigits < (wholePart s).1.length → (wholePart s).1.isEmpty = false := by
    intro hlong
    rw [List.isEmpty_eq_false_iff]
    intro hnil
    simp [hnil] at hlong
  rcases h with ⟨rfl, hminus⟩ | rfl
  · cases s with
    | nil => simp [numeral, wholePart, Stop.isSize]
    | cons c r =>
        have hc : c ≠ '-'.toNat := by simpa using hminus
        simp only [numeral, if_neg hc]
        split_ifs <;> simp_all [Stop.isSize]
  · simp only [numeral, if_true]
    split_ifs <;> simp_all [Stop.isSize]

/-- No word begins with a digit, or with a minus sign and a digit. -/
theorem scalar_of_digit {sign r : Text} {d : Nat} (hsign : sign = [] ∨ sign = lit "-")
    (hd : isAsciiDigit d = true) : scalar (sign ++ d :: r) = numeral (sign ++ d :: r) := by
  have hrange : 48 ≤ d ∧ d ≤ 57 := by simpa [isAsciiDigit] using hd
  have hother : ∀ c : Nat, c < 48 ∨ 57 < c → c ≠ d := by omega
  have hwords : ∀ word ∈ wordValues, Text.after? word.1 (sign ++ d :: r) = none := by
    rcases hsign with rfl | rfl
    · simp [wordValues, Text.after?, lit, hother]
    · simp [wordValues, Text.after?, lit, hother]
  unfold scalar
  split
  · next found heq =>
    obtain ⟨word, hmem, hword⟩ := List.exists_of_findSome?_eq_some heq
    dsimp only at hword
    rw [hwords word hmem] at hword
    cases hword
  · rfl

theorem failsWith_scalar_iff {t : Text} : FailsWith Stop.isSize (scalar t) ↔ LongInteger t := by
  constructor
  · intro h
    unfold scalar at h
    split at h
    · exact absurd h (not_failsWith_ok _)
    · by_cases hminus : t.head? = some '-'.toNat
      · obtain ⟨s, rfl⟩ := List.head?_eq_some_iff.1 hminus
        obtain ⟨ds, rest, hlong⟩ := (failsWith_numeral_iff (Or.inr rfl)).1 h
        exact ⟨lit "-", s, ds, rest, rfl, Or.inr rfl, hlong⟩
      · obtain ⟨ds, rest, hlong⟩ := (failsWith_numeral_iff (Or.inl ⟨rfl, hminus⟩)).1 h
        exact ⟨[], t, ds, rest, rfl, Or.inl rfl, hlong⟩
  · rintro ⟨sign, s, ds, rest, rfl, hsign, hlong⟩
    obtain ⟨d, r, rfl, hd⟩ := hlong.exists_eq_cons
    have hminus : d ≠ '-'.toNat := by rintro rfl; exact absurd hd (by decide)
    rw [scalar_of_digit hsign hd]
    rcases hsign with rfl | rfl
    · exact (failsWith_numeral_iff (Or.inl ⟨rfl, by simpa using hminus⟩)).2 ⟨ds, rest, hlong⟩
    · exact (failsWith_numeral_iff (Or.inr rfl)).2 ⟨ds, rest, hlong⟩

/-- The reader comes to an integer with too many digits. -/
def HoldsLongInteger (t : Text) : Prop := ∃ u, ComesTo (skipSpace t) u ∧ LongInteger u

/-- Too large to be read with `depth` levels, if not malformed before it comes to that. -/
def TooLarge (depth : Nat) (t : Text) : Prop := NestsTooDeep depth t ∨ HoldsLongInteger t

/-- A text is refused for its size exactly where it nests too deeply or holds a long integer. -/
theorem failsWith_decode_iff {t : Text} {depth : Nat} :
    FailsWith DecodeError.isSize (decode t depth) ↔ TooLarge depth t := by
  have hdocument : FailsWith DecodeError.isSize (decode t depth) ↔
      FailsWith Stop.isSize (document t depth) := by
    unfold decode
    split <;> simp_all [Stop.isSize, DecodeError.isSize]
  rw [hdocument, failsWith_document_iff (fun _ _ => id),
    failsWith_value_iff (fun _ _ => id) trivial]
  simp only [failsWith_scalar_iff]
  exact Iff.rfl

/-! ## Documents -/

end Json

def DocumentError.isSize : DocumentError → Prop
  | illFormed => False
  | digits _ | tooDeep => True

namespace Json

/-- The text of a document, if its bytes are well-formed. -/
def textOf? (bs : Bytes) : Option Text := (Encoding.detect bs).1.decode? (Encoding.detect bs).2

theorem failsWith_ofBytes_iff {bs : Bytes} {depth : Nat} :
    FailsWith DocumentError.isSize (ofBytes bs depth) ↔
      ∃ t, textOf? bs = some t ∧ TooLarge depth t := by
  unfold ofBytes textOf?
  dsimp only
  cases (Encoding.detect bs).1.decode? (Encoding.detect bs).2 with
  | none => simp [DocumentError.isSize]
  | some t =>
      simp only [Option.some.injEq, exists_eq_left', ← failsWith_decode_iff]
      cases decode t depth with
      | ok j => simp
      | error e => cases e <;> simp [DocumentError.isSize, DecodeError.isSize]

end Json

end FilmQuery
