import FilmQuery.Number.Numeral
import FilmQuery.Proofs.Number.Digits
import FilmQuery.Proofs.Number.Nearest
import FilmQuery.Proofs.Text
import Mathlib.Tactic.FieldSimp

/-!
# Numerals are read

A number as it is written: a minus sign if it is negative, digits without leading zeros, perhaps
digits behind a point, and perhaps an exponent with its sign. Reading such a text gives the double
nearest to the number.
-/

namespace FilmQuery

/-! ## The value of digits -/

namespace Text

theorem decimalValue_concat (t : Text) (c : CodePoint) :
    decimalValue (t ++ [c]) = 10 * decimalValue t + (digitValue? c).getD 0 := by
  simp [decimalValue]

theorem decimalValue_append (s t : Text) :
    decimalValue (s ++ t) = decimalValue s * 10 ^ t.length + decimalValue t := by
  induction t using List.reverseRecOn with
  | nil => simp [decimalValue]
  | append_singleton t c ih =>
      rw [← List.append_assoc, decimalValue_concat, decimalValue_concat, ih, List.length_append,
        List.length_singleton, pow_succ]
      ring

theorem decimalValue_zeros (k : ℕ) :
    decimalValue (List.replicate k '0'.toNat) = 0 := by
  induction k with
  | zero => rfl
  | succ k ih => rw [List.replicate_succ', decimalValue_concat, ih]; rfl

/-- The digits of a number stand for it. -/
theorem decimalValue_ofNat (n : ℕ) : decimalValue (ofNat n) = n := by
  have hdigit : ∀ d < 10, decimalValue (ofNat d) = d := by decide
  induction n using Nat.strongRecOn with
  | ind n ih =>
      by_cases hsmall : n < 10
      · exact hdigit n hsmall
      · have hmod : n % 10 < 10 := Nat.mod_lt n (by decide)
        rw [ofNat_of_ten_le (Nat.le_of_not_lt hsmall), decimalValue_append, ih (n / 10) (by omega),
          hdigit _ hmod, ofNat_of_lt_ten hmod]
        simp only [List.length_singleton]
        omega

end Text

/-! ## Numbers as they are written -/

/-- A number in its parts: whether there is a minus sign in front, the digits in front of the point,
those behind it, and the exponent by whether it is negative and by its digits. -/
structure NumberText where
  negative : Bool
  whole : Text
  fraction : Text
  scale : Option (Bool × Text)

namespace NumberText

/-- A sign that is written only in front of negative numbers. -/
def minus (negative : Bool) : Text := if negative then lit "-" else []

/-- The exponent, which has a sign always. -/
def scaleText : Option (Bool × Text) → Text
  | some (negative, ds) => lit "e" ++ (if negative then lit "-" else lit "+") ++ ds
  | none => []

/-- The number without its sign. -/
def magnitudeText (n : NumberText) : Text :=
  n.whole ++ (if n.fraction = [] then [] else '.'.toNat :: n.fraction) ++ scaleText n.scale

/-- How the number is written; there is a point only in front of digits. -/
def text (n : NumberText) : Text := minus n.negative ++ n.magnitudeText

/-- The parts are as a number literal has them. -/
structure IsNumber (n : NumberText) : Prop where
  whole_ne_nil : n.whole ≠ []
  whole : ∀ c ∈ n.whole, isAsciiDigit c = true
  no_leading_zero : n.whole.head? = some '0'.toNat → n.whole = lit "0"
  fraction : ∀ c ∈ n.fraction, isAsciiDigit c = true
  scale_ne_nil : ∀ s ∈ n.scale, s.2 ≠ []
  scale : ∀ s ∈ n.scale, ∀ c ∈ s.2, isAsciiDigit c = true

/-- The power of ten by which the digits are scaled. -/
def exponent (n : NumberText) : ℤ :=
  match n.scale with
  | some (negative, ds) => (if negative then -1 else 1) * (Text.decimalValue ds : ℤ)
  | none => 0

/-- The number without its sign that the parts stand for. -/
def magnitude (n : NumberText) : ℚ :=
  (Text.decimalValue n.whole + Text.decimalValue n.fraction / 10 ^ n.fraction.length) *
    10 ^ n.exponent

/-- The number that the parts stand for. -/
def value (n : NumberText) : ℚ := Binary64.signFactor n.negative * n.magnitude

/-- All digits in front of the exponent, as one number. -/
def coefficient (n : NumberText) : ℕ := Text.decimalValue (n.whole ++ n.fraction)

theorem magnitude_eq (n : NumberText) :
    n.magnitude = n.coefficient * 10 ^ (n.exponent - n.fraction.length) := by
  rw [magnitude, coefficient, Text.decimalValue_append, zpow_sub₀ (by norm_num), zpow_natCast]
  push_cast
  field_simp

variable {n : NumberText}

/-- A number is written with digits and with four other characters, all of them in ASCII. -/
theorem IsNumber.mem_text (h : n.IsNumber) {c : CodePoint} (hc : c ∈ n.text) :
    isAsciiDigit c = true ∨ c ∈ lit "-+.e" := by
  have hscale : ∀ c ∈ scaleText n.scale, isAsciiDigit c = true ∨ c ∈ lit "-+.e" := by
    cases hs : n.scale with
    | none => simp [scaleText]
    | some s =>
        have hdigits := h.scale s hs
        intro c hc
        rw [scaleText, List.mem_append, List.mem_append] at hc
        rcases hc with (hc | hc) | hc
        · obtain rfl : c = 'e'.toNat := List.mem_singleton.1 hc
          exact Or.inr (by decide)
        · right
          split at hc
          · obtain rfl : c = '-'.toNat := List.mem_singleton.1 hc
            decide
          · obtain rfl : c = '+'.toNat := List.mem_singleton.1 hc
            decide
        · exact Or.inl (hdigits c hc)
  rw [text, magnitudeText, List.mem_append, List.mem_append, List.mem_append] at hc
  rcases hc with hc | (hc | hc) | hc
  · right
    unfold minus at hc
    split at hc
    · obtain rfl : c = '-'.toNat := List.mem_singleton.1 hc
      decide
    · cases hc
  · exact Or.inl (h.whole c hc)
  · split at hc
    · cases hc
    · rcases List.mem_cons.1 hc with rfl | hc
      · exact Or.inr (by decide)
      · exact Or.inl (h.fraction c hc)
  · exact hscale c hc

theorem IsNumber.exists_magnitudeText_eq_cons (h : n.IsNumber) :
    ∃ d t, n.magnitudeText = d :: t ∧ isAsciiDigit d = true := by
  obtain ⟨d, ds, hds⟩ := List.exists_cons_of_ne_nil h.whole_ne_nil
  have hd : isAsciiDigit d = true := h.whole d (hds ▸ List.mem_cons_self)
  rw [magnitudeText, hds, List.append_assoc, List.cons_append]
  exact ⟨d, _, rfl, hd⟩

end NumberText

/-! ## Reading -/

namespace Numeral

/-- Texts in ASCII are plain. -/
theorem plain_of_isAscii {t : Text} (ht : t.IsAscii) : plain t = t := by
  rw [plain]
  conv_rhs => rw [← List.map_id t]
  exact List.map_congr_left fun c hc => if_pos (ht c hc)

/-- Without low lines nothing is dropped. -/
theorem ungroup?_of_not_mem {t : Text} (ht : '_'.toNat ∉ t) : ∀ {before : Option CodePoint},
    before ≠ some '_'.toNat → ungroup? before t = some t := by
  induction t with
  | nil => exact fun hbefore => if_neg hbefore
  | cons c t ih =>
      intro before hbefore
      rw [List.mem_cons, not_or] at ht
      have hc : c ≠ '_'.toNat := Ne.symm ht.1
      have hrest : ungroup? (some c) t = some t := ih ht.2 fun heq => hc (Option.some.inj heq)
      rw [ungroup?, if_neg hc, decide_eq_false hbefore, Bool.false_and, if_neg Bool.false_ne_true,
        hrest, Option.map_some]

/-- A text of digits and signs is read as it stands. -/
theorem readReal?_eq_real? {t : Text} (ht : ∀ c ∈ t, isAsciiDigit c = true ∨ c ∈ lit "-+.e") :
    readReal? t = real? t := by
  have hclass : ∀ c ∈ t, c < 0x80 ∧ isWhite c = false ∧ c ≠ '_'.toNat := by
    have hall : ∀ c < 0x80, isAsciiDigit c = true ∨ c ∈ lit "-+.e" →
        isWhite c = false ∧ c ≠ '_'.toNat := by decide
    intro c hc
    have hascii : c < 0x80 := by
      rcases ht c hc with hdigit | hsign
      · have hrange : 48 ≤ c ∧ c ≤ 57 := by simpa [isAsciiDigit] using hdigit
        exact hrange.2.trans_lt (by decide)
      · have hall : ∀ d ∈ lit "-+.e", d < 0x80 := by decide
        exact hall c hsign
    exact ⟨hascii, hall c hascii (ht c hc)⟩
  have htrim : Text.trim isWhite t = t := by
    refine Text.trim_eq_iff.2 ⟨[], [], by simp, by simp, by simp, ?_, ?_⟩
    · cases hhead : t.head? with
      | none => rfl
      | some c => exact (hclass c (List.mem_of_mem_head? hhead)).2.1
    · cases hlast : t.getLast? with
      | none => rfl
      | some c => exact (hclass c (List.mem_of_mem_getLast? hlast)).2.1
  rw [readReal?, plain_of_isAscii fun c hc => (hclass c hc).1, htrim,
    ungroup?_of_not_mem (fun hmem => (hclass _ hmem).2.2 rfl) (by simp), Option.bind_some]

/-- What begins with a digit has no sign and is no name. -/
theorem real?_of_digit {d : CodePoint} (hd : isAsciiDigit d = true) (t : Text) :
    real? (d :: t) = decimal? false (d :: t) ∧
      real? ('-'.toNat :: d :: t) = decimal? true (d :: t) := by
  have hrange : 48 ≤ d ∧ d ≤ 57 := by simpa [isAsciiDigit] using hd
  have hsign : sign (d :: t) = (false, d :: t) := by
    have hminus : d ≠ '-'.toNat := by rintro rfl; exact absurd hd (by decide)
    have hplus : d ≠ '+'.toNat := by rintro rfl; exact absurd hd (by decide)
    rw [sign, if_neg hminus, if_neg hplus]
  have hlower : (if isUpperAscii d then d + 0x20 else d) = d := by
    have hall : ∀ d < 58, 48 ≤ d → isUpperAscii d = false := by decide
    rw [hall d (Nat.lt_succ_of_le hrange.2) hrange.1]
    rfl
  have hname : ∀ s : Text, s.head?.any isAsciiDigit = false →
      (d :: t).map (fun c => if isUpperAscii c then c + 0x20 else c) ≠ s := by
    rintro s hs rfl
    rw [List.map_cons, hlower, List.head?_cons, Option.any_some, hd] at hs
    exact Bool.noConfusion hs
  have hinf := hname (lit "inf") (by decide)
  have hinfinity := hname (lit "infinity") (by decide)
  have hnan := hname (lit "nan") (by decide)
  constructor
  · simp only [real?, hsign]
    rw [if_neg (not_or.2 ⟨hinf, hinfinity⟩), if_neg hnan]
  · have hnegative : sign ('-'.toNat :: d :: t) = (true, d :: t) := rfl
    simp only [real?, hnegative]
    rw [if_neg (not_or.2 ⟨hinf, hinfinity⟩), if_neg hnan]

theorem digits_append {ds : Text} (rest : Text) (hds : ∀ c ∈ ds, isAsciiDigit c = true)
    (hrest : rest.head?.any isAsciiDigit = false) : digits (ds ++ rest) = (ds, rest) :=
  Text.span_eq_iff.2 ⟨rfl, hds, hrest⟩

theorem exponent?_scaleText {n : NumberText} (hn : n.IsNumber) :
    exponent? (NumberText.scaleText n.scale) = some n.exponent := by
  cases hscale : n.scale with
  | none => simp [NumberText.scaleText, NumberText.exponent, hscale, exponent?]
  | some s =>
      obtain ⟨negative, ds⟩ := s
      have hne : ds ≠ [] := hn.scale_ne_nil _ hscale
      have hdigits : digits ds = (ds, []) := by
        simpa using digits_append [] (hn.scale _ hscale) rfl
      have hsign : sign ((if negative then lit "-" else lit "+") ++ ds) = (negative, ds) := by
        cases negative <;> rfl
      have htext : NumberText.scaleText (some (negative, ds)) =
          'e'.toNat :: ((if negative then lit "-" else lit "+") ++ ds) := rfl
      rw [htext, exponent?, if_pos (Or.inl rfl)]
      simp only [hsign, hdigits, NumberText.exponent, hscale]
      cases negative <;> simp [hne]

theorem decimal?_magnitudeText (negative : Bool) {n : NumberText} (hn : n.IsNumber) :
    decimal? negative n.magnitudeText =
      some (.ofDecimal negative n.coefficient (n.exponent - n.fraction.length)) := by
  have hscale : (NumberText.scaleText n.scale).head?.any isAsciiDigit = false := by
    cases n.scale <;> rfl
  have hpoint : ∀ t, NumberText.scaleText n.scale ≠ '.'.toNat :: t := by
    intro t
    cases n.scale with
    | none => exact (List.cons_ne_nil _ t).symm
    | some s => exact fun heq => absurd (List.cons.inj heq).1 (by decide)
  have hexponent := exponent?_scaleText hn
  have hcoefficient : n.coefficient = Text.decimalValue (n.whole ++ n.fraction) := rfl
  unfold NumberText.magnitudeText
  split
  · next hfraction =>
    have hwhole := digits_append _ hn.whole hscale
    rw [List.append_nil, decimal?, hwhole, hcoefficient, hfraction]
    cases htail : NumberText.scaleText n.scale with
    | nil => simp [htail ▸ hexponent, hn.whole_ne_nil]
    | cons c t =>
        have hc : c ≠ '.'.toNat := by
          rintro rfl
          exact hpoint t htail
        simp only [if_neg hc]
        simp [htail ▸ hexponent, hn.whole_ne_nil]
  · have hwhole := digits_append ('.'.toNat :: n.fraction ++ NumberText.scaleText n.scale)
      hn.whole rfl
    have hfraction := digits_append _ hn.fraction hscale
    rw [List.append_assoc, decimal?, hwhole, hcoefficient]
    simp only [List.cons_append, if_true, hfraction]
    simp [hexponent, hn.whole_ne_nil]

/-- **A number is read as the double of its digits.** -/
theorem readReal?_text {n : NumberText} (hn : n.IsNumber) :
    readReal? n.text =
      some (.ofDecimal n.negative n.coefficient (n.exponent - n.fraction.length)) := by
  rw [readReal?_eq_real? fun c hc => hn.mem_text hc, ← decimal?_magnitudeText n.negative hn,
    NumberText.text]
  obtain ⟨d, t, htext, hd⟩ := hn.exists_magnitudeText_eq_cons
  obtain ⟨hpositive, hnegative⟩ := real?_of_digit hd t
  rw [htext]
  cases n.negative with
  | false => exact hpositive
  | true => exact hnegative

end Numeral

end FilmQuery
