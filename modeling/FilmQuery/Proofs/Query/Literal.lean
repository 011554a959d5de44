import FilmQuery.Json.Finite
import FilmQuery.Proofs.GraphQL.NumberLiteral
import FilmQuery.Proofs.Number.Numeral
import FilmQuery.Proofs.Number.Shortest

/-!
# Number literals are lossless

The literal of a finite double is a number as it is written in a query, and it is read back as the
same double. An integer is written in full; every other double is written with its shortest digits,
in positional notation or with an exponent.
-/

namespace FilmQuery

open NumberText (minus)

namespace Binary64

variable {x : Binary64} {m : ℕ} {q : ℤ}

/-! ## Integers -/

theorem toRat_finite_eq (negative : Bool) (m : ℕ) (q : ℤ) :
    toRat (finite negative m q) =
      signFactor negative * (((m * 2 ^ q.toNat : ℕ) : ℚ) / (2 ^ (-q).toNat : ℕ)) := by
  rw [toRat_finite]
  obtain ⟨k, rfl | rfl⟩ := q.eq_nat_or_neg
  · simp
  · simp [div_eq_mul_inv]

theorem magnitude_of_toRat_eq {negative : Bool} {i : ℤ} (hi : toRat (finite negative m q) = i) :
    m * 2 ^ q.toNat = i.natAbs * 2 ^ (-q).toNat := by
  have habs := congrArg abs hi
  rw [toRat_finite_eq, abs_mul, abs_signFactor, one_mul,
    abs_of_nonneg (by positivity : (0 : ℚ) ≤ _ / _), div_eq_iff (by positivity),
    ← Int.cast_abs, Int.abs_eq_natAbs] at habs
  exact_mod_cast habs

/-- The sign of an integer is that of the double; zero may have either. -/
theorem sign_of_toRat_eq {negative : Bool} {i : ℤ} (hi : toRat (finite negative m q) = i) :
    (if negative then -(i.natAbs : ℤ) else i.natAbs) = i := by
  have hnonneg : (0 : ℚ) ≤ m * 2 ^ q := by positivity
  rw [toRat_finite] at hi
  cases negative with
  | false =>
      rw [signFactor_false, one_mul] at hi
      have hi' : 0 ≤ i := by exact_mod_cast hi ▸ hnonneg
      simpa using hi'
  | true =>
      rw [signFactor_true, neg_one_mul] at hi
      have hi' : i ≤ 0 := by exact_mod_cast hi ▸ neg_nonpos.2 hnonneg
      simp only [if_true]
      omega

/-- A double that is an integer is its own integer part. -/
theorem truncate?_of_toRat_eq (hfinite : x.isFinite = true) {i : ℤ} (hi : x.toRat = i) :
    x.isIntegral = true ∧ x.truncate? = some i := by
  cases x with
  | infinite _ => cases hfinite
  | nan => cases hfinite
  | finite negative m q =>
      have hmagnitude := magnitude_of_toRat_eq hi
      have hintegral : m % 2 ^ (-q).toNat = 0 := by
        rcases le_total 0 q with hq | hq
        · rw [Int.toNat_of_nonpos (neg_nonpos.2 hq), pow_zero, Nat.mod_one]
        · rw [Int.toNat_of_nonpos hq, pow_zero, mul_one] at hmagnitude
          rw [hmagnitude, Nat.mul_mod_left]
      have hquotient : m * 2 ^ q.toNat / 2 ^ (-q).toNat = i.natAbs := by
        rw [hmagnitude, Nat.mul_div_cancel _ (Nat.two_pow_pos _)]
      simp only [isIntegral, truncate?, Nat.pow_eq, hintegral, hquotient, sign_of_toRat_eq hi,
        beq_self_eq_true, and_self]

/-- What counts as an integer is one. -/
theorem exists_toRat_eq_of_isIntegral (h : x.isIntegral = true) : ∃ i : ℤ, x.toRat = i := by
  cases x with
  | infinite _ => cases h
  | nan => cases h
  | finite negative m q =>
      have hdvd : 2 ^ (-q).toNat ∣ m * 2 ^ q.toNat :=
        (Nat.dvd_of_mod_eq_zero (by simpa [isIntegral] using h)).mul_right _
      obtain ⟨k, hk⟩ := hdvd
      refine ⟨(if negative then -1 else 1) * k, ?_⟩
      rw [toRat_finite_eq, hk, Nat.cast_mul, mul_div_cancel_left₀ _ (by positivity)]
      cases negative <;> simp

/-- An integer is written in full, zero without its sign. -/
theorem literal_of_toRat_eq (hfinite : x.isFinite = true) {i : ℤ} (hi : x.toRat = i) :
    x.literal = Text.ofInt i := by
  obtain ⟨hintegral, htruncate⟩ := truncate?_of_toRat_eq hfinite hi
  rw [literal, if_pos hintegral, htruncate, Option.getD_some]

end Binary64

/-! ## The parts of a literal -/

namespace NumberText

/-- An integer, which has neither a point nor an exponent. -/
def ofInt (i : ℤ) : NumberText := ⟨i < 0, Text.ofNat i.natAbs, [], none⟩

theorem isNumber_ofInt (i : ℤ) : (ofInt i).IsNumber where
  whole_ne_nil := Text.ofNat_ne_nil _
  whole _ := Text.isAsciiDigit_of_mem_ofNat
  no_leading_zero := fun hzero => by
    rcases Nat.eq_zero_or_pos i.natAbs with hi | hi
    · simp only [ofInt, hi, Text.ofNat_zero]
    · obtain ⟨d, ds, hds, hd⟩ := Text.exists_ofNat_eq_cons hi
      simp only [ofInt, hds, List.head?_cons, Option.some.injEq] at hzero
      exact absurd hzero hd
  fraction := by simp [ofInt]
  scale_ne_nil := by simp [ofInt]
  scale := by simp [ofInt]

theorem text_ofInt (i : ℤ) : (ofInt i).text = Text.ofInt i := by
  rw [text, magnitudeText, Text.ofInt]
  simp only [ofInt, minus, scaleText, decide_eq_true_eq, if_true, List.append_nil]
  split_ifs <;> rfl

theorem value_ofInt (i : ℤ) : (ofInt i).value = i := by
  have hempty : Text.decimalValue [] = 0 := rfl
  have hmagnitude : (ofInt i).magnitude = |(i : ℚ)| := by
    rw [← Int.cast_abs, Int.abs_eq_natAbs]
    simp [magnitude, ofInt, exponent, Text.decimalValue_ofNat, hempty]
  rw [value, hmagnitude]
  rcases le_or_gt 0 i with hi | hi
  · have hi' : (0 : ℚ) ≤ i := by exact_mod_cast hi
    rw [abs_of_nonneg hi', show (ofInt i).negative = false from decide_eq_false (not_lt_of_ge hi),
      Binary64.signFactor_false, one_mul]
  · have hi' : (i : ℚ) < 0 := by exact_mod_cast hi
    rw [abs_of_neg hi', show (ofInt i).negative = true from decide_eq_true hi,
      Binary64.signFactor_true, neg_one_mul, neg_neg]

/-- A text is a number literal that stands for `r`. -/
def Spells (t : Text) (r : ℚ) : Prop := ∃ n : NumberText, n.IsNumber ∧ n.text = t ∧ n.value = r

theorem spells_ofInt (i : ℤ) : Spells (Text.ofInt i) i :=
  ⟨ofInt i, isNumber_ofInt i, text_ofInt i, value_ofInt i⟩

variable {d : ℕ}

/-- What the digits stand for, by their value and the place of the point. -/
theorem value_eq_of_coefficient {n : NumberText} {k : ℤ} (hcoefficient : n.coefficient = d)
    (hk : n.exponent - n.fraction.length = k) :
    n.value = Binary64.signFactor n.negative * (d * 10 ^ k) := by
  rw [value, magnitude_eq, hcoefficient, hk]

/-- Digits behind a point, with zeros in front of them. -/
theorem spells_fraction (negative : Bool) (d k : ℕ) :
    Spells (minus negative ++ (lit "0." ++ List.replicate k '0'.toNat ++ Text.ofNat d))
      (Binary64.signFactor negative * (d * 10 ^ (-(k + (Text.ofNat d).length : ℕ) : ℤ))) := by
  have hne : List.replicate k '0'.toNat ++ Text.ofNat d ≠ [] :=
    List.append_ne_nil_of_right_ne_nil _ (Text.ofNat_ne_nil d)
  refine ⟨⟨negative, lit "0", List.replicate k '0'.toNat ++ Text.ofNat d, none⟩, ?_, ?_,
    value_eq_of_coefficient ?_ ?_⟩
  · exact
      { whole_ne_nil := List.cons_ne_nil _ _
        whole := fun c hc => by rw [List.mem_singleton.1 hc]; rfl
        no_leading_zero := fun _ => rfl
        fraction := List.forall_mem_append.2
          ⟨GraphQL.NumberState.digits_replicate k, fun c => Text.isAsciiDigit_of_mem_ofNat⟩
        scale_ne_nil := fun s hs => nomatch hs
        scale := fun s hs => nomatch hs }
  · simp only [text, magnitudeText, if_neg hne, scaleText, List.append_nil]
    simp [lit]
  · have hzero : Text.decimalValue (lit "0") = 0 := rfl
    simp only [coefficient, Text.decimalValue_append, Text.decimalValue_zeros,
      Text.decimalValue_ofNat, hzero, zero_mul, zero_add]
  · simp [exponent]

/-- The digits in front of a point, with zeros behind them where there are too few. -/
def wholeDigits (d p : ℕ) : Text :=
  (Text.ofNat d).take p ++ List.replicate (p - (Text.ofNat d).length) '0'.toNat

theorem isNumber_wholeDigits (negative : Bool) (hd : 0 < d) {p : ℕ} (hp : 0 < p) {fraction : Text}
    (hfraction : ∀ c ∈ fraction, isAsciiDigit c = true) :
    IsNumber ⟨negative, wholeDigits d p, fraction, none⟩ := by
  obtain ⟨first, rest, hdigits, hfirst⟩ := Text.exists_ofNat_eq_cons hd
  obtain ⟨k, rfl⟩ : ∃ k, p = k + 1 := ⟨p - 1, by omega⟩
  have hcons : ∃ t, wholeDigits d (k + 1) = first :: t := by
    rw [wholeDigits, hdigits, List.take_succ_cons, List.cons_append]
    exact ⟨_, rfl⟩
  obtain ⟨t, ht⟩ := hcons
  exact
    { whole_ne_nil := ht ▸ List.cons_ne_nil first t
      whole := List.forall_mem_append.2
        ⟨fun c hc => Text.isAsciiDigit_of_mem_ofNat (List.mem_of_mem_take hc),
          GraphQL.NumberState.digits_replicate _⟩
      no_leading_zero := fun hzero => by
        rw [ht, List.head?_cons] at hzero
        exact absurd (Option.some.inj hzero) hfirst
      fraction := hfraction
      scale_ne_nil := fun s hs => nomatch hs
      scale := fun s hs => nomatch hs }

/-- All digits stand in front of the point, and one zero behind it. -/
theorem spells_wholeDigits (negative : Bool) (hd : 0 < d) {p : ℕ} (hp : 0 < p)
    (hlength : (Text.ofNat d).length ≤ p) :
    Spells (minus negative ++ (wholeDigits d p ++ lit "." ++ lit "0"))
      (Binary64.signFactor negative * (d * 10 ^ (p - (Text.ofNat d).length : ℤ))) := by
  have hten : (10 : ℚ) ^ (p - (Text.ofNat d).length : ℤ) = 10 ^ (p - (Text.ofNat d).length) := by
    rw [← zpow_natCast, Nat.cast_sub hlength]
  have hzero : Text.decimalValue (lit "0") = 0 := rfl
  refine ⟨_, isNumber_wholeDigits negative hd hp (by decide : ∀ c ∈ lit "0", _), ?_, ?_⟩
  · simp [text, magnitudeText, scaleText, lit]
  · rw [value, magnitude, hten]
    simp only [wholeDigits, exponent, Text.decimalValue_append, Text.decimalValue_zeros,
      Text.decimalValue_ofNat, hzero, List.take_of_length_le hlength, List.length_replicate]
    push_cast
    simp

/-- The point stands between two digits. -/
theorem spells_wholeDigits_fraction (negative : Bool) (hd : 0 < d) {p : ℕ} (hp : 0 < p)
    (hlength : p < (Text.ofNat d).length) :
    Spells (minus negative ++ (wholeDigits d p ++ lit "." ++ (Text.ofNat d).drop p))
      (Binary64.signFactor negative * (d * 10 ^ (p - (Text.ofNat d).length : ℤ))) := by
  have hne : (Text.ofNat d).drop p ≠ [] := by simpa using hlength
  have hfraction : ∀ c ∈ (Text.ofNat d).drop p, isAsciiDigit c = true := fun c hc =>
    Text.isAsciiDigit_of_mem_ofNat (List.mem_of_mem_drop hc)
  refine ⟨_, isNumber_wholeDigits negative hd hp hfraction, ?_, value_eq_of_coefficient ?_ ?_⟩
  · simp only [text, magnitudeText, if_neg hne, scaleText, List.append_nil]
    simp [lit]
  · simp [coefficient, wholeDigits, Nat.sub_eq_zero_of_le hlength.le, Text.decimalValue_ofNat]
  · simp only [exponent, List.length_drop]
    omega

/-- Digits around a point. -/
theorem spells_positional (negative : Bool) (hd : 0 < d) (point : ℤ) :
    Spells (minus negative ++ Binary64.positional (Text.ofNat d) point)
      (Binary64.signFactor negative * (d * 10 ^ (point - (Text.ofNat d).length))) := by
  unfold Binary64.positional
  split_ifs with hpoint
  · have hplace : (-((-point).toNat + (Text.ofNat d).length : ℕ) : ℤ) =
        point - (Text.ofNat d).length := by omega
    exact hplace ▸ spells_fraction negative d (-point).toNat
  · have hplace : (point.toNat - (Text.ofNat d).length : ℤ) = point - (Text.ofNat d).length := by
      omega
    have hpos : 0 < point.toNat := by omega
    dsimp only
    rw [← hplace]
    split_ifs with hdrop
    · have hlength : (Text.ofNat d).length ≤ point.toNat := by simpa using hdrop
      exact spells_wholeDigits negative hd hpos hlength
    · have hlength : point.toNat < (Text.ofNat d).length := by simpa using hdrop
      exact spells_wholeDigits_fraction negative hd hpos hlength

/-- One digit in front of the point, and an exponent. -/
theorem spells_scientific (negative : Bool) (hd : 0 < d) (e : ℤ) :
    Spells (minus negative ++ Binary64.scientific (Text.ofNat d) e)
      (Binary64.signFactor negative * (d * 10 ^ (e + 1 - (Text.ofNat d).length))) := by
  obtain ⟨first, rest, hdigits, hfirst⟩ := Text.exists_ofNat_eq_cons hd
  obtain ⟨scale, hscale, hne, hall, hvalue⟩ : ∃ t,
      (if (Text.ofNat e.natAbs).length < 2 then lit "0" ++ Text.ofNat e.natAbs
        else Text.ofNat e.natAbs) = t ∧ t ≠ [] ∧ (∀ c ∈ t, isAsciiDigit c = true) ∧
        Text.decimalValue t = e.natAbs := by
    have hexponent : ∀ c ∈ Text.ofNat e.natAbs, isAsciiDigit c = true := fun c =>
      Text.isAsciiDigit_of_mem_ofNat
    have hzero : Text.decimalValue (lit "0") = 0 := rfl
    refine ⟨_, rfl, ?_, ?_, ?_⟩ <;> split_ifs
    · exact List.cons_ne_nil _ _
    · exact Text.ofNat_ne_nil _
    · exact List.forall_mem_append.2 ⟨by decide, hexponent⟩
    · exact hexponent
    · rw [Text.decimalValue_append, hzero, zero_mul, zero_add, Text.decimalValue_ofNat]
    · exact Text.decimalValue_ofNat _
  have hcoefficient := Text.decimalValue_ofNat d
  have hdigit : ∀ c ∈ Text.ofNat d, isAsciiDigit c = true := fun c => Text.isAsciiDigit_of_mem_ofNat
  rw [hdigits] at hcoefficient hdigit ⊢
  refine ⟨⟨negative, [first], rest, some (decide (e < 0), scale)⟩, ?_, ?_,
    value_eq_of_coefficient hcoefficient ?_⟩
  · exact
      { whole_ne_nil := List.cons_ne_nil _ _
        whole := fun c hc => hdigit c (List.mem_cons.2 (Or.inl (List.mem_singleton.1 hc)))
        no_leading_zero := fun hzero => absurd (Option.some.inj hzero) hfirst
        fraction := fun c hc => hdigit c (List.mem_cons_of_mem first hc)
        scale_ne_nil := fun s hs => Option.some.inj hs ▸ hne
        scale := fun s hs => Option.some.inj hs ▸ hall }
  · rw [text, magnitudeText, Binary64.scientific, hscale]
    cases rest <;> simp [scaleText, lit]
  · simp only [exponent, hvalue, List.length_cons, decide_eq_true_eq]
    split_ifs <;> omega

/-- The shortest digits of a positive number, in either notation. -/
theorem spells_displayPositive (negative : Bool) {m : ℕ} {q : ℤ}
    (hd : 0 < (Binary64.shortest m q).1) :
    Spells (minus negative ++ Binary64.displayPositive m q)
      (Binary64.signFactor negative *
        ((Binary64.shortest m q).1 * 10 ^ (Binary64.shortest m q).2)) := by
  obtain ⟨⟨d, e⟩, hshortest⟩ : ∃ s, Binary64.shortest m q = s := ⟨_, rfl⟩
  have hplace : e + (Text.ofNat d).length - 1 + 1 - (Text.ofNat d).length = e := by omega
  simp only [hshortest] at hd
  simp only [Binary64.displayPositive, hshortest]
  split_ifs
  · simpa only [hplace] using spells_positional negative hd (e + (Text.ofNat d).length - 1 + 1)
  · simpa only [hplace] using spells_scientific negative hd (e + (Text.ofNat d).length - 1)

theorem IsNumber.not_isAllBlank {n : NumberText} (h : n.IsNumber) : n.text.isAllBlank = false := by
  obtain ⟨d, t, htext, hd⟩ := h.exists_magnitudeText_eq_cons
  have hmem : d ∈ n.text := by
    rw [text, htext]
    exact List.mem_append_right _ List.mem_cons_self
  have hblank : isBlank d = false := by
    have hrange : 48 ≤ d ∧ d ≤ 57 := by simpa [isAsciiDigit] using hd
    have hall : ∀ d < 58, 48 ≤ d → isBlank d = false := by decide
    exact hall d (Nat.lt_succ_of_le hrange.2) hrange.1
  rw [Text.isAllBlank, List.all_eq_false]
  exact ⟨d, hmem, by rw [hblank]; decide⟩

end NumberText

/-! ## Literals are read back -/

namespace Binary64

open NumberText (Spells)

variable {x : Binary64}

theorem toRat_ofDecimal_zero (negative : Bool) (exp : ℤ) :
    toRat (ofDecimal negative 0 exp) = 0 := by
  simp [ofDecimal, toRat]

/-- The literal is a number, and `x` is the double nearest to it. -/
theorem exists_spells_literal (hx : x.IsCanonical) (hfinite : x.isFinite = true) :
    ∃ r, Spells x.literal r ∧ (x.toRat ≠ 0 → IsNearest r x) := by
  by_cases hintegral : x.isIntegral = true
  · obtain ⟨i, hi⟩ := exists_toRat_eq_of_isIntegral hintegral
    refine ⟨i, literal_of_toRat_eq hfinite hi ▸ NumberText.spells_ofInt i, fun hne => ?_⟩
    rw [← hi]
    exact isNearest_toRat hx hfinite hne
  · cases x with
    | infinite _ => cases hfinite
    | nan => cases hfinite
    | finite negative m q =>
        have hm : 0 < m := GraphQL.NumberState.pos_of_not_isIntegral hintegral
        have hcanonical : (finite false m q).IsCanonical := hx
        have hliteral : literal (finite negative m q) = minus negative ++ displayPositive m q := by
          rw [literal, if_neg hintegral, display, if_neg hm.ne']
          rfl
        have hd := shortest_pos hm hcanonical
        have hnearest := isNearest_of_inInterval hm hcanonical (inInterval_shortest hm hcanonical)
        refine ⟨_, hliteral ▸ NumberText.spells_displayPositive negative hd, fun _ => ?_⟩
        have hne : ((shortest m q).1 : ℚ) * 10 ^ (shortest m q).2 ≠ 0 := by positivity
        exact hnearest.withSign hne negative

/-- **The literal of a double is read as that double**; zero loses its sign. -/
theorem readReal?_literal (hx : x.IsCanonical) (hfinite : x.isFinite = true) (hne : x.toRat ≠ 0) :
    Numeral.readReal? x.literal = some x := by
  obtain ⟨r, ⟨n, hn, htext, rfl⟩, hnearest⟩ := exists_spells_literal hx hfinite
  have hcoefficient : 0 < n.coefficient := by
    -- digits that are all zero would stand for zero, and zero is nearest to that
    apply Nat.pos_of_ne_zero
    intro hzero
    have hvalue : n.value = 0 := by
      rw [NumberText.value, NumberText.magnitude_eq, hzero, Nat.cast_zero, zero_mul, mul_zero]
    have hvalue_nearest := hnearest hne
    rw [hvalue] at hvalue_nearest
    rw [hvalue_nearest.unique (isNearest_zero le_rfl (by norm_num))] at hne
    exact hne (by simp [toRat])
  have hread := isNearest_ofDecimal_of_pos n.negative hcoefficient (n.exponent - n.fraction.length)
  rw [← NumberText.magnitude_eq] at hread
  rw [← htext, Numeral.readReal?_text hn, hread.unique (hnearest hne)]

/-- Whatever the literal stands for, `x` is the double nearest to it. -/
theorem isNearest_of_spells (hx : x.IsCanonical) (hfinite : x.isFinite = true)
    (hne : x.toRat ≠ 0) {r : ℚ} (h : Spells x.literal r) : IsNearest r x := by
  obtain ⟨n, hn, htext, rfl⟩ := h
  have hread := Numeral.readReal?_text hn
  rw [htext, readReal?_literal hx hfinite hne, Option.some.injEq] at hread
  rcases Nat.eq_zero_or_pos n.coefficient with hzero | hpos
  · rw [hread, hzero] at hne
    exact absurd (toRat_ofDecimal_zero _ _) hne
  · rw [NumberText.value, NumberText.magnitude_eq, hread]
    exact isNearest_ofDecimal_of_pos n.negative hpos _

/-- A literal that is used as a text of its own gives the same literal. -/
theorem map_literal_finite? (hx : x.IsCanonical) (hfinite : x.isFinite = true) :
    (Json.string x.literal).finite?.map literal = some x.literal := by
  by_cases hzero : x.toRat = 0
  · have hliteral : ∀ {y : Binary64}, y.isFinite = true → y.toRat = 0 → y.literal = lit "0" :=
      fun hy hvalue => literal_of_toRat_eq (i := 0) hy (by rw [hvalue, Int.cast_zero])
    have hread : (Json.string (lit "0")).finite? = some (finite false 0 minExponent) := rfl
    rw [hliteral hfinite hzero, hread, Option.map_some, hliteral rfl (by simp [toRat])]
  · obtain ⟨_, ⟨n, hn, htext, -⟩, -⟩ := exists_spells_literal hx hfinite
    have hblank : x.literal.isAllBlank = false := htext ▸ hn.not_isAllBlank
    have hreal : (Json.string x.literal).toReal? = some x := by
      rw [Json.toReal?, hblank, if_neg Bool.false_ne_true, readReal?_literal hx hfinite hzero]
    rw [Json.finite?, hreal, Option.filter_some, if_pos hfinite, Option.map_some]

/-- **Number literals are lossless.** The literal of a finite double is a number literal of the
query language. A double that is an integer is written as that integer, zero of either sign as `0`;
every double but zero is the one nearest to the number that its literal stands for. A literal that
comes back as a text is written the same. -/
theorem literal_lossless (hx : x.IsCanonical) (hfinite : x.isFinite = true) :
    GraphQL.NumberState.Numeral x.literal ∧
      (∃ r, Spells x.literal r) ∧
      (∀ i : ℤ, x.toRat = i → x.literal = Text.ofInt i) ∧
      (x.toRat ≠ 0 → ∀ r, Spells x.literal r → IsNearest r x) ∧
      (Json.string x.literal).finite?.map literal = some x.literal := by
  obtain ⟨r, hr, -⟩ := exists_spells_literal hx hfinite
  exact ⟨GraphQL.NumberState.numeral_literal hfinite, ⟨r, hr⟩,
    fun i hi => literal_of_toRat_eq hfinite hi,
    fun hne r hr => isNearest_of_spells hx hfinite hne hr, map_literal_finite? hx hfinite⟩

/-- The least positive double has one digit and an exponent. -/
theorem literal_lossless_least :
    (finite false 1 minExponent).IsCanonical ∧ (finite false 1 minExponent).isFinite = true ∧
      literal (finite false 1 minExponent) = lit "5e-324" ∧
      IsNearest (5 * 10 ^ (-324 : ℤ)) (finite false 1 minExponent) := by
  have hcanonical : (finite false 1 minExponent).IsCanonical :=
    ⟨by decide, le_rfl, by decide, Or.inr rfl⟩
  have hliteral : literal (finite false 1 minExponent) = lit "5e-324" := by decide +kernel
  have hne : toRat (finite false 1 minExponent) ≠ 0 := by
    have hpos : (0 : ℚ) < 2 ^ minExponent := by positivity
    simpa [toRat] using hpos.ne'
  have hspells : Spells (lit "5e-324") (5 * 10 ^ (-324 : ℤ)) := by
    have hspells := NumberText.spells_scientific false (by decide : 0 < 5) (-324)
    have htext : minus false ++ scientific (Text.ofNat 5) (-324) = lit "5e-324" := by decide
    have hplace : (-324 + 1 - (Text.ofNat 5).length : ℤ) = -324 := by decide
    rw [htext, hplace, signFactor_false, one_mul] at hspells
    exact_mod_cast hspells
  exact ⟨hcanonical, rfl, hliteral,
    (literal_lossless hcanonical rfl).2.2.2.1 hne _ (hliteral ▸ hspells)⟩

end Binary64

end FilmQuery
