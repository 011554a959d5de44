import FilmQuery.Proofs.Number.Rounding

/-!
# The one nearest double

No rational number has two nearest doubles: of two that are as near both would be even, and they
would be neighbours. A double is the nearest one of itself and of everything that lies no further
off than half-way to its neighbours, the middle itself only if the mantissa is even.
-/

namespace FilmQuery.Binary64

variable {r : ℚ} {m m' : ℕ} {q q' : ℤ} {x y : Binary64}

/-! ## Neighbours -/

/-- The distance to the next double below; it is halved where the exponent falls. -/
def gapBelow (m : ℕ) (q : ℤ) : ℚ :=
  if m = 2 ^ 52 ∧ q ≠ minExponent then 2 ^ (q - 1) else 2 ^ q

theorem gapBelow_pos (m : ℕ) (q : ℤ) : 0 < gapBelow m q := by
  unfold gapBelow
  split_ifs <;> positivity

theorem gapBelow_le (m : ℕ) (q : ℤ) : gapBelow m q ≤ 2 ^ q := by
  unfold gapBelow
  split_ifs
  · exact zpow_le_zpow_right₀ one_le_two (sub_le_self q zero_le_one)
  · exact le_rfl

/-- A finite number with an exponent below `q` has at most the greatest mantissa at `q - 1`. -/
theorem toRat_le_of_exponent_lt {negative : Bool} (h : (finite negative m q').IsCanonical)
    (hlt : q' < q) : toRat (finite negative m q') ≤ (2 ^ 53 - 1) * 2 ^ (q - 1) := by
  have hm : (m : ℚ) ≤ 2 ^ 53 - 1 := by
    have hsucc : (m : ℚ) + 1 ≤ 2 ^ 53 := by exact_mod_cast h.1
    linarith
  have hpow : (2 : ℚ) ^ q' ≤ 2 ^ (q - 1) :=
    zpow_le_zpow_right₀ one_le_two (Int.le_sub_one_of_lt hlt)
  have hmagnitude : (m : ℚ) * 2 ^ q' ≤ (2 ^ 53 - 1) * 2 ^ (q - 1) :=
    mul_le_mul hm hpow (by positivity) (by norm_num)
  have hnonneg : (0 : ℚ) ≤ m * 2 ^ q' := by positivity
  rw [toRat]
  cases negative with
  | false => simpa using hmagnitude
  | true => simpa using by linarith

/-- No double lies between a positive one and its neighbours. -/
theorem le_or_le_of_toRat_ne (hx : (finite false m q).IsCanonical) (hy : y.IsCanonical)
    (hfinite : y.isFinite = true) (hne : toRat y ≠ m * 2 ^ q) :
    toRat y ≤ m * 2 ^ q - gapBelow m q ∨ m * 2 ^ q + 2 ^ q ≤ toRat y := by
  have hpos : (0 : ℚ) < 2 ^ q := by positivity
  cases y with
  | infinite _ => cases hfinite
  | nan => cases hfinite
  | finite negative m' q' =>
      rcases le_or_gt q q' with hle | hlt
      · obtain ⟨k, hk⟩ := exists_toRat_eq_mul negative m' hle
        rw [hk] at hne ⊢
        have hkm : k ≠ m := by
          rintro rfl
          exact hne (by push_cast; rfl)
        rcases lt_or_gt_of_ne hkm with hbelow | habove
        · left
          have hk' : (k : ℚ) + 1 ≤ m := by exact_mod_cast hbelow
          have hstep := mul_le_mul_of_nonneg_right hk' hpos.le
          have hgap := gapBelow_le m q
          linarith
        · right
          have hk' : (m : ℚ) + 1 ≤ k := by exact_mod_cast habove
          have hstep := mul_le_mul_of_nonneg_right hk' hpos.le
          rwa [add_one_mul] at hstep
      · left
        have hmin : q ≠ minExponent := fun h => absurd hy.2.1 (not_le_of_gt (h ▸ hlt))
        have hfull : 2 ^ 52 ≤ m := hx.2.2.2.resolve_right hmin
        by_cases hleast : m = 2 ^ 52
        · refine (toRat_le_of_exponent_lt hy hlt).trans_eq ?_
          have hdouble : (2 : ℚ) ^ q = 2 ^ (q - 1) * 2 := by
            rw [← zpow_add_one₀ two_ne_zero, sub_add_cancel]
          rw [gapBelow, if_pos ⟨hleast, hmin⟩, hleast, hdouble]
          push_cast
          ring
        · refine (toRat_lt_of_exponent_lt hy hlt).le.trans ?_
          have hm : (2 : ℚ) ^ 52 + 1 ≤ m := by
            exact_mod_cast lt_of_le_of_ne hfull (Ne.symm hleast)
          have hstep := mul_le_mul_of_nonneg_right hm hpos.le
          have hgap := gapBelow_le m q
          linarith

/-- Doubles without a minus sign differ in their values. -/
theorem eq_of_toRat_eq (hx : (finite false m q).IsCanonical)
    (hy : (finite false m' q').IsCanonical)
    (h : toRat (finite false m q) = toRat (finite false m' q')) : m = m' ∧ q = q' := by
  have hexponent : ∀ {m m' : ℕ} {q q' : ℤ}, (finite false m q).IsCanonical →
      (finite false m' q').IsCanonical →
      toRat (finite false m q) = toRat (finite false m' q') → ¬q < q' := by
    intro m m' q q' hx hy h hlt
    have hmin : q' ≠ minExponent := fun heq => absurd hx.2.1 (not_le_of_gt (heq ▸ hlt))
    have hfull : (2 : ℚ) ^ 52 ≤ m' := by exact_mod_cast hy.2.2.2.resolve_right hmin
    have hbelow := toRat_lt_of_exponent_lt hx hlt
    rw [h] at hbelow
    refine absurd hbelow (not_lt_of_ge ?_)
    simpa [toRat] using mul_le_mul_of_nonneg_right hfull (by positivity : (0 : ℚ) ≤ 2 ^ q')
  obtain rfl : q = q' := le_antisymm (le_of_not_gt (hexponent hy hx h.symm))
    (le_of_not_gt (hexponent hx hy h))
  have hpos : (0 : ℚ) < 2 ^ q := by positivity
  have hm : (m : ℚ) = m' := by simpa [toRat, hpos.ne'] using h
  exact ⟨by exact_mod_cast hm, rfl⟩

/-! ## The other sign -/

/-- What a sign stands for. -/
def signFactor (negative : Bool) : ℚ := if negative then -1 else 1

@[simp] theorem signFactor_false : signFactor false = 1 := rfl

@[simp] theorem signFactor_true : signFactor true = -1 := rfl

@[simp] theorem abs_signFactor (negative : Bool) : |signFactor negative| = 1 := by
  cases negative <;> simp

theorem toRat_finite (negative : Bool) (m : ℕ) (q : ℤ) :
    toRat (finite negative m q) = signFactor negative * (m * 2 ^ q) :=
  rfl

/-- The same number with the other sign. -/
def neg : Binary64 → Binary64
  | finite negative m q => finite (!negative) m q
  | infinite negative => infinite (!negative)
  | nan => nan

@[simp] protected theorem neg_neg (x : Binary64) : x.neg.neg = x := by
  cases x <;> simp [neg]

@[simp] theorem toRat_neg (x : Binary64) : x.neg.toRat = -x.toRat := by
  cases x with
  | finite negative m q => cases negative <;> simp [neg, toRat]
  | infinite _ => simp [neg, toRat]
  | nan => simp [neg, toRat]

theorem isCanonical_neg (x : Binary64) : x.neg.IsCanonical ↔ x.IsCanonical := by
  cases x <;> exact Iff.rfl

theorem isFinite_neg (x : Binary64) : x.neg.isFinite = x.isFinite := by
  cases x <;> rfl

/-- Numbers of either sign are rounded alike. -/
theorem IsNearest.neg (h : IsNearest r x) (hr : r ≠ 0) : IsNearest (-r) x.neg := by
  have hsign : (!decide (r < 0)) = decide (-r < 0) := by
    rcases lt_or_gt_of_ne hr with hneg | hpos
    · simp [hneg, hneg.le]
    · simp [hpos, hpos.le]
  cases x with
  | nan => exact h
  | infinite negative =>
      obtain ⟨rfl, hoverflow⟩ := h
      exact ⟨hsign, by rwa [abs_neg]⟩
  | finite negative m q =>
      obtain ⟨rfl, hcanonical, hoverflow, hnearest⟩ := h
      refine ⟨hsign, hcanonical, by rwa [abs_neg], fun y hy hfinite => ?_⟩
      have hdistance : ∀ z : Binary64, |-r - toRat z.neg| = |r - toRat z| := fun z => by
        rw [toRat_neg, ← neg_sub', abs_neg]
      have hother := hnearest y.neg ((isCanonical_neg y).2 hy) (by rwa [isFinite_neg])
      rw [← hdistance y.neg, Binary64.neg_neg, ← hdistance] at hother
      refine ⟨hother.1, fun heq => (hother.2 heq).imp_left fun hvalue => ?_⟩
      have hvalue := congrArg Neg.neg hvalue
      rwa [← toRat_neg, Binary64.neg_neg, ← toRat_neg] at hvalue

/-- A number and its nearest double may be given a sign. -/
theorem IsNearest.withSign (h : IsNearest r (finite false m q)) (hr : r ≠ 0) (negative : Bool) :
    IsNearest (signFactor negative * r) (finite negative m q) := by
  cases negative with
  | false => rwa [signFactor_false, one_mul]
  | true =>
      rw [signFactor_true, neg_one_mul]
      exact h.neg hr

/-! ## The nearest double is one -/

/-- Of two nearest doubles without a minus sign neither is the smaller one. -/
theorem not_toRat_lt_of_isNearest (hx : IsNearest r (finite false m q))
    (hy : IsNearest r (finite false m' q')) :
    ¬toRat (finite false m q) < toRat (finite false m' q') := by
  intro hlt
  obtain ⟨-, hxc, -, hxnear⟩ := hx
  obtain ⟨-, hyc, -, hynear⟩ := hy
  have heq : |r - toRat (finite false m q)| = |r - toRat (finite false m' q')| :=
    le_antisymm (hxnear _ hyc rfl).1 (hynear _ hxc rfl).1
  have hm : m % 2 = 0 := ((hxnear _ hyc rfl).2 heq).resolve_left hlt.ne'
  have hm' : m' % 2 = 0 := ((hynear _ hxc rfl).2 heq.symm).resolve_left hlt.ne
  -- the double behind the smaller one is odd, and no further away than the greater one
  have hsucc : (finite false (m + 1) q).IsCanonical := by
    obtain ⟨hsize, hlow, hhigh, hfull⟩ := hxc
    have hsize : m < 2 ^ 53 := hsize
    have hodd : m + 1 < 2 ^ 53 := by omega
    exact ⟨hodd, hlow, hhigh, hfull.imp_left fun h => h.trans (Nat.le_succ m)⟩
  have hvalue : ∀ n : ℕ, toRat (finite false n q) = n * 2 ^ q := fun n => by simp [toRat]
  have hnext : toRat (finite false (m + 1) q) ≤ toRat (finite false m' q') := by
    have hgap := le_or_le_of_toRat_ne hxc hyc rfl (by rw [← hvalue]; exact hlt.ne')
    rw [hvalue, Nat.cast_add_one, add_one_mul]
    refine hgap.resolve_left (not_le_of_gt ?_)
    have hpos := gapBelow_pos m q
    rw [hvalue] at hlt
    linarith
  have hbetween : toRat (finite false m q) < toRat (finite false (m + 1) q) := by
    rw [hvalue, hvalue]
    gcongr
    exact Nat.lt_succ_self m
  have hnear := (hxnear _ hsucc rfl).1
  have hmiddle : r = (toRat (finite false m q) + toRat (finite false m' q')) / 2 := by
    rcases abs_eq_abs.1 heq with h | h
    · exact absurd (sub_right_inj.1 h) hlt.ne
    · linarith
  have hsame : toRat (finite false (m + 1) q) = toRat (finite false m' q') := by
    by_contra hne
    have hinside := lt_of_le_of_ne hnext hne
    rw [hmiddle] at hnear
    refine absurd hnear (not_le_of_gt ?_)
    rw [abs_lt, abs_of_pos (by linarith)]
    constructor <;> linarith
  obtain ⟨rfl, -⟩ := eq_of_toRat_eq hsucc hyc hsame
  omega

theorem IsNearest.unique_of_nonneg (hr : 0 ≤ r) (hx : IsNearest r x) (hy : IsNearest r y) :
    x = y := by
  have hsign : decide (r < 0) = false := by simp [hr]
  cases x with
  | nan => exact hx.elim
  | infinite _ =>
      cases y with
      | nan => exact hy.elim
      | infinite _ => rw [hx.1, hy.1]
      | finite _ _ _ => exact absurd hy.2.2.1 (not_lt_of_ge hx.2)
  | finite negative m q =>
      cases y with
      | nan => exact hy.elim
      | infinite _ => exact absurd hx.2.2.1 (not_lt_of_ge hy.2)
      | finite negative' m' q' =>
          obtain rfl : negative = false := hx.1.trans hsign
          obtain rfl : negative' = false := hy.1.trans hsign
          have hvalue : toRat (finite false m q) = toRat (finite false m' q') :=
            le_antisymm (le_of_not_gt (not_toRat_lt_of_isNearest hy hx))
              (le_of_not_gt (not_toRat_lt_of_isNearest hx hy))
          obtain ⟨rfl, rfl⟩ := eq_of_toRat_eq hx.2.1 hy.2.1 hvalue
          rfl

/-- **A rational number has one nearest double.** -/
theorem IsNearest.unique (hx : IsNearest r x) (hy : IsNearest r y) : x = y := by
  rcases le_or_gt 0 r with hr | hr
  · exact hx.unique_of_nonneg hr hy
  · have hneg := (hx.neg hr.ne).unique_of_nonneg (neg_nonneg.2 hr.le) (hy.neg hr.ne)
    simpa using congrArg Binary64.neg hneg

theorem IsNearest.isFinite_iff (h : IsNearest r x) : x.isFinite = true ↔ |r| < overflow := by
  cases x with
  | nan => exact h.elim
  | infinite _ => exact ⟨Bool.noConfusion, fun hlt => absurd h.2 (not_le_of_gt hlt)⟩
  | finite _ _ _ => exact ⟨fun _ => h.2.2.1, fun _ => rfl⟩

/-! ## What a double is nearest to -/

/-- `r` is no further from `m * 2 ^ q` than half-way to its neighbours; the middles belong to the
even mantissas. -/
def InInterval (m : ℕ) (q : ℤ) (r : ℚ) : Prop :=
  if m % 2 = 0 then m * 2 ^ q - gapBelow m q / 2 ≤ r ∧ r ≤ m * 2 ^ q + 2 ^ q / 2
  else m * 2 ^ q - gapBelow m q / 2 < r ∧ r < m * 2 ^ q + 2 ^ q / 2

theorem InInterval.bounds (h : InInterval m q r) :
    m * 2 ^ q - gapBelow m q / 2 ≤ r ∧ r ≤ m * 2 ^ q + 2 ^ q / 2 := by
  unfold InInterval at h
  split_ifs at h
  · exact h
  · exact ⟨h.1.le, h.2.le⟩

theorem InInterval.even (h : InInterval m q r)
    (hend : r = m * 2 ^ q - gapBelow m q / 2 ∨ r = m * 2 ^ q + 2 ^ q / 2) : m % 2 = 0 := by
  unfold InInterval at h
  split_ifs at h with heven
  · exact heven
  · rcases hend with hend | hend
    · exact absurd hend h.1.ne'
    · exact absurd hend h.2.ne

/-- What lies in the interval is no nearer to a number beyond one of the neighbours. -/
theorem InInterval.abs_sub_le (h : InInterval m q r) {v : ℚ}
    (hv : v ≤ m * 2 ^ q - gapBelow m q ∨ m * 2 ^ q + 2 ^ q ≤ v) :
    |r - m * 2 ^ q| ≤ |r - v| ∧ (|r - m * 2 ^ q| = |r - v| → m % 2 = 0) := by
  have hbounds := h.bounds
  have heven := h.even
  have hgap := gapBelow_pos m q
  have hpos : (0 : ℚ) < 2 ^ q := by positivity
  have hself := abs_cases (r - m * 2 ^ q)
  have hother := abs_cases (r - v)
  generalize (m : ℚ) * 2 ^ q = x at *
  grind

/-- In units of the last place it is off by half at most, and by half only from an even mantissa. -/
theorem InInterval.abs_sub_mantissa_le (h : InInterval m q r) :
    |r / 2 ^ q - m| ≤ 1 / 2 ∧ (|r / 2 ^ q - m| = 1 / 2 → m % 2 = 0) := by
  have hbounds := h.bounds
  have heven := h.even
  have hgap := gapBelow_le m q
  have hpos : (0 : ℚ) < 2 ^ q := by positivity
  have hscaled := abs_sub_mul_pow r q m
  have hself := abs_cases (r - m * 2 ^ q)
  generalize |r / 2 ^ q - m| = d at *
  refine ⟨le_of_mul_le_mul_right (by grind) hpos, fun htie => heven ?_⟩
  rw [htie] at hscaled
  grind

/-- A positive double is the nearest one of all that lies in its interval. -/
theorem isNearest_of_inInterval (hm : 0 < m) (hx : (finite false m q).IsCanonical)
    (hr : InInterval m q r) : IsNearest r (finite false m q) := by
  have hvalue : toRat (finite false m q) = m * 2 ^ q := by simp [toRat]
  have hr_pos : 0 < r := by
    have hm' : (1 : ℚ) ≤ m := by exact_mod_cast hm
    have hone := mul_le_mul_of_nonneg_right hm' (by positivity : (0 : ℚ) ≤ 2 ^ q)
    have hgap := gapBelow_le m q
    have hgap_pos := gapBelow_pos m q
    linarith [hr.bounds.1]
  obtain ⟨hoff, htie⟩ := hr.abs_sub_mantissa_le
  refine ⟨by simp [hr_pos.le], hx, ?_, fun y hy hfinite => ?_⟩
  · rw [abs_of_pos hr_pos]
    exact lt_overflow_of_mantissa_lt hoff htie hx.1 hx.2.2.1
  · rw [hvalue]
    by_cases hne : toRat y = m * 2 ^ q
    · rw [hne]
      exact ⟨le_rfl, fun _ => Or.inl rfl⟩
    · obtain ⟨hle, heven⟩ := hr.abs_sub_le (le_or_le_of_toRat_ne hx hy hfinite hne)
      exact ⟨hle, fun heq => Or.inr (heven heq)⟩

/-- A double other than zero is the nearest one of itself. -/
theorem isNearest_toRat (hx : x.IsCanonical) (hfinite : x.isFinite = true) (hne : x.toRat ≠ 0) :
    IsNearest x.toRat x := by
  cases x with
  | infinite _ => cases hfinite
  | nan => cases hfinite
  | finite negative m q =>
      have hm : m ≠ 0 := by
        rintro rfl
        exact hne (by simp [toRat])
      have hpos : (0 : ℚ) < 2 ^ q := by positivity
      have hgap := gapBelow_pos m q
      have hself : InInterval m q (m * 2 ^ q) := by
        unfold InInterval
        split_ifs <;> constructor <;> linarith
      have hcanonical : (finite false m q).IsCanonical := hx
      exact (isNearest_of_inInterval (Nat.pos_of_ne_zero hm) hcanonical hself).withSign
        (by positivity) negative

/-! ## Conversions of either sign -/

theorem normalize_true (m : ℕ) (q : ℤ) : normalize true m q = (normalize false m q).neg := by
  unfold normalize
  dsimp only
  split_ifs <;> rfl

theorem ofRatio_true (num den : ℕ) : ofRatio true num den = (ofRatio false num den).neg := by
  unfold ofRatio
  split_ifs
  · rfl
  · exact normalize_true _ _

theorem ofDecimal_true (coeff : ℕ) (exp : ℤ) :
    ofDecimal true coeff exp = (ofDecimal false coeff exp).neg := by
  unfold ofDecimal
  split_ifs
  · rfl
  · rfl
  · rfl
  · exact ofRatio_true _ _

/-- The double of an integer is the nearest one. -/
theorem isNearest_ofInt (v : ℤ) : IsNearest v (ofInt v) := by
  have hmagnitude : IsNearest (v.natAbs : ℚ) (ofRatio false v.natAbs 1) := by
    simpa using isNearest_ofRatio v.natAbs one_pos
  unfold ofInt
  rcases le_or_gt 0 v with hv | hv
  · have hvalue : (v : ℚ) = v.natAbs := by
      rw [← Int.cast_natCast, Int.natAbs_of_nonneg hv]
    rwa [decide_eq_false (not_lt_of_ge hv), hvalue]
  · have hvalue : (v : ℚ) = -(v.natAbs : ℚ) := by
      exact_mod_cast (by omega : v = -(v.natAbs : ℤ))
    have hne : (v.natAbs : ℚ) ≠ 0 := by exact_mod_cast (Int.natAbs_ne_zero.2 hv.ne)
    rw [decide_eq_true hv, ofRatio_true, hvalue]
    exact hmagnitude.neg hne

/-- The double of a decimal with a sign is the nearest one, unless it is zero: zero has two. -/
theorem isNearest_ofDecimal_of_pos (negative : Bool) {coeff : ℕ} (hcoeff : 0 < coeff) (exp : ℤ) :
    IsNearest (signFactor negative * (coeff * 10 ^ exp)) (ofDecimal negative coeff exp) := by
  have hmagnitude := isNearest_ofDecimal coeff exp
  cases negative with
  | false => simpa using hmagnitude
  | true =>
      have hne : (coeff : ℚ) * 10 ^ exp ≠ 0 := by positivity
      rw [ofDecimal_true]
      simpa using hmagnitude.neg hne

end FilmQuery.Binary64
