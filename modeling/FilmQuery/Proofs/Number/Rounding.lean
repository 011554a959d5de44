import FilmQuery.Number.Binary64
import Mathlib.Algebra.Order.Field.Power
import Mathlib.Algebra.Order.Ring.Rat
import Mathlib.Tactic.Linarith
import Mathlib.Tactic.Positivity
import Mathlib.Tactic.Ring

/-!
# Rounding to the nearest double

What the nearest double of a rational number is, said without the algorithm: no double is nearer,
and where another one is as near the mantissa is even. Half a unit beyond the greatest double the
numbers become infinite. The conversion of a ratio and that of a decimal both give it.
-/

namespace FilmQuery.Binary64

/-- The rational number that a finite number is. -/
def toRat : Binary64 → ℚ
  | finite negative m q => (if negative then -1 else 1) * (m * 2 ^ q)
  | infinite _ | nan => 0

/-- The least magnitude that rounds to infinity: the greatest finite number and half a unit. -/
def overflow : ℚ := 2 ^ 1024 - 2 ^ 970

/-- `x` is the double nearest to `r`: it has the sign of `r`, none is nearer, and the mantissa is
even where another one is as near; it is infinite exactly if `r` overflows. -/
def IsNearest (r : ℚ) (x : Binary64) : Prop :=
  match x with
  | finite negative m q =>
    negative = decide (r < 0) ∧ (finite negative m q).IsCanonical ∧ |r| < overflow ∧
      ∀ y : Binary64, y.IsCanonical → y.isFinite = true →
        |r - toRat (finite negative m q)| ≤ |r - toRat y| ∧
          (|r - toRat (finite negative m q)| = |r - toRat y| →
            toRat y = toRat (finite negative m q) ∨ m % 2 = 0)
  | infinite negative => negative = decide (r < 0) ∧ overflow ≤ |r|
  | nan => False

/-! ## Integers -/

/-- Rounding to an integer is off by half at most, and by half only to an even one. -/
theorem abs_sub_divEven (a : ℕ) {b : ℕ} (hb : 0 < b) :
    |(a : ℚ) / b - divEven a b| ≤ 1 / 2 ∧
      (|(a : ℚ) / b - divEven a b| = 1 / 2 → divEven a b % 2 = 0) := by
  have hb' : (0 : ℚ) < b := by exact_mod_cast hb
  have hsplit : (a : ℚ) / b = (a / b : ℕ) + ((a % b : ℕ) : ℚ) / b := by
    rw [div_eq_iff hb'.ne', add_mul, div_mul_cancel₀ _ hb'.ne']
    exact_mod_cast (Nat.div_add_mod' a b).symm
  have hnonneg : (0 : ℚ) ≤ ((a % b : ℕ) : ℚ) / b := by positivity
  have hlt : ((a % b : ℕ) : ℚ) / b < 1 := by
    rw [div_lt_one hb']
    exact_mod_cast Nat.mod_lt a hb
  simp only [divEven]
  split_ifs with hlow hhigh heven
  · have hhalf : ((a % b : ℕ) : ℚ) / b < 1 / 2 := by
      rw [div_lt_div_iff₀ hb' two_pos]
      exact_mod_cast (by omega : a % b * 2 < 1 * b)
    rw [hsplit, add_sub_cancel_left, abs_of_nonneg hnonneg]
    exact ⟨hhalf.le, fun h => absurd h hhalf.ne⟩
  · have hhalf : 1 / 2 < ((a % b : ℕ) : ℚ) / b := by
      rw [div_lt_div_iff₀ two_pos hb']
      exact_mod_cast (by omega : 1 * b < a % b * 2)
    rw [hsplit, Nat.cast_add_one, add_sub_add_left_eq_sub, abs_of_neg (by linarith)]
    exact ⟨by linarith, fun h => by linarith⟩
  · have hhalf : ((a % b : ℕ) : ℚ) / b = 1 / 2 := by
      rw [div_eq_div_iff hb'.ne' two_ne_zero]
      exact_mod_cast (by omega : a % b * 2 = 1 * b)
    rw [hsplit, add_sub_cancel_left, hhalf, abs_of_pos one_half_pos]
    exact ⟨le_rfl, fun _ => heven⟩
  · have hhalf : ((a % b : ℕ) : ℚ) / b = 1 / 2 := by
      rw [div_eq_div_iff hb'.ne' two_ne_zero]
      exact_mod_cast (by omega : a % b * 2 = 1 * b)
    rw [hsplit, Nat.cast_add_one, add_sub_add_left_eq_sub, hhalf, abs_of_neg (by norm_num)]
    exact ⟨by norm_num, fun _ => by omega⟩

/-- An integer that is off by half at most is nearest, and another one is as near only if it is off
by half. -/
theorem abs_sub_le_of_half {s : ℚ} {d k : ℤ} (h : |s - d| ≤ 1 / 2) :
    |s - d| ≤ |s - k| ∧ (|s - d| = |s - k| → k = d ∨ |s - d| = 1 / 2) := by
  by_cases hk : k = d
  · subst hk
    exact ⟨le_rfl, fun _ => Or.inl rfl⟩
  · have hone : (1 : ℚ) ≤ |(k : ℚ) - d| := by
      exact_mod_cast Int.one_le_abs (sub_ne_zero.2 hk)
    have htriangle : |(k : ℚ) - d| ≤ |s - d| + |s - k| := by
      have := abs_sub_le (k : ℚ) s d
      rw [abs_sub_comm (k : ℚ) s] at this
      linarith
    exact ⟨by linarith, fun heq => Or.inr (by linarith)⟩

/-! ## Binary exponents -/

theorem scaled_ratio (num den : ℕ) (q : ℤ) :
    ((scaled num den q).1 : ℚ) / (scaled num den q).2 = num / den / 2 ^ q := by
  simp only [scaled, Nat.pow_eq]
  obtain ⟨n, rfl | rfl⟩ := q.eq_nat_or_neg
  · simp [div_div]
  · simp [mul_div_right_comm]

theorem scaled_den_pos (num : ℕ) {den : ℕ} (hden : 0 < den) (q : ℤ) :
    0 < (scaled num den q).2 :=
  Nat.mul_pos hden (Nat.pow_pos (by decide))

theorem floorLog2_bounds {num den : ℕ} (hnum : 0 < num) (hden : 0 < den) :
    (2 : ℚ) ^ floorLog2 num den ≤ num / den ∧ (num : ℚ) / den < 2 ^ (floorLog2 num den + 1) := by
  have hden' : (0 : ℚ) < den := by exact_mod_cast hden
  -- the estimate by the lengths in bits is right or one too great
  set k : ℤ := (num.log2 : ℤ) - den.log2 with hk
  have hlow : (2 : ℚ) ^ (k - 1) < num / den := by
    have hn : (2 : ℚ) ^ (num.log2 : ℤ) ≤ num := by
      exact_mod_cast Nat.log2_self_le hnum.ne'
    have hd : (den : ℚ) < 2 ^ ((den.log2 : ℤ) + 1) := by
      exact_mod_cast Nat.lt_log2_self (n := den)
    rw [lt_div_iff₀ hden']
    calc (2 : ℚ) ^ (k - 1) * den < 2 ^ (k - 1) * 2 ^ ((den.log2 : ℤ) + 1) := by gcongr
      _ = 2 ^ (num.log2 : ℤ) := by
        rw [← zpow_add₀ two_ne_zero]
        congr 1
        omega
      _ ≤ num := hn
  have hhigh : (num : ℚ) / den < 2 ^ (k + 1) := by
    have hn : (num : ℚ) < 2 ^ ((num.log2 : ℤ) + 1) := by
      exact_mod_cast Nat.lt_log2_self (n := num)
    have hd : (2 : ℚ) ^ (den.log2 : ℤ) ≤ den := by
      exact_mod_cast Nat.log2_self_le hden.ne'
    rw [div_lt_iff₀ hden']
    calc (num : ℚ) < 2 ^ ((num.log2 : ℤ) + 1) := hn
      _ = 2 ^ (k + 1) * 2 ^ (den.log2 : ℤ) := by
        rw [← zpow_add₀ two_ne_zero]
        congr 1
        omega
      _ ≤ 2 ^ (k + 1) * den := by gcongr
  have hscaled := scaled_ratio num den k
  have hpos : (0 : ℚ) < (scaled num den k).2 := by exact_mod_cast scaled_den_pos num hden k
  simp only [floorLog2, ← hk]
  split_ifs with hle
  · refine ⟨?_, hhigh⟩
    have hone : (1 : ℚ) ≤ num / den / 2 ^ k := by
      rw [← hscaled, one_le_div hpos]
      exact_mod_cast hle
    rwa [one_le_div (by positivity)] at hone
  · refine ⟨hlow.le, ?_⟩
    have hone : (num : ℚ) / den / 2 ^ k < 1 := by
      rw [← hscaled, div_lt_one hpos]
      exact_mod_cast Nat.lt_of_not_le hle
    rw [div_lt_one (by positivity)] at hone
    rwa [sub_add_cancel]

/-! ## The nearest number -/

theorem abs_sub_mul_pow (r : ℚ) (q : ℤ) (k : ℚ) :
    |r - k * 2 ^ q| = |r / 2 ^ q - k| * 2 ^ q := by
  have hpos : (0 : ℚ) < 2 ^ q := by positivity
  rw [← abs_of_pos hpos, ← abs_mul, abs_of_pos hpos, sub_mul, div_mul_cancel₀ _ hpos.ne']

/-- A finite number with an exponent of at least `q` is a multiple of `2 ^ q`. -/
theorem exists_toRat_eq_mul (negative : Bool) (m : ℕ) {q q' : ℤ} (h : q ≤ q') :
    ∃ k : ℤ, toRat (finite negative m q') = k * 2 ^ q := by
  obtain ⟨n, rfl⟩ := Int.le.dest h
  refine ⟨(if negative then -1 else 1) * (m * 2 ^ n), ?_⟩
  have hpow : (2 : ℚ) ^ (q + n) = 2 ^ n * 2 ^ q := by
    rw [zpow_add₀ two_ne_zero, zpow_natCast, mul_comm]
  rw [toRat, hpow]
  push_cast
  ring

/-- A finite number with an exponent below `q` is below the numbers with a full mantissa at `q`. -/
theorem toRat_lt_of_exponent_lt {negative : Bool} {m : ℕ} {q q' : ℤ}
    (h : (finite negative m q').IsCanonical) (hlt : q' < q) :
    toRat (finite negative m q') < 2 ^ 52 * 2 ^ q := by
  have hm : (m : ℚ) < 2 ^ 53 := by exact_mod_cast h.1
  have hmagnitude : (m : ℚ) * 2 ^ q' < 2 ^ 52 * 2 ^ q :=
    calc (m : ℚ) * 2 ^ q' < 2 ^ 53 * 2 ^ q' := by gcongr
      _ ≤ 2 ^ 53 * 2 ^ (q - 1) := by
        gcongr
        · norm_num
        · omega
      _ = 2 ^ 52 * 2 ^ q := by
        rw [zpow_sub_one₀ two_ne_zero]
        ring
  have hnonneg : (0 : ℚ) ≤ m * 2 ^ q' := by positivity
  rw [toRat]
  cases negative with
  | false => simpa using hmagnitude
  | true => simpa using by linarith

/-- Among the finite numbers none is nearer than the nearest multiple of `2 ^ q`, if the multiples
have full mantissas there or `q` is the least exponent. -/
theorem abs_sub_le_of_grid {r : ℚ} {q : ℤ} {d : ℕ} (hd : |r / 2 ^ q - d| ≤ 1 / 2)
    (hfull : q = minExponent ∨ 2 ^ 52 ≤ r / 2 ^ q) {y : Binary64} (hy : y.IsCanonical)
    (hfinite : y.isFinite = true) :
    |r - d * 2 ^ q| ≤ |r - toRat y| ∧
      (|r - d * 2 ^ q| = |r - toRat y| → toRat y = d * 2 ^ q ∨ |r / 2 ^ q - d| = 1 / 2) := by
  have hpos : (0 : ℚ) < 2 ^ q := by positivity
  have hnearest : ∀ k : ℤ, |r / 2 ^ q - d| ≤ |r / 2 ^ q - k| ∧
      (|r / 2 ^ q - d| = |r / 2 ^ q - k| → k = d ∨ |r / 2 ^ q - d| = 1 / 2) := fun k => by
    simpa using abs_sub_le_of_half (d := d) (k := k) (by simpa using hd)
  cases y with
  | infinite _ => cases hfinite
  | nan => cases hfinite
  | finite negative m q' =>
      rw [abs_sub_mul_pow]
      rcases le_or_gt q q' with hle | hlt
      · obtain ⟨k, hk⟩ := exists_toRat_eq_mul negative m hle
        rw [hk, abs_sub_mul_pow, mul_right_cancel_iff_of_pos hpos]
        refine ⟨mul_le_mul_of_nonneg_right (hnearest k).1 hpos.le, fun heq => ?_⟩
        rcases (hnearest k).2 heq with rfl | hhalf
        · exact Or.inl (by push_cast; rfl)
        · exact Or.inr hhalf
      · -- `y` lies below the full mantissas at `q`, and so further away than the least of them
        have hs : 2 ^ 52 ≤ r / 2 ^ q := by
          rcases hfull with rfl | hs
          · exact absurd hy.2.1 (not_le_of_gt hlt)
          · exact hs
        have hfurther : |r / 2 ^ q - d| * 2 ^ q < |r - toRat (finite negative m q')| :=
          calc |r / 2 ^ q - d| * 2 ^ q ≤ (r / 2 ^ q - 2 ^ 52) * 2 ^ q := by
                have hle := (hnearest (2 ^ 52)).1
                rw [Int.cast_pow, Int.cast_ofNat, abs_of_nonneg (sub_nonneg.2 hs)] at hle
                exact mul_le_mul_of_nonneg_right hle hpos.le
            _ = r - 2 ^ 52 * 2 ^ q := by rw [sub_mul, div_mul_cancel₀ _ hpos.ne']
            _ < r - toRat (finite negative m q') :=
                sub_lt_sub_left (toRat_lt_of_exponent_lt hy hlt) r
            _ ≤ |r - toRat (finite negative m q')| := le_abs_self _
        exact ⟨hfurther.le, fun heq => absurd heq hfurther.ne⟩

/-! ### Overflow -/

theorem overflow_eq : overflow = (2 ^ 53 - 1 / 2) * 2 ^ maxExponent := by
  have hpow : (2 : ℚ) ^ maxExponent = 2 ^ 970 * 2 := by
    rw [show maxExponent = ((970 : ℕ) : ℤ) + 1 from rfl, zpow_add_one₀ two_ne_zero, zpow_natCast]
  have hsum : (2 : ℚ) ^ 1024 = 2 ^ 54 * 2 ^ 970 := pow_add 2 54 970
  rw [overflow, hpow, hsum]
  generalize (2 : ℚ) ^ 970 = unit
  ring

section

variable {r : ℚ} {q : ℤ} {d : ℕ}

theorem eq_div_mul_pow (r : ℚ) (q : ℤ) : r = r / 2 ^ q * 2 ^ q :=
  (div_mul_cancel₀ r (by positivity)).symm

theorem two_mul_pow_le {q q' : ℤ} (h : q < q') : (2 : ℚ) ^ q * 2 ≤ 2 ^ q' := by
  rw [← zpow_add_one₀ two_ne_zero]
  exact zpow_le_zpow_right₀ one_le_two h

/-- Below the greatest exponent no mantissa overflows. -/
theorem lt_overflow_of_exponent_lt (hsize : r / 2 ^ q < 2 ^ 53) (hq : q < maxExponent) :
    r < overflow := by
  have hpos : (0 : ℚ) < 2 ^ q := by positivity
  have hunit := two_mul_pow_le hq
  rw [overflow_eq, eq_div_mul_pow r q]
  nlinarith

/-- What rounds to a mantissa of 53 bits does not overflow: half a unit beyond the greatest number
is a tie, and the greatest mantissa is odd. -/
theorem lt_overflow_of_mantissa_lt (hd : |r / 2 ^ q - d| ≤ 1 / 2)
    (heven : |r / 2 ^ q - d| = 1 / 2 → d % 2 = 0) (hlt : d < 2 ^ 53) (hq : q ≤ maxExponent) :
    r < overflow := by
  obtain ⟨hlow, -⟩ := abs_sub_le_iff.1 hd
  have hmantissa : (d : ℚ) + 1 ≤ 2 ^ 53 := by exact_mod_cast hlt
  rcases hq.lt_or_eq with hq | rfl
  · exact lt_overflow_of_exponent_lt (by linarith) hq
  · have hne : r / 2 ^ maxExponent ≠ 2 ^ 53 - 1 / 2 := by
      intro heq
      have hgreatest : (d : ℚ) = 2 ^ 53 - 1 := by linarith
      have htie := heven (by rw [heq, hgreatest]; norm_num)
      have hnext : (d : ℚ) + 1 = 2 ^ 53 := by linarith
      have hodd : d + 1 = 2 ^ 53 := by exact_mod_cast hnext
      omega
    have hbelow : r / 2 ^ maxExponent < 2 ^ 53 - 1 / 2 := lt_of_le_of_ne (by linarith) hne
    rw [overflow_eq, eq_div_mul_pow r maxExponent]
    exact mul_lt_mul_of_pos_right hbelow (by positivity)

/-! ### Rounding at an exponent -/

theorem isNearest_infinite (hr : 0 ≤ r) (hoverflow : overflow ≤ r) :
    IsNearest r (infinite false) :=
  ⟨by simp [hr], by rwa [abs_of_nonneg hr]⟩

/-- A double that is the nearest multiple of `2 ^ q` is the nearest double. -/
theorem isNearest_finite {m : ℕ} {e : ℤ} (hr : 0 ≤ r) (hoverflow : r < overflow)
    (hcanonical : (finite false m e).IsCanonical)
    (hvalue : toRat (finite false m e) = d * 2 ^ q) (hd : |r / 2 ^ q - d| ≤ 1 / 2)
    (heven : |r / 2 ^ q - d| = 1 / 2 → m % 2 = 0)
    (hfull : q = minExponent ∨ 2 ^ 52 ≤ r / 2 ^ q) : IsNearest r (finite false m e) := by
  refine ⟨by simp [hr], hcanonical, by rwa [abs_of_nonneg hr], fun y hy hfinite => ?_⟩
  obtain ⟨hle, htie⟩ := abs_sub_le_of_grid hd hfull hy hfinite
  rw [hvalue]
  exact ⟨hle, fun heq => (htie heq).imp_right heven⟩

/-- Up to half of the least positive number the nearest one is zero. -/
theorem isNearest_zero (hr : 0 ≤ r) (hsmall : r / 2 ^ minExponent ≤ 1 / 2) :
    IsNearest r (finite false 0 minExponent) := by
  have hnonneg : 0 ≤ r / 2 ^ minExponent := by positivity
  have hd : |r / 2 ^ minExponent - (0 : ℕ)| ≤ 1 / 2 := by
    rwa [Nat.cast_zero, sub_zero, abs_of_nonneg hnonneg]
  exact isNearest_finite hr (lt_overflow_of_exponent_lt (hsmall.trans_lt (by norm_num)) (by decide))
    ⟨by decide, le_rfl, by decide, Or.inr rfl⟩ (by simp [toRat]) hd (fun _ => rfl) (Or.inl rfl)

/-- The nearest multiple of `2 ^ q` gives the nearest double, if `q` is the exponent at which the
mantissa is full, or the least one. -/
theorem isNearest_normalize (hr : 0 ≤ r) (hq : minExponent ≤ q) (hsize : r / 2 ^ q < 2 ^ 53)
    (hfull : q = minExponent ∨ 2 ^ 52 ≤ r / 2 ^ q) (hd : |r / 2 ^ q - d| ≤ 1 / 2)
    (heven : |r / 2 ^ q - d| = 1 / 2 → d % 2 = 0) : IsNearest r (normalize false d q) := by
  obtain ⟨hlow, hhigh⟩ := abs_sub_le_iff.1 hd
  have hd_le : d ≤ 2 ^ 53 := by
    have hd_lt : (d : ℚ) < 2 ^ 53 + 1 := by linarith
    exact Nat.lt_succ_iff.1 (by exact_mod_cast hd_lt)
  rcases hd_le.lt_or_eq with hlt | rfl
  · have hne : d ≠ Nat.pow 2 53 := hlt.ne
    have hnormalize : normalize false d q =
        if maxExponent < q then infinite false else finite false d q := by
      simp [normalize, hne]
    rw [hnormalize]
    split_ifs with hmax
    · have hs : 2 ^ 52 ≤ r / 2 ^ q :=
        hfull.resolve_left fun heq => absurd (heq ▸ hmax) (by decide)
      refine isNearest_infinite hr ?_
      rw [overflow_eq, eq_div_mul_pow r q]
      calc (2 ^ 53 - 1 / 2) * (2 : ℚ) ^ maxExponent ≤ 2 ^ 53 * 2 ^ maxExponent := by
            gcongr
            exact sub_le_self _ one_half_pos.le
        _ = 2 ^ 52 * (2 ^ maxExponent * 2) := by ring
        _ ≤ r / 2 ^ q * 2 ^ q := mul_le_mul hs (two_mul_pow_le hmax) (by positivity) (by positivity)
    · have hle : q ≤ maxExponent := le_of_not_gt hmax
      refine isNearest_finite hr (lt_overflow_of_mantissa_lt hd heven hlt hle)
        ⟨hlt, hq, hle, hfull.symm.imp_left fun hs => ?_⟩ (by simp [toRat]) hd heven hfull
      have hd_gt : (2 : ℚ) ^ 52 < d + 1 := by linarith
      exact Nat.lt_succ_iff.1 (by exact_mod_cast hd_gt)
  · -- the mantissa was carried to 54 bits, and the number is a power of two
    have hnormalize : normalize false (2 ^ 53) q =
        if maxExponent < q + 1 then infinite false else finite false (2 ^ 52) (q + 1) := by
      simp [normalize]
    rw [hnormalize]
    push_cast at hhigh
    split_ifs with hmax
    · have hunit : (2 : ℚ) ^ maxExponent ≤ 2 ^ q :=
        zpow_le_zpow_right₀ one_le_two (Int.lt_add_one_iff.1 hmax)
      refine isNearest_infinite hr ?_
      rw [overflow_eq, eq_div_mul_pow r q]
      exact mul_le_mul (by linarith) hunit (by positivity) (by positivity)
    · have hlt : q < maxExponent := Int.lt_iff_add_one_le.2 (le_of_not_gt hmax)
      refine isNearest_finite hr (lt_overflow_of_exponent_lt hsize hlt)
        ⟨by decide, hq.trans (Int.le_add_one le_rfl), hlt, Or.inl le_rfl⟩ ?_ hd
        (fun _ => by decide) hfull
      rw [toRat, zpow_add_one₀ two_ne_zero]
      push_cast
      ring

end

/-! ## Ratios and decimals -/

/-- The double of a ratio is the nearest one. -/
theorem isNearest_ofRatio (num : ℕ) {den : ℕ} (hden : 0 < den) :
    IsNearest (num / den) (ofRatio false num den) := by
  unfold ofRatio
  split_ifs with hnum
  · subst hnum
    simpa using isNearest_zero le_rfl (by norm_num)
  · obtain ⟨hlow, hhigh⟩ := floorLog2_bounds (Nat.pos_of_ne_zero hnum) hden
    dsimp only
    set k := floorLog2 num den
    set q := max (k - 52) minExponent with hq
    have hround := abs_sub_divEven (scaled num den q).1 (scaled_den_pos num hden q)
    rw [scaled_ratio] at hround
    refine isNearest_normalize (by positivity) (le_max_right _ _) ?_ ?_ hround.1 hround.2
    · rw [div_lt_iff₀ (by positivity)]
      calc (num : ℚ) / den < 2 ^ (k + 1) := hhigh
        _ ≤ 2 ^ ((53 : ℕ) + q) := zpow_le_zpow_right₀ one_le_two (by omega)
        _ = 2 ^ 53 * 2 ^ q := by rw [zpow_add₀ two_ne_zero, zpow_natCast]
    · rcases max_choice (k - 52) minExponent with hmax | hmax
      · refine Or.inr ?_
        rw [le_div_iff₀ (by positivity)]
        calc (2 : ℚ) ^ 52 * 2 ^ q = 2 ^ ((52 : ℕ) + q) := by
              rw [zpow_add₀ two_ne_zero, zpow_natCast]
          _ = 2 ^ k := by rw [hq, hmax]; congr 1; omega
          _ ≤ num / den := hlow
      · exact Or.inl (hq.trans hmax)

theorem ten_pow_eq (exp : ℤ) : (10 : ℚ) ^ exp = 10 ^ exp.toNat / 10 ^ (-exp).toNat := by
  obtain ⟨n, rfl | rfl⟩ := exp.eq_nat_or_neg
  · simp
  · simp

/-- A decimal below the cut is less than half of the least positive number. -/
theorem two_mul_ten_pow_le : 2 * (10 : ℚ) ^ (-400 : ℤ) ≤ 1 / 2 * 2 ^ minExponent := by
  have hpow : (2 : ℚ) ^ 1076 ≤ 10 ^ 400 := by
    exact_mod_cast (by decide +kernel : 2 ^ 1076 ≤ 10 ^ 400)
  calc 2 * (10 : ℚ) ^ (-400 : ℤ) = 2 / 10 ^ 400 := by
        rw [zpow_neg, ← div_eq_mul_inv]
        rfl
    _ ≤ 2 / 2 ^ 1076 := by gcongr
    _ = 1 / 2 * 2 ^ minExponent := by
      rw [show minExponent = (2 : ℕ) + -((1076 : ℕ) : ℤ) from rfl, zpow_add₀ two_ne_zero,
        zpow_neg, zpow_natCast, zpow_natCast, div_eq_mul_inv, ← mul_assoc]
      norm_num

/-- The double of a decimal is the nearest one. -/
theorem isNearest_ofDecimal (coeff : ℕ) (exp : ℤ) :
    IsNearest (coeff * 10 ^ exp) (ofDecimal false coeff exp) := by
  unfold ofDecimal
  split_ifs with hzero hlarge hsmall
  · subst hzero
    simpa using isNearest_zero le_rfl (by norm_num)
  · have hcoeff : (1 : ℚ) ≤ coeff := by exact_mod_cast Nat.pos_of_ne_zero hzero
    refine isNearest_infinite (by positivity) ?_
    calc overflow ≤ 2 ^ 1024 := sub_le_self _ (by positivity)
      _ ≤ ((10 ^ 400 : ℕ) : ℚ) := by exact_mod_cast (by decide +kernel : 2 ^ 1024 ≤ 10 ^ 400)
      _ = 1 * 10 ^ (400 : ℤ) := by
        rw [one_mul, Nat.cast_pow]
        exact (zpow_natCast (10 : ℚ) 400).symm
      _ ≤ coeff * 10 ^ exp := by
        gcongr
        norm_num
  · refine isNearest_zero (by positivity) ?_
    rw [div_le_iff₀ (by positivity)]
    have hcoeff : (coeff : ℚ) ≤ 2 * 10 ^ (coeff.log2 : ℤ) := by
      have hlog : coeff ≤ 2 * 10 ^ coeff.log2 :=
        calc coeff ≤ 2 ^ (coeff.log2 + 1) := Nat.lt_log2_self.le
          _ = 2 * 2 ^ coeff.log2 := by rw [pow_succ, mul_comm]
          _ ≤ 2 * 10 ^ coeff.log2 := by
            gcongr
            decide
      exact_mod_cast hlog
    calc (coeff : ℚ) * 10 ^ exp ≤ 2 * 10 ^ (coeff.log2 : ℤ) * 10 ^ (-(400 + coeff.log2) : ℤ) := by
          gcongr
          norm_num
      _ = 2 * 10 ^ (-400 : ℤ) := by
        rw [mul_assoc, ← zpow_add₀ (by norm_num)]
        congr 2
        omega
      _ ≤ 1 / 2 * 2 ^ minExponent := two_mul_ten_pow_le
  · have hden : 0 < Nat.pow 10 (-exp).toNat := Nat.pow_pos (by decide)
    have hratio := isNearest_ofRatio (coeff * Nat.pow 10 exp.toNat) hden
    rw [ten_pow_eq, ← mul_div_assoc]
    simpa using hratio

end FilmQuery.Binary64
