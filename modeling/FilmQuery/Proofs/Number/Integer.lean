import FilmQuery.Proofs.Number.Nearest

/-!
# Integers and their doubles

The double of an integer is the integer rounded to 53 bits: the nearest multiple of the unit of its
last bit, a tie to the even one. From half a unit beyond the greatest double on it is infinite.
-/

namespace FilmQuery

/-! ## Rounding to 53 bits -/

/-- The unit of the last of 53 bits of an integer; integers of fewer bits are counted in ones. -/
def roundingUnit (v : ℤ) : ℤ := 2 ^ (v.natAbs.log2 - 52)

/-- `w` is `v` rounded to 53 bits: the nearest multiple of the unit, a tie to the even one. -/
def IsRounded (v w : ℤ) : Prop :=
  ∃ k : ℤ, w = k * roundingUnit v ∧ 2 * |v - w| ≤ roundingUnit v ∧
    (2 * |v - w| = roundingUnit v → k % 2 = 0)

theorem roundingUnit_neg (v : ℤ) : roundingUnit (-v) = roundingUnit v := by
  rw [roundingUnit, Int.natAbs_neg, roundingUnit]

theorem IsRounded.neg {v w : ℤ} (h : IsRounded v w) : IsRounded (-v) (-w) := by
  obtain ⟨k, rfl, hle, htie⟩ := h
  have habs : |(-v) - -(k * roundingUnit v)| = |v - k * roundingUnit v| := by
    rw [← neg_sub', abs_neg]
  refine ⟨-k, by rw [roundingUnit_neg, neg_mul], ?_, ?_⟩
  · rwa [habs, roundingUnit_neg]
  · rw [habs, roundingUnit_neg]
    intro heq
    have hk := htie heq
    omega

/-- Integers of 53 bits are not rounded, nor is the next power of two. -/
theorem IsRounded.eq_of_abs_le {v w : ℤ} (h : IsRounded v w) (hv : |v| ≤ 2 ^ 53) : w = v := by
  obtain ⟨k, rfl, hle, -⟩ := h
  rw [Int.abs_eq_natAbs] at hv hle
  have hsize : v.natAbs ≤ 2 ^ 53 := by omega
  rcases hsize.lt_or_eq with hlt | heq
  · have hlog : v.natAbs.log2 - 52 = 0 := by
      rcases eq_or_ne v.natAbs 0 with hzero | hzero
      · rw [hzero]
        rfl
      · have hlog := (Nat.log2_lt hzero).2 hlt
        omega
    have hunit : roundingUnit v = 1 := by rw [roundingUnit, hlog, pow_zero]
    rw [hunit] at hle ⊢
    omega
  · have hunit : roundingUnit v = 2 := by
      rw [roundingUnit, heq, Nat.log2_two_pow]
      rfl
    rw [hunit] at hle ⊢
    omega

namespace Binary64

/-! ## The double of an integer -/

theorem floorLog2_one {n : ℕ} (hn : 0 < n) : floorLog2 n 1 = n.log2 := by
  have hle : 2 ^ n.log2 ≤ n := Nat.log2_self_le hn.ne'
  have hone : Nat.log2 1 = 0 := by decide
  simp [floorLog2, scaled, hone, hle]

theorem toRat_normalize {d : ℕ} {q : ℤ} (hfinite : (normalize false d q).isFinite = true) :
    toRat (normalize false d q) = d * 2 ^ q := by
  simp only [normalize] at hfinite ⊢
  by_cases hcarry : d = Nat.pow 2 53
  · simp only [if_pos hcarry] at hfinite ⊢
    split_ifs at hfinite ⊢ with hmax
    · cases hfinite
    · rw [toRat_finite, signFactor_false, one_mul, zpow_add_one₀ two_ne_zero, hcarry]
      push_cast
      ring
  · simp only [if_neg hcarry] at hfinite ⊢
    split_ifs at hfinite ⊢ with hmax
    · cases hfinite
    · rw [toRat_finite, signFactor_false, one_mul]

/-- The double of a positive integer, where it is finite, is the integer rounded to 53 bits. -/
theorem exists_isRounded_ofRatio {n : ℕ} (hn : 0 < n)
    (hfinite : (ofRatio false n 1).isFinite = true) :
    ∃ w : ℤ, IsRounded n w ∧ toRat (ofRatio false n 1) = w := by
  obtain ⟨q, hq⟩ : ∃ q : ℤ, (n.log2 : ℤ) - 52 = q := ⟨_, rfl⟩
  have hexponent : max q minExponent = q := by
    have hmin : minExponent = -1074 := rfl
    omega
  have hround := abs_sub_divEven (scaled n 1 q).1 (scaled_den_pos n one_pos q)
  rw [scaled_ratio, Nat.cast_one, div_one] at hround
  simp only [ofRatio, if_neg hn.ne', floorLog2_one hn, hq, hexponent] at hfinite ⊢
  rw [toRat_normalize hfinite]
  generalize divEven (scaled n 1 q).1 (scaled n 1 q).2 = d at *
  obtain ⟨hoff, htie⟩ := hround
  rcases le_or_gt 0 q with hsign | hsign
  · -- the integer has more than 53 bits, and `q` is the exponent of the unit
    lift q to ℕ using hsign with e
    have hunit : roundingUnit n = 2 ^ e := by
      rw [roundingUnit, Int.natAbs_natCast]
      congr 1
      omega
    have hpos : (0 : ℚ) < 2 ^ e := by positivity
    have hdistance : ((|(n : ℤ) - d * 2 ^ e| : ℤ) : ℚ) = |(n : ℚ) / 2 ^ e - d| * 2 ^ e := by
      have hscaled := abs_sub_mul_pow n e d
      rw [zpow_natCast] at hscaled
      push_cast
      exact hscaled
    rw [zpow_natCast] at hoff htie
    refine ⟨d * 2 ^ e, ⟨d, by rw [hunit], ?_, fun heq => ?_⟩, by push_cast; rw [zpow_natCast]⟩
    · rw [hunit]
      have hle := mul_le_mul_of_nonneg_right hoff hpos.le
      rw [← hdistance] at hle
      have hle' : 2 * ((|(n : ℤ) - d * 2 ^ e| : ℤ) : ℚ) ≤ 2 ^ e := by linarith
      exact_mod_cast hle'
    · rw [hunit] at heq
      have heq' : 2 * ((|(n : ℤ) - d * 2 ^ e| : ℤ) : ℚ) = 2 ^ e := by exact_mod_cast heq
      rw [hdistance] at heq'
      have hhalf := mul_right_cancel₀ hpos.ne' (by linarith :
        |(n : ℚ) / 2 ^ e - d| * 2 ^ e = 1 / 2 * 2 ^ e)
      exact_mod_cast htie hhalf
  · -- the integer has 53 bits at most, and its mantissa is exact
    have hunit : roundingUnit n = 1 := by
      rw [roundingUnit, Int.natAbs_natCast, Nat.sub_eq_zero_of_le (by omega), pow_zero]
    refine ⟨n, ⟨n, by rw [hunit, mul_one], by simp [hunit], by simp [hunit]⟩, ?_⟩
    obtain ⟨j, rfl⟩ : ∃ j : ℕ, q = -j := ⟨(-q).toNat, by omega⟩
    have hinteger : (n : ℚ) / 2 ^ (-j : ℤ) = (n * 2 ^ j : ℤ) := by
      rw [zpow_neg, zpow_natCast, div_inv_eq_mul]
      push_cast
      rfl
    have hnone := (abs_sub_le_of_half (d := d) (k := n * 2 ^ j) (by exact_mod_cast hoff)).1
    rw [← hinteger, sub_self, abs_zero, Int.cast_natCast] at hnone
    have hexact := sub_eq_zero.1 (abs_nonpos_iff.1 hnone)
    rw [← hexact, div_mul_cancel₀ _ (by positivity), Int.cast_natCast]

/-- The double of an integer, where it is finite, is the integer rounded to 53 bits. -/
theorem exists_isRounded_ofInt {v : ℤ} (hfinite : (ofInt v).isFinite = true) :
    ∃ w : ℤ, IsRounded v w ∧ toRat (ofInt v) = w := by
  rcases eq_or_ne v 0 with rfl | hv
  · exact ⟨0, ⟨0, by decide, by decide, by decide⟩, by simp [ofInt, ofRatio, toRat]⟩
  have hn : 0 < v.natAbs := Int.natAbs_pos.2 hv
  unfold ofInt at hfinite ⊢
  rcases lt_or_gt_of_ne hv with hneg | hpos
  · rw [decide_eq_true hneg, ofRatio_true] at hfinite ⊢
    rw [isFinite_neg] at hfinite
    obtain ⟨w, hw, hvalue⟩ := exists_isRounded_ofRatio hn hfinite
    have hv : -(v.natAbs : ℤ) = v := by omega
    refine ⟨-w, hv ▸ hw.neg, ?_⟩
    rw [toRat_neg, hvalue, Int.cast_neg]
  · rw [decide_eq_false hpos.not_gt] at hfinite ⊢
    rw [← Int.natAbs_of_nonneg hpos.le]
    exact exists_isRounded_ofRatio hn hfinite

/-- From half a unit beyond the greatest double on, integers become infinite. -/
theorem isFinite_ofInt (v : ℤ) : (ofInt v).isFinite = true ↔ |v| < 2 ^ 1024 - 2 ^ 970 := by
  have hoverflow : overflow = ((2 ^ 1024 - 2 ^ 970 : ℤ) : ℚ) := by
    rw [overflow, Int.cast_sub, Int.cast_pow, Int.cast_pow, Int.cast_ofNat]
  rw [(isNearest_ofInt v).isFinite_iff, hoverflow, ← Int.cast_abs, Int.cast_lt]

theorem ofDecimal_zero (negative : Bool) (coeff : ℕ) :
    ofDecimal negative coeff 0 = ofRatio negative coeff 1 := by
  by_cases hzero : coeff = 0
  · simp [ofDecimal, ofRatio, hzero]
  · have hsmall : ¬(0 : ℤ) ≤ -(400 + coeff.log2 : ℤ) := by omega
    rw [ofDecimal, if_neg hzero, if_neg (by decide), if_neg hsmall]
    simp

end Binary64

end FilmQuery
