import FilmQuery.Proofs.Number.Digits
import FilmQuery.Proofs.Number.Nearest
import Mathlib.Data.Rat.Floor
import Mathlib.Tactic.FieldSimp

/-!
# Shortest digits read back

The digits that are found for a positive double stand for a number in its interval, so the nearest
double of that number is the one that was written. The search never fails: the interval is wider
than the grid of seventeen digits.
-/

namespace FilmQuery.Binary64

/-! ## Ratios -/

namespace Ratio

/-- The rational number that a ratio stands for. -/
def toRat (x : Ratio) : ℚ := x.num / x.den

theorem toRat_ofBinary (n : ℕ) (q : ℤ) : (ofBinary n q).toRat = n * 2 ^ q := by
  simp only [toRat, ofBinary, Nat.pow_eq]
  obtain ⟨k, rfl | rfl⟩ := q.eq_nat_or_neg
  · simp
  · simp [div_eq_mul_inv]

theorem toRat_ofDecimal (n : ℕ) (e : ℤ) : (ofDecimal n e).toRat = n * 10 ^ e := by
  simp only [toRat, ofDecimal, Nat.pow_eq]
  obtain ⟨k, rfl | rfl⟩ := e.eq_nat_or_neg
  · simp
  · simp [div_eq_mul_inv]

variable {x y : Ratio}

theorem ble_iff (hx : 0 < x.den) (hy : 0 < y.den) : x.ble y = true ↔ x.toRat ≤ y.toRat := by
  rw [ble, decide_eq_true_eq, toRat, toRat,
    div_le_div_iff₀ (by exact_mod_cast hx) (by exact_mod_cast hy)]
  exact_mod_cast Iff.rfl

theorem blt_iff (hx : 0 < x.den) (hy : 0 < y.den) : x.blt y = true ↔ x.toRat < y.toRat := by
  rw [blt, decide_eq_true_eq, toRat, toRat,
    div_lt_div_iff₀ (by exact_mod_cast hx) (by exact_mod_cast hy)]
  exact_mod_cast Iff.rfl

/-- The integer part on the grid of `10 ^ e` is the neighbour below. -/
theorem floorAt_bounds (x : Ratio) (e : ℤ) :
    x.floorAt e * 10 ^ e ≤ x.toRat ∧ x.toRat < (x.floorAt e + 1 : ℕ) * 10 ^ e := by
  have hpos : (0 : ℚ) < 10 ^ e := by positivity
  have hnonneg : 0 ≤ x.toRat := div_nonneg (Nat.cast_nonneg _) (Nat.cast_nonneg _)
  have hfloor : x.floorAt e = ⌊x.toRat / 10 ^ e⌋₊ := by
    rw [floorAt, ← Rat.natFloor_natCast_div_natCast, toRat, ten_pow_eq]
    simp only [Nat.pow_eq]
    push_cast
    congr 1
    field_simp
  rw [hfloor, ← le_div_iff₀ hpos, ← div_lt_iff₀ hpos]
  exact ⟨Nat.floor_le (div_nonneg hnonneg hpos.le), by exact_mod_cast Nat.lt_floor_add_one _⟩

end Ratio

/-! ## Decimals that read back -/

variable {m n : ℕ} {q e k : ℤ}

theorem toRat_lowerEnd (hm : 0 < m) (q : ℤ) :
    (lowerEnd m q).toRat = m * 2 ^ q - gapBelow m q / 2 := by
  have hquarter : (2 : ℚ) ^ q = 2 ^ (q - 2) * 4 := by
    rw [show (4 : ℚ) = 2 ^ (2 : ℤ) by norm_num, ← zpow_add₀ two_ne_zero, sub_add_cancel]
  have hhalf : (2 : ℚ) ^ (q - 1) = 2 ^ (q - 2) * 2 := by
    rw [← zpow_add_one₀ two_ne_zero]
    congr 1
    omega
  have hleast : m = Nat.pow 2 52 ∧ q ≠ minExponent ↔ m = 2 ^ 52 ∧ q ≠ minExponent := Iff.rfl
  rw [lowerEnd, Ratio.toRat_ofBinary, gapBelow]
  simp only [hleast]
  split_ifs
  · rw [Nat.cast_sub (by omega), hquarter, hhalf]
    push_cast
    ring
  · rw [Nat.cast_sub (by omega), hquarter]
    push_cast
    ring

theorem toRat_upperEnd (m : ℕ) (q : ℤ) : (upperEnd m q).toRat = m * 2 ^ q + 2 ^ q / 2 := by
  have hquarter : (2 : ℚ) ^ q = 2 ^ (q - 2) * 4 := by
    rw [show (4 : ℚ) = 2 ^ (2 : ℤ) by norm_num, ← zpow_add₀ two_ne_zero, sub_add_cancel]
  rw [upperEnd, Ratio.toRat_ofBinary, hquarter]
  push_cast
  ring

/-- A decimal reads back exactly if it lies in the interval. -/
theorem reads_iff (hm : 0 < m) : reads m q n e = true ↔ InInterval m q (n * 10 ^ e) := by
  have hdecimal := ofDecimal_den_pos n e
  have hlow : 0 < (lowerEnd m q).den := ofBinary_den_pos _ _
  have hhigh : 0 < (upperEnd m q).den := ofBinary_den_pos _ _
  simp only [reads, InInterval]
  split_ifs
  · rw [Bool.and_eq_true, Ratio.ble_iff hlow hdecimal, Ratio.ble_iff hdecimal hhigh,
      toRat_lowerEnd hm, toRat_upperEnd, Ratio.toRat_ofDecimal]
  · rw [Bool.and_eq_true, Ratio.blt_iff hlow hdecimal, Ratio.blt_iff hdecimal hhigh,
      toRat_lowerEnd hm, toRat_upperEnd, Ratio.toRat_ofDecimal]

/-- A grid fails only where neither of the two neighbours reads back. -/
theorem onGrid?_eq_none_iff :
    onGrid? m q e = none ↔
      reads m q ((Ratio.ofBinary m q).floorAt e) e = false ∧
        reads m q ((Ratio.ofBinary m q).floorAt e + 1) e = false := by
  simp only [onGrid?]
  split
  · next hlow hhigh =>
    rw [hlow]
    split_ifs <;> simp
  · next hlow hhigh => simp [hlow]
  · next hlow hhigh => simp [hhigh]
  · next hlow hhigh => simp [hlow, hhigh]

/-- On a grid finer than the interval one of the two neighbours lies in the interval. -/
theorem onGrid?_ne_none (hm : 0 < m) (hwidth : (10 : ℚ) ^ e < gapBelow m q / 2 + 2 ^ q / 2) :
    onGrid? m q e ≠ none := by
  obtain ⟨hlow, hhigh⟩ := Ratio.floorAt_bounds (.ofBinary m q) e
  rw [Ratio.toRat_ofBinary] at hlow hhigh
  intro hnone
  obtain ⟨hlow', hhigh'⟩ := onGrid?_eq_none_iff.1 hnone
  rw [← Bool.not_eq_true, reads_iff hm] at hlow' hhigh'
  generalize (Ratio.ofBinary m q).floorAt e = low at *
  have hgap := gapBelow_pos m q
  have hpos : (0 : ℚ) < 2 ^ q := by positivity
  rw [Nat.cast_add_one, add_one_mul] at hhigh hhigh'
  unfold InInterval at hlow' hhigh'
  split_ifs at hlow' hhigh' <;> grind

/-! ## The search -/

/-- The estimate of the decimal exponent by bits is one too great at most, over all binary exponents
that there are: `30103 / 100000` lies between `59 / 196` and `28 / 93`, as the logarithm does. -/
theorem ten_pow_estimate_le (hlow : -1074 ≤ k) (hhigh : k < 1024) :
    (10 : ℚ) ^ (k * 30103 / 100000 - 1) ≤ 2 ^ k := by
  have hpower : ∀ (a : ℚ) (i : ℤ) (n : ℕ), (a ^ i) ^ n = a ^ (i * n) := fun a i n => by
    rw [zpow_mul, zpow_natCast]
  have hpower' : ∀ (a : ℚ) (i : ℤ) (n : ℕ), (a ^ n) ^ i = a ^ (i * n) := fun a i n => by
    rw [mul_comm, zpow_mul, zpow_natCast]
  rcases le_total 0 k with hk | hk
  · refine le_of_pow_le_pow_left₀ (n := 196) (by decide) (by positivity) ?_
    calc ((10 : ℚ) ^ (k * 30103 / 100000 - 1)) ^ 196
        = 10 ^ ((k * 30103 / 100000 - 1) * (196 : ℕ)) := hpower _ _ _
      _ ≤ 10 ^ (k * (59 : ℕ)) := zpow_le_zpow_right₀ (by norm_num) (by omega)
      _ = (10 ^ 59) ^ k := (hpower' _ _ _).symm
      _ ≤ (2 ^ 196) ^ k := zpow_le_zpow_left₀ hk (by positivity) (by norm_num)
      _ = (2 ^ k) ^ 196 := (hpower' _ _ _).trans (hpower _ _ _).symm
  · obtain ⟨j, rfl⟩ : ∃ j : ℕ, k = -j := ⟨(-k).toNat, by omega⟩
    refine le_of_pow_le_pow_left₀ (n := 93) (by decide) (by positivity) ?_
    calc ((10 : ℚ) ^ (-(j : ℤ) * 30103 / 100000 - 1)) ^ 93
        = 10 ^ ((-(j : ℤ) * 30103 / 100000 - 1) * (93 : ℕ)) := hpower _ _ _
      _ ≤ 10 ^ (-(j : ℤ) * (28 : ℕ)) := zpow_le_zpow_right₀ (by norm_num) (by omega)
      _ = (10 ^ 28) ^ (-(j : ℤ)) := (hpower' _ _ _).symm
      _ ≤ (2 ^ 93) ^ (-(j : ℤ)) := by
        rw [zpow_neg, zpow_neg, zpow_natCast, zpow_natCast]
        exact inv_anti₀ (by positivity) (pow_le_pow_left₀ (by positivity) (by norm_num) j)
      _ = (2 ^ (-(j : ℤ))) ^ 93 := (hpower' _ _ _).trans (hpower _ _ _).symm

/-- The decimal exponent that is found is not too great. -/
theorem ten_pow_floorLog10_le (hm : 0 < m) (hx : (finite false m q).IsCanonical) :
    (10 : ℚ) ^ floorLog10 (.ofBinary m q) ≤ m * 2 ^ q := by
  obtain ⟨hsize, hlow, hhigh, -⟩ := hx
  have hnum : 0 < (Ratio.ofBinary m q).num := Nat.mul_pos hm (Nat.pow_pos (by decide))
  have hbits := floorLog2_bounds hnum (ofBinary_den_pos m q)
  rw [show ((Ratio.ofBinary m q).num : ℚ) / (Ratio.ofBinary m q).den = m * 2 ^ q from
    Ratio.toRat_ofBinary m q] at hbits
  have hone : ∀ e : ℤ, (Ratio.ofDecimal 1 e).ble (.ofBinary m q) = true →
      (10 : ℚ) ^ e ≤ m * 2 ^ q := by
    intro e he
    rw [Ratio.ble_iff (ofDecimal_den_pos _ _) (ofBinary_den_pos _ _), Ratio.toRat_ofDecimal,
      Ratio.toRat_ofBinary] at he
    simpa using he
  simp only [floorLog10]
  split_ifs with hnext hself
  · exact hone _ hnext
  · exact hone _ hself
  · have hm_one : (1 : ℚ) ≤ m := by exact_mod_cast hm
    have hm_lt : (m : ℚ) < 2 ^ 53 := by exact_mod_cast hsize
    have hpos : (0 : ℚ) < 2 ^ q := by positivity
    have hleast : q < floorLog2 (Ratio.ofBinary m q).num (Ratio.ofBinary m q).den + 1 := by
      rw [← zpow_lt_zpow_iff_right₀ (one_lt_two : (1 : ℚ) < 2)]
      exact (le_mul_of_one_le_left hpos.le hm_one).trans_lt hbits.2
    have hgreatest : floorLog2 (Ratio.ofBinary m q).num (Ratio.ofBinary m q).den < 53 + q := by
      rw [← zpow_lt_zpow_iff_right₀ (one_lt_two : (1 : ℚ) < 2), zpow_add₀ two_ne_zero]
      exact hbits.1.trans_lt (mul_lt_mul_of_pos_right (by exact_mod_cast hm_lt) hpos)
    have hmin : minExponent = -1074 := rfl
    have hmax : maxExponent = 971 := rfl
    exact (ten_pow_estimate_le (by omega) (by omega)).trans hbits.1

/-- The interval is wider than the grid of seventeen digits. -/
theorem ten_pow_lt_width (hx : (finite false m q).IsCanonical) (hk : (10 : ℚ) ^ k ≤ m * 2 ^ q) :
    (10 : ℚ) ^ (k - 16) < gapBelow m q / 2 + 2 ^ q / 2 := by
  have hpos : (0 : ℚ) < 2 ^ q := by positivity
  have hgrid : (10 : ℚ) ^ (k - 16) * 10 ^ 16 = 10 ^ k := by
    rw [← zpow_natCast, ← zpow_add₀ (by norm_num)]
    congr 1
    omega
  rw [← hgrid] at hk
  unfold gapBelow
  split_ifs with hleast
  · -- the least full mantissa: three quarters of a unit
    have hhalf : (2 : ℚ) ^ q = 2 ^ (q - 1) * 2 := by
      rw [← zpow_add_one₀ two_ne_zero, sub_add_cancel]
    rw [hleast.1, hhalf] at hk
    rw [hhalf] at hpos ⊢
    push_cast at hk
    linarith
  · have hsize : (m : ℚ) ≤ 2 ^ 53 := by exact_mod_cast hx.1.le
    have hmagnitude := mul_le_mul_of_nonneg_right hsize hpos.le
    linarith

/-- What the search gives reads back if one of the grids that it tries does not fail. -/
theorem reads_searchGrids {tries j : ℕ} (hj : n ≤ j) (hlt : j < n + tries)
    (h : onGrid? m q (k - j) ≠ none) :
    reads m q (searchGrids m q k tries n).1 (searchGrids m q k tries n).2 = true := by
  induction tries generalizing n with
  | zero => omega
  | succ tries ih =>
      rw [searchGrids]
      cases hgrid : onGrid? m q (k - n) with
      | some d => exact reads_of_onGrid? hgrid
      | none =>
          have hne : n ≠ j := by
            rintro rfl
            exact h hgrid
          exact ih (by omega) (by omega)

/-- Zeros at the end of the digits only change places with the exponent. -/
theorem dropZeros_value (fuel d : ℕ) (e : ℤ) :
    ((dropZeros fuel d e).1 : ℚ) * 10 ^ (dropZeros fuel d e).2 = d * 10 ^ e := by
  induction fuel generalizing d e with
  | zero => rfl
  | succ fuel ih =>
      rw [dropZeros]
      split_ifs with hzero
      · have hd : d = d / 10 * 10 := by omega
        have hcast : (d : ℚ) = (d / 10 : ℕ) * 10 := by exact_mod_cast hd
        rw [ih, zpow_add_one₀ (by norm_num), hcast]
        ring
      · rfl

/-- **The shortest digits lie in the interval of the number.** -/
theorem inInterval_shortest (hm : 0 < m) (hx : (finite false m q).IsCanonical) :
    InInterval m q ((shortest m q).1 * 10 ^ (shortest m q).2) := by
  have hgrid := onGrid?_ne_none hm (ten_pow_lt_width hx (ten_pow_floorLog10_le hm hx))
  simp only [shortest]
  rw [dropZeros_value, ← reads_iff hm]
  exact reads_searchGrids (Nat.zero_le 16) (by decide) hgrid

theorem shortest_pos (hm : 0 < m) (hx : (finite false m q).IsCanonical) :
    0 < (shortest m q).1 := by
  have hlow := (inInterval_shortest hm hx).bounds.1
  have hm_one : (1 : ℚ) ≤ m := by exact_mod_cast hm
  have hunit := mul_le_mul_of_nonneg_right hm_one (by positivity : (0 : ℚ) ≤ 2 ^ q)
  have hgap := gapBelow_le m q
  have hgap_pos := gapBelow_pos m q
  apply Nat.pos_of_ne_zero
  intro hzero
  rw [hzero, Nat.cast_zero, zero_mul] at hlow
  linarith

end FilmQuery.Binary64
