import FilmQuery.Number.Shortest
import FilmQuery.Text.Basic

/-!
# Digits

The decimal digits of a positive number begin with one that is not zero. So do the digits that the
search for the shortest decimal finds on one of its seventeen grids. With the mantissa and the
exponent of a double one of the grids always succeeds, which takes bounds on both. Here nothing is
asked of either, so the search may be left without digits; but then its zero does not come to stand
in front of a point with another zero.
-/

namespace FilmQuery

/-! ## The digits of a natural number -/

namespace Text

theorem isAsciiDigit_of_mem_ofNat {n : Nat} {c : CodePoint} (hc : c ∈ ofNat n) :
    isAsciiDigit c = true := by
  obtain ⟨d, hd, rfl⟩ := List.mem_map.1 hc
  have hdigit : d.isDigit = true := Nat.isDigit_of_mem_toDigits (by decide) (by decide) hd
  simpa [Char.isDigit, isAsciiDigit, UInt32.le_iff_toNat_le] using hdigit

theorem ofNat_ne_nil (n : Nat) : ofNat n ≠ [] := by
  simp [ofNat]

theorem ofNat_zero : ofNat 0 = lit "0" := by decide

theorem ofNat_of_lt_ten {n : Nat} (hn : n < 10) : ofNat n = ['0'.toNat + n] := by
  rw [ofNat, Nat.toDigits_of_lt_base hn, List.map_singleton, Nat.toNat_digitChar_of_lt_ten hn]
  rfl

theorem ofNat_of_ten_le {n : Nat} (hn : 10 ≤ n) : ofNat n = ofNat (n / 10) ++ ofNat (n % 10) := by
  rw [ofNat_of_lt_ten (Nat.mod_lt n (by decide)), ofNat, Nat.toDigits_of_base_le (by decide) hn,
    List.map_append, List.map_singleton, Nat.toNat_digitChar_of_lt_ten (Nat.mod_lt n (by decide))]
  rfl

/-- No leading zeros. -/
theorem exists_ofNat_eq_cons {n : Nat} (hn : 0 < n) :
    ∃ d ds, ofNat n = d :: ds ∧ d ≠ '0'.toNat := by
  induction n using Nat.strongRecOn with
  | ind n ih =>
      by_cases hsmall : n < 10
      · refine ⟨'0'.toNat + n, [], ofNat_of_lt_ten hsmall, ?_⟩
        show 48 + n ≠ 48
        omega
      · have hten : 10 ≤ n := Nat.le_of_not_lt hsmall
        obtain ⟨d, ds, hds, hd⟩ := ih (n / 10) (by omega) (by omega)
        refine ⟨d, ds ++ ofNat (n % 10), ?_, hd⟩
        rw [ofNat_of_ten_le hten, hds, List.cons_append]

end Text

namespace Binary64

/-! ## The shortest digits -/

theorem ofDecimal_den_pos (n : Nat) (e : Int) : 0 < (Ratio.ofDecimal n e).den :=
  Nat.pow_pos (by decide)

theorem ofBinary_den_pos (n : Nat) (q : Int) : 0 < (Ratio.ofBinary n q).den :=
  Nat.pow_pos (by decide)

theorem lowerEnd_num_pos {m : Nat} (hm : 0 < m) (q : Int) : 0 < (lowerEnd m q).num := by
  unfold lowerEnd Ratio.ofBinary
  apply Nat.mul_pos
  · split <;> omega
  · exact Nat.pow_pos (by decide)

/-- Zero does not read back as a positive number. -/
theorem reads_zero {m : Nat} (hm : 0 < m) (q e : Int) : reads m q 0 e = false := by
  have hprod : 0 < (lowerEnd m q).num * (Ratio.ofDecimal 0 e).den :=
    Nat.mul_pos (lowerEnd_num_pos hm q) (ofDecimal_den_pos 0 e)
  have hzero : (Ratio.ofDecimal 0 e).num * (lowerEnd m q).den = 0 := by
    simp [Ratio.ofDecimal]
  have hble : (lowerEnd m q).ble (Ratio.ofDecimal 0 e) = false := by
    rw [Ratio.ble, hzero, decide_eq_false_iff_not]
    omega
  have hblt : (lowerEnd m q).blt (Ratio.ofDecimal 0 e) = false := by
    rw [Ratio.blt, hzero, decide_eq_false_iff_not]
    omega
  simp only [reads, hble, hblt, Bool.false_and, ite_self]

/-- What is taken from a grid reads back. -/
theorem reads_of_onGrid? {m d : Nat} {q e : Int} (h : onGrid? m q e = some d) :
    reads m q d e = true := by
  simp only [onGrid?] at h
  split at h
  · next hlow hhigh =>
      split at h
      · cases h
        exact hlow
      · split at h
        · cases h
          exact hhigh
        · split at h
          · cases h
            exact hlow
          · cases h
            exact hhigh
  · next hlow _ =>
      cases h
      exact hlow
  · next _ hhigh =>
      cases h
      exact hhigh
  · exact absurd h (by simp)

theorem onGrid?_ne_zero {m d : Nat} (hm : 0 < m) {q e : Int} (h : onGrid? m q e = some d) :
    d ≠ 0 := by
  rintro rfl
  have hreads := reads_of_onGrid? h
  rw [reads_zero hm] at hreads
  exact absurd hreads (by decide)

/-- The search gives no digits only where all its grids fail. -/
theorem searchGrids_of_zero {m : Nat} (hm : 0 < m) {q k : Int} {tries n : Nat}
    (h : (searchGrids m q k tries n).1 = 0) :
    searchGrids m q k tries n = (0, k - (n + tries : Nat)) ∧
      (Ratio.ofBinary m q).floorAt (k - (n + tries : Nat)) = 0 := by
  induction tries generalizing n with
  | zero => exact ⟨Prod.ext h rfl, h⟩
  | succ tries ih =>
      rw [searchGrids] at h ⊢
      cases hgrid : onGrid? m q (k - n) with
      | some d =>
          rw [hgrid] at h
          exact absurd h (onGrid?_ne_zero hm hgrid)
      | none =>
          rw [hgrid] at h
          have hnext := ih h
          rwa [Nat.add_right_comm n 1 tries] at hnext

theorem dropZeros_zero (fuel : Nat) (e : Int) : dropZeros fuel 0 e = (0, e + fuel) := by
  induction fuel generalizing e with
  | zero => simp [dropZeros]
  | succ fuel ih =>
      rw [dropZeros, if_pos (by decide), ih]
      congr 1
      omega

theorem dropZeros_ne_zero {d : Nat} (hd : d ≠ 0) (fuel : Nat) (e : Int) :
    (dropZeros fuel d e).1 ≠ 0 := by
  induction fuel generalizing d e with
  | zero => exact hd
  | succ fuel ih =>
      rw [dropZeros]
      split
      · exact ih (by omega) (e + 1)
      · exact hd

theorem den_le_num_of_floorLog2 {num den : Nat} (h : 0 ≤ floorLog2 num den) : den ≤ num := by
  simp only [floorLog2] at h
  split at h
  · next hle =>
      have hshift : (-((num.log2 : Int) - den.log2)).toNat = 0 := by omega
      simp only [scaled, hshift, Nat.pow_eq, Nat.pow_zero, Nat.mul_one] at hle
      exact Nat.le_trans (Nat.le_mul_of_pos_right den (Nat.pow_pos (by decide))) hle
  · have hlog : den.log2 + 1 ≤ num.log2 := by omega
    have hnum : num ≠ 0 := by
      rintro rfl
      simp at hlog
    calc
      den ≤ 2 ^ (den.log2 + 1) := Nat.le_of_lt Nat.lt_log2_self
      _ ≤ 2 ^ num.log2 := Nat.pow_le_pow_right (by decide) hlog
      _ ≤ num := Nat.log2_self_le hnum

/-- A number whose decimal exponent is found to be positive is at least one. -/
theorem den_le_num_of_floorLog10 {x : Ratio} (h : 0 < floorLog10 x) : x.den ≤ x.num := by
  apply den_le_num_of_floorLog2
  simp only [floorLog10] at h
  split at h
  · omega
  · split at h <;> omega

theorem floorAt_ne_zero {x : Ratio} (hden : 0 < x.den) (hx : x.den ≤ x.num) {e : Int}
    (he : e ≤ 0) : x.floorAt e ≠ 0 := by
  have hshift : e.toNat = 0 := by omega
  have hpow : 0 < 10 ^ (-e).toNat := Nat.pow_pos (by decide)
  simp only [Ratio.floorAt, hshift, Nat.pow_eq, Nat.pow_zero, Nat.mul_one]
  apply Nat.ne_of_gt
  exact Nat.div_pos (Nat.le_trans hx (Nat.le_mul_of_pos_right x.num hpow)) hden

/-- Digits that are found to be zero stand at an exponent outside of 1 to 17. No double has such
digits; this is for mantissas and exponents of any size. -/
theorem shortest_exponent_of_zero {m : Nat} (hm : 0 < m) {q : Int} (h : (shortest m q).1 = 0) :
    (shortest m q).2 ≤ 0 ∨ 17 < (shortest m q).2 := by
  have hdigits : (searchGrids m q (floorLog10 (Ratio.ofBinary m q)) 17 0).1 = 0 :=
    Decidable.byContradiction fun hne => dropZeros_ne_zero hne 17 _ h
  -- no digits are left only by the last resort of the search, whose exponent is then the estimate
  obtain ⟨hsearch, hfloor⟩ := searchGrids_of_zero hm hdigits
  have hshortest : shortest m q = (0, floorLog10 (Ratio.ofBinary m q)) := by
    simp only [shortest, hsearch, dropZeros_zero]
    congr 1
    omega
  rw [hshortest]
  apply Decidable.byContradiction
  intro hrange
  -- with a positive estimate the number is at least one, and so are its digits
  have hpos : 0 < floorLog10 (Ratio.ofBinary m q) := by omega
  exact floorAt_ne_zero (ofBinary_den_pos m q) (den_le_num_of_floorLog10 hpos) (by omega) hfloor

end Binary64

end FilmQuery
