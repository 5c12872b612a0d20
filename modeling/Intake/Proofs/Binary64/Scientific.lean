import Intake.Proofs.Binary64.Nearest

/-
  This file shows which numerals in exponent notation have a
  given double for their nearest one.

  A numeral far outside of the range of doubles is decided by
  an estimate of its size.  The estimate is good enough for the
  numerals in the interval of a finite double.

  The main statements are:
    * `Binary64.bounds_of_contains`
    * `Binary64.size_bounds`
    * `Binary64.ofScientific_of_contains`
    * `Binary64.contains_of_ofScientific`
-/

namespace Intake

namespace Binary64

/- The magnitudes in the interval of a double are in the range of doubles. -/
theorem bounds_of_contains
    {x : Binary64}
    (hFinite : x.isFinite = true)
    (hNonzero : x.magnitude ≠ 0)
    {r : ℚ}
    (hInside : x.interval.Contains r) :
    (10 : ℚ) ^ (-324 : Int) ≤ r ∧ r ≤ 10 ^ (309 : Int) := by
  rcases Interval.contains_iff.mp hInside with ⟨hLower, hUpper, _⟩
  constructor
  · have hLow : ((1 : Nat) : ℚ) ≤ x.interval.low :=
      Nat.cast_le.mpr (interval_spec hNonzero).1
    calc
      (10 : ℚ) ^ (-324 : Int) ≤ 2 ^ (-1075 : Int) :=
        ten_zpow_le_two_zpow (by norm_num) (by norm_num)
      _ = (1 : Nat) / Interval.unitsPerOne := by
        rw [Interval.cast_unitsPerOne, Nat.cast_one, one_div, zpow_neg]
        rfl
      _ ≤ x.interval.low / Interval.unitsPerOne :=
        div_le_div_of_nonneg_right hLow (Nat.cast_nonneg _)
      _ ≤ r := hLower
  · have hSignificand : (x.significand : ℚ) + 1 / 2 ≤ 2 ^ (53 : Int) := by
      have hLess : ((x.significand + 1 : Nat) : ℚ) ≤ (twoTo 53 : Nat) :=
        Nat.cast_le.mpr x.significand_lt
      rw [cast_twoTo, Nat.cast_add, Nat.cast_one, ← zpow_natCast] at hLess
      refine le_trans ?_ hLess
      linarith
    have hScale : x.scale ≤ 971 := by
      have hField := exponentField_lt hFinite
      unfold scale
      split <;> omega
    calc
      r ≤ (x.significand + 1 / 2) * 2 ^ x.scale := by
        rw [← high_interval]
        exact hUpper
      _ ≤ 2 ^ (53 : Int) * 2 ^ (971 : Int) := by
        apply mul_le_mul hSignificand _ (by positivity) (by positivity)
        exact zpow_le_zpow_right₀ one_le_two hScale
      _ = 2 ^ (1024 : Int) := (zpow_add₀ two_ne_zero 53 971).symm
      _ ≤ 10 ^ (309 : Int) := two_zpow_le_ten_zpow (by norm_num) (by norm_num)

/-
  The size of a numeral that is estimated from its length is
  that of its value, give or take two places.
-/
theorem size_bounds
    {n : Nat}
    {e : Int}
    (hPos : 0 < n)
    (hLength : n.log2 ≤ 2000)
    (hLower : (10 : ℚ) ^ (-324 : Int) ≤ n * 10 ^ e)
    (hUpper : (n : ℚ) * 10 ^ e ≤ 10 ^ (309 : Int)) :
    -400 ≤ e + (n.log2 : Int) * 30103 / 100000 ∧
      e + (n.log2 : Int) * 30103 / 100000 ≤ 400 := by
  have hTen : (10 : ℚ) ≠ 0 := by norm_num
  have hPower : (0 : ℚ) < 10 ^ e := by positivity
  have hBelow : (2 : ℚ) ^ ((n.log2 : Int) + 1) ≤ 2 * n := by
    have hNat : 2 ^ n.log2 ≤ n := Nat.log2_self_le (Nat.ne_of_gt hPos)
    rw [zpow_add_one₀ two_ne_zero, mul_comm, zpow_natCast]
    exact_mod_cast Nat.mul_le_mul_left 2 hNat
  have hAbove : (n : ℚ) < 2 ^ ((n.log2 : Int) + 1) := by
    have hNat : n < 2 ^ (n.log2 + 1) := Nat.lt_log2_self
    exact_mod_cast hNat
  generalize hDigits : (n.log2 : Int) * 30103 / 100000 = digits
  have hEstimate :
      100000 * digits ≤ (n.log2 : Int) * 30103 ∧
        (n.log2 : Int) * 30103 < 100000 * digits + 100000 := by
    omega
  constructor
  · have hLess : (10 : ℚ) ^ (-324 : Int) < 10 ^ (e + (digits + 2)) := by
      calc
        (10 : ℚ) ^ (-324 : Int) ≤ n * 10 ^ e := hLower
        _ < 2 ^ ((n.log2 : Int) + 1) * 10 ^ e :=
          mul_lt_mul_of_pos_right hAbove hPower
        _ ≤ 10 ^ (digits + 2) * 10 ^ e := by
          apply mul_le_mul_of_nonneg_right _ (le_of_lt hPower)
          exact two_zpow_le_ten_zpow (by omega) (by omega)
        _ = 10 ^ (e + (digits + 2)) := by
          rw [mul_comm, zpow_add₀ hTen e]
    have hExponent := (zpow_lt_zpow_iff_right₀ (by norm_num)).mp hLess
    omega
  · have hLess : (10 : ℚ) ^ (e + digits) ≤ 10 ^ (310 : Int) := by
      calc
        (10 : ℚ) ^ (e + digits) = 10 ^ digits * 10 ^ e := by
          rw [mul_comm, zpow_add₀ hTen e]
        _ ≤ 2 ^ ((n.log2 : Int) + 1) * 10 ^ e := by
          apply mul_le_mul_of_nonneg_right _ (le_of_lt hPower)
          exact ten_zpow_le_two_zpow (by omega) (by omega)
        _ ≤ 2 * n * 10 ^ e :=
          mul_le_mul_of_nonneg_right hBelow (le_of_lt hPower)
        _ ≤ 2 * 10 ^ (309 : Int) := by
          rw [mul_assoc]
          exact mul_le_mul_of_nonneg_left hUpper zero_le_two
        _ ≤ 10 * 10 ^ (309 : Int) :=
          mul_le_mul_of_nonneg_right (by norm_num) (by positivity)
        _ = 10 ^ (310 : Int) := (zpow_one_add₀ hTen 309).symm
    have hExponent := (zpow_le_zpow_iff_right₀ (by norm_num)).mp hLess
    omega

/- A numeral in the interval of a double is nearest to the double. -/
theorem ofScientific_of_contains
    {x : Binary64}
    (hFinite : x.isFinite = true)
    (hNonzero : x.magnitude ≠ 0)
    {n : Nat}
    {e : Int}
    (hPos : 0 < n)
    (hLength : n.log2 ≤ 2000)
    (hInside : x.interval.Contains (n * 10 ^ e)) :
    ofScientific x.negative n e = x := by
  rcases bounds_of_contains hFinite hNonzero hInside with ⟨hLower, hUpper⟩
  rcases size_bounds hPos hLength hLower hUpper with ⟨hSmall, hLarge⟩
  unfold ofScientific
  dsimp only
  rw [if_neg (Nat.ne_of_gt hPos), if_neg (not_lt.mpr hLarge),
    if_neg (not_lt.mpr hSmall)]
  split
  next hNatural =>
    apply ofRatio_of_contains hFinite hNonzero
      (Nat.mul_pos hPos (tenTo_pos _)) Nat.one_pos
    rw [Nat.cast_mul, cast_tenTo, Nat.cast_one, div_one, ← zpow_natCast,
      Int.toNat_of_nonneg hNatural]
    exact hInside
  next hFraction =>
    apply ofRatio_of_contains hFinite hNonzero hPos (tenTo_pos _)
    rw [cast_tenTo, ← zpow_natCast, Int.toNat_of_nonneg (by omega), zpow_neg,
      div_inv_eq_mul]
    exact hInside

/- A numeral whose nearest double is finite and not zero is in its interval. -/
theorem contains_of_ofScientific
    {negative : Bool}
    {x : Binary64}
    (hFinite : x.isFinite = true)
    (hNonzero : x.magnitude ≠ 0)
    {n : Nat}
    {e : Int}
    (hNearest : ofScientific negative n e = x) :
    x.interval.Contains (n * 10 ^ e) := by
  have hNoZero : zero negative ≠ x := by
    rintro rfl
    apply hNonzero
    cases negative <;> rfl
  have hNoInfinity : infinity negative ≠ x := by
    rintro rfl
    cases negative <;> cases hFinite
  unfold ofScientific at hNearest
  dsimp only at hNearest
  split at hNearest
  next => exact absurd hNearest hNoZero
  next hSome =>
    have hPos := Nat.pos_of_ne_zero hSome
    split at hNearest
    next => exact absurd hNearest hNoInfinity
    next =>
      split at hNearest
      next => exact absurd hNearest hNoZero
      next =>
        split at hNearest
        next hNatural =>
          have hInside :=
            contains_of_ofRatio hFinite hNonzero
              (Nat.mul_pos hPos (tenTo_pos _)) Nat.one_pos hNearest
          rw [Nat.cast_mul, cast_tenTo, Nat.cast_one, div_one, ← zpow_natCast,
            Int.toNat_of_nonneg hNatural] at hInside
          exact hInside
        next hFraction =>
          have hInside :=
            contains_of_ofRatio hFinite hNonzero hPos (tenTo_pos _) hNearest
          rw [cast_tenTo, ← zpow_natCast, Int.toNat_of_nonneg (by omega),
            zpow_neg, div_inv_eq_mul] at hInside
          exact hInside

end Binary64

end Intake
