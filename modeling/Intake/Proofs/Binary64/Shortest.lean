import Intake.Binary64.Shortest
import Intake.Proofs.Binary64.Rounding

/-
  This file shows what the shortest decimal of a double is.

  The leading exponent of a fraction is found from the lengths
  of its parts in bits.  A grid of decimals has a point in the
  interval of a double if one of the two points around the
  double is in it, and with seventeen digits there always is
  one.

  Key definitions include:
    * `Binary64.Interval.Contains`
    * `Binary64.IsShortest`

  The main statements are:
    * `Binary64.decimalExponent_spec`
    * `Binary64.onGrid?_spec`
    * `Binary64.onGrid?_ne_none`
    * `Binary64.isShortest_shortest`
-/

namespace Intake

------------------------------------------------------------
-- Powers of Two and of Ten
------------------------------------------------------------

/-
  Powers of two numbers are ordered if their exponents are, by
  an approximation of the logarithm of one to the other.
-/
theorem zpow_le_zpow_of_approximation
    {a b : ℚ}
    (hFirst : 0 < a)
    (hSecond : 1 ≤ b)
    {s t : Nat}
    (hNonzero : s ≠ 0)
    (hApproximation : a ^ s ≤ b ^ t)
    {m n : ℤ}
    (hNatural : 0 ≤ m)
    (hExponents : t * m ≤ s * n) :
    a ^ m ≤ b ^ n := by
  have hPos : 0 < b := lt_of_lt_of_le one_pos hSecond
  rw [← pow_le_pow_iff_left₀ (by positivity) (by positivity) hNonzero]
  calc
    (a ^ m) ^ s = (a ^ s) ^ m := by
      rw [← zpow_natCast, ← zpow_mul, mul_comm, zpow_mul, zpow_natCast]
    _ ≤ (b ^ t) ^ m :=
      zpow_le_zpow_left₀ hNatural (by positivity) hApproximation
    _ = b ^ (t * m) := by rw [← zpow_natCast, ← zpow_mul]
    _ ≤ b ^ (s * n) := zpow_le_zpow_right₀ hSecond hExponents
    _ = (b ^ n) ^ s := by rw [← zpow_natCast, ← zpow_mul, mul_comm]

/-
  The logarithm of two to the base of ten is between 59 / 196
  and 28 / 93.
-/
theorem two_zpow_le_ten_zpow
    {m n : ℤ}
    (hUpper : 28 * n ≤ 93 * m)
    (hLower : 59 * n ≤ 196 * m) :
    (2 : ℚ) ^ n ≤ 10 ^ m := by
  rcases le_or_gt 0 n with hNatural | hNegative
  · exact
      zpow_le_zpow_of_approximation (s := 93) (t := 28) two_pos (by norm_num)
        (by decide) (by norm_num) hNatural hUpper
  · rcases le_or_gt m 0 with hFraction | hLarge
    · have hInverse : (10 : ℚ) ^ (-m) ≤ 2 ^ (-n) :=
        zpow_le_zpow_of_approximation (s := 59) (t := 196) (by norm_num)
          one_le_two (by decide) (by norm_num) (by omega) (by push_cast; omega)
      rw [zpow_neg, zpow_neg] at hInverse
      exact (inv_le_inv₀ (by positivity) (by positivity)).mp hInverse
    · calc
        (2 : ℚ) ^ n ≤ 1 := zpow_le_one_of_nonpos₀ one_le_two (by omega)
        _ ≤ 10 ^ m := one_le_zpow₀ (by norm_num) (by omega)

theorem ten_zpow_le_two_zpow
    {m n : ℤ}
    (hUpper : 93 * m ≤ 28 * n)
    (hLower : 196 * m ≤ 59 * n) :
    (10 : ℚ) ^ m ≤ 2 ^ n := by
  have hInverse : (2 : ℚ) ^ (-n) ≤ 10 ^ (-m) :=
    two_zpow_le_ten_zpow (by omega) (by omega)
  rw [zpow_neg, zpow_neg] at hInverse
  exact (inv_le_inv₀ (by positivity) (by positivity)).mp hInverse

theorem twoTo_add
    (m n : Nat) :
    twoTo (m + n) = twoTo m * twoTo n :=
  Nat.pow_add 2 m n

theorem tenTo_add
    (m n : Nat) :
    tenTo (m + n) = tenTo m * tenTo n :=
  Nat.pow_add 10 m n

theorem log2_twoTo
    (n : Nat) :
    (twoTo n).log2 = n :=
  Nat.log2_two_pow

namespace Binary64

------------------------------------------------------------
-- The Leading Digit
------------------------------------------------------------

/- A power of ten is a quotient of two of them, one of which is one. -/
theorem tenPower_div_tenPower
    (e : ℤ) :
    (tenPower e : ℚ) / tenPower (-e) = 10 ^ e := by
  unfold tenPower
  rw [cast_tenTo, cast_tenTo, ← zpow_natCast, ← zpow_natCast,
    ← zpow_sub₀ (by norm_num)]
  congr 1
  omega

/- A fraction is compared with a power of ten in whole numbers. -/
theorem le_mul_tenPower_iff
    {a b : Nat}
    (hDenominator : 0 < b)
    (e : ℤ) :
    b * tenPower e ≤ a * tenPower (-e) ↔ (10 : ℚ) ^ e ≤ a / b := by
  have hFraction : (0 : ℚ) < b := Nat.cast_pos.mpr hDenominator
  have hPower : (0 : ℚ) < tenPower (-e) := Nat.cast_pos.mpr (tenTo_pos _)
  rw [← tenPower_div_tenPower, div_le_div_iff₀ hPower hFraction,
    mul_comm (tenPower e : ℚ)]
  exact_mod_cast Iff.rfl

/-
  The exponent that is found is that of the leading digit, if
  the parts of the fraction are not too different in length.
-/
theorem decimalExponent_spec
    {a b : Nat}
    (hNumerator : 0 < a)
    (hDenominator : 0 < b)
    (hShort : |(a.log2 : ℤ) - b.log2| ≤ 2000) :
    (10 : ℚ) ^ decimalExponent a b ≤ a / b ∧
      (a : ℚ) / b < 10 ^ (decimalExponent a b + 1) := by
  rcases log2_bounds hNumerator hDenominator with ⟨hLower, hUpper⟩
  unfold decimalExponent
  simp only [decide_eq_true_eq, le_mul_tenPower_iff hDenominator]
  generalize (a.log2 : ℤ) - b.log2 = bits at hShort hLower hUpper ⊢
  rw [abs_le] at hShort
  have hEstimate :
      100000 * (bits * 30103 / 100000) ≤ bits * 30103 ∧
        bits * 30103 < 100000 * (bits * 30103 / 100000) + 100000 := by
    omega
  generalize bits * 30103 / 100000 = estimate at hEstimate ⊢
  split
  next hMore =>
    refine ⟨hMore, lt_of_lt_of_le hUpper ?_⟩
    exact two_zpow_le_ten_zpow (by omega) (by omega)
  next hLess =>
    split
    next hReached => exact ⟨hReached, not_le.mp hLess⟩
    next hMissed =>
      rw [sub_add_cancel]
      refine ⟨le_trans ?_ hLower, not_le.mp hMissed⟩
      exact ten_zpow_le_two_zpow (by omega) (by omega)

------------------------------------------------------------
-- Decimal Grids
------------------------------------------------------------

namespace Interval

/-
  A magnitude is in the interval, with the ends if they belong
  to it.
-/
def Contains
    (i : Interval)
    (r : ℚ) : Prop :=
  if i.closed = true then
    (i.low : ℚ) / unitsPerOne ≤ r ∧ r ≤ i.high / unitsPerOne
  else
    (i.low : ℚ) / unitsPerOne < r ∧ r < i.high / unitsPerOne

/- The units in one as a rational number. -/
theorem cast_unitsPerOne :
    ((unitsPerOne : Nat) : ℚ) = 2 ^ 1075 := by
  unfold unitsPerOne
  exact cast_twoTo 1075

theorem unitsPerOne_pos :
    0 < unitsPerOne := by
  unfold unitsPerOne
  exact twoTo_pos 1075

theorem log2_unitsPerOne :
    unitsPerOne.log2 = 1075 := by
  unfold unitsPerOne
  exact log2_twoTo 1075

/- Counts of units are ordered as the magnitudes are. -/
theorem div_unitsPerOne_lt
    {m n : Nat}
    (hLess : m < n) :
    (m : ℚ) / unitsPerOne < n / unitsPerOne :=
  div_lt_div_of_pos_right (Nat.cast_lt.mpr hLess)
    (Nat.cast_pos.mpr unitsPerOne_pos)

/- What is in an interval is between its ends, or at an end of a closed one. -/
theorem contains_iff
    {i : Interval}
    {r : ℚ} :
    i.Contains r ↔
      (i.low : ℚ) / unitsPerOne ≤ r ∧ r ≤ i.high / unitsPerOne ∧
        (i.closed = true ∨
          (i.low : ℚ) / unitsPerOne < r ∧ r < i.high / unitsPerOne) := by
  unfold Contains
  split
  next hClosed =>
    constructor
    · intro hInside
      exact ⟨hInside.1, hInside.2, Or.inl hClosed⟩
    · rintro ⟨hLow, hHigh, _⟩
      exact ⟨hLow, hHigh⟩
  next hOpen =>
    constructor
    · intro hInside
      exact ⟨le_of_lt hInside.1, le_of_lt hInside.2, Or.inr hInside⟩
    · rintro ⟨_, _, hInside⟩
      exact hInside.resolve_left hOpen

/- The interval has no gaps. -/
theorem Contains.between
    {i : Interval}
    {r s t : ℚ}
    (hFirst : i.Contains r)
    (hSecond : i.Contains t)
    (hLower : r ≤ s)
    (hUpper : s ≤ t) :
    i.Contains s := by
  unfold Contains at *
  split at hFirst
  next hClosed =>
    rw [if_pos hClosed] at hSecond ⊢
    exact ⟨le_trans hFirst.1 hLower, le_trans hUpper hSecond.2⟩
  next hOpen =>
    rw [if_neg hOpen] at hSecond ⊢
    exact ⟨lt_of_lt_of_le hFirst.1 hLower, lt_of_le_of_lt hUpper hSecond.2⟩

/- What is between the ends of an interval is in it. -/
theorem contains_of_lt
    {i : Interval}
    {r : ℚ}
    (hLow : (i.low : ℚ) / unitsPerOne < r)
    (hHigh : r < i.high / unitsPerOne) :
    i.Contains r :=
  contains_iff.mpr ⟨le_of_lt hLow, le_of_lt hHigh, Or.inr ⟨hLow, hHigh⟩⟩

/- A point of a grid is compared with a magnitude in whole numbers. -/
theorem point_le_iff
    (place : ℤ)
    (c m : Nat) :
    c * (unitsPerOne * tenPower place) ≤ m * tenPower (-place) ↔
      (c : ℚ) * 10 ^ place ≤ m / unitsPerOne := by
  have hUnits : (0 : ℚ) < unitsPerOne := Nat.cast_pos.mpr unitsPerOne_pos
  have hPower : (0 : ℚ) < tenPower (-place) := Nat.cast_pos.mpr (tenTo_pos _)
  rw [← tenPower_div_tenPower, le_div_iff₀ hUnits, ← mul_div_assoc,
    div_mul_eq_mul_div, div_le_iff₀ hPower, mul_assoc,
    mul_comm (tenPower place : ℚ)]
  exact_mod_cast Iff.rfl

theorem le_point_iff
    (place : ℤ)
    (c m : Nat) :
    m * tenPower (-place) ≤ c * (unitsPerOne * tenPower place) ↔
      (m : ℚ) / unitsPerOne ≤ c * 10 ^ place := by
  have hUnits : (0 : ℚ) < unitsPerOne := Nat.cast_pos.mpr unitsPerOne_pos
  have hPower : (0 : ℚ) < tenPower (-place) := Nat.cast_pos.mpr (tenTo_pos _)
  rw [← tenPower_div_tenPower, div_le_iff₀ hUnits, ← mul_div_assoc,
    div_mul_eq_mul_div, le_div_iff₀ hPower, mul_assoc,
    mul_comm (tenPower place : ℚ)]
  exact_mod_cast Iff.rfl

/- Whether a point of a grid is in the interval is decided in whole numbers. -/
theorem holds_iff
    (i : Interval)
    (place : ℤ)
    (c : Nat) :
    i.holds (c * (unitsPerOne * tenPower place)) (tenPower (-place)) = true ↔
      i.Contains (c * 10 ^ place) := by
  unfold holds Contains
  split
  next hClosed =>
    rw [Bool.and_eq_true, decide_eq_true_eq, decide_eq_true_eq, le_point_iff,
      point_le_iff]
  next hOpen =>
    rw [Bool.and_eq_true, decide_eq_true_eq, decide_eq_true_eq,
      ← not_le, ← not_le, ← not_le, ← not_le, point_le_iff, le_point_iff]

end Interval

/-
  The point that is found on a grid is one of the two around
  the middle of the interval, and is in the interval.  If none
  is found, neither of the two is in it.
-/
theorem onGrid?_spec
    (tie : Tie)
    (i : Interval)
    (place : ℤ) :
    ∃ below : Nat,
      (below : ℚ) * 10 ^ place ≤ i.middle / Interval.unitsPerOne ∧
        (i.middle : ℚ) / Interval.unitsPerOne <
          (below + 1 : Nat) * 10 ^ place ∧
        (∀ c, onGrid? tie i place = some c →
          (c = below ∨ c = below + 1) ∧ i.Contains (c * 10 ^ place)) ∧
        (onGrid? tie i place = none →
          ¬ i.Contains (below * 10 ^ place) ∧
            ¬ i.Contains ((below + 1 : Nat) * 10 ^ place)) := by
  have hStep : 0 < Interval.unitsPerOne * tenPower place :=
    Nat.mul_pos Interval.unitsPerOne_pos (tenTo_pos _)
  have hLower := Nat.div_mul_le_self (i.middle * tenPower (-place))
    (Interval.unitsPerOne * tenPower place)
  have hUpper := Nat.lt_mul_of_div_lt
    (Nat.lt_succ_self (i.middle * tenPower (-place) /
      (Interval.unitsPerOne * tenPower place))) hStep
  unfold onGrid?
  dsimp only
  generalize i.middle * tenPower (-place) /
    (Interval.unitsPerOne * tenPower place) = below at hLower hUpper ⊢
  have hBelow := i.holds_iff place below
  have hAbove := i.holds_iff place (below + 1)
  rw [Interval.point_le_iff] at hLower
  rw [← Nat.not_le, Nat.succ_eq_add_one, Interval.point_le_iff,
    not_le] at hUpper
  refine ⟨below, hLower, hUpper, ?_, ?_⟩
  · intro c hFound
    split at hFound
    next hBoth =>
      rw [Bool.and_eq_true, hBelow, hAbove] at hBoth
      have hEither :
          ∀ up : Bool, some (if up then below + 1 else below) = some c →
            c = below ∨ c = below + 1 := by
        rintro (_ | _) ⟨⟩
        · exact Or.inl rfl
        · exact Or.inr rfl
      rcases hEither _ hFound with rfl | rfl
      · exact ⟨Or.inl rfl, hBoth.1⟩
      · exact ⟨Or.inr rfl, hBoth.2⟩
    next =>
      split at hFound
      next hFirst =>
        cases hFound
        exact ⟨Or.inl rfl, hBelow.mp hFirst⟩
      next =>
        split at hFound
        next hSecond =>
          cases hFound
          exact ⟨Or.inr rfl, hAbove.mp hSecond⟩
        next => cases hFound
  · intro hNone
    rw [← hBelow, ← hAbove]
    split at hNone
    next => cases hNone
    next =>
      split at hNone
      next => cases hNone
      next hFirst =>
        split at hNone
        next => cases hNone
        next hSecond => exact ⟨hFirst, hSecond⟩

/- A grid on which no point is found has none in the interval. -/
theorem not_contains_of_onGrid?
    {tie : Tie}
    {i : Interval}
    {place : ℤ}
    (hMiddle : i.Contains (i.middle / Interval.unitsPerOne))
    (hNone : onGrid? tie i place = none)
    (c : Nat) :
    ¬ i.Contains (c * 10 ^ place) := by
  rcases onGrid?_spec tie i place with ⟨below, hLower, hUpper, _, hOutside⟩
  rcases hOutside hNone with ⟨hBelow, hAbove⟩
  intro hPoint
  rcases Nat.lt_or_ge below c with hGreater | hLess
  · refine hAbove (hMiddle.between hPoint (le_of_lt hUpper) ?_)
    gcongr
    exact hGreater
  · refine hBelow (hPoint.between hMiddle ?_ hLower)
    gcongr

------------------------------------------------------------
-- The Interval of a Double
------------------------------------------------------------

/-
  The interval of a double other than zero has the double
  inside, and is not much narrower than its last bit.
-/
theorem interval_spec
    {x : Binary64}
    (hNonzero : x.magnitude ≠ 0) :
    0 < x.interval.low ∧
      x.interval.low < x.interval.middle ∧
      x.interval.middle < x.interval.high ∧
      x.interval.middle + tenTo 16 * x.interval.low <
        tenTo 16 * x.interval.high := by
  have hGap : 0 < twoTo (x.exponentField - 1) := twoTo_pos _
  have hPos := Nat.pos_of_ne_zero hNonzero
  have hTen : tenTo 16 = 10000000000000000 := rfl
  have hSome : twoTo (x.exponentField - 1) ≤ x.magnitude :=
    Nat.le_of_dvd hPos ⟨x.significand, Nat.mul_comm _ _⟩
  have hMost :
      x.magnitude < twoTo 53 * twoTo (x.exponentField - 1) :=
    Nat.mul_lt_mul_of_pos_right x.significand_lt hGap
  rw [twoTo_53] at hMost
  unfold interval
  dsimp only
  rw [hTen]
  split
  next hPower =>
    -- A power of two is nearer to the double below it.
    have hMagnitude :
        x.magnitude = twoTo 52 * twoTo (x.exponentField - 1) := by
      unfold magnitude significand
      rw [if_neg (by omega), hPower.1, Nat.add_zero]
    rw [twoTo_52] at hMagnitude
    have hTwo : twoTo 1 ≤ twoTo (x.exponentField - 1) :=
      Nat.pow_le_pow_right (by decide) (by omega)
    have hDouble : twoTo 1 = 2 := rfl
    generalize twoTo (x.exponentField - 1) = gap at *
    omega
  next hOther =>
    generalize twoTo (x.exponentField - 1) = gap at *
    omega

/- A double other than zero is in its interval. -/
theorem contains_middle
    {x : Binary64}
    (hNonzero : x.magnitude ≠ 0) :
    x.interval.Contains (x.interval.middle / Interval.unitsPerOne) := by
  rcases interval_spec hNonzero with ⟨_, hLow, hHigh, _⟩
  exact
    Interval.contains_of_lt (Interval.div_unitsPerOne_lt hLow)
      (Interval.div_unitsPerOne_lt hHigh)

/- The exponent of the leading digit of a double. -/
def leading
    (x : Binary64) : ℤ :=
  decimalExponent x.interval.middle Interval.unitsPerOne

theorem leading_spec
    {x : Binary64}
    (hNonzero : x.magnitude ≠ 0) :
    (10 : ℚ) ^ x.leading ≤ x.interval.middle / Interval.unitsPerOne ∧
      (x.interval.middle : ℚ) / Interval.unitsPerOne <
        10 ^ (x.leading + 1) := by
  have hPos : 0 < x.interval.middle :=
    Nat.mul_pos (by decide) (Nat.pos_of_ne_zero hNonzero)
  have hField : x.exponentField - 1 ≤ 2046 := by
    have hLess : x.exponentField < twoTo 11 := Nat.mod_lt _ (twoTo_pos 11)
    rw [twoTo_11] at hLess
    omega
  have hMost :
      x.interval.middle < twoTo (1 + (53 + (x.exponentField - 1))) := by
    rw [twoTo_add, twoTo_add]
    exact
      Nat.mul_lt_mul_of_pos_left
        (Nat.mul_lt_mul_of_pos_right x.significand_lt (twoTo_pos _))
        (by decide)
  have hLength :=
    (Nat.log2_lt (Nat.ne_of_gt hPos)).mpr hMost
  apply decimalExponent_spec hPos Interval.unitsPerOne_pos
  rw [Interval.log2_unitsPerOne, abs_le]
  omega

/-
  A grid with seventeen digits for a double has a point in the
  interval of the double.
-/
theorem onGrid?_ne_none
    {x : Binary64}
    (hNonzero : x.magnitude ≠ 0)
    (tie : Tie) :
    onGrid? tie x.interval (x.leading - 16) ≠ none := by
  intro hNone
  have hLeading := (leading_spec hNonzero).1
  generalize x.leading = leading at hNone hLeading
  rcases interval_spec hNonzero with ⟨_, hLow, hHigh, hWide⟩
  rcases onGrid?_spec tie x.interval (leading - 16) with
    ⟨below, hLower, hUpper, _, hOutside⟩
  rcases hOutside hNone with ⟨hBelow, hAbove⟩
  have hLow' := Interval.div_unitsPerOne_lt hLow
  have hHigh' := Interval.div_unitsPerOne_lt hHigh
  have hWide' := Interval.div_unitsPerOne_lt hWide
  rw [Nat.cast_add, Nat.cast_mul, Nat.cast_mul, cast_tenTo, add_div,
    mul_div_assoc, mul_div_assoc] at hWide'
  have hBelowLow :
      (below : ℚ) * 10 ^ (leading - 16) ≤
        x.interval.low / Interval.unitsPerOne := by
    by_contra hInside
    exact hBelow
      (Interval.contains_of_lt (not_le.mp hInside)
        (lt_of_le_of_lt hLower hHigh'))
  have hAboveHigh :
      (x.interval.high : ℚ) / Interval.unitsPerOne ≤
        (below + 1 : Nat) * 10 ^ (leading - 16) := by
    by_contra hInside
    exact hAbove
      (Interval.contains_of_lt (lt_trans hLow' hUpper)
        (not_le.mp hInside))
  have hStep : (10 : ℚ) ^ leading = 10 ^ 16 * 10 ^ (leading - 16) := by
    rw [← zpow_natCast, ← zpow_add₀ (by norm_num)]
    congr 1
    omega
  rw [Nat.cast_add, Nat.cast_one] at hAboveHigh
  linarith

------------------------------------------------------------
-- The Shortest Decimal
------------------------------------------------------------

/-
  A decimal of seventeen digits at most is in the interval of a
  double, and none at a coarser place is.  The first digit
  stands at the place of the leading digit of the double, or
  the decimal is the next power of ten.
-/
structure IsShortest
    (x : Binary64)
    (digits : Nat)
    (place : ℤ) : Prop where
  inside : x.interval.Contains (digits * 10 ^ place)
  finest : x.leading - 16 ≤ place
  short : digits ≤ tenTo (x.leading + 1 - place).toNat
  coarser :
    ∀ c : Nat, ∀ other, place < other → other ≤ x.leading →
      ¬ x.interval.Contains (c * 10 ^ other)

/- The magnitudes in the interval of a double are positive. -/
theorem pos_of_contains
    {x : Binary64}
    (hNonzero : x.magnitude ≠ 0)
    {r : ℚ}
    (hInside : x.interval.Contains r) :
    0 < r := by
  have hLow : (0 : ℚ) < x.interval.low / Interval.unitsPerOne :=
    div_pos (Nat.cast_pos.mpr (interval_spec hNonzero).1)
      (Nat.cast_pos.mpr Interval.unitsPerOne_pos)
  exact lt_of_lt_of_le hLow (Interval.contains_iff.mp hInside).1

/- A decimal in the interval of a double is not zero. -/
theorem coefficient_pos_of_contains
    {x : Binary64}
    (hNonzero : x.magnitude ≠ 0)
    {c : Nat}
    {place : ℤ}
    (hInside : x.interval.Contains (c * 10 ^ place)) :
    0 < c := by
  have hPos := pos_of_contains hNonzero hInside
  apply Nat.pos_of_ne_zero
  rintro rfl
  rw [Nat.cast_zero, zero_mul] at hPos
  exact lt_irrefl 0 hPos

/- No decimal that ends before the last digit is in the interval. -/
theorem IsShortest.not_contains
    {x : Binary64}
    {digits : Nat}
    {place other q : ℤ}
    (hShortest : x.IsShortest digits place)
    (hCoarser : place < other)
    (hReached : other ≤ x.leading)
    (hEnd : other ≤ q)
    (c : Nat) :
    ¬ x.interval.Contains (c * 10 ^ q) := by
  have hShift :
      (c : ℚ) * 10 ^ q = (c * tenTo (q - other).toNat : Nat) * 10 ^ other := by
    rw [Nat.cast_mul, cast_tenTo, ← zpow_natCast,
      Int.toNat_of_nonneg (by omega), mul_assoc, ← zpow_add₀ (by norm_num),
      sub_add_cancel]
  rw [hShift]
  exact hShortest.coarser _ other hCoarser hReached

/- The first of the counts below a bound that has a result. -/
theorem exists_first_of_findSome?
    {α : Type}
    {f : Nat → Option α}
    {bound : Nat}
    {found : α}
    (hFound : (List.range bound).findSome? f = some found) :
    ∃ count < bound, f count = some found ∧ ∀ other < count, f other = none := by
  induction bound with
  | zero => cases hFound
  | succ bound ih =>
      rw [List.range_succ, List.findSome?_append, Option.or_eq_some_iff]
        at hFound
      rcases hFound with hEarlier | ⟨hNone, hLast⟩
      · rcases ih hEarlier with ⟨count, hLess, hFirst⟩
        exact ⟨count, Nat.lt_succ_of_lt hLess, hFirst⟩
      · rw [List.findSome?_singleton] at hLast
        refine ⟨bound, Nat.lt_succ_self bound, hLast, ?_⟩
        intro other hOther
        exact
          List.findSome?_eq_none_iff.mp hNone other
            (List.mem_range.mpr hOther)

/- The shortest decimal of a double other than zero. -/
theorem isShortest_shortest
    {x : Binary64}
    (hNonzero : x.magnitude ≠ 0)
    (tie : Tie) :
    x.IsShortest (x.shortest tie).1 (x.shortest tie).2 := by
  have hNext := (leading_spec hNonzero).2
  -- The seventeenth attempt succeeds, if none before it does.
  have hSome :
      ((List.range 17).findSome? fun count =>
        (onGrid? tie x.interval (x.leading - (count : Nat))).map
          fun digits => (digits, x.leading - (count : Nat))).isSome =
        true := by
    rw [List.findSome?_isSome_iff]
    refine ⟨16, by decide, ?_⟩
    rw [Option.isSome_map, Option.isSome_iff_ne_none]
    exact onGrid?_ne_none hNonzero tie
  rcases Option.isSome_iff_exists.mp hSome with ⟨found, hFound⟩
  have hShortest : x.shortest tie = found := by
    unfold shortest
    dsimp only
    unfold leading at hFound
    rw [hFound, Option.getD_some]
  rw [hShortest]
  rcases exists_first_of_findSome? hFound with
    ⟨count, hCount, hAttempt, hBefore⟩
  rcases Option.map_eq_some_iff.mp hAttempt with ⟨digits, hDigits, rfl⟩
  rcases onGrid?_spec tie x.interval (x.leading - count) with
    ⟨below, hLower, _, hPoint, _⟩
  rcases hPoint digits hDigits with ⟨hNear, hInside⟩
  refine ⟨hInside, ?_, ?_, ?_⟩
  · show x.leading - 16 ≤ x.leading - count
    omega
  · have hExponent :
        (x.leading + 1 - (x.leading - count)).toNat = count + 1 := by
      omega
    have hLess : (below : ℚ) < 10 ^ (count + 1) := by
      have hPower : (0 : ℚ) < 10 ^ (x.leading - count) := by positivity
      have hSum :
          ((count + 1 : Nat) : ℤ) + (x.leading - count) =
            x.leading + 1 := by
        omega
      rw [← mul_lt_mul_iff_left₀ hPower, ← zpow_natCast,
        ← zpow_add₀ (by norm_num), hSum]
      exact lt_of_le_of_lt hLower hNext
    have hBelow : below < tenTo (count + 1) := by
      rw [← cast_tenTo] at hLess
      exact_mod_cast hLess
    show digits ≤ tenTo (x.leading + 1 - (x.leading - count)).toNat
    rw [hExponent]
    rcases hNear with rfl | rfl
    · exact Nat.le_of_lt hBelow
    · exact hBelow
  · intro c other hCoarser hReached
    have hLess : x.leading - count < other := hCoarser
    have hEarlier := hBefore (x.leading - other).toNat (by omega)
    rw [Option.map_eq_none_iff, Int.toNat_of_nonneg (by omega),
      sub_sub_cancel] at hEarlier
    exact not_contains_of_onGrid? (contains_middle hNonzero) hEarlier c

end Binary64

end Intake
