import Intake.Proofs.Binary64.Values

/-
  This file shows how far a rounded quotient is from the exact
  one.

  The quotient is scaled by a power of two so that it has 53
  bits before the point, or so that its last bit is the last
  one that a double can have; then it is rounded to a whole
  significand.  Rounding does not pass a whole number, hence
  not a power of two.

  Key definitions include:
    * `Binary64.Rounds`

  The main statements are:
    * `Binary64.exists_rounds_ofRatio`
    * `Binary64.Rounds.size_le`
    * `Binary64.Rounds.le_size`
    * `Binary64.Rounds.abs_size_sub_le`
-/

namespace Intake

------------------------------------------------------------
-- Rounding a Quotient
------------------------------------------------------------

/- A rounded quotient is at most a half away from the quotient. -/
theorem roundHalfEven_bounds
    (numerator : Nat)
    {denominator : Nat}
    (hPos : 0 < denominator) :
    2 * (denominator * roundHalfEven numerator denominator) ≤
        2 * numerator + denominator ∧
      2 * numerator ≤
        2 * (denominator * roundHalfEven numerator denominator) +
          denominator := by
  have hDivision := Nat.div_add_mod numerator denominator
  have hRest := Nat.mod_lt numerator hPos
  unfold roundHalfEven
  dsimp only
  split
  next hUp =>
    rw [Nat.mul_succ]
    simp only [Bool.or_eq_true, Bool.and_eq_true, decide_eq_true_eq,
      beq_iff_eq] at hUp
    omega
  next hDown =>
    simp only [Bool.or_eq_true, Bool.and_eq_true, decide_eq_true_eq,
      beq_iff_eq, not_or] at hDown
    omega

/- The same, for rational numbers. -/
theorem abs_roundHalfEven_sub_le
    (numerator : Nat)
    {denominator : Nat}
    (hPos : 0 < denominator) :
    |(roundHalfEven numerator denominator : ℚ) -
        numerator / denominator| ≤ 1 / 2 := by
  rcases roundHalfEven_bounds numerator hPos with ⟨hUpper, hLower⟩
  generalize roundHalfEven numerator denominator = n at hUpper hLower
  have hDenominator : (0 : ℚ) < denominator := Nat.cast_pos.mpr hPos
  have hUpper' : (2 * (denominator * n) : ℚ) ≤ 2 * numerator + denominator := by
    exact_mod_cast hUpper
  have hLower' : (2 * numerator : ℚ) ≤ 2 * (denominator * n) + denominator := by
    exact_mod_cast hLower
  rw [abs_le]
  constructor
  · rw [neg_le_sub_iff_le_add, div_le_iff₀ hDenominator]
    linarith
  · rw [sub_le_iff_le_add, ← sub_le_iff_le_add', le_div_iff₀ hDenominator]
    linarith

/- Numbers that are less than one apart from a whole one round to its side. -/
theorem le_of_abs_sub_le_half
    {n m : Nat}
    {r : ℚ}
    (hNear : |(n : ℚ) - r| ≤ 1 / 2)
    (hBound : r ≤ m) :
    n ≤ m := by
  have hLess : (n : ℚ) < m + 1 := by
    have hAbove := (abs_le.mp hNear).2
    linarith
  have hNat : n < m + 1 := by exact_mod_cast hLess
  omega

theorem ge_of_abs_sub_le_half
    {n m : Nat}
    {r : ℚ}
    (hNear : |(n : ℚ) - r| ≤ 1 / 2)
    (hBound : m ≤ r) :
    m ≤ n := by
  have hLess : (m : ℚ) < n + 1 := by
    have hBelow := (abs_le.mp hNear).1
    linarith
  have hNat : m < n + 1 := by exact_mod_cast hLess
  omega

namespace Binary64

------------------------------------------------------------
-- Fields
------------------------------------------------------------

/-
  The fields of a double with a significand of 53 bits, or one
  that has carried, or with the first exponent field.
-/
theorem magnitude_ofFields
    (negative : Bool)
    (exponent significand : Nat)
    (hSignificand : significand ≤ twoTo 53)
    (hNormal : twoTo 52 ≤ significand ∨ exponent = 0)
    (hSmall : exponent < 2045) :
    (ofFields negative exponent significand).isFinite = true ∧
      (ofFields negative exponent significand).negative = negative ∧
      (ofFields negative exponent significand).magnitude =
        significand * twoTo exponent := by
  have hCarry : exponent + significand / twoTo 52 < 2047 := by
    have hTwo : significand / twoTo 52 ≤ 2 := by
      rw [twoTo_52]
      rw [twoTo_53] at hSignificand
      omega
    omega
  rcases fields_ofFields negative exponent significand hCarry with
    ⟨hField, hFraction, hSign⟩
  refine ⟨isFinite_ofFields negative exponent significand hCarry, hSign, ?_⟩
  unfold magnitude Binary64.significand
  rw [hField, hFraction]
  rcases Nat.lt_or_ge significand (twoTo 52) with hSub | hHidden
  · have hZero : exponent = 0 := hNormal.resolve_left (Nat.not_le.mpr hSub)
    rw [Nat.div_eq_of_lt hSub, Nat.mod_eq_of_lt hSub, hZero]
    rfl
  · rcases Nat.eq_or_lt_of_le hSignificand with rfl | hFull
    · -- The significand has carried into the exponent field.
      have hDiv : twoTo 53 / twoTo 52 = 2 := rfl
      have hMod : twoTo 53 % twoTo 52 = 0 := rfl
      have hPrev : exponent + 2 - 1 = exponent + 1 := rfl
      have hDouble : twoTo (exponent + 1) = twoTo exponent * 2 := rfl
      have hWhole : twoTo 53 = twoTo 52 * 2 := rfl
      rw [hDiv, hMod, if_neg (Nat.succ_ne_zero _), hPrev, hDouble, hWhole,
        Nat.add_zero]
      ac_rfl
    · have hDiv : significand / twoTo 52 = 1 := by
        rw [twoTo_52] at hHidden ⊢
        rw [twoTo_53] at hFull
        omega
      have hMod : twoTo 52 + significand % twoTo 52 = significand := by
        rw [twoTo_52] at hHidden ⊢
        rw [twoTo_53] at hFull
        omega
      rw [hDiv, hMod, if_neg (Nat.succ_ne_zero _), Nat.add_sub_cancel]

------------------------------------------------------------
-- Scaled Quotients
------------------------------------------------------------

section Scaling

variable {a b : Nat}

/- A quotient that is scaled by a power of two, as one of whole numbers. -/
theorem scaled_eq
    (a b : Nat)
    (e : Int) :
    ((a * twoTo (-e).toNat : Nat) : ℚ) / (b * twoTo e.toNat : Nat) =
      a / b / 2 ^ e := by
  rw [Nat.cast_mul, Nat.cast_mul, cast_twoTo, cast_twoTo, mul_div_mul_comm,
    div_eq_mul_inv (a / b : ℚ)]
  congr 1
  rw [← zpow_natCast, ← zpow_natCast, ← zpow_sub₀ two_ne_zero, ← zpow_neg]
  congr 1
  omega

/- A scaled quotient is rounded in the direction that is whole. -/
theorem roundScaled_eq
    (a b : Nat)
    (e : Int) :
    (if 0 ≤ e then roundHalfEven a (b * twoTo e.toNat)
      else roundHalfEven (a * twoTo (-e).toNat) b) =
      roundHalfEven (a * twoTo (-e).toNat) (b * twoTo e.toNat) := by
  have hOne : twoTo 0 = 1 := rfl
  split
  next hUp =>
    have hZero : (-e).toNat = 0 := by omega
    rw [hZero, hOne, Nat.mul_one]
  next hDown =>
    have hZero : e.toNat = 0 := by omega
    rw [hZero, hOne, Nat.mul_one]

/- A whole number is below the whole part of a scaled quotient. -/
theorem le_scaled_iff
    (hDenominator : 0 < b)
    (e : Int)
    (n : Nat) :
    n ≤ (if 0 ≤ e then a / (b * twoTo e.toNat)
      else a * twoTo (-e).toNat / b) ↔
      (n : ℚ) * 2 ^ e ≤ a / b := by
  have hOne : twoTo 0 = 1 := rfl
  have hUnified :
      (if 0 ≤ e then a / (b * twoTo e.toNat)
        else a * twoTo (-e).toNat / b) =
        a * twoTo (-e).toNat / (b * twoTo e.toNat) := by
    split
    next hUp =>
      have hZero : (-e).toNat = 0 := by omega
      rw [hZero, hOne, Nat.mul_one]
    next hDown =>
      have hZero : e.toNat = 0 := by omega
      rw [hZero, hOne, Nat.mul_one]
  have hScaled : 0 < b * twoTo e.toNat :=
    Nat.mul_pos hDenominator (twoTo_pos _)
  have hScaledCast : (0 : ℚ) < (b * twoTo e.toNat : Nat) :=
    Nat.cast_pos.mpr hScaled
  have hPower : (0 : ℚ) < 2 ^ e := by positivity
  rw [hUnified, Nat.le_div_iff_mul_le hScaled, ← le_div_iff₀ hPower,
    ← scaled_eq, le_div_iff₀ hScaledCast]
  exact_mod_cast Iff.rfl

/- Bounds of a quotient by the lengths of its parts. -/
theorem log2_bounds
    (hNumerator : 0 < a)
    (hDenominator : 0 < b) :
    (2 : ℚ) ^ ((a.log2 : Int) - b.log2 - 1) ≤ a / b ∧
      (a : ℚ) / b < 2 ^ ((a.log2 : Int) - b.log2 + 1) := by
  have hBounds :
      ∀ n : Nat, 0 < n →
        (2 : ℚ) ^ (n.log2 : Int) ≤ n ∧ (n : ℚ) < 2 ^ ((n.log2 : Int) + 1) := by
    intro n hPos
    have hLower : 2 ^ n.log2 ≤ n := Nat.log2_self_le (Nat.ne_of_gt hPos)
    have hUpper : n < 2 ^ (n.log2 + 1) := Nat.lt_log2_self
    exact ⟨by exact_mod_cast hLower, by exact_mod_cast hUpper⟩
  have hCast : (0 : ℚ) < b := Nat.cast_pos.mpr hDenominator
  rcases hBounds a hNumerator with ⟨hLowerA, hUpperA⟩
  rcases hBounds b hDenominator with ⟨hLowerB, hUpperB⟩
  constructor
  · rw [le_div_iff₀ hCast]
    calc
      (2 : ℚ) ^ ((a.log2 : Int) - b.log2 - 1) * b
        ≤ 2 ^ ((a.log2 : Int) - b.log2 - 1) * 2 ^ ((b.log2 : Int) + 1) := by
          gcongr
      _ = 2 ^ (a.log2 : Int) := by
          rw [← zpow_add₀ two_ne_zero]
          congr 1
          omega
      _ ≤ a := hLowerA
  · rw [div_lt_iff₀ hCast]
    calc
      (a : ℚ) < 2 ^ ((a.log2 : Int) + 1) := hUpperA
      _ = 2 ^ ((a.log2 : Int) - b.log2 + 1) * 2 ^ (b.log2 : Int) := by
          rw [← zpow_add₀ two_ne_zero]
          congr 1
          omega
      _ ≤ 2 ^ ((a.log2 : Int) - b.log2 + 1) * b := by gcongr

/-
  The last bit of a double near a quotient leaves less than 54
  bits, and more than 52 unless it is the last bit that a
  double can have.
-/
theorem lastBitExponent_spec
    (hNumerator : 0 < a)
    (hDenominator : 0 < b) :
    (a : ℚ) / b < 2 ^ 53 * 2 ^ lastBitExponent a b ∧
      -1074 ≤ lastBitExponent a b ∧
      (lastBitExponent a b = -1074 ∨
        2 ^ 52 * 2 ^ lastBitExponent a b ≤ (a : ℚ) / b) := by
  rcases log2_bounds hNumerator hDenominator with ⟨hLower, hUpper⟩
  -- The power of two below the quotient, after the estimate is mended.
  have hMended :
      ∃ e : Int, lastBitExponent a b = max (-1074) e ∧
        2 ^ 52 * 2 ^ e ≤ (a : ℚ) / b ∧ (a : ℚ) / b < 2 ^ 53 * 2 ^ e := by
    unfold lastBitExponent
    dsimp only
    refine ⟨_, rfl, ?_⟩
    have hPower :
        ∀ e : Int, (2 : ℚ) ^ (e + 53) = 2 ^ 53 * 2 ^ e := by
      intro e
      rw [zpow_add₀ two_ne_zero, mul_comm]
      rfl
    have hSucc : ∀ e : Int, (2 : ℚ) ^ (e + 1) = 2 * 2 ^ e := by
      intro e
      rw [zpow_add₀ two_ne_zero, zpow_one, mul_comm]
    generalize hEstimate : (a.log2 : Int) - b.log2 - 53 = e
    have hLow : (a.log2 : Int) - b.log2 - 1 = e - 1 + 53 := by omega
    have hHigh : (a.log2 : Int) - b.log2 + 1 = e + 1 + 53 := by omega
    have hPred : (2 : ℚ) ^ e = 2 * 2 ^ (e - 1) := by
      rw [← hSucc, sub_add_cancel]
    rw [hLow, hPower] at hLower
    rw [hHigh, hPower] at hUpper
    have hScaled := le_scaled_iff (a := a) hDenominator e (twoTo 53)
    rw [cast_twoTo] at hScaled
    generalize
      (if 0 ≤ e then a / (b * twoTo e.toNat)
        else a * twoTo (-e).toNat / b) = scaled at hScaled ⊢
    split
    next hMore =>
      rw [hScaled] at hMore
      rw [hSucc] at hUpper ⊢
      exact ⟨by linarith, hUpper⟩
    next hLess =>
      rw [hScaled, not_le] at hLess
      exact ⟨by linarith, hLess⟩
  rcases hMended with ⟨e, hLast, hBelow, hAbove⟩
  rw [hLast]
  rcases le_total e (-1074) with hSmall | hLarge
  · rw [max_eq_left hSmall]
    refine ⟨?_, le_refl _, Or.inl rfl⟩
    calc
      (a : ℚ) / b < 2 ^ 53 * 2 ^ e := hAbove
      _ ≤ 2 ^ 53 * 2 ^ (-1074 : Int) := by gcongr; exact one_le_two
  · rw [max_eq_right hLarge]
    exact ⟨hAbove, hLarge, Or.inr hBelow⟩

end Scaling

------------------------------------------------------------
-- Rounded Quotients
------------------------------------------------------------

/-
  A finite double that rounds a rational number to a whole
  significand at some last bit.
-/
structure Rounds
    (x : Binary64)
    (r : ℚ)
    (significand : Nat)
    (last : Int) : Prop where
  finite : x.isFinite = true
  size : x.size = significand * 2 ^ last
  near : |(significand : ℚ) - r / 2 ^ last| ≤ 1 / 2
  above : r < 2 ^ 53 * 2 ^ last
  least : -1074 ≤ last
  below : last = -1074 ∨ 2 ^ 52 * 2 ^ last ≤ r

/- A quotient other than zero is rounded at the exponent of its last bit. -/
theorem ofRatio_eq
    (negative : Bool)
    {a : Nat}
    (b : Nat)
    (hNumerator : 0 < a) :
    ofRatio negative a b =
      let q := lastBitExponent a b
      let significand :=
        roundHalfEven (a * twoTo (-q).toNat) (b * twoTo q.toNat)
      let field := (q + 1074).toNat
      if 2046 ≤ field || (field == 2045 && twoTo 53 ≤ significand) then
        infinity negative
      else
        ofFields negative field significand := by
  unfold ofRatio
  rw [if_neg (Nat.ne_of_gt hNumerator)]
  simp only [roundScaled_eq]

/- A quotient that is not too large is rounded to a finite double. -/
theorem exists_rounds_ofRatio
    (negative : Bool)
    {a b : Nat}
    (hNumerator : 0 < a)
    (hDenominator : 0 < b)
    (hSmall : (a : ℚ) / b ≤ 2 ^ 200) :
    (ofRatio negative a b).negative = negative ∧
      ∃ significand last,
        Rounds (ofRatio negative a b) (a / b) significand last := by
  rcases lastBitExponent_spec hNumerator hDenominator with
    ⟨hAbove, hLeast, hBelow⟩
  have hDefinition := ofRatio_eq negative b hNumerator
  dsimp only at hDefinition
  generalize lastBitExponent a b = q at hDefinition hAbove hLeast hBelow
  have hPower : (0 : ℚ) < 2 ^ q := by positivity
  have hNear :=
    abs_roundHalfEven_sub_le (a * twoTo (-q).toNat)
      (Nat.mul_pos hDenominator (twoTo_pos q.toNat))
  rw [scaled_eq] at hNear
  generalize roundHalfEven (a * twoTo (-q).toNat) (b * twoTo q.toNat) =
    significand at hDefinition hNear
  have hSignificand : significand ≤ twoTo 53 := by
    apply le_of_abs_sub_le_half hNear
    rw [cast_twoTo, div_le_iff₀ hPower]
    exact le_of_lt hAbove
  have hNormal : twoTo 52 ≤ significand ∨ (q + 1074).toNat = 0 := by
    rcases hBelow with rfl | hBelow
    · exact Or.inr rfl
    · refine Or.inl (ge_of_abs_sub_le_half hNear ?_)
      rw [cast_twoTo, le_div_iff₀ hPower]
      exact hBelow
  have hLast : q ≤ 148 := by
    rcases hBelow with rfl | hBelow
    · decide
    · have hLess : (2 : ℚ) ^ (52 + q) ≤ 2 ^ (200 : Int) := by
        rw [zpow_add₀ two_ne_zero]
        exact le_trans hBelow hSmall
      have hExponent := (zpow_le_zpow_iff_right₀ one_lt_two).mp hLess
      omega
  have hField : (q + 1074).toNat < 2045 := by omega
  rw [if_neg (by simp; omega)] at hDefinition
  rcases magnitude_ofFields negative (q + 1074).toNat significand
      hSignificand hNormal hField with
    ⟨hFinite, hNegative, hMagnitude⟩
  rw [hDefinition]
  refine ⟨hNegative, significand, q, hFinite, ?_, hNear, hAbove, hLeast, hBelow⟩
  exact size_eq_of_magnitude hLeast hMagnitude

/- Zero over any number is zero. -/
theorem ofRatio_zero
    (negative : Bool)
    (b : Nat) :
    (ofRatio negative 0 b).isFinite = true ∧
      (ofRatio negative 0 b).negative = negative ∧
      (ofRatio negative 0 b).magnitude = 0 := by
  have hZero : ofRatio negative 0 b = ofFields negative 0 0 := rfl
  rcases magnitude_ofFields negative 0 0 (Nat.zero_le _) (Or.inr rfl)
      (by decide) with
    ⟨hFinite, hNegative, hMagnitude⟩
  rw [hZero]
  exact ⟨hFinite, hNegative, by rw [hMagnitude, Nat.zero_mul]⟩

namespace Rounds

variable {x : Binary64}
variable {r : ℚ}
variable {n : Nat}
variable {last : Int}

/- A significand that rounds down to a power of two is bounded by it. -/
theorem size_le
    (hRounds : Rounds x r n last)
    {e : Nat}
    (hBound : r ≤ 2 ^ e) :
    x.size ≤ 2 ^ e := by
  have hPower : (0 : ℚ) < 2 ^ last := by positivity
  have hLast : last ≤ e := by
    rcases hRounds.below with hLeast | hBelow
    · omega
    · have hLess : (2 : ℚ) ^ (52 + last) ≤ 2 ^ (e : Int) := by
        rw [zpow_add₀ two_ne_zero]
        exact le_trans hBelow hBound
      have hExponent := (zpow_le_zpow_iff_right₀ one_lt_two).mp hLess
      omega
  have hSplit : (2 : ℚ) ^ e = (2 ^ (e - last).toNat : Nat) * 2 ^ last := by
    rw [Nat.cast_pow, Nat.cast_ofNat, ← zpow_natCast, ← zpow_natCast,
      ← zpow_add₀ two_ne_zero, Int.toNat_of_nonneg (by omega),
      sub_add_cancel]
  have hSignificand : n ≤ 2 ^ (e - last).toNat := by
    apply le_of_abs_sub_le_half hRounds.near
    rw [div_le_iff₀ hPower, ← hSplit]
    exact hBound
  rw [hRounds.size, hSplit]
  gcongr

/- A significand that rounds up to a power of two is bounded by it. -/
theorem le_size
    (hRounds : Rounds x r n last)
    {e : Nat}
    (hBound : 2 ^ e ≤ r) :
    2 ^ e ≤ x.size := by
  have hPower : (0 : ℚ) < 2 ^ last := by positivity
  rw [hRounds.size]
  rcases le_total last e with hLast | hLast
  · have hSplit : (2 : ℚ) ^ e = (2 ^ (e - last).toNat : Nat) * 2 ^ last := by
      rw [Nat.cast_pow, Nat.cast_ofNat, ← zpow_natCast, ← zpow_natCast,
        ← zpow_add₀ two_ne_zero, Int.toNat_of_nonneg (by omega),
        sub_add_cancel]
    have hSignificand : 2 ^ (e - last).toNat ≤ n := by
      apply ge_of_abs_sub_le_half hRounds.near
      rw [le_div_iff₀ hPower, ← hSplit]
      exact hBound
    rw [hSplit]
    gcongr
  · -- The power is below the last bit, and the significand is not zero.
    have hOne : 1 ≤ n := by
      apply ge_of_abs_sub_le_half hRounds.near
      rcases hRounds.below with hLeast | hBelow
      · omega
      · rw [Nat.cast_one, le_div_iff₀ hPower]
        linarith
    calc
      (2 : ℚ) ^ e = 2 ^ (e : Int) := (zpow_natCast 2 e).symm
      _ ≤ 2 ^ last := zpow_le_zpow_right₀ one_le_two hLast
      _ = 1 * 2 ^ last := (one_mul _).symm
      _ ≤ n * 2 ^ last := by
        gcongr
        exact_mod_cast hOne

/- A rounded number of one at least has 53 bits of the exact one. -/
theorem abs_size_sub_le
    (hRounds : Rounds x r n last)
    (hOne : 1 ≤ r) :
    |x.size - r| ≤ r / 2 ^ 53 := by
  have hPower : (0 : ℚ) < 2 ^ last := by positivity
  have hBelow : 2 ^ 52 * 2 ^ last ≤ r := by
    rcases hRounds.below with hLeast | hBelow
    · -- The last bit that a double can have is far below one.
      refine le_trans ?_ hOne
      have hExponent : (52 : Int) + last ≤ 0 := by omega
      calc
        (2 : ℚ) ^ 52 * 2 ^ last = 2 ^ (52 + last) :=
          (zpow_add₀ two_ne_zero 52 last).symm
        _ ≤ 2 ^ (0 : Int) := zpow_le_zpow_right₀ one_le_two hExponent
        _ = 1 := zpow_zero 2
    · exact hBelow
  have hScaled : x.size - r = (n - r / 2 ^ last) * 2 ^ last := by
    rw [hRounds.size, sub_mul, div_mul_cancel₀ _ (ne_of_gt hPower)]
  rw [hScaled, abs_mul, abs_of_pos hPower]
  calc
    |(n : ℚ) - r / 2 ^ last| * 2 ^ last ≤ 1 / 2 * 2 ^ last := by
      gcongr
      exact hRounds.near
    _ ≤ r / 2 ^ 53 := by
      rw [le_div_iff₀ (by positivity)]
      linarith

end Rounds

/- Rounding does not pass a power of two from below. -/
theorem size_ofRatio_le
    (negative : Bool)
    {a b : Nat}
    (hDenominator : 0 < b)
    {e : Nat}
    (hSmall : e ≤ 200)
    (hBound : (a : ℚ) / b ≤ 2 ^ e) :
    (ofRatio negative a b).isFinite = true ∧
      (ofRatio negative a b).negative = negative ∧
      (ofRatio negative a b).size ≤ 2 ^ e := by
  rcases Nat.eq_zero_or_pos a with rfl | hNumerator
  · rcases ofRatio_zero negative b with ⟨hFinite, hNegative, hMagnitude⟩
    refine ⟨hFinite, hNegative, ?_⟩
    rw [size_eq_zero hMagnitude]
    positivity
  · have hLess : (a : ℚ) / b ≤ 2 ^ 200 :=
      le_trans hBound (pow_le_pow_right₀ one_le_two hSmall)
    rcases exists_rounds_ofRatio negative hNumerator hDenominator hLess with
      ⟨hNegative, n, last, hRounds⟩
    exact ⟨hRounds.finite, hNegative, hRounds.size_le hBound⟩

------------------------------------------------------------
-- Arithmetic
------------------------------------------------------------

/- The double of a natural number is a rounded quotient over one. -/
theorem ofInt_natCast
    (n : Nat) :
    ofInt n = ofRatio false n 1 := by
  have hNatural : decide ((n : Int) < 0) = false := by simp
  unfold ofInt
  rw [hNatural, Int.natAbs_natCast]

/- A natural number keeps 53 bits, and is not rounded past a power of two. -/
theorem ofInt_spec
    {n e : Nat}
    (hSmall : e ≤ 200)
    (hBound : (n : ℚ) ≤ 2 ^ e) :
    (ofInt n).isFinite = true ∧
      (ofInt n).negative = false ∧
      (ofInt n).size ≤ 2 ^ e ∧
      |(ofInt n).size - n| ≤ n / 2 ^ 53 := by
  have hOver : (n : ℚ) / (1 : Nat) = n := by
    rw [Nat.cast_one, div_one]
  rw [← hOver] at hBound
  rcases size_ofRatio_le false Nat.one_pos hSmall hBound with
    ⟨hFinite, hNegative, hSize⟩
  rw [ofInt_natCast]
  refine ⟨hFinite, hNegative, hSize, ?_⟩
  rcases Nat.eq_zero_or_pos n with rfl | hPos
  · rw [size_eq_zero (ofRatio_zero false 1).2.2, Nat.cast_zero, sub_zero,
      abs_zero, zero_div]
  · have hLess : (n : ℚ) / (1 : Nat) ≤ 2 ^ 200 :=
      le_trans hBound (pow_le_pow_right₀ one_le_two hSmall)
    rcases exists_rounds_ofRatio false hPos Nat.one_pos hLess with
      ⟨_, significand, last, hRounds⟩
    have hOne : 1 ≤ (n : ℚ) / (1 : Nat) := by
      rw [hOver]
      exact_mod_cast hPos
    have hNear := hRounds.abs_size_sub_le hOne
    rw [hOver] at hNear
    exact hNear

/- A natural number is not rounded below a power of two. -/
theorem le_size_ofInt
    {n e : Nat}
    (hSmall : (n : ℚ) ≤ 2 ^ 200)
    (hBound : 2 ^ e ≤ (n : ℚ)) :
    2 ^ e ≤ (ofInt n).size := by
  have hOver : (n : ℚ) / (1 : Nat) = n := by
    rw [Nat.cast_one, div_one]
  have hPower : (0 : ℚ) < 2 ^ e := by positivity
  have hPos : 0 < n := by exact_mod_cast lt_of_lt_of_le hPower hBound
  rw [← hOver] at hSmall hBound
  rcases exists_rounds_ofRatio false hPos Nat.one_pos hSmall with
    ⟨_, significand, last, hRounds⟩
  rw [ofInt_natCast]
  exact hRounds.le_size hBound

end Binary64

end Intake
