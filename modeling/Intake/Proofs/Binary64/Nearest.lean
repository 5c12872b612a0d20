import Intake.Proofs.Binary64.Shortest

/-
  This file shows that the interval of a double holds exactly
  the fractions that are rounded to the double.

  The exponent of the last bit is the only one that leaves 53
  bits.  It is that of the double, apart from the fractions
  just below a power of two: they have one more bit there, and
  round up to the power.

  The main statements are:
    * `roundHalfEven_eq_iff`
    * `Binary64.lastBitExponent_eq`
    * `Binary64.roundHalfEven_scaled_eq_iff`
    * `Binary64.ofRatio_of_contains`
    * `Binary64.contains_of_ofRatio`
-/

namespace Intake

/-
  A quotient is rounded to a whole number that is at most a
  half away, if the number is even or less than a half away.
-/
theorem roundHalfEven_eq
    {a b n : Nat}
    (hPos : 0 < b)
    (hLower : 2 * (b * n) ≤ 2 * a + b)
    (hUpper : 2 * a ≤ 2 * (b * n) + b)
    (hTie :
      n % 2 = 0 ∨
        2 * (b * n) < 2 * a + b ∧ 2 * a < 2 * (b * n) + b) :
    roundHalfEven a b = n := by
  have hDivision := Nat.div_add_mod a b
  have hRest := Nat.mod_lt a hPos
  -- The number is the quotient or the next one.
  have hNear : n = a / b ∨ n = a / b + 1 := by
    have hLess : a / b ≤ n := by
      rw [← Nat.lt_succ_iff]
      apply Nat.lt_of_mul_lt_mul_left (a := b)
      rw [Nat.mul_succ]
      omega
    have hMore : n ≤ a / b + 1 := by
      rw [← Nat.lt_succ_iff]
      apply Nat.lt_of_mul_lt_mul_left (a := b)
      rw [Nat.mul_succ, Nat.mul_succ]
      omega
    omega
  unfold roundHalfEven
  dsimp only
  rcases hNear with hSame | hNext
  · rw [← hSame] at hDivision ⊢
    rw [if_neg]
    simp only [Bool.or_eq_true, Bool.and_eq_true, decide_eq_true_eq,
      beq_iff_eq, not_or]
    omega
  · rw [hNext, Nat.mul_succ] at hLower hUpper hTie
    rw [hNext, if_pos]
    simp only [Bool.or_eq_true, Bool.and_eq_true, decide_eq_true_eq,
      beq_iff_eq]
    omega

/- A quotient half way between two whole numbers is rounded to the even one. -/
theorem roundHalfEven_tie
    (a : Nat)
    {b : Nat}
    (hPos : 0 < b) :
    roundHalfEven a b % 2 = 0 ∨
      2 * (b * roundHalfEven a b) < 2 * a + b ∧
        2 * a < 2 * (b * roundHalfEven a b) + b := by
  have hDivision := Nat.div_add_mod a b
  have hRest := Nat.mod_lt a hPos
  unfold roundHalfEven
  dsimp only
  split
  next hUp =>
    rw [Nat.mul_succ]
    simp only [Bool.or_eq_true, Bool.and_eq_true, decide_eq_true_eq,
      beq_iff_eq] at hUp
    omega
  next hDown =>
    simp only [Bool.or_eq_true, Bool.and_eq_true, decide_eq_true_eq,
      beq_iff_eq, not_or] at hDown
    omega

/- A quotient is rounded to the nearest whole number, and to the even of two. -/
theorem roundHalfEven_eq_iff
    {a b n : Nat}
    (hPos : 0 < b) :
    roundHalfEven a b = n ↔
      2 * (b * n) ≤ 2 * a + b ∧
        2 * a ≤ 2 * (b * n) + b ∧
        (n % 2 = 0 ∨
          2 * (b * n) < 2 * a + b ∧ 2 * a < 2 * (b * n) + b) := by
  constructor
  · rintro rfl
    rcases roundHalfEven_bounds a hPos with ⟨hLower, hUpper⟩
    exact ⟨hLower, hUpper, roundHalfEven_tie a hPos⟩
  · rintro ⟨hLower, hUpper, hTie⟩
    exact roundHalfEven_eq hPos hLower hUpper hTie

namespace Binary64

/- The fields of a double make it up. -/
theorem ofFields_fields
    (x : Binary64) :
    ofFields x.negative x.exponentField x.fraction = x := by
  have hBits := x.bits.toNat_lt
  unfold ofFields
  apply congrArg Binary64.mk
  apply UInt64.toNat_inj.mp
  simp only [UInt64.toNat_ofNat', negative, exponentField, fraction, twoTo_52,
    twoTo_63, twoTo_11, decide_eq_true_eq]
  split <;> omega

/- Fifty-three bits at the last place of a double are fewer than at a later one. -/
theorem le_of_scaled_bounds
    {r : ℚ}
    {p q : Int}
    (hAbove : r < 2 ^ 53 * 2 ^ p)
    (hBelow : 2 ^ 52 * 2 ^ q ≤ r) :
    q ≤ p := by
  have hLess := lt_of_le_of_lt hBelow hAbove
  rw [← zpow_natCast, ← zpow_natCast, ← zpow_add₀ two_ne_zero,
    ← zpow_add₀ two_ne_zero, zpow_lt_zpow_iff_right₀ one_lt_two] at hLess
  omega

/- There is one exponent only that leaves 53 bits. -/
theorem lastBitExponent_eq
    {a b : Nat}
    {e : Int}
    (hNumerator : 0 < a)
    (hDenominator : 0 < b)
    (hAbove : (a : ℚ) / b < 2 ^ 53 * 2 ^ e)
    (hLeast : -1074 ≤ e)
    (hBelow : e = -1074 ∨ 2 ^ 52 * 2 ^ e ≤ (a : ℚ) / b) :
    lastBitExponent a b = e := by
  rcases lastBitExponent_spec hNumerator hDenominator with
    ⟨hLastAbove, hLastLeast, hLastBelow⟩
  have hFirst : e ≤ lastBitExponent a b := by
    rcases hBelow with rfl | hBelow
    · exact hLastLeast
    · exact le_of_scaled_bounds hLastAbove hBelow
  have hSecond : lastBitExponent a b ≤ e := by
    rcases hLastBelow with hLast | hLastBelow
    · rw [hLast]
      exact hLeast
    · exact le_of_scaled_bounds hAbove hLastBelow
  exact le_antisymm hSecond hFirst

/-
  A fraction is rounded at a bit to a number of such bits that is
  at most a half of the bit away, and even if it is just a half.
-/
theorem roundHalfEven_scaled_eq_iff
    {a b n : Nat}
    (hDenominator : 0 < b)
    (e : Int) :
    roundHalfEven (a * twoTo (-e).toNat) (b * twoTo e.toNat) = n ↔
      ((n : ℚ) - 1 / 2) * 2 ^ e ≤ a / b ∧
        (a : ℚ) / b ≤ (n + 1 / 2) * 2 ^ e ∧
        (n % 2 = 0 ∨
          ((n : ℚ) - 1 / 2) * 2 ^ e < a / b ∧
            (a : ℚ) / b < (n + 1 / 2) * 2 ^ e) := by
  have hPower : (0 : ℚ) < 2 ^ e := by positivity
  have hScaledPos : 0 < b * twoTo e.toNat :=
    Nat.mul_pos hDenominator (twoTo_pos _)
  have hScaledCast : (0 : ℚ) < (b * twoTo e.toNat : Nat) :=
    Nat.cast_pos.mpr hScaledPos
  rw [roundHalfEven_eq_iff hScaledPos, ← le_div_iff₀ hPower,
    ← div_le_iff₀ hPower, ← lt_div_iff₀ hPower, ← div_lt_iff₀ hPower,
    ← scaled_eq, le_div_iff₀ hScaledCast, div_le_iff₀ hScaledCast,
    lt_div_iff₀ hScaledCast, div_lt_iff₀ hScaledCast]
  generalize a * twoTo (-e).toNat = numerator
  generalize b * twoTo e.toNat = denominator
  -- Twice the fraction is compared in whole numbers.
  have hBelow :
      ((n : ℚ) - 1 / 2) * denominator =
        ((2 * (denominator * n) : Nat) - (denominator : ℚ)) / 2 := by
    push_cast
    ring
  have hAbove :
      ((n : ℚ) + 1 / 2) * denominator =
        (2 * (denominator * n) + denominator : Nat) / 2 := by
    push_cast
    ring
  rw [hBelow, hAbove, div_le_iff₀ two_pos, div_lt_iff₀ two_pos,
    le_div_iff₀ two_pos, lt_div_iff₀ two_pos, sub_le_iff_le_add,
    sub_lt_iff_lt_add, mul_comm (numerator : ℚ)]
  exact_mod_cast Iff.rfl

/-
  A fraction is rounded to the whole significand that is
  nearest to it at its last bit.
-/
theorem ofRatio_eq_ofFields
    (negative : Bool)
    {a b n : Nat}
    {e : Int}
    (hNumerator : 0 < a)
    (hDenominator : 0 < b)
    (hLast : lastBitExponent a b = e)
    (hLower : ((n : ℚ) - 1 / 2) * 2 ^ e ≤ a / b)
    (hUpper : (a : ℚ) / b ≤ (n + 1 / 2) * 2 ^ e)
    (hTie :
      n % 2 = 0 ∨
        ((n : ℚ) - 1 / 2) * 2 ^ e < a / b ∧
          (a : ℚ) / b < (n + 1 / 2) * 2 ^ e)
    (hField : (e + 1074).toNat < 2046)
    (hCarry : (e + 1074).toNat ≠ 2045 ∨ n < twoTo 53) :
    ofRatio negative a b = ofFields negative (e + 1074).toNat n := by
  have hRounded :=
    (roundHalfEven_scaled_eq_iff hDenominator e).mpr ⟨hLower, hUpper, hTie⟩
  have hDefinition := ofRatio_eq negative b hNumerator
  dsimp only at hDefinition
  rw [hLast, hRounded, if_neg] at hDefinition
  · exact hDefinition
  · simp only [Bool.or_eq_true, Bool.and_eq_true, decide_eq_true_eq,
      beq_iff_eq, not_or, not_and]
    omega

------------------------------------------------------------
-- The Ends of the Interval
------------------------------------------------------------

/- The gap above a double is the power of two of its last bit. -/
theorem cast_gap
    (x : Binary64) :
    ((twoTo (x.exponentField - 1) : Nat) : ℚ) = 2 ^ x.scale * 2 ^ 1074 := by
  have hExponent : ((x.exponentField - 1 : Nat) : Int) = x.scale + 1074 := by
    unfold scale
    split <;> omega
  rw [cast_twoTo, ← zpow_natCast, hExponent, zpow_add₀ two_ne_zero]
  rfl

theorem high_interval
    (x : Binary64) :
    (x.interval.high : ℚ) / Interval.unitsPerOne =
      (x.significand + 1 / 2) * 2 ^ x.scale := by
  have hHigh :
      x.interval.high =
        2 * (x.significand * twoTo (x.exponentField - 1)) +
          twoTo (x.exponentField - 1) :=
    rfl
  have hUnit : (2 : ℚ) ^ 1075 = 2 ^ 1074 * 2 := pow_succ 2 1074
  have hNonzero : (2 : ℚ) ^ 1074 ≠ 0 := pow_ne_zero _ two_ne_zero
  rw [Interval.cast_unitsPerOne, hHigh, hUnit, Nat.cast_add, Nat.cast_mul,
    Nat.cast_mul, cast_gap]
  generalize (2 : ℚ) ^ 1074 = unit at hNonzero ⊢
  field_simp
  ring

/- The low end is half a gap below, and half of that below a power of two. -/
theorem low_interval
    {x : Binary64}
    (hNonzero : x.magnitude ≠ 0) :
    (x.interval.low : ℚ) / Interval.unitsPerOne =
      (x.significand -
        if x.fraction = 0 ∧ 1 < x.exponentField then 1 / 4 else 1 / 2) *
          2 ^ x.scale := by
  have hSome : twoTo (x.exponentField - 1) ≤ x.magnitude :=
    Nat.le_of_dvd (Nat.pos_of_ne_zero hNonzero)
      ⟨x.significand, Nat.mul_comm _ _⟩
  have hUnit : (2 : ℚ) ^ 1075 = 2 ^ 1074 * 2 := pow_succ 2 1074
  have hUnitNonzero : (2 : ℚ) ^ 1074 ≠ 0 := pow_ne_zero _ two_ne_zero
  have hMagnitude :
      (x.magnitude : ℚ) =
        x.significand * (2 ^ x.scale * 2 ^ 1074) := by
    rw [← cast_gap, ← Nat.cast_mul]
    rfl
  rw [Interval.cast_unitsPerOne, hUnit]
  unfold interval
  dsimp only
  split
  next hPower =>
    have hHalf :
        ((twoTo (x.exponentField - 1) / 2 : Nat) : ℚ) =
          2 ^ x.scale * 2 ^ 1074 / 2 := by
      have hEven : 2 ∣ twoTo (x.exponentField - 1) :=
        dvd_pow_self 2 (by omega)
      rw [Nat.cast_div hEven two_ne_zero, cast_gap, Nat.cast_ofNat]
    rw [Nat.cast_sub (by omega), Nat.cast_mul, hMagnitude, hHalf]
    generalize (2 : ℚ) ^ 1074 = unit at hUnitNonzero ⊢
    field_simp
    ring
  next hOther =>
    rw [Nat.cast_sub (by omega), Nat.cast_mul, hMagnitude, cast_gap]
    generalize (2 : ℚ) ^ 1074 = unit at hUnitNonzero ⊢
    field_simp
    ring

/- The exponent field and the fraction are read as one number. -/
theorem ofFields_congr
    (negative : Bool)
    {exponent significand other fraction : Nat}
    (hSum :
      exponent * twoTo 52 + significand = other * twoTo 52 + fraction) :
    ofFields negative exponent significand =
      ofFields negative other fraction := by
  unfold ofFields
  rw [Nat.add_assoc, Nat.add_assoc, hSum]

/- A double has the bits of its fields together. -/
theorem ofFields_eq_of_sum
    {x : Binary64}
    {exponent significand : Nat}
    (hSum :
      exponent * twoTo 52 + significand =
        x.exponentField * twoTo 52 + x.fraction) :
    ofFields x.negative exponent significand = x :=
  (ofFields_congr x.negative hSum).trans x.ofFields_fields

section Rounding

variable {x : Binary64}
variable {a b : Nat}

/- The exponent field of a finite double is not the last one. -/
theorem exponentField_lt
    (hFinite : x.isFinite = true) :
    x.exponentField < 2047 := by
  have hField : x.exponentField < twoTo 11 := Nat.mod_lt _ (twoTo_pos 11)
  unfold isFinite at hFinite
  rw [bne_iff_ne] at hFinite
  rw [twoTo_11] at hField
  omega

/- A fraction with as many bits as the double is rounded at its last bit. -/
theorem ofRatio_of_near
    (hFinite : x.isFinite = true)
    (hNumerator : 0 < a)
    (hDenominator : 0 < b)
    (hBits : x.scale = -1074 ∨ 2 ^ 52 * 2 ^ x.scale ≤ (a : ℚ) / b)
    (hLower : ((x.significand : ℚ) - 1 / 2) * 2 ^ x.scale ≤ a / b)
    (hUpper : (a : ℚ) / b ≤ (x.significand + 1 / 2) * 2 ^ x.scale)
    (hTie :
      x.significand % 2 = 0 ∨
        ((x.significand : ℚ) - 1 / 2) * 2 ^ x.scale < a / b ∧
          (a : ℚ) / b < (x.significand + 1 / 2) * 2 ^ x.scale) :
    ofRatio x.negative a b = x := by
  have hPower : (0 : ℚ) < 2 ^ x.scale := by positivity
  have hSignificand : (x.significand : ℚ) ≤ 2 ^ 53 - 1 := by
    have hLess := x.significand_lt
    have hCast : ((x.significand + 1 : Nat) : ℚ) ≤ (twoTo 53 : Nat) :=
      Nat.cast_le.mpr hLess
    rw [cast_twoTo, Nat.cast_add, Nat.cast_one] at hCast
    linarith
  have hAbove : (a : ℚ) / b < 2 ^ 53 * 2 ^ x.scale := by
    refine lt_of_le_of_lt hUpper ?_
    apply mul_lt_mul_of_pos_right _ hPower
    linarith
  have hLast :=
    lastBitExponent_eq hNumerator hDenominator hAbove x.size_eq_scale.1 hBits
  have hField : (x.scale + 1074).toNat = x.exponentField - 1 := by
    unfold scale
    split <;> omega
  have hSmall := exponentField_lt hFinite
  rw [ofRatio_eq_ofFields x.negative hNumerator hDenominator hLast hLower
    hUpper hTie (by omega) (Or.inr x.significand_lt), hField]
  apply ofFields_eq_of_sum
  unfold significand
  rw [twoTo_52]
  split <;> omega

/-
  A fraction just below a power of two has one bit more, and is
  rounded up to the power.
-/
theorem ofRatio_of_below_power
    (hFinite : x.isFinite = true)
    (hPower : x.fraction = 0 ∧ 1 < x.exponentField)
    (hNumerator : 0 < a)
    (hDenominator : 0 < b)
    (hLower : ((x.significand : ℚ) - 1 / 4) * 2 ^ x.scale ≤ a / b)
    (hBelow : (a : ℚ) / b < x.significand * 2 ^ x.scale) :
    ofRatio x.negative a b = x := by
  have hScale : x.scale - 1 + 1074 = x.exponentField - 2 := by
    unfold scale
    split <;> omega
  have hSignificand : (x.significand : ℚ) = 2 ^ 52 := by
    unfold significand
    rw [if_neg (by omega), hPower.1, Nat.add_zero, cast_twoTo]
  have hStep : (2 : ℚ) ^ x.scale = 2 * 2 ^ (x.scale - 1) := by
    rw [mul_comm, ← zpow_add_one₀ two_ne_zero, sub_add_cancel]
  have hStepPos : (0 : ℚ) < 2 ^ (x.scale - 1) := by positivity
  rw [hSignificand, hStep] at hLower hBelow
  have hSmall := exponentField_lt hFinite
  have hLast : lastBitExponent a b = x.scale - 1 := by
    apply lastBitExponent_eq hNumerator hDenominator
    · linarith
    · omega
    · exact Or.inr (by linarith)
  have hRounded :
      ofRatio x.negative a b =
        ofFields x.negative (x.scale - 1 + 1074).toNat (twoTo 53) := by
    apply ofRatio_eq_ofFields x.negative hNumerator hDenominator hLast
    · rw [cast_twoTo]
      linarith
    · rw [cast_twoTo]
      linarith
    · exact Or.inl rfl
    · omega
    · left
      omega
  rw [hRounded, hScale]
  -- The significand carries into the exponent field.
  apply ofFields_eq_of_sum
  rw [hPower.1, twoTo_52, twoTo_53]
  omega

/- Every fraction in the interval of a double is rounded to it. -/
theorem ofRatio_of_contains
    (hFinite : x.isFinite = true)
    (hNonzero : x.magnitude ≠ 0)
    (hNumerator : 0 < a)
    (hDenominator : 0 < b)
    (hInside : x.interval.Contains (a / b)) :
    ofRatio x.negative a b = x := by
  rcases Interval.contains_iff.mp hInside with ⟨hLower, hUpper, hTie⟩
  rw [low_interval hNonzero] at hLower hTie
  rw [high_interval] at hUpper hTie
  have hPos : (0 : ℚ) < 2 ^ x.scale := by positivity
  have hEven : x.interval.closed = true → x.significand % 2 = 0 := by
    intro hClosed
    have hFraction : x.fraction % 2 = 0 := beq_iff_eq.mp hClosed
    unfold significand
    rw [twoTo_52]
    split <;> omega
  split at hLower
  next hPower =>
    rw [if_pos hPower] at hTie
    have hSignificand : x.significand = twoTo 52 := by
      unfold significand
      rw [if_neg (by omega), hPower.1, Nat.add_zero]
    rcases lt_or_ge ((a : ℚ) / b) (x.significand * 2 ^ x.scale) with
      hBelow | hAbove
    · exact
        ofRatio_of_below_power hFinite hPower hNumerator hDenominator hLower
          hBelow
    · apply ofRatio_of_near hFinite hNumerator hDenominator
      · right
        rw [hSignificand, cast_twoTo] at hAbove
        exact hAbove
      · refine le_trans ?_ hAbove
        apply mul_le_mul_of_nonneg_right _ (le_of_lt hPos)
        linarith
      · exact hUpper
      · left
        rw [hSignificand]
        rfl
  next hOther =>
    rw [if_neg hOther] at hTie
    apply ofRatio_of_near hFinite hNumerator hDenominator
    · rcases Nat.lt_or_ge 1 x.exponentField with hNormal | hSmall
      · right
        have hMore : ((twoTo 52 + 1 : Nat) : ℚ) ≤ x.significand := by
          rw [Nat.cast_le]
          unfold significand
          rw [if_neg (by omega)]
          omega
        rw [Nat.cast_add, cast_twoTo, Nat.cast_one] at hMore
        refine le_trans ?_ hLower
        apply mul_le_mul_of_nonneg_right _ (le_of_lt hPos)
        linarith
      · left
        unfold scale
        split <;> omega
    · exact hLower
    · exact hUpper
    · exact hTie.imp_left hEven

end Rounding

------------------------------------------------------------
-- What Is Rounded to a Double
------------------------------------------------------------

/- The fields of a significand of 53 bits, or with the first exponent field. -/
theorem significand_ofFields
    (negative : Bool)
    {exponent significand : Nat}
    (hSignificand : significand < twoTo 53)
    (hNormal : twoTo 52 ≤ significand ∨ exponent = 0)
    (hSmall : exponent < 2046) :
    (ofFields negative exponent significand).significand = significand ∧
      (ofFields negative exponent significand).scale = exponent - 1074 ∧
      ((ofFields negative exponent significand).fraction = 0 ∧
          1 < (ofFields negative exponent significand).exponentField →
        significand = twoTo 52 ∧ 0 < exponent) := by
  rw [twoTo_53] at hSignificand
  have hTop : exponent + significand / twoTo 52 < 2047 := by
    rw [twoTo_52]
    omega
  rcases fields_ofFields negative exponent significand hTop with
    ⟨hField, hFraction, _⟩
  unfold Binary64.significand scale
  rw [hField, hFraction]
  rw [twoTo_52] at hNormal ⊢
  refine ⟨?_, ?_, ?_⟩
  · split <;> omega
  · split <;> omega
  · omega

/- The ends belong to the interval if the significand is even. -/
theorem closed_interval_iff
    (x : Binary64) :
    x.interval.closed = true ↔ x.significand % 2 = 0 := by
  have hClosed : x.interval.closed = (x.fraction % 2 == 0) := rfl
  rw [hClosed, beq_iff_eq]
  unfold significand
  rw [twoTo_52]
  split <;> omega

/- What is rounded to a significand of 53 bits is in its interval. -/
theorem contains_of_lt_significand
    (negative : Bool)
    {r : ℚ}
    {significand : Nat}
    {last : Int}
    (hSignificand : significand < twoTo 53)
    (hLeast : -1074 ≤ last)
    (hSmall : (last + 1074).toNat < 2046)
    (hNonzero :
      (ofFields negative (last + 1074).toNat significand).magnitude ≠ 0)
    (hBelow : last = -1074 ∨ 2 ^ 52 * 2 ^ last ≤ r)
    (hNormal : twoTo 52 ≤ significand ∨ (last + 1074).toNat = 0)
    (hLower : ((significand : ℚ) - 1 / 2) * 2 ^ last ≤ r)
    (hUpper : r ≤ (significand + 1 / 2) * 2 ^ last)
    (hTie :
      significand % 2 = 0 ∨
        ((significand : ℚ) - 1 / 2) * 2 ^ last < r ∧
          r < (significand + 1 / 2) * 2 ^ last) :
    (ofFields negative (last + 1074).toNat significand).interval.Contains
      r := by
  rcases significand_ofFields negative hSignificand hNormal hSmall with
    ⟨hSame, hScale, hPower⟩
  have hLast : (((last + 1074).toNat : Nat) : Int) - 1074 = last := by omega
  rw [hLast] at hScale
  have hPos : (0 : ℚ) < 2 ^ last := by positivity
  refine Interval.contains_iff.mpr ⟨?_, ?_, ?_⟩
  · rw [low_interval hNonzero, hSame, hScale]
    split
    next hAtPower =>
      rcases hPower hAtPower with ⟨rfl, hField⟩
      refine le_trans ?_ (hBelow.resolve_left (by omega))
      apply mul_le_mul_of_nonneg_right _ (le_of_lt hPos)
      rw [cast_twoTo]
      linarith
    next => exact hLower
  · rw [high_interval, hSame, hScale]
    exact hUpper
  · rw [closed_interval_iff, low_interval hNonzero, high_interval, hSame,
      hScale]
    split
    next hAtPower =>
      rcases hPower hAtPower with ⟨rfl, _⟩
      exact Or.inl rfl
    next => exact hTie

/- What is rounded up to the next power of two is in the interval of the power. -/
theorem contains_of_carry
    (negative : Bool)
    {r : ℚ}
    {significand : Nat}
    {last : Int}
    (hFull : significand = twoTo 53)
    (hLeast : -1074 ≤ last)
    (hSmall : (last + 1074).toNat < 2045)
    (hLower : ((significand : ℚ) - 1 / 2) * 2 ^ last ≤ r)
    (hUpper : r < 2 ^ 53 * 2 ^ last) :
    (ofFields negative (last + 1074).toNat significand).interval.Contains
      r := by
  have hCarried :
      ofFields negative (last + 1074).toNat significand =
        ofFields negative ((last + 1074).toNat + 1) (twoTo 52) := by
    apply ofFields_congr
    rw [hFull, twoTo_52, twoTo_53]
    omega
  rw [hFull, cast_twoTo] at hLower
  have hBits : twoTo 52 < twoTo 53 := by decide
  have hFields :=
    significand_ofFields negative hBits (Or.inl (Nat.le_refl _))
      (Nat.succ_lt_succ hSmall)
  rw [hCarried]
  generalize ofFields negative ((last + 1074).toNat + 1) (twoTo 52) = x
    at hFields ⊢
  rcases hFields with ⟨hSignificand, hScale, _⟩
  have hNonzero : x.magnitude ≠ 0 := by
    unfold magnitude
    rw [hSignificand]
    exact Nat.ne_of_gt (Nat.mul_pos (twoTo_pos _) (twoTo_pos _))
  have hStep : (2 : ℚ) ^ x.scale = 2 * 2 ^ last := by
    have hNext : x.scale = last + 1 := by omega
    rw [hNext, zpow_add_one₀ two_ne_zero, mul_comm]
  have hPos : (0 : ℚ) < 2 ^ last := by positivity
  refine Interval.contains_iff.mpr ⟨?_, ?_, ?_⟩
  · rw [low_interval hNonzero, hSignificand, hStep, cast_twoTo]
    split <;> linarith
  · rw [high_interval, hSignificand, hStep, cast_twoTo]
    linarith
  · left
    rw [closed_interval_iff, hSignificand]
    rfl

/- A fraction is rounded to 53 bits, or carries to the next power of two. -/
theorem rounded_bits
    {a b n : Nat}
    (hNumerator : 0 < a)
    (hDenominator : 0 < b)
    {last : Int}
    (hLast : lastBitExponent a b = last)
    (hLower : ((n : ℚ) - 1 / 2) * 2 ^ last ≤ a / b)
    (hUpper : (a : ℚ) / b ≤ (n + 1 / 2) * 2 ^ last) :
    n ≤ twoTo 53 ∧ (twoTo 52 ≤ n ∨ (last + 1074).toNat = 0) := by
  rcases lastBitExponent_spec hNumerator hDenominator with
    ⟨hAbove, _, hBelow⟩
  rw [hLast] at hAbove hBelow
  have hPos : (0 : ℚ) < 2 ^ last := by positivity
  constructor
  · have hLess := lt_of_mul_lt_mul_right (lt_of_le_of_lt hLower hAbove)
      (le_of_lt hPos)
    rw [← cast_twoTo] at hLess
    have hBits : (n : ℚ) < (twoTo 53 + 1 : Nat) := by
      rw [Nat.cast_add, Nat.cast_one]
      linarith
    exact Nat.le_of_lt_succ (Nat.cast_lt.mp hBits)
  · rcases hBelow with rfl | hBelow
    · exact Or.inr rfl
    · left
      have hMore := le_of_mul_le_mul_right (le_trans hBelow hUpper) hPos
      rw [← cast_twoTo] at hMore
      have hBits : (twoTo 52 : ℚ) < (n + 1 : Nat) := by
        rw [Nat.cast_add, Nat.cast_one]
        linarith
      exact Nat.le_of_lt_succ (Nat.cast_lt.mp hBits)

/- What is rounded to a finite double is in its interval. -/
theorem contains_of_ofRatio
    {negative : Bool}
    {x : Binary64}
    {a b : Nat}
    (hFinite : x.isFinite = true)
    (hNonzero : x.magnitude ≠ 0)
    (hNumerator : 0 < a)
    (hDenominator : 0 < b)
    (hRounded : ofRatio negative a b = x) :
    x.interval.Contains (a / b) := by
  rcases lastBitExponent_spec hNumerator hDenominator with
    ⟨hAbove, hLeast, hBelow⟩
  have hDefinition := ofRatio_eq negative b hNumerator
  dsimp only at hDefinition
  generalize hLast : lastBitExponent a b = last
    at hDefinition hAbove hLeast hBelow
  generalize hNearest :
    roundHalfEven (a * twoTo (-last).toNat) (b * twoTo last.toNat) =
      significand at hDefinition
  rcases (roundHalfEven_scaled_eq_iff hDenominator last).mp hNearest with
    ⟨hLower, hUpper, hTie⟩
  rcases rounded_bits hNumerator hDenominator hLast hLower hUpper with
    ⟨hMost, hNormal⟩
  rw [hRounded] at hDefinition
  split at hDefinition
  next =>
    have hInfinite : (infinity negative).isFinite = false := by
      cases negative <;> decide
    rw [hDefinition, hInfinite] at hFinite
    cases hFinite
  next hInRange =>
    simp only [Bool.or_eq_true, Bool.and_eq_true, decide_eq_true_eq,
      beq_iff_eq, not_or, not_and] at hInRange
    have hField := Nat.lt_of_not_le hInRange.1
    subst hDefinition
    rcases Nat.lt_or_eq_of_le hMost with hLess | hFull
    · exact
        contains_of_lt_significand negative hLess hLeast hField hNonzero
          hBelow hNormal hLower hUpper hTie
    · have hOther : (last + 1074).toNat ≠ 2045 :=
        fun hSame => hInRange.2 hSame (Nat.le_of_eq hFull.symm)
      exact
        contains_of_carry negative hFull hLeast
          (Nat.lt_of_le_of_ne (Nat.le_of_lt_succ hField) hOther) hLower
          hAbove

end Binary64

end Intake
