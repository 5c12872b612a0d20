import Intake.Raw

/-
  This file bounds the significand and the exponent field of a
  rounded integer.  It shows that every number of a JSON text
  is near to a finite double.

  The main statements are:
    * `Binary64.fields_ofFields`
    * `Binary64.isFinite_ofInt`
    * `Raw.Number.isFinite_toBinary64`
-/

namespace Intake

/- A rounded quotient is at most one above the quotient. -/
theorem roundHalfEven_le
    (numerator denominator : Nat) :
    roundHalfEven numerator denominator ≤
      numerator / denominator + 1 := by
  unfold roundHalfEven
  dsimp only
  split <;> omega

namespace Binary64

------------------------------------------------------------
-- Fields
------------------------------------------------------------

/-
  The fields of a double with an exponent field and a fraction
  that may carry into it.
-/
theorem fields_ofFields
    (negative : Bool)
    (exponent fraction : Nat)
    (hSmall : exponent + fraction / twoTo 52 < 2047) :
    (ofFields negative exponent fraction).exponentField =
        exponent + fraction / twoTo 52 ∧
      (ofFields negative exponent fraction).fraction =
        fraction % twoTo 52 ∧
      (ofFields negative exponent fraction).negative = negative := by
  simp only [twoTo_52] at hSmall
  simp only [exponentField, Binary64.fraction, Binary64.negative, ofFields,
    UInt64.toNat_ofNat', twoTo_52, twoTo_63, twoTo_11]
  cases negative
  · simp only [Bool.false_eq_true, if_false, decide_eq_false_iff_not]
    omega
  · simp only [if_true, decide_eq_true_eq]
    omega

/-
  A double is finite if its exponent field and what its
  fraction carries into the field stay below the last field.
-/
theorem isFinite_ofFields
    (negative : Bool)
    (exponent fraction : Nat)
    (hSmall : exponent + fraction / twoTo 52 < 2047) :
    (ofFields negative exponent fraction).isFinite = true := by
  have hField := (fields_ofFields negative exponent fraction hSmall).1
  simp only [isFinite, hField, bne_iff_ne, ne_eq]
  omega

------------------------------------------------------------
-- Integers
------------------------------------------------------------

/- The last bit of a rounded integer of 64 bits is a small one. -/
theorem lastBitExponent_le
    (n : Nat)
    (hSmall : n < twoTo 64) :
    lastBitExponent n 1 ≤ 11 := by
  have hLog : n.log2 < 64 := by
    by_cases hZero : n = 0
    · subst hZero
      decide
    · exact (Nat.log2_lt hZero).mpr hSmall
  have hOne : Nat.log2 1 = 0 := by decide
  unfold lastBitExponent
  rw [hOne]
  dsimp only
  split <;> omega

/-
  The last bit of a rounded integer is at most 53 places below
  its first.
-/
theorem le_lastBitExponent
    (n : Nat) :
    (n.log2 : Int) - 53 ≤ lastBitExponent n 1 := by
  have hOne : Nat.log2 1 = 0 := by decide
  unfold lastBitExponent
  rw [hOne]
  dsimp only
  split <;> omega

/-
  An integer scaled to its last bit has at most 54 bits, so its
  significand is at most the power of two after them.
-/
theorem significand_le
    (n : Nat) :
    (if 0 ≤ lastBitExponent n 1 then
        roundHalfEven n (1 * twoTo (lastBitExponent n 1).toNat)
      else
        roundHalfEven
          (n * twoTo (-lastBitExponent n 1).toNat) 1) ≤
      twoTo 54 := by
  have hFirst := le_lastBitExponent n
  have hBits : n < 2 ^ (n.log2 + 1) := Nat.lt_log2_self
  split
  · next hLast =>
      apply Nat.le_trans (roundHalfEven_le _ _)
      rw [Nat.one_mul, Nat.succ_le_iff, Nat.div_lt_iff_lt_mul
        (twoTo_pos _)]
      calc
        n < 2 ^ (n.log2 + 1) := hBits
        _ ≤ 2 ^ (54 + (lastBitExponent n 1).toNat) :=
          Nat.pow_le_pow_right (by decide) (by omega)
        _ = twoTo 54 * twoTo (lastBitExponent n 1).toNat :=
          Nat.pow_add 2 _ _
  · next hLast =>
      apply Nat.le_trans (roundHalfEven_le _ _)
      rw [Nat.div_one, Nat.succ_le_iff]
      calc
        n * twoTo (-lastBitExponent n 1).toNat
          < 2 ^ (n.log2 + 1) *
              2 ^ (-lastBitExponent n 1).toNat :=
          Nat.mul_lt_mul_of_pos_right hBits
            (twoTo_pos _)
        _ = 2 ^ (n.log2 + 1 + (-lastBitExponent n 1).toNat) :=
          (Nat.pow_add 2 _ _).symm
        _ ≤ twoTo 54 :=
          Nat.pow_le_pow_right (by decide) (by omega)

/-
  The double nearest to an integer of 64 bits, with a sign or
  without, is finite.
-/
theorem isFinite_ofInt
    (k : Int)
    (inRange : FitsNumber k) :
    (ofInt k).isFinite = true := by
  unfold ofInt ofRatio
  by_cases hZero : k.natAbs = 0
  · simp only [hZero, if_true]
    exact isFinite_ofFields _ _ _ (by decide)
  · have hLast :=
      lastBitExponent_le k.natAbs (by rw [twoTo_64]; omega)
    have hSignificand := significand_le k.natAbs
    simp only [hZero, if_false]
    generalize
      (if 0 ≤ lastBitExponent k.natAbs 1 then
        roundHalfEven k.natAbs
          (1 * twoTo (lastBitExponent k.natAbs 1).toNat)
      else
        roundHalfEven
          (k.natAbs * twoTo (-lastBitExponent k.natAbs 1).toNat)
          1) = significand at hSignificand ⊢
    have hField :
        (lastBitExponent k.natAbs 1 + 1074).toNat ≤ 1085 := by
      omega
    rw [if_neg (by simp; omega)]
    apply isFinite_ofFields
    have hCarry : significand / twoTo 52 ≤ 4 := by
      rw [twoTo_54] at hSignificand
      rw [twoTo_52]
      omega
    omega

end Binary64

/- Every number of a JSON text is near to a finite double. -/
theorem Raw.Number.isFinite_toBinary64
    (n : Raw.Number) :
    n.toBinary64.isFinite = true := by
  cases n with
  | whole k inRange => exact Binary64.isFinite_ofInt k inRange
  | real x finite => exact finite

end Intake
