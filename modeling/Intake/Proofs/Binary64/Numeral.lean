import Intake.Proofs.Binary64.Scientific
import Intake.Proofs.Decimal.Notation

/-
  This file shows which number the text of a finite double
  writes.

  The shortest decimal of the double loses the zeros at its
  end; what is left is laid out with a point, or with an
  exponent.  Either layout writes the same number.

  Key definitions include:
    * `Binary64.Layout.isPositional`
    * `Binary64.Layout.body`
    * `Binary64.Shows`

  The main statements are:
    * `Binary64.exists_stripZeros`
    * `Binary64.isUnsigned_layPositional`
    * `Binary64.exists_layScientific`
    * `Binary64.exists_shows`
-/

namespace Intake

namespace Binary64

------------------------------------------------------------
-- Zeros at the End
------------------------------------------------------------

/- What is dropped at the end of digits is zeros. -/
theorem exists_zeros
    (digits : List Char) :
    ∃ zeros : Nat,
      digits = digits.rdropWhile (· == '0') ++ List.replicate zeros '0' := by
  induction digits using List.reverseRecOn with
  | nil => exact ⟨0, rfl⟩
  | append_singleton digits c ih =>
      rw [List.rdropWhile_concat]
      split
      next hZero =>
        rcases ih with ⟨zeros, hDigits⟩
        refine ⟨zeros + 1, ?_⟩
        rw [List.replicate_succ', ← List.append_assoc, ← hDigits,
          beq_iff_eq.mp hZero]
      next => exact ⟨0, (List.append_nil _).symm⟩

/- A number ends in the digit that is written last. -/
theorem not_ten_dvd_of_getLast
    {digits : List Char}
    {n : Nat}
    (hDigits : Text.IsDigits digits n)
    (hLast : digits.getLast hDigits.nonempty ≠ '0') :
    ¬ 10 ∣ n := by
  have hSplit := List.dropLast_concat_getLast hDigits.nonempty
  have hDigit :=
    Char.isDigit_iff_toNat.mp
      (hDigits.digits _ (List.getLast_mem hDigits.nonempty))
  have hValue : Text.digitsValue digits = n := hDigits.value
  generalize digits.getLast hDigits.nonempty = c at hLast hSplit hDigit
  rw [← hSplit, Text.digitsValue_append_singleton] at hValue
  have hOther : c.toNat ≠ '0'.toNat := fun hSame =>
    hLast (Char.toNat_inj.mp hSame)
  have hZero : '0'.toNat = 48 := rfl
  have hNine : '9'.toNat = 57 := rfl
  omega

/- The digits of a number lose the zeros at their end. -/
theorem exists_stripZeros
    {number : Nat}
    (hPos : 0 < number)
    (place : Int) :
    ∃ (digits : List Char) (n zeros : Nat),
      stripZeros (Nat.toDigits 10 number) place = (digits, place + zeros) ∧
        Text.IsDigits digits n ∧
        ¬ 10 ∣ n ∧
        number = n * tenTo zeros ∧
        digits.length + zeros = (Nat.toDigits 10 number).length := by
  rcases exists_zeros (Nat.toDigits 10 number) with ⟨zeros, hSplit⟩
  have hNumber := (Text.isDigits_toDigits number).value
  have hAll := (Text.isDigits_toDigits number).digits
  have hLast :=
    List.rdropWhile_last_not (· == '0') (Nat.toDigits 10 number)
  have hStrip :
      stripZeros (Nat.toDigits 10 number) place =
        ((Nat.toDigits 10 number).rdropWhile (· == '0'),
          place + ((Nat.toDigits 10 number).length -
            ((Nat.toDigits 10 number).rdropWhile (· == '0')).length : Nat)) :=
    rfl
  generalize (Nat.toDigits 10 number).rdropWhile (· == '0') = kept at *
  generalize Nat.toDigits 10 number = digits at *
  subst hSplit
  rw [Nat.ofDigitChars_append, Nat.ofDigitChars_replicate_zero] at hNumber
  have hSome : kept ≠ [] := by
    rintro rfl
    rw [Nat.ofDigitChars_nil, Nat.mul_zero] at hNumber
    omega
  have hDigits :
      Text.IsDigits kept (Nat.ofDigitChars 10 kept 0) :=
    ⟨hSome, fun c hMem => hAll c (List.mem_append_left _ hMem), rfl⟩
  refine ⟨kept, _, zeros, ?_, hDigits, ?_, ?_, ?_⟩
  · rw [hStrip, List.length_append, List.length_replicate,
      Nat.add_sub_cancel_left]
  · apply not_ten_dvd_of_getLast hDigits
    intro hZero
    exact hLast hSome (beq_iff_eq.mpr hZero)
  · exact hNumber.symm.trans (Nat.mul_comm _ _)
  · rw [List.length_append, List.length_replicate]

------------------------------------------------------------
-- Layouts
------------------------------------------------------------

/- Digits are laid out without an exponent. -/
def Layout.isPositional
    (layout : Layout)
    (leading : Int) : Bool :=
  match layout.positional with
  | none => true
  | some (low, high) => decide (low ≤ leading) && decide (leading < high)

/- Digits with the last one at a place, without a sign. -/
def Layout.body
    (layout : Layout)
    (digits : List Char)
    (place : Int) : List Char :=
  let leading := place + digits.length - 1
  if layout.isPositional leading then
    layPositional layout.pointZero digits place
  else
    layScientific layout.plusSign digits leading

/- The zeros behind the point of a whole number. -/
def pointZeros
    (pointZero : Bool)
    (place : Int) : Nat :=
  if pointZero = true ∧ 0 ≤ place then 1 else 0

/- Zeros behind digits multiply the number. -/
theorem isDigits_append_zeros
    {digits : List Char}
    {n : Nat}
    (hDigits : Text.IsDigits digits n)
    (zeros : Nat) :
    Text.IsDigits (digits ++ List.replicate zeros '0') (n * tenTo zeros) := by
  refine ⟨?_, ?_, ?_⟩
  · exact List.append_ne_nil_of_left_ne_nil hDigits.nonempty _
  · intro c hMem
    rcases List.mem_append.mp hMem with hMem | hMem
    · exact hDigits.digits c hMem
    · rw [List.eq_of_mem_replicate hMem]
      rfl
  · rw [Nat.ofDigitChars_append, Nat.ofDigitChars_replicate_zero,
      hDigits.value, Nat.mul_comm]
    rfl

/- Zeros in front of digits leave the number. -/
theorem isDigits_zeros_append
    {digits : List Char}
    {n : Nat}
    (hDigits : Text.IsDigits digits n)
    (zeros : Nat) :
    Text.IsDigits (List.replicate zeros '0' ++ digits) n := by
  refine ⟨?_, ?_, ?_⟩
  · exact List.append_ne_nil_of_right_ne_nil _ hDigits.nonempty
  · intro c hMem
    rcases List.mem_append.mp hMem with hMem | hMem
    · rw [List.eq_of_mem_replicate hMem]
      rfl
    · exact hDigits.digits c hMem
  · rw [Nat.ofDigitChars_append, Nat.ofDigitChars_replicate_zero,
      Nat.mul_zero, hDigits.value]

/- Digits with a point are the number with zeros up to the point. -/
theorem isUnsigned_layPositional
    {digits : List Char}
    {n : Nat}
    (hDigits : Text.IsDigits digits n)
    (pointZero : Bool)
    (place : Int) :
    Decimal.IsUnsigned (layPositional pointZero digits place)
      (n * tenTo (place.toNat + pointZeros pointZero place))
      ((-place).toNat + pointZeros pointZero place) := by
  unfold layPositional
  dsimp only
  split
  next hNatural =>
    have hWhole := isDigits_append_zeros hDigits place.toNat
    have hNoPlaces : (-place).toNat = 0 := by omega
    rw [hNoPlaces]
    cases pointZero with
    | false => exact .whole hWhole
    | true =>
        have hZeros : pointZeros true place = [('0' : Char)].length := by
          simp [pointZeros, hNatural]
        rw [hZeros, Nat.zero_add, if_pos rfl]
        refine .pointed ?_
        have hPointed := isDigits_append_zeros hWhole 1
        have hPower :
            n * tenTo (place.toNat + 1) = n * tenTo place.toNat * tenTo 1 := by
          rw [Nat.mul_assoc, ← tenTo_add]
        rw [← hPower] at hPointed
        exact hPointed
  next hFraction =>
    have hNoZeros : place.toNat + pointZeros pointZero place = 0 := by
      simp [pointZeros, hFraction]
      omega
    have hPlaces : pointZeros pointZero place = 0 := by omega
    have hOne : n * tenTo 0 = n := Nat.mul_one n
    rw [hNoZeros, hPlaces, hOne, Nat.add_zero]
    split
    next hShort =>
      have hWritten :=
        isDigits_zeros_append hDigits ((-place).toNat - digits.length + 1)
      have hPointed :=
        @Decimal.IsUnsigned.pointed ['0']
          (List.replicate ((-place).toNat - digits.length) '0' ++ digits) n
          hWritten
      rw [List.length_append, List.length_replicate,
        Nat.sub_add_cancel hShort] at hPointed
      exact hPointed
    next hLong =>
      have hWritten := hDigits
      rw [← List.take_append_drop (digits.length - (-place).toNat) digits]
        at hWritten
      have hPointed := Decimal.IsUnsigned.pointed hWritten
      rw [List.length_drop, Nat.sub_sub_self (by omega)] at hPointed
      exact hPointed

/- Digits with an exponent are a literal and the numeral of the exponent. -/
theorem exists_layScientific
    {digits : List Char}
    {n : Nat}
    (hDigits : Text.IsDigits digits n)
    (plusSign : Bool)
    (leading : Int) :
    ∃ mantissa exponent,
      layScientific plusSign digits leading = mantissa ++ 'e' :: exponent ∧
        Decimal.IsUnsigned mantissa n (digits.length - 1) ∧
        Text.IsNumeral exponent leading := by
  refine ⟨_, _, List.append_assoc _ _ _, ?_, ?_⟩
  · rcases digits with _ | ⟨first, _ | ⟨next, rest⟩⟩
    · exact absurd rfl hDigits.nonempty
    · exact .whole hDigits
    · exact @Decimal.IsUnsigned.pointed [first] (next :: rest) n hDigits
  · have hWritten := Text.isDigits_toDigits leading.natAbs
    split
    next hNegative =>
      exact ⟨['-'], -1, _, _, rfl, .minus, hWritten, by omega⟩
    next hNatural =>
      cases plusSign with
      | false => exact ⟨[], 1, _, _, rfl, .none, hWritten, by omega⟩
      | true => exact ⟨['+'], 1, _, _, rfl, .plus, hWritten, by omega⟩

/- Both layouts write the number with its last digit at the place. -/
theorem isNumber_body
    {digits : List Char}
    {n : Nat}
    {sign : List Char}
    {factor : Int}
    (hDigits : Text.IsDigits digits n)
    (hSign : Text.Sign sign factor)
    (layout : Layout)
    (place : Int) :
    Decimal.IsNumber (sign ++ layout.body digits place)
      ((factor * n : Int) * 10 ^ place) := by
  have hTen : (10 : ℚ) ≠ 0 := by norm_num
  unfold Layout.body
  dsimp only
  split
  next hPositional =>
    have hLiteral :
        Decimal.IsLiteral
          (sign ++ layPositional layout.pointZero digits place) _ _ :=
      ⟨sign, factor, _, _, rfl, hSign,
        isUnsigned_layPositional hDigits layout.pointZero place, rfl⟩
    have hNumber := Decimal.IsNumber.plain hLiteral
    rw [Nat.cast_mul, ← Int.mul_assoc, Decimal.mul_tenTo_div_eq] at hNumber
    exact hNumber
  next hScientific =>
    rcases exists_layScientific hDigits layout.plusSign
        (place + digits.length - 1) with
      ⟨mantissa, exponent, hText, hMantissa, hExponent⟩
    have hLiteral :
        Decimal.IsLiteral (sign ++ mantissa) (factor * n)
          (digits.length - 1) :=
      ⟨sign, factor, mantissa, n, rfl, hSign, hMantissa, rfl⟩
    have hNumber :=
      Decimal.IsNumber.scaled hLiteral (Or.inl rfl) hExponent
    have hSome := List.length_pos_iff.mpr hDigits.nonempty
    have hValue :
        ((factor * n : Int) : ℚ) / 10 ^ (digits.length - 1) *
            10 ^ (place + digits.length - 1) =
          (factor * n : Int) * 10 ^ place := by
      rw [← zpow_natCast, div_eq_mul_inv, mul_assoc, ← zpow_neg,
        ← zpow_add₀ hTen]
      congr 2
      omega
    rw [hText, ← List.append_assoc, ← hValue]
    exact hNumber

------------------------------------------------------------
-- Texts of Doubles
------------------------------------------------------------

/- The sign in front of the digits of a double. -/
def signText
    (x : Binary64) : List Char :=
  if x.negative then ['-'] else []

/- The factor that the sign of a double stands for. -/
def signFactor
    (x : Binary64) : Int :=
  if x.negative then -1 else 1

theorem sign_signText
    (x : Binary64) :
    Text.Sign x.signText x.signFactor := by
  unfold signText signFactor
  split
  · exact .minus
  · exact .none

/-
  The digits that the texts of a double show: they are
  seventeen at most and end in a digit other than zero, with it
  at the place they are in the interval of the double, and no
  decimal whose nearest double it is has fewer digits.
-/
structure Shows
    (x : Binary64)
    (digits : List Char)
    (n : Nat)
    (place : Int) : Prop where
  written : Text.IsDigits digits n
  last : ¬ 10 ∣ n
  short : digits.length ≤ 17
  inside : x.interval.Contains (n * 10 ^ place)
  shortest :
    ∀ (c : Nat) (other : Int), ofScientific x.negative c other = x →
      digits.length ≤ (Nat.toDigits 10 c).length

/- The text of a finite double is its sign and its body. -/
theorem toList_write
    {x : Binary64}
    (hFinite : x.isFinite = true)
    (layout : Layout) :
    (x.write layout).toList =
      x.signText ++
        if x.magnitude = 0 then layPositional layout.pointZero ['0'] 0
        else
          layout.body
            (stripZeros (Nat.toDigits 10 (x.shortest layout.tie).1)
              (x.shortest layout.tie).2).1
            (stripZeros (Nat.toDigits 10 (x.shortest layout.tie).1)
              (x.shortest layout.tie).2).2 := by
  have hNumber : x.isNaN = false := by
    unfold isFinite at hFinite
    unfold isNaN
    rw [bne_iff_ne] at hFinite
    rw [beq_eq_false_iff_ne.mpr hFinite, Bool.false_and]
  unfold write
  rw [hNumber, hFinite, if_neg Bool.false_ne_true, Bool.not_true,
    if_neg Bool.false_ne_true, String.toList_ofList]
  rfl

/-
  A number up to a power of ten has as many digits without the
  zeros at its end, or one if it is the power.
-/
theorem length_le_of_le_tenTo
    {number n zeros length count : Nat}
    (hPos : 0 < number)
    (hNumber : number = n * tenTo zeros)
    (hLast : ¬ 10 ∣ n)
    (hLength : length + zeros = (Nat.toDigits 10 number).length)
    (hMost : number ≤ tenTo count) :
    length ≤ 1 ∨ length ≤ count := by
  rcases Nat.lt_or_eq_of_le hMost with hLess | hSame
  · right
    have hCount : 0 < count := by
      apply Nat.pos_of_ne_zero
      rintro rfl
      exact absurd hLess (Nat.not_lt.mpr hPos)
    have hDigits :=
      (Nat.length_toDigits_le_iff (by decide) hCount).mpr hLess
    omega
  · left
    have hDigits : (Nat.toDigits 10 number).length ≤ count + 1 := by
      rw [Nat.length_toDigits_le_iff (by decide) (Nat.succ_pos count), hSame]
      exact Nat.pow_lt_pow_right (by decide) (Nat.lt_succ_self count)
    have hZeros : count ≤ zeros := by
      by_contra hFewer
      apply hLast
      have hSplit : tenTo count = tenTo (count - zeros) * tenTo zeros := by
        rw [← tenTo_add, Nat.sub_add_cancel (by omega)]
      rw [hNumber, hSplit] at hSame
      rw [Nat.eq_of_mul_eq_mul_right (tenTo_pos zeros) hSame]
      exact dvd_pow_self 10 (by omega)
    omega

/-
  No decimal in the interval has fewer digits than the shortest
  one without the zeros at its end.
-/
theorem IsShortest.length_le
    {x : Binary64}
    {number n zeros length c : Nat}
    {place q : Int}
    (hShortest : x.IsShortest number place)
    (hNonzero : x.magnitude ≠ 0)
    (hNumber : number = n * tenTo zeros)
    (hLast : ¬ 10 ∣ n)
    (hLength : length + zeros = (Nat.toDigits 10 number).length)
    (hInside : x.interval.Contains (c * 10 ^ q)) :
    length ≤ (Nat.toDigits 10 c).length := by
  have hPos := coefficient_pos_of_contains hNonzero hShortest.inside
  have hSome : 0 < (Nat.toDigits 10 c).length :=
    List.length_pos_iff.mpr Nat.toDigits_ne_nil
  have hMost : c < tenTo (Nat.toDigits 10 c).length :=
    (Nat.length_toDigits_le_iff (by decide) hSome).mp (Nat.le_refl _)
  generalize (Nat.toDigits 10 c).length = count at hSome hMost ⊢
  by_contra hMore
  have hRoom : place < x.leading + 1 - count := by
    rcases length_le_of_le_tenTo hPos hNumber hLast hLength
        hShortest.short with
      hOne | hBound
    · omega
    · omega
  rcases le_or_gt (x.leading + 1 - count) q with hCoarse | hFine
  · exact hShortest.not_contains hRoom (by omega) hCoarse c hInside
  · -- The decimal is below the leading power of ten, which is inside as well.
    have hLeading := (leading_spec hNonzero).1
    have hBelow : (c : ℚ) * 10 ^ q ≤ 10 ^ x.leading := by
      have hCast : (c : ℚ) ≤ 10 ^ (count : Int) := by
        rw [zpow_natCast, ← cast_tenTo]
        exact Nat.cast_le.mpr (Nat.le_of_lt hMost)
      calc
        (c : ℚ) * 10 ^ q ≤ 10 ^ (count : Int) * 10 ^ q :=
          mul_le_mul_of_nonneg_right hCast (by positivity)
        _ = 10 ^ (count + q) := (zpow_add₀ (by norm_num) _ _).symm
        _ ≤ 10 ^ x.leading := zpow_le_zpow_right₀ (by norm_num) (by omega)
    have hPower :=
      hInside.between (contains_middle hNonzero) hBelow hLeading
    apply hShortest.not_contains (by omega) (le_refl x.leading)
      (le_refl x.leading) 1
    rw [Nat.cast_one, one_mul]
    exact hPower

/-
  Every finite double other than zero shows digits, which only
  depend on the way in which ties are broken.
-/
theorem exists_shows
    {x : Binary64}
    (hFinite : x.isFinite = true)
    (hNonzero : x.magnitude ≠ 0)
    (tie : Tie) :
    ∃ digits n place,
      x.Shows digits n place ∧
        ∀ layout : Layout, layout.tie = tie →
          (x.write layout).toList =
            x.signText ++ layout.body digits place := by
  have hShortest := isShortest_shortest hNonzero tie
  have hPos := coefficient_pos_of_contains hNonzero hShortest.inside
  rcases exists_stripZeros hPos (x.shortest tie).2 with
    ⟨digits, n, zeros, hStrip, hDigits, hLast, hNumber, hLength⟩
  refine
    ⟨digits, n, (x.shortest tie).2 + zeros, ⟨hDigits, hLast, ?_, ?_, ?_⟩, ?_⟩
  · have hFinest := hShortest.finest
    rcases length_le_of_le_tenTo hPos hNumber hLast hLength
        hShortest.short with
      hOne | hBound
    · omega
    · omega
  · have hValue :
        (n : ℚ) * 10 ^ ((x.shortest tie).2 + zeros) =
          (x.shortest tie).1 * 10 ^ (x.shortest tie).2 := by
      rw [hNumber, Nat.cast_mul, cast_tenTo, zpow_add₀ (by norm_num),
        zpow_natCast]
      ring
    rw [hValue]
    exact hShortest.inside
  · intro c other hNearest
    exact
      hShortest.length_le hNonzero hNumber hLast hLength
        (contains_of_ofScientific hFinite hNonzero hNearest)
  · rintro layout rfl
    rw [toList_write hFinite, if_neg hNonzero, hStrip]

end Binary64

end Intake
