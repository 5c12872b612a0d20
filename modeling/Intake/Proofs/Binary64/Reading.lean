import Intake.Proofs.Binary64.Numeral

/-
  This file shows that every finite double is read back from
  its text, in any layout.

  A numeral is split into its digits and its exponent, as it
  was put together.  The number that it writes is in the
  interval of the double, and so is rounded to the double.

  The main statements are:
    * `Binary64.readMagnitude?_append`
    * `Binary64.read?_write`
-/

namespace Intake

namespace Binary64

------------------------------------------------------------
-- Splitting Numerals
------------------------------------------------------------

/- Digits are split off what does not go on with a digit. -/
theorem span_digits
    {digits tail : List Char}
    (hDigits : ∀ c ∈ digits, c.isDigit = true)
    (hTail : ∀ c, tail.head? = some c → c.isDigit = false) :
    (digits ++ tail).takeWhile Char.isDigit = digits ∧
      (digits ++ tail).dropWhile Char.isDigit = tail := by
  rw [List.takeWhile_append_of_pos hDigits,
    List.dropWhile_append_of_pos hDigits]
  cases tail with
  | nil => exact ⟨List.append_nil _, rfl⟩
  | cons c rest =>
      have hOther : ¬ c.isDigit = true := by
        rw [hTail c rfl]
        exact Bool.false_ne_true
      rw [List.takeWhile_cons_of_neg hOther, List.dropWhile_cons_of_neg hOther,
        List.append_nil]
      exact ⟨rfl, rfl⟩

/-
  Digits with at most one point, and an exponent behind them or
  none, are read as the double nearest to them.
-/
theorem readMagnitude?_append
    (negative : Bool)
    {unsigned tail : List Char}
    {n places : Nat}
    {k : Int}
    (hUnsigned : Decimal.IsUnsigned unsigned n places)
    (hTail : ∀ c, tail.head? = some c → Decimal.IsMark c)
    (hExponent : readExponent? tail = some k) :
    readMagnitude? negative (unsigned ++ tail) =
      some (ofScientific negative n (k - places)) := by
  have hNoDigit : ∀ c, tail.head? = some c → c.isDigit = false :=
    fun c hHead => (hTail c hHead).not_isDigit
  unfold readMagnitude?
  dsimp only
  cases hUnsigned with
  | whole written =>
      have hValue : Text.digitsValue unsigned = n := written.value
      rcases span_digits written.digits hNoDigit with ⟨hWhole, hRest⟩
      rw [hWhole, hRest]
      -- What comes behind the digits is no point.
      rcases tail with _ | ⟨c, rest⟩
      · simp [written.nonempty, hExponent, hValue]
      · rcases hTail c rfl with rfl | rfl <;>
          simp [written.nonempty, hExponent, hValue]
  | @pointed whole fraction n written =>
      have hValue : Text.digitsValue (whole ++ fraction) = n := written.value
      have hSome : ¬ (whole.isEmpty && fraction.isEmpty) = true := by
        simpa [List.isEmpty_iff] using written.nonempty
      rw [List.append_assoc, List.cons_append]
      have hPoint :
          ∀ c, ('.' :: (fraction ++ tail)).head? = some c →
            c.isDigit = false := by
        rintro c ⟨⟩
        rfl
      rcases span_digits
          (fun c hMem => written.digits c (List.mem_append_left _ hMem))
          hPoint with
        ⟨hWhole, hRest⟩
      rcases span_digits
          (fun c hMem => written.digits c (List.mem_append_right _ hMem))
          hNoDigit with
        ⟨hFraction, hEnd⟩
      rw [hWhole, hRest]
      simp only [hFraction, hEnd]
      rw [if_neg hSome, hExponent, hValue, Option.map_some]

/- No digit and no point begins the name of a double. -/
theorem toLower_ne_of_digit_or_point
    {c : Char}
    (hChar : c.isDigit = true ∨ c = '.') :
    c.toLower ≠ 'i' ∧ c.toLower ≠ 'n' := by
  rcases hChar with hDigit | rfl
  · have hSame : c.toLower = c := by
      apply Char.toLower_eq_of_not_isUpper
      simp only [Char.isUpper, Char.isDigit] at *
      grind
    rw [hSame]
    constructor <;> rintro rfl <;> cases hDigit
  · decide

/- Digits with at most one point begin with a digit or the point. -/
theorem exists_cons_of_isUnsigned
    {unsigned : List Char}
    {n places : Nat}
    (hUnsigned : Decimal.IsUnsigned unsigned n places) :
    ∃ c rest, unsigned = c :: rest ∧ (c.isDigit = true ∨ c = '.') := by
  cases unsigned with
  | nil =>
      generalize hNone : ([] : List Char) = text at hUnsigned
      cases hUnsigned with
      | whole written => exact absurd hNone.symm written.nonempty
      | pointed written => simp at hNone
  | cons c rest =>
      exact ⟨c, rest, rfl, hUnsigned.isDigit_or_point List.mem_cons_self⟩

/- A signed numeral is no name, and its magnitude is read behind the sign. -/
theorem read?_append
    {sign unsigned tail : List Char}
    {negative : Bool}
    {n places : Nat}
    (hSplit :
      Text.splitSign (sign ++ (unsigned ++ tail)) =
        (negative, unsigned ++ tail))
    (hUnsigned : Decimal.IsUnsigned unsigned n places) :
    read? (String.ofList (sign ++ (unsigned ++ tail))) =
      readMagnitude? negative (unsigned ++ tail) := by
  rcases exists_cons_of_isUnsigned hUnsigned with ⟨c, rest, rfl, hFirst⟩
  rcases toLower_ne_of_digit_or_point hFirst with ⟨hNoI, hNoN⟩
  have hNoName :
      ∀ word : String, word.toList.head? ≠ some c.toLower →
        ¬ (String.ofList ((c :: rest ++ tail).map Char.toLower) == word) =
          true := by
    intro word hWord hSame
    apply hWord
    rw [← beq_iff_eq.mp hSame, String.toList_ofList]
    rfl
  unfold read?
  rw [String.toList_ofList, hSplit]
  dsimp only
  rw [if_neg, if_neg]
  · apply hNoName
    simpa using hNoN.symm
  · rw [Bool.or_eq_true, not_or]
    constructor
    · apply hNoName
      simpa using hNoI.symm
    · apply hNoName
      simpa using hNoI.symm

------------------------------------------------------------
-- Reading Back
------------------------------------------------------------

/- The sign of a double is split off its text. -/
theorem splitSign_signText
    (x : Binary64)
    {unsigned : List Char}
    {n places : Nat}
    (hUnsigned : Decimal.IsUnsigned unsigned n places)
    (tail : List Char) :
    Text.splitSign (x.signText ++ (unsigned ++ tail)) =
      (x.negative, unsigned ++ tail) := by
  rcases exists_cons_of_isUnsigned hUnsigned with ⟨c, rest, rfl, hFirst⟩
  unfold signText
  cases x.negative with
  | true => rfl
  | false =>
      show Text.splitSign (c :: (rest ++ tail)) = (false, c :: (rest ++ tail))
      unfold Text.splitSign
      split
      next hText =>
        rcases List.cons.inj hText with ⟨rfl, _⟩
        rcases hFirst with hDigit | hPoint
        · cases hDigit
        · cases hPoint
      next hText =>
        rcases List.cons.inj hText with ⟨rfl, _⟩
        rcases hFirst with hDigit | hPoint
        · cases hDigit
        · cases hPoint
      next => rfl

/- The parts of a numeral are read under the sign of a double. -/
theorem read?_signText_append
    (x : Binary64)
    {unsigned tail : List Char}
    {n places : Nat}
    {k : Int}
    (hUnsigned : Decimal.IsUnsigned unsigned n places)
    (hTail : ∀ c, tail.head? = some c → Decimal.IsMark c)
    (hExponent : readExponent? tail = some k) :
    read? (String.ofList (x.signText ++ (unsigned ++ tail))) =
      some (ofScientific x.negative n (k - places)) := by
  rw [read?_append (x.splitSign_signText hUnsigned tail) hUnsigned]
  exact readMagnitude?_append x.negative hUnsigned hTail hExponent

/- A finite double without magnitude is a zero. -/
theorem zero_of_magnitude_eq_zero
    {x : Binary64}
    (hZero : x.magnitude = 0) :
    zero x.negative = x := by
  have hSignificand : x.significand = 0 := by
    unfold magnitude at hZero
    have hGap := twoTo_pos (x.exponentField - 1)
    rcases Nat.mul_eq_zero.mp hZero with hNone | hNoGap
    · exact hNone
    · omega
  unfold zero
  apply ofFields_eq_of_sum
  unfold significand at hSignificand
  split at hSignificand
  next hField => rw [hField, hSignificand]
  next hField =>
    have hHidden := Nat.add_pos_left (twoTo_pos 52) x.fraction
    exact absurd hSignificand (Nat.ne_of_gt hHidden)

/- A number with few digits is short in bits. -/
theorem log2_le_of_lt_tenTo
    {n k : Nat}
    (hLess : n < tenTo k) :
    n.log2 ≤ 4 * k := by
  rcases Nat.eq_zero_or_pos n with rfl | hPos
  · exact Nat.zero_le _
  · have hPower : tenTo k ≤ 2 ^ (4 * k) := by
      rw [Nat.pow_mul]
      exact Nat.pow_le_pow_left (by decide) k
    have hBits :=
      (Nat.log2_lt (Nat.ne_of_gt hPos)).mpr (Nat.lt_of_lt_of_le hLess hPower)
    exact Nat.le_of_lt hBits

/- The number that a double shows has a digit other than zero. -/
theorem Shows.pos
    {x : Binary64}
    {digits : List Char}
    {n : Nat}
    {place : Int}
    (hShows : x.Shows digits n place) :
    0 < n := by
  apply Nat.pos_of_ne_zero
  rintro rfl
  exact hShows.last (Nat.dvd_zero 10)

/- It has seventeen digits at most. -/
theorem Shows.lt
    {x : Binary64}
    {digits : List Char}
    {n : Nat}
    {place : Int}
    (hShows : x.Shows digits n place) :
    n < tenTo 17 := by
  have hLess := Text.digitsValue_lt digits hShows.written.digits
  have hValue : Text.digitsValue digits = n := hShows.written.value
  rw [hValue] at hLess
  exact
    Nat.lt_of_lt_of_le hLess
      (Nat.pow_le_pow_right (by decide) hShows.short)

/- With the zeros up to the point it is not too long to be read. -/
theorem Shows.log2_mul_tenTo_le
    {x : Binary64}
    {digits : List Char}
    {n : Nat}
    {place : Int}
    (hShows : x.Shows digits n place)
    (hFinite : x.isFinite = true)
    (hNonzero : x.magnitude ≠ 0)
    (pointZero : Bool) :
    (n * tenTo (place.toNat + pointZeros pointZero place)).log2 ≤ 2000 := by
  have hUpper := (bounds_of_contains hFinite hNonzero hShows.inside).2
  have hPlace : place ≤ 309 := by
    have hOne : (1 : ℚ) ≤ n := Nat.one_le_cast.mpr hShows.pos
    have hPower : (10 : ℚ) ^ place ≤ 10 ^ (309 : Int) :=
      le_trans (le_mul_of_one_le_left (by positivity) hOne) hUpper
    exact (zpow_le_zpow_iff_right₀ (by norm_num)).mp hPower
  have hZeros : pointZeros pointZero place ≤ 1 := by
    unfold pointZeros
    split <;> decide
  have hLess :=
    Nat.mul_lt_mul_of_pos_right hShows.lt
      (tenTo_pos (place.toNat + pointZeros pointZero place))
  rw [← tenTo_add] at hLess
  have hLength := log2_le_of_lt_tenTo hLess
  omega

/-
  A numeral is read as a double under whose sign it stands, if
  the number that it writes is in the interval of the double.
-/
theorem read?_of_contains
    {x : Binary64}
    (hFinite : x.isFinite = true)
    (hNonzero : x.magnitude ≠ 0)
    {unsigned tail : List Char}
    {n places : Nat}
    {k : Int}
    (hUnsigned : Decimal.IsUnsigned unsigned n places)
    (hTail : ∀ c, tail.head? = some c → Decimal.IsMark c)
    (hExponent : readExponent? tail = some k)
    (hPos : 0 < n)
    (hLength : n.log2 ≤ 2000)
    (hInside : x.interval.Contains (n * 10 ^ (k - places))) :
    read? (String.ofList (x.signText ++ (unsigned ++ tail))) = some x := by
  rw [x.read?_signText_append hUnsigned hTail hExponent,
    ofScientific_of_contains hFinite hNonzero hPos hLength hInside]

/- Every finite double is read back from its text, in any layout. -/
theorem read?_write
    {x : Binary64}
    (hFinite : x.isFinite = true)
    (layout : Layout) :
    read? (x.write layout) = some x := by
  have hNoMark : ∀ c, ([] : List Char).head? = some c → Decimal.IsMark c := by
    intro c hHead
    cases hHead
  by_cases hZero : x.magnitude = 0
  · have hBody :=
      isUnsigned_layPositional (Text.isDigits_toDigits 0) layout.pointZero 0
    have hRead := x.read?_signText_append hBody hNoMark rfl
    rw [Nat.zero_mul, ofScientific, if_pos rfl,
      zero_of_magnitude_eq_zero hZero, List.append_nil] at hRead
    rw [← String.ofList_toList (s := x.write layout), toList_write hFinite,
      if_pos hZero]
    exact hRead
  · rcases exists_shows hFinite hZero layout.tie with
      ⟨digits, n, place, hShows, hWrite⟩
    rw [← String.ofList_toList (s := x.write layout), hWrite layout rfl]
    have hPos := hShows.pos
    unfold Layout.body
    dsimp only
    split
    next hPositional =>
      have hRead :=
        read?_of_contains hFinite hZero
          (isUnsigned_layPositional hShows.written layout.pointZero place)
          hNoMark rfl
      rw [List.append_nil] at hRead
      apply hRead
      · exact Nat.mul_pos hPos (tenTo_pos _)
      · exact hShows.log2_mul_tenTo_le hFinite hZero layout.pointZero
      · have hValue :=
          Decimal.mul_tenTo_div_eq n place (pointZeros layout.pointZero place)
        rw [← Nat.cast_mul, Int.cast_natCast, Int.cast_natCast] at hValue
        rw [zero_sub, zpow_neg, zpow_natCast, ← div_eq_mul_inv, hValue]
        exact hShows.inside
    next hScientific =>
      rcases exists_layScientific hShows.written layout.plusSign
          (place + digits.length - 1) with
        ⟨mantissa, exponent, hText, hMantissa, hExponent⟩
      have hMark :
          ∀ c, ('e' :: exponent).head? = some c → Decimal.IsMark c := by
        rintro c ⟨⟩
        exact Or.inl rfl
      have hSome := List.length_pos_iff.mpr hShows.written.nonempty
      have hPlace :
          place + digits.length - 1 - (digits.length - 1 : Nat) = place := by
        omega
      rw [hText]
      apply read?_of_contains hFinite hZero hMantissa hMark
        ((Decimal.readExponent?_cons (Or.inl rfl) exponent _).mpr hExponent)
        hPos
      · have hLength := log2_le_of_lt_tenTo hShows.lt
        omega
      · rw [hPlace]
        exact hShows.inside

end Binary64

end Intake
