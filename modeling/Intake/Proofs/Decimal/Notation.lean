import Intake.Proofs.Decimal.Conversion
import Intake.Proofs.Decimal.Reading

/-
  This file says which number a numeral writes, plainly or in
  exponent notation, and which numbers a decimal can hold.

  What is read from a numeral is the number that it writes.  A
  number whose last digit is not zero can be held if its digits
  fit into 96 bits up to the point, with 28 of them behind it.

  Key definitions include:
    * `Decimal.IsNumber`
    * `Decimal.Holds`
    * `Decimal.ofPlace?`

  The main statements are:
    * `Decimal.IsNumber.unique`
    * `Decimal.isNumber_of_readNumeral?`
    * `Decimal.holds_iff_of_not_dvd`
    * `Decimal.readScientific?_append`
-/

namespace Intake

/- There is no point among digits. -/
theorem Text.IsDigits.point_notMem
    {digits : List Char}
    {n : Nat}
    (hDigits : IsDigits digits n) :
    '.' ∉ digits := by
  intro hMem
  cases hDigits.digits '.' hMem

/- A numeral writes one integer. -/
theorem Text.IsNumeral.unique
    {text : List Char}
    {k l : Int}
    (hFirst : IsNumeral text k)
    (hSecond : IsNumeral text l) :
    k = l := by
  rw [← String.toList_ofList (l := text), ← readInteger?_eq_some_iff]
    at hFirst hSecond
  exact Option.some.inj (hFirst.symm.trans hSecond)

namespace Decimal

------------------------------------------------------------
-- Numerals
------------------------------------------------------------

/- The character in front of an exponent. -/
def IsMark
    (c : Char) : Prop :=
  c = 'e' ∨ c = 'E'

/-
  A text writes a number: a plain literal, or one with a mark
  and the power of ten that it is multiplied by.
-/
inductive IsNumber : List Char → ℚ → Prop where
  | plain
      {text : List Char}
      {coefficient : Int}
      {places : Nat}
      (literal : IsLiteral text coefficient places) :
      IsNumber text (coefficient / 10 ^ places)
  | scaled
      {mantissa exponent : List Char}
      {mark : Char}
      {coefficient k : Int}
      {places : Nat}
      (literal : IsLiteral mantissa coefficient places)
      (marked : IsMark mark)
      (numeral : Text.IsNumeral exponent k) :
      IsNumber (mantissa ++ mark :: exponent)
        (coefficient / 10 ^ places * 10 ^ k)

/- The characters of digits with at most one point. -/
theorem IsUnsigned.isDigit_or_point
    {body : List Char}
    {n places : Nat}
    (hBody : IsUnsigned body n places)
    {c : Char}
    (hMem : c ∈ body) :
    c.isDigit = true ∨ c = '.' := by
  cases hBody with
  | whole written => exact Or.inl (written.digits c hMem)
  | @pointed whole fraction n written =>
      rcases List.mem_append.mp hMem with hMem | hMem
      · exact Or.inl (written.digits c (List.mem_append_left _ hMem))
      · rcases List.mem_cons.mp hMem with rfl | hMem
        · exact Or.inr rfl
        · exact Or.inl (written.digits c (List.mem_append_right _ hMem))

/- No mark is a digit or a sign. -/
theorem IsMark.not_isDigit
    {c : Char}
    (hMark : IsMark c) :
    c.isDigit = false := by
  rcases hMark with rfl | rfl <;> rfl

theorem IsMark.not_mem_sign
    {c : Char}
    {sign : List Char}
    {factor : Int}
    (hMark : IsMark c)
    (hSign : Text.Sign sign factor) :
    c ∉ sign := by
  rcases hMark with rfl | rfl <;> cases hSign <;> decide

/- There is no mark in a plain literal. -/
theorem IsMark.not_mem_literal
    {c : Char}
    {text : List Char}
    {coefficient : Int}
    {places : Nat}
    (hMark : IsMark c)
    (hLiteral : IsLiteral text coefficient places) :
    c ∉ text := by
  rcases hLiteral with ⟨sign, factor, body, n, rfl, hSign, hBody, _⟩
  intro hMem
  rcases List.mem_append.mp hMem with hMem | hMem
  · exact hMark.not_mem_sign hSign hMem
  · rcases hBody.isDigit_or_point hMem with hDigit | hPoint
    · rw [hMark.not_isDigit] at hDigit
      cases hDigit
    · subst hPoint
      rcases hMark with hSame | hSame <;> cases hSame

/- There is no mark in the numeral of an integer. -/
theorem IsMark.not_mem_numeral
    {c : Char}
    {text : List Char}
    {k : Int}
    (hMark : IsMark c)
    (hNumeral : Text.IsNumeral text k) :
    c ∉ text := by
  rcases hNumeral with ⟨sign, factor, digits, n, rfl, hSign, hDigits, _⟩
  intro hMem
  rcases List.mem_append.mp hMem with hMem | hMem
  · exact hMark.not_mem_sign hSign hMem
  · have hDigit := hDigits.digits c hMem
    rw [hMark.not_isDigit] at hDigit
    cases hDigit

------------------------------------------------------------
-- Uniqueness
------------------------------------------------------------

/- Digits with at most one point are read in one way. -/
theorem IsUnsigned.unique
    {body other : List Char}
    {n m places others : Nat}
    (hFirst : IsUnsigned body n places)
    (hSecond : IsUnsigned other m others)
    (hSame : body = other) :
    n = m ∧ places = others := by
  cases hFirst with
  | whole first =>
      cases hSecond with
      | whole second =>
          subst hSame
          exact ⟨first.value.symm.trans second.value, rfl⟩
      | pointed second =>
          refine absurd ?_ first.point_notMem
          rw [hSame]
          exact List.mem_append_right _ List.mem_cons_self
  | pointed first =>
      cases hSecond with
      | whole second =>
          refine absurd ?_ second.point_notMem
          rw [← hSame]
          exact List.mem_append_right _ List.mem_cons_self
      | pointed second =>
          have hPoint := first.point_notMem
          rw [List.mem_append, not_or] at hPoint
          rcases (List.append_cons_inj_of_notMem hPoint.1 hPoint.2).mp
              hSame with
            ⟨rfl, _, rfl⟩
          exact ⟨first.value.symm.trans second.value, rfl⟩

/- A literal has one coefficient, and one number of fraction digits. -/
theorem IsLiteral.unique
    {text : List Char}
    {c d : Int}
    {places others : Nat}
    (hFirst : IsLiteral text c places)
    (hSecond : IsLiteral text d others) :
    c = d ∧ places = others := by
  rcases hFirst with ⟨sign, factor, body, n, rfl, hSign, hBody, rfl⟩
  rcases hSecond with
    ⟨sign', factor', body', m, hText, hSign', hBody', rfl⟩
  rcases Text.splitSign_append hSign hBody.not_isSignChar with
    ⟨hRest, hValue⟩
  rcases Text.splitSign_append hSign' hBody'.not_isSignChar with
    ⟨hRest', hValue'⟩
  rw [hText] at hRest hValue
  rcases hBody.unique hBody' (hRest.symm.trans hRest') with ⟨rfl, hPlaces⟩
  exact ⟨(hValue n).symm.trans (hValue' n), hPlaces⟩

/- A text writes at most one number. -/
theorem IsNumber.unique
    {text : List Char}
    {r s : ℚ}
    (hFirst : IsNumber text r)
    (hSecond : IsNumber text s) :
    r = s := by
  generalize hSame : text = other at hSecond
  cases hFirst with
  | plain first =>
      cases hSecond with
      | plain second =>
          subst hSame
          rcases first.unique second with ⟨rfl, rfl⟩
          rfl
      | scaled second marked numeral =>
          refine absurd ?_ (marked.not_mem_literal first)
          rw [hSame]
          exact List.mem_append_right _ List.mem_cons_self
  | scaled first marked numeral =>
      cases hSecond with
      | plain second =>
          refine absurd ?_ (marked.not_mem_literal second)
          rw [← hSame]
          exact List.mem_append_right _ List.mem_cons_self
      | scaled second marked' numeral' =>
          rcases (List.append_cons_inj_of_notMem
              (marked'.not_mem_literal first)
              (marked'.not_mem_numeral numeral)).mp hSame with
            ⟨rfl, _, rfl⟩
          rcases first.unique second with ⟨rfl, rfl⟩
          rw [numeral.unique numeral']

------------------------------------------------------------
-- Numbers That a Decimal Can Hold
------------------------------------------------------------

/-
  A number can be written as an integer of at most 96 bits over
  a power of ten with at most 28 zeros.
-/
def Holds
    (r : ℚ) : Prop :=
  ∃ m : Int, ∃ k : Nat, m.natAbs < twoTo 96 ∧ k ≤ 28 ∧ r = m / 10 ^ k

/- A decimal holds its value. -/
theorem holds_value
    (d : Decimal) :
    Holds d.value :=
  ⟨d.coefficient, d.scale, d.coefficient_lt, d.scale_le, rfl⟩

/-
  The decimal of a coefficient whose last digit stands at the
  place of a power of ten, with zeros up to the point.
-/
def ofPlace?
    (coefficient place : Int) : Option Decimal :=
  ofParts? (coefficient * tenTo place.toNat) (-place).toNat

/-
  A coefficient with zeros up to the point, and as many as
  there are places behind it, has the value of its place.
-/
theorem mul_tenTo_div_eq
    (c place : Int)
    (zeros : Nat) :
    ((c * tenTo (place.toNat + zeros) : Int) : ℚ) /
        10 ^ ((-place).toNat + zeros) =
      c * 10 ^ place := by
  rw [Int.cast_mul, Int.cast_natCast, cast_tenTo, mul_div_assoc,
    ← zpow_natCast, ← zpow_natCast, ← zpow_sub₀ (by norm_num)]
  congr 2
  omega

/- What fits into 96 bits and 28 places is put at its place. -/
theorem exists_ofPlace?
    {c place : Int}
    (hFits : (c * tenTo place.toNat).natAbs < twoTo 96)
    (hPlaces : (-place).toNat ≤ 28) :
    ∃ d, ofPlace? c place = some d :=
  ⟨_, dif_pos ⟨hFits, hPlaces⟩⟩

/- What is put at its place has the value of the place. -/
theorem value_of_ofPlace?
    {c place : Int}
    {d : Decimal}
    (hSome : ofPlace? c place = some d) :
    d.value = c * 10 ^ place := by
  rcases (ofParts?_eq_some_iff _ _ d).mp hSome with ⟨hCoefficient, hScale⟩
  rw [value, hCoefficient, hScale]
  exact mul_tenTo_div_eq c place 0

/-
  A number without a zero at its end can be held if it can be
  put at its place.
-/
theorem holds_iff_of_not_dvd
    {c : Int}
    (hLast : ¬ 10 ∣ c)
    (place : Int) :
    Holds (c * 10 ^ place) ↔
      (c * tenTo place.toNat).natAbs < twoTo 96 ∧ (-place).toNat ≤ 28 := by
  constructor
  · rintro ⟨m, k, hFits, hPlaces, hValue⟩
    have hTen : (10 : ℚ) ≠ 0 := by norm_num
    have hShift : (c : ℚ) * 10 ^ (place + k) = m := by
      rw [zpow_add₀ hTen, ← mul_assoc, hValue, zpow_natCast,
        div_mul_cancel₀ _ (pow_ne_zero _ hTen)]
    rcases le_or_gt 0 (place + k) with hWhole | hBelow
    · have hZeros : c * tenTo (place + k).toNat = m := by
        rw [← Int.toNat_of_nonneg hWhole, zpow_natCast, ← cast_tenTo]
          at hShift
        exact_mod_cast hShift
      have hLess : (c * tenTo place.toNat).natAbs ≤ m.natAbs := by
        rw [← hZeros, Int.natAbs_mul, Int.natAbs_mul, Int.natAbs_natCast,
          Int.natAbs_natCast]
        apply Nat.mul_le_mul_left
        exact Nat.pow_le_pow_right (by decide) (by omega)
      exact ⟨Nat.lt_of_le_of_lt hLess hFits, by omega⟩
    · -- The coefficient would end in zeros.
      have hZeros : c = m * tenTo (-(place + k)).toNat := by
        have hCast : (c : ℚ) = m * 10 ^ (-(place + k)).toNat := by
          rw [← zpow_natCast, Int.toNat_of_nonneg (by omega), ← hShift,
            mul_assoc, ← zpow_add₀ hTen, add_neg_cancel, zpow_zero, mul_one]
        rw [← cast_tenTo] at hCast
        exact_mod_cast hCast
      refine absurd ?_ hLast
      rw [hZeros]
      apply Dvd.dvd.mul_left
      exact_mod_cast dvd_pow_self 10 (by omega)
  · rintro ⟨hFits, hPlaces⟩
    exact ⟨_, _, hFits, hPlaces, (mul_tenTo_div_eq c place 0).symm⟩

------------------------------------------------------------
-- Exponents
------------------------------------------------------------

/-
  Shifting the point of a decimal other than zero puts its
  coefficient at another place.
-/
theorem shiftPoint?_eq_ofPlace?
    {mantissa : Decimal}
    (hNonzero : mantissa.coefficient ≠ 0)
    (k : Int) :
    shiftPoint? mantissa k =
      ofPlace? mantissa.coefficient (k - mantissa.scale) := by
  have hOne : tenTo 0 = 1 := rfl
  unfold shiftPoint? ofPlace?
  split
  next hFraction =>
    have hNoZeros : (k - mantissa.scale).toNat = 0 := by omega
    have hPlaces :
        mantissa.scale + k.natAbs = (-(k - mantissa.scale)).toNat := by
      omega
    rw [hNoZeros, hOne, Nat.cast_one, Int.mul_one, hPlaces]
  next hNatural =>
    split
    next hUsed =>
      have hNoZeros : (k - mantissa.scale).toNat = 0 := by omega
      have hPlaces :
          mantissa.scale - k.toNat = (-(k - mantissa.scale)).toNat := by
        omega
      rw [hNoZeros, hOne, Nat.cast_one, Int.mul_one, hPlaces]
    next hZeros =>
      have hCount :
          k.toNat - mantissa.scale = (k - mantissa.scale).toNat := by
        omega
      have hNoPlaces : (-(k - mantissa.scale)).toNat = 0 := by omega
      rw [hCount, hNoPlaces, beq_eq_false_iff_ne.mpr hNonzero]
      dsimp only
      rw [if_neg Bool.false_ne_true]
      split
      next hMany =>
        -- So many zeros do not fit into 96 bits.
        unfold ofParts?
        rw [dif_neg]
        rintro ⟨hFits, _⟩
        have hMost : twoTo 96 < tenTo 29 := by decide
        have hPower : tenTo 29 ≤ tenTo (k - mantissa.scale).toNat :=
          Nat.pow_le_pow_right (by decide) (by omega)
        rw [Int.natAbs_mul, Int.natAbs_natCast] at hFits
        have hLess :=
          Nat.le_mul_of_pos_left (tenTo (k - mantissa.scale).toNat)
            (Int.natAbs_pos.mpr hNonzero)
        omega
      next => rfl

/- A shifted decimal has the value times the power of ten. -/
theorem value_of_shiftPoint?
    {mantissa d : Decimal}
    {k : Int}
    (hShift : shiftPoint? mantissa k = some d) :
    d.value = mantissa.value * 10 ^ k := by
  by_cases hZero : mantissa.coefficient = 0
  · have hStays : d.coefficient = 0 := by
      unfold shiftPoint? at hShift
      rw [hZero] at hShift
      split at hShift
      next => exact ((ofParts?_eq_some_iff _ _ d).mp hShift).1
      next =>
        split at hShift
        next => exact ((ofParts?_eq_some_iff _ _ d).mp hShift).1
        next => exact ((ofParts?_eq_some_iff _ _ d).mp hShift).1
    rw [value, value, hStays, hZero, Int.cast_zero, zero_div, zero_div,
      zero_mul]
  · rw [shiftPoint?_eq_ofPlace? hZero] at hShift
    rw [value_of_ofPlace? hShift, value, zpow_sub₀ (by norm_num),
      zpow_natCast, mul_div_assoc', div_mul_eq_mul_div]

/- A mark as it is looked for. -/
theorem isMark_iff
    (c : Char) :
    IsMark c ↔ (c == 'e' || c == 'E') = true := by
  rw [Bool.or_eq_true, beq_iff_eq, beq_iff_eq]
  rfl

/- An exponent is read from the numeral behind its mark. -/
theorem readExponent?_cons
    {mark : Char}
    (hMark : IsMark mark)
    (rest : List Char)
    (k : Int) :
    Binary64.readExponent? (mark :: rest) = some k ↔
      Text.IsNumeral rest k := by
  have hRead :
      Binary64.readExponent? (mark :: rest) =
        Text.readInteger? (String.ofList rest) := by
    unfold Binary64.readExponent? Text.readInteger?
    rw [String.toList_ofList]
    exact if_pos ((isMark_iff mark).mp hMark)
  rw [hRead, Text.readInteger?_eq_some_iff, String.toList_ofList]

------------------------------------------------------------
-- Reading Numerals
------------------------------------------------------------

/- A literal within the range is read as its decimal. -/
theorem IsLiteral.read?_eq
    {text : List Char}
    {d : Decimal}
    (hLiteral : IsLiteral text d.coefficient d.scale) :
    read? (String.ofList text) = some d := by
  rw [read?_eq_some_iff, String.toList_ofList]
  exact (spelledBy_iff_isLiteral hLiteral.not_mem d).mpr hLiteral

/- The text around a mark is read as a literal and a numeral. -/
theorem readScientific?_append
    {text : List Char}
    {exponent : List Char}
    {mark : Char}
    {mantissa : Decimal}
    {k : Int}
    (hLiteral : IsLiteral text mantissa.coefficient mantissa.scale)
    (hMark : IsMark mark)
    (hNumeral : Text.IsNumeral exponent k) :
    readScientific? (String.ofList (text ++ mark :: exponent)) =
      shiftPoint? mantissa k := by
  have hMantissa := hLiteral.read?_eq
  have hBefore : ∀ c ∈ text, (!(c == 'e' || c == 'E')) = true := by
    intro c hMem
    rw [Bool.not_eq_true', ← Bool.not_eq_true, ← isMark_iff]
    intro hOther
    exact hOther.not_mem_literal hLiteral hMem
  have hFound : (!(mark == 'e' || mark == 'E')) = false := by
    rw [(isMark_iff mark).mp hMark]
    rfl
  unfold readScientific?
  dsimp only
  rw [String.toList_ofList, List.takeWhile_append_of_pos hBefore,
    List.dropWhile_append_of_pos hBefore,
    List.takeWhile_cons_of_neg (by rw [hFound]; exact Bool.false_ne_true),
    List.dropWhile_cons_of_neg (by rw [hFound]; exact Bool.false_ne_true),
    List.append_nil, hMantissa, Option.bind_eq_bind, Option.bind_some,
    List.isEmpty_cons, if_neg Bool.false_ne_true,
    (readExponent?_cons hMark exponent k).mpr hNumeral]
  rfl

/- What is read in exponent notation is a number with its value. -/
theorem isNumber_of_readScientific?
    {text : String}
    {d : Decimal}
    (hNone : '_' ∉ text.toList)
    (hRead : readScientific? text = some d) :
    IsNumber text.toList d.value := by
  unfold readScientific? at hRead
  dsimp only at hRead
  rcases Option.bind_eq_some_iff.mp hRead with
    ⟨mantissa, hMantissa, hScaled⟩
  have hText :=
    List.takeWhile_append_dropWhile (p := fun c => !(c == 'e' || c == 'E'))
      (l := text.toList)
  have hFirst :=
    List.head_dropWhile_not (fun c => !(c == 'e' || c == 'E'))
      (l := text.toList)
  generalize text.toList.takeWhile (fun c => !(c == 'e' || c == 'E')) = front
    at hText hMantissa
  cases hTail : text.toList.dropWhile (fun c => !(c == 'e' || c == 'E')) with
  | nil =>
      rw [hTail] at hScaled
      cases hScaled
  | cons mark rest =>
      simp only [hTail] at hText hFirst hScaled
      have hMark : IsMark mark := by
        rw [isMark_iff, ← Bool.not_eq_false']
        exact hFirst (List.cons_ne_nil mark rest)
      rcases Option.bind_eq_some_iff.mp hScaled with
        ⟨k, hExponent, hShift⟩
      rw [← hText] at hNone ⊢
      rw [List.mem_append, not_or] at hNone
      rw [read?_eq_some_iff, String.toList_ofList,
        spelledBy_iff_isLiteral hNone.1] at hMantissa
      rw [value_of_shiftPoint? hShift]
      exact
        .scaled hMantissa hMark
          ((readExponent?_cons hMark rest k).mp hExponent)

/- What is read from a numeral is a number with its value. -/
theorem isNumber_of_readNumeral?
    {text : String}
    {d : Decimal}
    (hNone : '_' ∉ text.toList)
    (hRead : readNumeral? text = some d) :
    IsNumber text.toList d.value := by
  unfold readNumeral? at hRead
  rw [Option.orElse_eq_or, Option.or_eq_some_iff] at hRead
  rcases hRead with hPlain | ⟨_, hScientific⟩
  · rw [read?_eq_some_iff, spelledBy_iff_isLiteral hNone] at hPlain
    exact .plain hPlain
  · exact isNumber_of_readScientific? hNone hScientific

/- A literal within the range is read as its decimal. -/
theorem readNumeral?_of_isLiteral
    {text : List Char}
    {d : Decimal}
    (hLiteral : IsLiteral text d.coefficient d.scale) :
    readNumeral? (String.ofList text) = some d := by
  unfold readNumeral?
  rw [hLiteral.read?_eq, Option.orElse_some]

/- A text in exponent notation is read if its last digit can be put at its place. -/
theorem exists_readNumeral?_of_shiftPoint?
    {mantissa d : Decimal}
    {text exponent : List Char}
    {mark : Char}
    {k : Int}
    (hLiteral : IsLiteral text mantissa.coefficient mantissa.scale)
    (hMark : IsMark mark)
    (hNumeral : Text.IsNumeral exponent k)
    (hShift : shiftPoint? mantissa k = some d) :
    ∃ d, readNumeral? (String.ofList (text ++ mark :: exponent)) = some d := by
  unfold readNumeral?
  rw [readScientific?_append hLiteral hMark hNumeral, hShift]
  cases read? (String.ofList (text ++ mark :: exponent)) with
  | none => exact ⟨d, rfl⟩
  | some other => exact ⟨other, rfl⟩

/- There is no separator in the text of a number. -/
theorem IsNumber.not_mem
    {text : List Char}
    {r : ℚ}
    (hNumber : IsNumber text r) :
    '_' ∉ text := by
  cases hNumber with
  | plain literal => exact literal.not_mem
  | scaled literal marked numeral =>
      rw [List.mem_append, List.mem_cons]
      rintro (hMem | rfl | hMem)
      · exact literal.not_mem hMem
      · rcases marked with hSame | hSame <;> cases hSame
      · rcases numeral with ⟨sign, factor, digits, n, rfl, hSign, hDigits, _⟩
        rcases List.mem_append.mp hMem with hMem | hMem
        · cases hSign <;> revert hMem <;> decide
        · cases hDigits.digits '_' hMem

/- What is read from the text of a number is the number. -/
theorem IsNumber.value_eq
    {text : String}
    {r : ℚ}
    {d : Decimal}
    (hNumber : IsNumber text.toList r)
    (hRead : readNumeral? text = some d) :
    d.value = r :=
  (isNumber_of_readNumeral? hNumber.not_mem hRead).unique hNumber

end Decimal

end Intake
