import Intake.Proofs.Binary64.Rounding
import Intake.Proofs.Coercion
import Intake.Proofs.Text.Numerals

/-
  This file shows which raw data the coercer of integers
  takes, and for which integers.

  A number is taken by its exact value and a text by what its
  digits say.  Only whole values of 64 bits with a sign are
  taken; no other value is wrapped, cut off or rounded to one.

  Key definitions include:
    * `Raw.Number.value`
    * `Raw.StandsFor`
    * `Coercer.ReadsInteger`

  The main statements are:
    * `Binary64.toInt?_eq_some_iff`
    * `Coercer.wholeNumber?_eq_some_iff`
    * `Coercer.integer_of_rounded`
    * `Coercer.readsInteger`
-/

namespace Intake

------------------------------------------------------------
-- Whole Doubles
------------------------------------------------------------

namespace Binary64

/- A double is a whole number if its units are those of one. -/
theorem value_eq_intCast_iff
    (x : Binary64)
    (k : Int) :
    x.value = k ↔ x.units = k * unitsPerOne := by
  have hPower : (2 : ℚ) ^ 1074 ≠ 0 := pow_ne_zero _ two_ne_zero
  rw [value, div_eq_iff hPower, ← cast_unitsPerOne]
  exact_mod_cast Iff.rfl

/- The whole number of a finite double is its exact value. -/
theorem toInt?_eq_some_iff
    {x : Binary64}
    (hFinite : x.isFinite = true)
    (k : Int) :
    x.toInt? = some k ↔ x.value = k := by
  rw [value_eq_intCast_iff]
  have hPos := unitsPerOne_pos
  unfold toInt? units
  rw [hFinite, Bool.true_and]
  generalize unitsPerOne = unit at hPos ⊢
  generalize x.magnitude = size
  by_cases hWhole : size % unit = 0
  · have hSize : (size : Int) = (size / unit : Nat) * unit := by
      exact_mod_cast (Nat.div_mul_cancel (Nat.dvd_of_mod_eq_zero hWhole)).symm
    have hUnit : (unit : Int) ≠ 0 := by omega
    rw [if_pos (beq_iff_eq.mpr hWhole), Option.some.injEq]
    generalize size / unit = quotient at hSize
    rw [hSize]
    cases x.negative with
    | true =>
        simp only [if_true]
        rw [← Int.neg_mul, mul_left_inj' hUnit]
    | false =>
        simp only [Bool.false_eq_true, if_false]
        rw [mul_left_inj' hUnit]
  · rw [if_neg (by simpa using hWhole)]
    have hOther : ∀ m : Int, (size : Int) ≠ m * unit := by
      intro m hSize
      apply hWhole
      apply Nat.mod_eq_zero_of_dvd
      exact Int.natCast_dvd_natCast.mp ⟨m, by rw [hSize, mul_comm]⟩
    constructor
    · intro hNone
      cases hNone
    · intro hUnits
      cases hSign : x.negative with
      | true =>
          rw [hSign, if_pos rfl] at hUnits
          exact absurd (by rw [Int.neg_mul, ← hUnits, neg_neg]) (hOther (-k))
      | false =>
          rw [hSign] at hUnits
          exact absurd hUnits (hOther k)

/- The double of a natural number beyond 63 bits is beyond them. -/
theorem le_value_ofInt
    {k : Int}
    (inRange : FitsNumber k)
    (hLarge : 9223372036854775808 ≤ k) :
    9223372036854775808 ≤ (ofInt k).value := by
  rcases Int.eq_ofNat_of_zero_le (by omega : 0 ≤ k) with ⟨n, rfl⟩
  have hLower : (2 : ℚ) ^ 63 ≤ n := by
    have hCast : (9223372036854775808 : ℚ) ≤ n := by exact_mod_cast hLarge
    exact le_trans (by norm_num) hCast
  have hUpper : (n : ℚ) ≤ 2 ^ 64 := by
    have hCast : (n : ℚ) ≤ 18446744073709551616 := by
      exact_mod_cast inRange.2.le
    exact le_trans hCast (by norm_num)
  have hSize := le_size_ofInt
    (le_trans hUpper (pow_le_pow_right₀ one_le_two (by decide))) hLower
  rw [value_eq, (ofInt_spec (by decide) hUpper).2.1, if_neg Bool.false_ne_true]
  exact le_trans (by norm_num) hSize

end Binary64

------------------------------------------------------------
-- Integers
------------------------------------------------------------

/- The exact value of a number. -/
def Raw.Number.value : Raw.Number → ℚ
  | .whole k _ => k
  | .real x _ => x.value

/-
  Raw data stands for an integer: a number with this exact
  value, or a numeral.
-/
inductive Raw.StandsFor : Raw → Int → Prop where
  | number
      {n : Raw.Number}
      {k : Int}
      (exact : n.value = k) :
      StandsFor (.number n) k
  | string
      {s : String}
      {k : Int}
      (numeral : Text.IsNumeral s.toList k) :
      StandsFor (.string s) k

namespace Coercer

/- The integer that is found is the one that data stands for. -/
theorem wholeNumber?_eq_some_iff
    (raw : Raw)
    (k : Int) :
    wholeNumber? raw = some k ↔ raw.StandsFor k := by
  cases raw with
  | number n =>
      have hValue : wholeNumber? (.number n) = some k ↔ n.value = k := by
        cases n with
        | whole other inRange =>
            simp [wholeNumber?, Raw.Number.value]
        | real x finite => exact Binary64.toInt?_eq_some_iff finite k
      rw [hValue]
      constructor
      · intro hExact
        exact .number hExact
      · rintro (hExact | _)
        exact hExact
  | string s =>
      rw [wholeNumber?, Text.readInteger?_eq_some_iff]
      constructor
      · intro hNumeral
        exact .string hNumeral
      · rintro (_ | hNumeral)
        exact hNumeral
  | null | bool | array | object =>
      constructor
      · intro hSome
        cases hSome
      · intro hStands
        cases hStands

/- An integer is a value if 64 bits with a sign can hold it. -/
theorem ofInt?_eq_some_iff
    (k : Int)
    (v : Value) :
    Value.ofInt? k = some v ↔
      ∃ inRange : FitsSigned k, v = .integer k inRange := by
  unfold Value.ofInt?
  split
  · next inRange =>
      constructor
      · rintro ⟨⟩
        exact ⟨inRange, rfl⟩
      · rintro ⟨_, rfl⟩
        rfl
  · next hOutside =>
      constructor
      · intro hSome
        cases hSome
      · rintro ⟨inRange, _⟩
        exact absurd inRange hOutside

/- An integer that 64 bits with a sign cannot hold is no value. -/
theorem ofInt?_eq_none
    {k : Int}
    (hOutside : ¬ FitsSigned k) :
    Value.ofInt? k = none :=
  dif_neg hOutside

/-
  A number that is no integer of 64 bits with a sign may as
  well be rounded to a double first.
-/
theorem integer_of_rounded
    (n : Raw.Number)
    (hWide : n.toSigned? = none) :
    integer (.number n) =
      orReason "not an integer"
        (n.toBinary64.toInt?.bind Value.ofInt?) := by
  cases n with
  | real x finite => rfl
  | whole k inRange =>
      have hOutside : ¬ FitsSigned k := by
        intro hFits
        rw [Raw.Number.toSigned?, if_pos hFits] at hWide
        cases hWide
      have hLarge : 9223372036854775808 ≤ k := by
        have hLower := inRange.1
        omega
      -- The double is whole, but it is as far out as the integer.
      have hRounded :
          (Binary64.ofInt k).toInt?.bind Value.ofInt? = none := by
        cases hWhole : (Binary64.ofInt k).toInt? with
        | none => rfl
        | some m =>
            rw [Binary64.toInt?_eq_some_iff
              (Binary64.isFinite_ofInt k inRange)] at hWhole
            have hValue := Binary64.le_value_ofInt inRange hLarge
            rw [hWhole] at hValue
            have hFar : 9223372036854775808 ≤ m := by exact_mod_cast hValue
            exact ofInt?_eq_none (by omega)
      have hExact : (wholeNumber? (.number (.whole k inRange))).bind
          Value.ofInt? = none :=
        ofInt?_eq_none hOutside
      rw [integer, hExact, Raw.Number.toBinary64, hRounded]

/-
  How the coercer of integers reads raw data: it gives the
  integer that the data stands for if this has 64 bits with a
  sign, and one reason otherwise.  It does not matter that a
  wide number is rounded on the way, and the usual text of an
  integer is read as this integer.
-/
structure ReadsInteger
    (raw : Raw) : Prop where
  accepts :
    ∀ v, integer raw = .ok v ↔
      ∃ k, ∃ inRange : FitsSigned k,
        raw.StandsFor k ∧ v = .integer k inRange
  refuses :
    ∀ reason, integer raw = .error reason ↔
      reason = "not an integer" ∧ ¬ ∃ k, FitsSigned k ∧ raw.StandsFor k
  rounded :
    ∀ n, raw = .number n → n.toSigned? = none →
      integer raw =
        orReason "not an integer" (n.toBinary64.toInt?.bind Value.ofInt?)
  written :
    ∀ k, ∀ inRange : FitsSigned k, raw = .string (toString k) →
      integer raw = .ok (.integer k inRange)

/- Integers are read so from all raw data. -/
theorem readsInteger
    (raw : Raw) :
    ReadsInteger raw := by
  have hAccepts :
      ∀ v, integer raw = .ok v ↔
        ∃ k, ∃ inRange : FitsSigned k,
          raw.StandsFor k ∧ v = .integer k inRange := by
    intro v
    simp only [integer, orReason_eq_ok_iff, Option.bind_eq_some_iff,
      wholeNumber?_eq_some_iff, ofInt?_eq_some_iff, exists_and_left]
  constructor
  case accepts => exact hAccepts
  case refuses =>
    intro reason
    have hReason :
        ∀ other, integer raw = .error other → other = "not an integer" :=
      fun _ hError => reason_of_orReason hError
    rw [eq_error_iff_of_reason hReason]
    apply and_congr_right
    intro _
    rw [not_iff_not]
    constructor
    · rintro ⟨v, hOk⟩
      rcases (hAccepts v).mp hOk with ⟨k, inRange, hStands, _⟩
      exact ⟨k, inRange, hStands⟩
    · rintro ⟨k, inRange, hStands⟩
      exact ⟨_, (hAccepts _).mpr ⟨k, inRange, hStands, rfl⟩⟩
  case rounded =>
    rintro n rfl hWide
    exact integer_of_rounded n hWide
  case written =>
    rintro k inRange rfl
    exact
      (hAccepts _).mpr
        ⟨k, inRange, .string (Text.isNumeral_toString k), rfl⟩

end Coercer

end Intake
