import Intake.Proofs.Binary64.Reading
import Intake.Proofs.Coercion

/-
  This file shows that the coercer of decimals never rounds a
  number.

  A number is taken by its text.  The text writes a number
  without zeros at its end, plainly or in exponent notation,
  and either notation is read exactly if a decimal can hold
  the number.

  Key definitions include:
    * `Decimal.ReadsNumeral`
    * `Binary64.Layout.LeavesRoom`
    * `Coercer.ReadsNumber`

  The main statements are:
    * `Binary64.readsNumeral_body`
    * `Binary64.exists_readsNumeral_write`
    * `Coercer.readsNumber`
-/

namespace Intake

namespace Decimal

------------------------------------------------------------
-- Numerals Read in Full
------------------------------------------------------------

/-
  A text writes a number, and is read if a decimal can hold the
  number.
-/
structure ReadsNumeral
    (text : String)
    (r : ℚ) : Prop where
  written : IsNumber text.toList r
  held : Holds r → ∃ d, readNumeral? text = some d

/- Exactly the number that is written is read, if it can be held. -/
theorem ReadsNumeral.exists_value_iff
    {text : String}
    {r : ℚ}
    (hText : ReadsNumeral text r)
    (s : ℚ) :
    (∃ d, readNumeral? text = some d ∧ d.value = s) ↔
      Holds r ∧ s = r := by
  constructor
  · rintro ⟨d, hRead, rfl⟩
    have hValue := hText.written.value_eq hRead
    exact ⟨hValue ▸ d.holds_value, hValue⟩
  · rintro ⟨hHolds, rfl⟩
    rcases hText.held hHolds with ⟨d, hRead⟩
    exact ⟨d, hRead, hText.written.value_eq hRead⟩

end Decimal

------------------------------------------------------------
-- Texts of Doubles
------------------------------------------------------------

namespace Binary64

/-
  A layout has a zero behind the point only for numbers that
  leave room for one more digit.
-/
def Layout.LeavesRoom
    (layout : Layout) : Prop :=
  layout.pointZero = true →
    ∃ low high, layout.positional = some (low, high) ∧ high ≤ 27

/- Numbers without exponent leave room for the zero behind their point. -/
theorem pointZeros_fits
    {layout : Layout}
    (hRoom : layout.LeavesRoom)
    {digits : List Char}
    {n : Nat}
    {place : Int}
    (hDigits : Text.IsDigits digits n)
    (hPositional :
      layout.isPositional (place + digits.length - 1) = true)
    (hFits : n * tenTo place.toNat < twoTo 96) :
    n * tenTo (place.toNat + pointZeros layout.pointZero place) <
      twoTo 96 := by
  unfold pointZeros
  split
  next hZero =>
    rcases hRoom hZero.1 with ⟨low, high, hBounds, hHigh⟩
    unfold Layout.isPositional at hPositional
    simp only [hBounds, Bool.and_eq_true, decide_eq_true_eq] at hPositional
    have hNumber := Text.digitsValue_lt digits hDigits.digits
    have hValue : Text.digitsValue digits = n := hDigits.value
    rw [hValue] at hNumber
    calc
      n * tenTo (place.toNat + 1)
          < tenTo digits.length * tenTo (place.toNat + 1) :=
        Nat.mul_lt_mul_of_pos_right hNumber (tenTo_pos _)
      _ = tenTo (digits.length + (place.toNat + 1)) :=
        (tenTo_add _ _).symm
      _ ≤ tenTo 28 := Nat.pow_le_pow_right (by decide) (by omega)
      _ < twoTo 96 := by decide
  next hNone => exact hFits

section Bodies

variable {sign digits : List Char}
variable {factor : Int}
variable {n : Nat}
variable {place : Int}

/- A sign does not change the magnitude. -/
theorem natAbs_sign_mul
    (hSign : Text.Sign sign factor)
    (m : Nat) :
    (factor * m).natAbs = m := by
  cases hSign <;> simp

/- Digits without an exponent are read, if they fit. -/
theorem exists_readNumeral?_layPositional
    {layout : Layout}
    (hRoom : layout.LeavesRoom)
    (hSign : Text.Sign sign factor)
    (hDigits : Text.IsDigits digits n)
    (hPositional :
      layout.isPositional (place + digits.length - 1) = true)
    (hFits : n * tenTo place.toNat < twoTo 96)
    (hPlaces : (-place).toNat ≤ 28) :
    ∃ d, Decimal.readNumeral?
      (String.ofList (sign ++ layPositional layout.pointZero digits place)) =
        some d := by
  have hRange := pointZeros_fits hRoom hDigits hPositional hFits
  have hRoomLeft :
      (-place).toNat + pointZeros layout.pointZero place ≤ 28 := by
    unfold pointZeros
    split <;> omega
  have hLiteral :
      Decimal.IsLiteral
        (sign ++ layPositional layout.pointZero digits place) _ _ :=
    ⟨sign, factor, _, _, rfl, hSign,
      isUnsigned_layPositional hDigits layout.pointZero place, rfl⟩
  rw [← natAbs_sign_mul hSign (n * _)] at hRange
  exact ⟨⟨_, _, hRange, hRoomLeft⟩, Decimal.readNumeral?_of_isLiteral hLiteral⟩

/- Digits with an exponent are read, if they fit. -/
theorem exists_readNumeral?_layScientific
    (hSign : Text.Sign sign factor)
    (hDigits : Text.IsDigits digits n)
    (hPos : 0 < n)
    (hShort : digits.length ≤ 17)
    (plusSign : Bool)
    (hFits : n * tenTo place.toNat < twoTo 96)
    (hPlaces : (-place).toNat ≤ 28) :
    ∃ d, Decimal.readNumeral?
      (String.ofList
        (sign ++
          layScientific plusSign digits (place + digits.length - 1))) =
        some d := by
  rcases exists_layScientific hDigits plusSign
      (place + digits.length - 1) with
    ⟨text, exponent, hText, hUnsigned, hExponent⟩
  have hMantissa :
      ∃ mantissa : Decimal,
        mantissa.coefficient = factor * n ∧
          mantissa.scale = digits.length - 1 := by
    have hNumber : (factor * n).natAbs < twoTo 96 := by
      rw [natAbs_sign_mul hSign]
      exact
        Nat.lt_of_le_of_lt
          (Nat.le_mul_of_pos_right n (tenTo_pos place.toNat)) hFits
    exact ⟨⟨_, _, hNumber, by omega⟩, rfl, rfl⟩
  rcases hMantissa with ⟨mantissa, hCoefficient, hScale⟩
  have hLiteral :
      Decimal.IsLiteral (sign ++ text) mantissa.coefficient
        mantissa.scale := by
    rw [hCoefficient, hScale]
    exact ⟨sign, factor, text, n, rfl, hSign, hUnsigned, rfl⟩
  have hNonzero : mantissa.coefficient ≠ 0 := by
    intro hZero
    have hSize := natAbs_sign_mul hSign n
    rw [← hCoefficient, hZero, Int.natAbs_zero] at hSize
    omega
  have hSome := List.length_pos_iff.mpr hDigits.nonempty
  have hPlace :
      place + digits.length - 1 - (digits.length - 1 : Nat) = place := by
    omega
  have hShift :=
    Decimal.shiftPoint?_eq_ofPlace? hNonzero (place + digits.length - 1)
  rw [hScale, hPlace, hCoefficient] at hShift
  have hPlaced : (factor * n * tenTo place.toNat).natAbs < twoTo 96 := by
    rw [Int.mul_assoc, ← Nat.cast_mul, natAbs_sign_mul hSign]
    exact hFits
  rcases Decimal.exists_ofPlace? hPlaced hPlaces with ⟨d, hSomeDecimal⟩
  rw [hText, ← List.append_assoc]
  exact
    Decimal.exists_readNumeral?_of_shiftPoint? hLiteral (Or.inl rfl)
      hExponent (hShift.trans hSomeDecimal)

/-
  Either layout of digits is read, if a decimal can hold the
  number that they write.
-/
theorem readsNumeral_body
    {layout : Layout}
    (hRoom : layout.LeavesRoom)
    (hSign : Text.Sign sign factor)
    (hDigits : Text.IsDigits digits n)
    (hLast : ¬ 10 ∣ n)
    (hShort : digits.length ≤ 17) :
    Decimal.ReadsNumeral (String.ofList (sign ++ layout.body digits place))
      ((factor * n : Int) * 10 ^ place) := by
  constructor
  case written =>
    rw [String.toList_ofList]
    exact isNumber_body hDigits hSign layout place
  case held =>
    intro hHolds
    have hPos : 0 < n := by
      apply Nat.pos_of_ne_zero
      rintro rfl
      exact hLast (Nat.dvd_zero 10)
    have hEnd : ¬ (10 : Int) ∣ factor * n := by
      rw [← Int.natAbs_dvd_natAbs, natAbs_sign_mul hSign]
      exact hLast
    rw [Decimal.holds_iff_of_not_dvd hEnd, Int.mul_assoc, ← Nat.cast_mul,
      natAbs_sign_mul hSign] at hHolds
    rcases hHolds with ⟨hFits, hPlaces⟩
    unfold Layout.body
    dsimp only
    split
    next hPositional =>
      exact
        exists_readNumeral?_layPositional hRoom hSign hDigits hPositional
          hFits hPlaces
    next hScientific =>
      exact
        exists_readNumeral?_layScientific hSign hDigits hPos hShort
          layout.plusSign hFits hPlaces

/- Zero is read, with a digit behind the point or without one. -/
theorem readsNumeral_zero
    (hSign : Text.Sign sign factor)
    (pointZero : Bool) :
    Decimal.ReadsNumeral
      (String.ofList (sign ++ layPositional pointZero ['0'] 0)) 0 := by
  have hBody :=
    isUnsigned_layPositional (Text.isDigits_toDigits 0) pointZero 0
  rw [Nat.zero_mul] at hBody
  have hLiteral :
      Decimal.IsLiteral (sign ++ layPositional pointZero ['0'] 0) 0 _ :=
    ⟨sign, factor, _, 0, rfl, hSign, hBody, (Int.mul_zero factor).symm⟩
  constructor
  case written =>
    have hNumber := Decimal.IsNumber.plain hLiteral
    rw [Int.cast_zero, zero_div] at hNumber
    rw [String.toList_ofList]
    exact hNumber
  case held =>
    intro _
    have hRoomLeft : (-0 : Int).toNat + pointZeros pointZero 0 ≤ 28 := by
      unfold pointZeros
      split <;> decide
    exact
      ⟨⟨0, _, by decide, hRoomLeft⟩,
        Decimal.readNumeral?_of_isLiteral hLiteral⟩

end Bodies

/-
  Whatever the layout, the text of a finite double writes one
  number, which is read if a decimal can hold it.
-/
theorem exists_readsNumeral_write
    {x : Binary64}
    (hFinite : x.isFinite = true)
    (tie : Tie) :
    ∃ r, ∀ layout : Layout, layout.tie = tie → layout.LeavesRoom →
      Decimal.ReadsNumeral (x.write layout) r := by
  by_cases hZero : x.magnitude = 0
  · refine ⟨0, ?_⟩
    intro layout _ _
    rw [← String.ofList_toList (s := x.write layout), toList_write hFinite,
      if_pos hZero]
    exact readsNumeral_zero x.sign_signText layout.pointZero
  · rcases exists_shows hFinite hZero tie with
      ⟨digits, n, place, hShows, hWrite⟩
    refine ⟨(x.signFactor * n : Int) * 10 ^ place, ?_⟩
    intro layout hTie hRoom
    rw [← String.ofList_toList (s := x.write layout), hWrite layout hTie]
    exact
      readsNumeral_body hRoom x.sign_signText hShows.written hShows.last
        hShows.short

/- The layout of JSON texts leaves room for a zero behind the point. -/
theorem leavesRoom_compact :
    Layout.compact.LeavesRoom :=
  fun _ => ⟨-5, 16, rfl, by decide⟩

end Binary64

------------------------------------------------------------
-- Whole Numbers
------------------------------------------------------------

/- The text of a whole number is a literal of it. -/
theorem Decimal.isLiteral_toString
    (k : Int) :
    IsLiteral (toString k).toList k 0 := by
  rcases Text.isNumeral_toString k with
    ⟨sign, factor, digits, n, hText, hSign, hDigits, hValue⟩
  exact ⟨sign, factor, digits, n, hText, hSign, .whole hDigits, hValue⟩

/- A whole number is read as the decimal equal to it. -/
theorem Decimal.readNumeral?_toString
    {k : Int}
    (inRange : FitsNumber k) :
    readNumeral? (toString k) = some (ofWhole k inRange) := by
  have hLiteral :
      IsLiteral (toString k).toList (ofWhole k inRange).coefficient
        (ofWhole k inRange).scale :=
    isLiteral_toString k
  have hRead := readNumeral?_of_isLiteral hLiteral
  rw [String.ofList_toList] at hRead
  exact hRead

/- The decimal of a whole number has its value. -/
theorem Decimal.value_ofWhole
    {k : Int}
    (inRange : FitsNumber k) :
    (ofWhole k inRange).value = k :=
  div_one (k : ℚ)

------------------------------------------------------------
-- The Coercer of Decimals
------------------------------------------------------------

namespace Coercer

/- Every number is taken by its text, which writes one number. -/
theorem exists_readsNumeral
    (n : Raw.Number) :
    decimalOfNumber? n = Decimal.readNumeral? n.write ∧
      ∃ r, Decimal.ReadsNumeral n.write r := by
  cases n with
  | whole k inRange =>
      have hRead := Decimal.readNumeral?_toString inRange
      exact
        ⟨hRead.symm, _, .plain (Decimal.isLiteral_toString k),
          fun _ => ⟨_, hRead⟩⟩
  | real x finite =>
      rcases Binary64.exists_readsNumeral_write finite .even with
        ⟨r, hWrite⟩
      exact ⟨rfl, r, hWrite .compact rfl Binary64.leavesRoom_compact⟩

/-
  How the coercer of decimals takes a number of JSON.  The text
  of the number writes one value; that of a double is read back
  as the double, and shows as few digits as possible.  It is
  accepted exactly if the value is an integer of at most 96
  bits over a power of ten with at most 28 zeros, and then the
  result has this very value; otherwise it is not a decimal.
  Whole numbers are all accepted, every number is read from its
  text, and a double gives the same value in any layout, with
  an exponent or without one.
-/
structure ReadsNumber
    (n : Raw.Number) : Prop where
  written : ∃! r, Decimal.IsNumber n.write.toList r
  shortest :
    ∀ x finite, n = .real x finite →
      Binary64.read? n.write = some x ∧
        (x.magnitude ≠ 0 →
          ∃ digits m place, x.Shows digits m place ∧
            n.write.toList =
              x.signText ++ Binary64.Layout.compact.body digits place)
  accepts :
    ∀ r, Decimal.IsNumber n.write.toList r →
      ((∃ v, decimal (.number n) = .ok v) ↔ Decimal.Holds r)
  unrounded :
    ∀ v, decimal (.number n) = .ok v →
      ∃ d : Decimal, v = .decimal d ∧
        Decimal.IsNumber n.write.toList d.value
  refuses :
    ∀ reason, decimal (.number n) = .error reason ↔
      reason = "not a decimal" ∧
        ∀ r, Decimal.IsNumber n.write.toList r → ¬ Decimal.Holds r
  whole :
    ∀ k inRange, n = .whole k inRange →
      ∃ d : Decimal, decimal (.number n) = .ok (.decimal d) ∧ d.value = k
  routes :
    decimal (.number n) =
      orReason "not a decimal"
        ((Decimal.readNumeral? n.write).map .decimal)
  layouts :
    ∀ x finite, n = .real x finite →
      ∀ layout : Binary64.Layout, layout.tie = .even → layout.LeavesRoom →
        ∀ r, (∃ d, Decimal.readNumeral? (x.write layout) = some d ∧
            d.value = r) ↔
          ∃ d : Decimal, decimal (.number n) = .ok (.decimal d) ∧
            d.value = r

/- Numbers are taken so by the coercer of decimals. -/
theorem readsNumber
    (n : Raw.Number) :
    ReadsNumber n := by
  rcases exists_readsNumeral n with ⟨hRoute, r, hText⟩
  have hAccepts :
      ∀ v, decimal (.number n) = .ok v ↔
        ∃ d, v = .decimal d ∧ Decimal.readNumeral? n.write = some d := by
    intro v
    rw [decimal, orReason_eq_ok_iff, Option.map_eq_some_iff, hRoute]
    simp only [and_comm, @eq_comm _ v]
  have hHeld :
      (∃ v, decimal (.number n) = .ok v) ↔ Decimal.Holds r := by
    simp only [hAccepts]
    constructor
    · rintro ⟨_, d, rfl, hRead⟩
      rw [← hText.written.value_eq hRead]
      exact d.holds_value
    · intro hHolds
      rcases hText.held hHolds with ⟨d, hRead⟩
      exact ⟨_, d, rfl, hRead⟩
  constructor
  case written =>
    exact ⟨r, hText.written, fun s hOther => hOther.unique hText.written⟩
  case shortest =>
    rintro x finite rfl
    refine ⟨Binary64.read?_write finite .compact, ?_⟩
    intro hNonzero
    rcases Binary64.exists_shows finite hNonzero .even with
      ⟨digits, m, place, hShows, hWrite⟩
    exact ⟨digits, m, place, hShows, hWrite .compact rfl⟩
  case accepts =>
    intro s hNumber
    rw [hNumber.unique hText.written]
    exact hHeld
  case unrounded =>
    intro v hValue
    rcases (hAccepts v).mp hValue with ⟨d, rfl, hRead⟩
    refine ⟨d, rfl, ?_⟩
    rw [hText.written.value_eq hRead]
    exact hText.written
  case refuses =>
    intro reason
    have hReason :
        ∀ other, decimal (.number n) = .error other →
          other = "not a decimal" :=
      fun _ hError => reason_of_orReason hError
    rw [eq_error_iff_of_reason hReason, hHeld]
    apply and_congr_right
    intro _
    constructor
    · intro hOutside s hNumber
      rw [hNumber.unique hText.written]
      exact hOutside
    · intro hOutside
      exact hOutside r hText.written
  case whole =>
    rintro k inRange rfl
    exact ⟨_, rfl, Decimal.value_ofWhole inRange⟩
  case routes => rw [← hRoute, decimal]
  case layouts =>
    rintro x finite rfl layout hTie hRoom s
    rcases Binary64.exists_readsNumeral_write finite .even with
      ⟨number, hWrite⟩
    have hCompact := hWrite .compact rfl Binary64.leavesRoom_compact
    have hTaken :
        ∀ d, decimal (.number (.real x finite)) = .ok (.decimal d) ↔
          Decimal.readNumeral? (x.write .compact) = some d := by
      intro d
      rw [hAccepts]
      constructor
      · rintro ⟨_, ⟨⟩, hRead⟩
        exact hRead
      · intro hRead
        exact ⟨d, rfl, hRead⟩
    simp only [hTaken]
    rw [(hWrite layout hTie hRoom).exists_value_iff,
      hCompact.exists_value_iff]

end Coercer

end Intake
