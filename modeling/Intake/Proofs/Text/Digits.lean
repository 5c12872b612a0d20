import Intake.Power
import Intake.Text.Digits
import Mathlib.Data.List.Induction

/-
  This file shows that numbers can be read back from their
  decimal digits.

  The main statements are:
    * `Text.digitsValue_lt`
    * `Text.digitsValue_toDigits`
    * `Text.digitsValue_padDigits`
    * `Text.length_padDigits`
-/

namespace Intake

namespace Text

/- The library reads digits in the same way. -/
theorem digitsValue_eq_ofDigitChars
    (digits : List Char) :
    digitsValue digits = Nat.ofDigitChars 10 digits 0 :=
  rfl

/- Digits in front move the value of the digits before them. -/
theorem digitsValue_append_singleton
    (digits : List Char)
    (c : Char) :
    digitsValue (digits ++ [c]) =
      10 * digitsValue digits + (c.toNat - '0'.toNat) := by
  unfold digitsValue
  rw [List.foldl_append]
  rfl

/- As many digits write a number below the power of ten. -/
theorem digitsValue_lt
    (digits : List Char)
    (hDigits : ∀ c ∈ digits, c.isDigit = true) :
    digitsValue digits < tenTo digits.length := by
  induction digits using List.reverseRecOn with
  | nil => decide
  | append_singleton digits c ih =>
      have hBefore :=
        ih fun other hOther => hDigits other (by simp [hOther])
      have hDigit :=
        Char.isDigit_iff_toNat.mp (hDigits c (by simp))
      have hZero : '0'.toNat = 48 := rfl
      have hNine : '9'.toNat = 57 := rfl
      have hPower :
          tenTo (digits ++ [c]).length =
            tenTo digits.length * 10 := by
        rw [List.length_append]
        rfl
      rw [digitsValue_append_singleton, hPower]
      omega

/- Zeros in front do not change the value. -/
theorem digitsValue_replicate_append
    (zeros : Nat)
    (digits : List Char) :
    digitsValue (List.replicate zeros '0' ++ digits) =
      digitsValue digits := by
  rw [digitsValue_eq_ofDigitChars, Nat.ofDigitChars_append,
    Nat.ofDigitChars_replicate_zero, Nat.mul_zero]
  rfl

/- The digits of a number have its value. -/
theorem digitsValue_toDigits
    (n : Nat) :
    digitsValue (Nat.toDigits 10 n) = n :=
  Nat.ofDigitChars_ten_toDigits

/- A number is written in digits only. -/
theorem isDigit_of_mem_toDigits
    {n : Nat}
    {c : Char}
    (hMem : c ∈ Nat.toDigits 10 n) :
    c.isDigit = true :=
  Nat.isDigit_of_mem_toDigits (by decide) (by decide) hMem

------------------------------------------------------------
-- Padding
------------------------------------------------------------

/- Padded digits are digits. -/
theorem isDigit_of_mem_padDigits
    {width n : Nat}
    {c : Char}
    (hMem : c ∈ padDigits width n) :
    c.isDigit = true := by
  unfold padDigits at hMem
  rcases List.mem_append.mp hMem with hZero | hDigit
  · rw [List.eq_of_mem_replicate hZero]
    rfl
  · exact isDigit_of_mem_toDigits hDigit

/- Padded digits keep the value of the number. -/
theorem digitsValue_padDigits
    (width n : Nat) :
    digitsValue (padDigits width n) = n := by
  unfold padDigits
  rw [digitsValue_replicate_append, digitsValue_toDigits]

/- Padded digits begin with a digit. -/
theorem exists_cons_padDigits
    (width n : Nat) :
    ∃ c rest, padDigits width n = c :: rest ∧
      c.isDigit = true := by
  have hSome : padDigits width n ≠ [] := by
    simp [padDigits, Nat.toDigits_ne_nil]
  rcases List.exists_cons_of_ne_nil hSome with ⟨c, rest, hCons⟩
  refine ⟨c, rest, hCons, ?_⟩
  apply @isDigit_of_mem_padDigits width n c
  rw [hCons]
  exact List.mem_cons_self

/-
  Padded digits have exactly the width, if the number fits
  into it.
-/
theorem length_padDigits
    {width n : Nat}
    (hWidth : 0 < width)
    (hFits : n < tenTo width) :
    (padDigits width n).length = width := by
  have hLength :=
    (Nat.length_toDigits_le_iff (by decide) hWidth).mpr hFits
  simp only [padDigits, List.length_append, List.length_replicate]
  omega

end Text

end Intake
