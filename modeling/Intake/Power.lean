/-
  This file defines the powers and bounds that formats of
  numbers are made of.

  Key definitions include:
    * `twoTo`
    * `tenTo`
    * `FitsSigned`
    * `FitsNumber`
-/

namespace Intake

/- A power of two. -/
abbrev twoTo
    (n : Nat) : Nat :=
  Nat.pow 2 n

/- A power of ten. -/
abbrev tenTo
    (n : Nat) : Nat :=
  Nat.pow 10 n

theorem twoTo_pos
    (n : Nat) :
    0 < twoTo n :=
  Nat.pow_pos (by decide)

theorem tenTo_pos
    (n : Nat) :
    0 < tenTo n :=
  Nat.pow_pos (by decide)

/- The powers at which the fields of a double begin and end. -/
theorem twoTo_11 : twoTo 11 = 2048 := rfl

theorem twoTo_52 : twoTo 52 = 4503599627370496 := rfl

theorem twoTo_53 : twoTo 53 = 9007199254740992 := rfl

theorem twoTo_54 : twoTo 54 = 18014398509481984 := rfl

theorem twoTo_63 : twoTo 63 = 9223372036854775808 := rfl

theorem twoTo_64 : twoTo 64 = 18446744073709551616 := rfl

/- An integer that 64 bits with a sign can hold. -/
abbrev FitsSigned
    (k : Int) : Prop :=
  -9223372036854775808 ≤ k ∧ k < 9223372036854775808

/- An integer that 64 bits can hold, with a sign or without. -/
abbrev FitsNumber
    (k : Int) : Prop :=
  -9223372036854775808 ≤ k ∧ k < 18446744073709551616

end Intake
