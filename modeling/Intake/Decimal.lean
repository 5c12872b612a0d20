import Intake.Binary64.Numeral

/-
  This file defines exact decimals: a coefficient of at most
  96 bits over a power of ten with at most 28 fraction digits.
  Two decimals with the same value may have different scales;
  the scale is kept for printing and ignored by the order.

  Key definitions include:
    * `Decimal`
    * `Decimal.ofParts?`
    * `Decimal.ofInt?`
    * `Decimal.compare`
    * `Decimal.write`
    * `Decimal.read?`
    * `Decimal.ofScientific?`
-/

namespace Intake

------------------------------------------------------------
-- Decimals
------------------------------------------------------------

/- The value `coefficient / 10 ^ scale`. -/
structure Decimal where
  coefficient : Int
  scale : Nat
  coefficient_lt : coefficient.natAbs < twoTo 96
  scale_le : scale ≤ 28
deriving DecidableEq

namespace Decimal

/- The decimal with a coefficient and a scale, if both are in range. -/
def ofParts?
    (coefficient : Int)
    (scale : Nat) : Option Decimal :=
  if h : coefficient.natAbs < twoTo 96 ∧ scale ≤ 28 then
    some ⟨coefficient, scale, h.1, h.2⟩
  else
    none

/- The decimal equal to an integer, if it is in range. -/
def ofInt?
    (k : Int) : Option Decimal :=
  ofParts? k 0

/- The decimal equal to an integer of 64 bits. -/
def ofWhole
    (k : Int)
    (inRange : FitsNumber k) : Decimal :=
  ⟨k, 0,
    by
      show k.natAbs < 79228162514264337593543950336
      omega,
    by omega⟩

/- Zero without fraction digits. -/
def zero : Decimal :=
  ⟨0, 0, by decide, by decide⟩

------------------------------------------------------------
-- Order
------------------------------------------------------------

/- The order of two decimals by value, whatever their scales. -/
def compare
    (a b : Decimal) : Ordering :=
  Ord.compare (a.coefficient * tenTo b.scale) (b.coefficient * tenTo a.scale)

/- Equality by value. -/
def sameValue
    (a b : Decimal) : Bool :=
  a.compare b == .eq

------------------------------------------------------------
-- Writing
------------------------------------------------------------

/- The text of a decimal, with all digits of its scale. -/
def write
    (d : Decimal) : String :=
  let digits := Nat.toDigits 10 d.coefficient.natAbs
  let padded :=
    List.replicate (d.scale + 1 - digits.length) '0' ++ digits
  let split := padded.length - d.scale
  let fraction := padded.drop split
  let sign : List Char := if d.coefficient < 0 then ['-'] else []
  String.ofList
    (sign ++ padded.take split ++
      (if fraction.isEmpty then [] else '.' :: fraction))

------------------------------------------------------------
-- Reading
------------------------------------------------------------

/-
  What has been read of a decimal: the coefficient so far, the
  number of fraction digits after a point, and whether there
  was a digit.
-/
structure Progress where
  coefficient : Nat
  fraction : Option Nat
  started : Bool

/-
  Read one more character.  Digits may be separated by an
  underscore once there was a digit.  After 28 fraction digits
  nothing may follow.
-/
def Progress.step
    (p : Progress)
    (c : Char) : Option Progress :=
  if p.fraction == some 28 then none
  else if c.isDigit then
    let coefficient := p.coefficient * 10 + (c.toNat - '0'.toNat)
    if coefficient < twoTo 96 then
      some ⟨coefficient, p.fraction.map (· + 1), true⟩
    else
      none
  else if c == '.' then
    if p.fraction.isNone then some { p with fraction := some 0 } else none
  else if c == '_' then
    if p.started then some p else none
  else
    none

/- Read characters one after the other. -/
def Progress.run
    (p : Progress) : List Char → Option Progress
  | [] => some p
  | c :: rest => (p.step c).bind fun p => p.run rest

/-
  The decimal that a text writes in full: a sign, digits, and
  at most one point.  The text is refused if its value is out
  of range; no digit is ever rounded away.
-/
def read?
    (text : String) : Option Decimal := do
  let (negative, body) := Text.splitSign text.toList
  let p ← Progress.run ⟨0, none, false⟩ body
  if p.started then
    ofParts?
      (if negative then -(p.coefficient : Int) else p.coefficient)
      (p.fraction.getD 0)
  else
    none

/-
  The decimal `mantissa * 10 ^ exponent`, if it is exact.  A
  positive exponent uses up fraction digits before it adds
  zeros.
-/
def shiftPoint?
    (mantissa : Decimal)
    (exponent : Int) : Option Decimal :=
  if exponent < 0 then
    ofParts? mantissa.coefficient (mantissa.scale + exponent.natAbs)
  else if exponent.toNat ≤ mantissa.scale then
    ofParts? mantissa.coefficient (mantissa.scale - exponent.toNat)
  else
    let zeros := exponent.toNat - mantissa.scale
    if mantissa.coefficient == 0 then ofParts? 0 0
    else if 28 < zeros then none
    else ofParts? (mantissa.coefficient * tenTo zeros) 0

/- The decimal that a text in exponent notation writes. -/
def readScientific?
    (text : String) : Option Decimal := do
  let chars := text.toList
  let isMark (c : Char) : Bool := c == 'e' || c == 'E'
  let mantissa ← read? (String.ofList (chars.takeWhile (!isMark ·)))
  let tail := chars.dropWhile (!isMark ·)
  if tail.isEmpty then none
  else
    let exponent ← Binary64.readExponent? tail
    shiftPoint? mantissa exponent

/- The decimal that a text writes, plainly or in exponent notation. -/
def readNumeral?
    (text : String) : Option Decimal :=
  (read? text).orElse fun _ => readScientific? text

end Decimal

end Intake
