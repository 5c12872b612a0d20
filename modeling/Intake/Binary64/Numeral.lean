import Intake.Binary64.Rounding
import Intake.Binary64.Shortest
import Intake.Text.Digits

/-
  This file writes doubles as decimal numerals and reads them
  back.  A format's own decisions are one record.

  Key definitions include:
    * `Binary64.Layout`
    * `Binary64.Layout.plain`
    * `Binary64.Layout.compact`
    * `Binary64.write`
    * `Binary64.read?`
-/

namespace Intake

namespace Binary64

------------------------------------------------------------
-- Layouts
------------------------------------------------------------

/- The decisions of a text format for doubles. -/
structure Layout where
  /- Exponents of the leading digit from `fst` up to but not
  including `snd` are written without an exponent; `none`
  writes all of them so. -/
  positional : Option (Int × Int)
  /- A whole number ends in `.0`. -/
  pointZero : Bool
  /- An exponent that is not negative has a plus sign. -/
  plusSign : Bool
  tie : Tie
  nan : String
  infinity : String
  negativeInfinity : String

/- Doubles shown to a reader never have an exponent. -/
def Layout.plain : Layout where
  positional := none
  pointZero := false
  plusSign := false
  tie := .up
  nan := "NaN"
  infinity := "inf"
  negativeInfinity := "-inf"

/- Doubles shown to a reader who has to see that they are not integers. -/
def Layout.pointed : Layout :=
  { Layout.plain with positional := some (-4, 16), pointZero := true }

/-
  Doubles in JSON text.  JSON has no numeral for a value that
  is not finite.
-/
def Layout.compact : Layout where
  positional := some (-5, 16)
  pointZero := true
  plusSign := true
  tie := .even
  nan := "null"
  infinity := "null"
  negativeInfinity := "null"

------------------------------------------------------------
-- Writing
------------------------------------------------------------

/- Digits without the zeros at their end, and the place of the last one left. -/
def stripZeros
    (digits : List Char)
    (place : Int) : List Char × Int :=
  let kept := (digits.reverse.dropWhile (· == '0')).reverse
  (kept, place + (digits.length - kept.length : Nat))

/- Digits with a decimal point where the last one stands at `place`. -/
def layPositional
    (pointZero : Bool)
    (digits : List Char)
    (place : Int) : List Char :=
  let whole (digits : List Char) : List Char :=
    if pointZero then digits ++ ['.', '0'] else digits
  if 0 ≤ place then
    whole (digits ++ List.replicate place.toNat '0')
  else
    let fractionLength := (-place).toNat
    if digits.length ≤ fractionLength then
      '0' :: '.' ::
        (List.replicate (fractionLength - digits.length) '0' ++ digits)
    else
      let split := digits.length - fractionLength
      digits.take split ++ '.' :: digits.drop split

/- Digits with a point after the first one, and the exponent of the first one. -/
def layScientific
    (plusSign : Bool)
    (digits : List Char)
    (leading : Int) : List Char :=
  let tail := digits.drop 1
  let sign : List Char :=
    if leading < 0 then ['-'] else if plusSign then ['+'] else []
  digits.take 1 ++ (if tail.isEmpty then [] else '.' :: tail) ++
    'e' :: sign ++ Nat.toDigits 10 leading.natAbs

/- The numeral of a number in a layout. -/
def write
    (layout : Layout)
    (x : Binary64) : String :=
  if x.isNaN then layout.nan
  else if !x.isFinite then
    if x.negative then layout.negativeInfinity else layout.infinity
  else
    let sign : List Char := if x.negative then ['-'] else []
    let body :=
      if x.magnitude = 0 then layPositional layout.pointZero ['0'] 0
      else
        let (number, lastPlace) := x.shortest layout.tie
        let (digits, place) := stripZeros (Nat.toDigits 10 number) lastPlace
        let leading := place + digits.length - 1
        let positional :=
          match layout.positional with
          | none => true
          | some (low, high) => decide (low ≤ leading) && decide (leading < high)
        if positional then layPositional layout.pointZero digits place
        else layScientific layout.plusSign digits leading
    String.ofList (sign ++ body)

------------------------------------------------------------
-- Reading
------------------------------------------------------------

/- The exponent part of a numeral, which is the whole text. -/
def readExponent? : List Char → Option Int
  | [] => some 0
  | c :: rest =>
    if c == 'e' || c == 'E' then
      let (negative, digits) := Text.splitSign rest
      (Text.readDigits? digits).map fun n =>
        if negative then -(n : Int) else n
    else
      none

/- A numeral without sign: digits with at most one point, then an exponent. -/
def readMagnitude?
    (negative : Bool)
    (text : List Char) : Option Binary64 :=
  let whole := text.takeWhile Char.isDigit
  let afterWhole := text.dropWhile Char.isDigit
  let (fraction, rest) :=
    match afterWhole with
    | '.' :: after => (after.takeWhile Char.isDigit, after.dropWhile Char.isDigit)
    | after => ([], after)
  if whole.isEmpty && fraction.isEmpty then none
  else
    (readExponent? rest).map fun exponent =>
      ofScientific negative (Text.digitsValue (whole ++ fraction))
        (exponent - fraction.length)

/-
  The double nearest to a numeral.  The names of infinity and
  of the number that is not a number are read in any case.
-/
def read?
    (text : String) : Option Binary64 :=
  let (negative, body) := Text.splitSign text.toList
  let word := String.ofList (body.map Char.toLower)
  if word == "inf" || word == "infinity" then some (infinity negative)
  else if word == "nan" then some nan
  else readMagnitude? negative body

end Binary64

end Intake
