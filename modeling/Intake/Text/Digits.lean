/-
  This file reads and writes whole numbers in decimal digits.

  Key definitions include:
    * `Text.digitsValue`
    * `Text.splitSign`
    * `Text.readNatural?`
    * `Text.readInteger?`
    * `Text.padDigits`
-/

namespace Intake

namespace Text

/- The number that a list of decimal digits writes. -/
def digitsValue
    (digits : List Char) : Nat :=
  digits.foldl (fun n c => 10 * n + (c.toNat - '0'.toNat)) 0

/- A minus sign in front of a numeral, or a plus sign, and what follows. -/
def splitSign : List Char → Bool × List Char
  | '-' :: rest => (true, rest)
  | '+' :: rest => (false, rest)
  | text => (false, text)

/- One digit or more, as the whole text. -/
def readDigits?
    (text : List Char) : Option Nat :=
  if text.isEmpty || !text.all Char.isDigit then none
  else some (digitsValue text)

/- A natural number as the whole text; a plus sign may stand in front. -/
def readNatural?
    (text : String) : Option Nat :=
  match text.toList with
  | '+' :: rest => readDigits? rest
  | rest => readDigits? rest

/- An integer as the whole text; a sign may stand in front. -/
def readInteger?
    (text : String) : Option Int :=
  let (negative, digits) := splitSign text.toList
  (readDigits? digits).map fun n => if negative then -(n : Int) else n

/- Digits of a number, with zeros in front up to a width. -/
def padDigits
    (width n : Nat) : List Char :=
  let digits := Nat.toDigits 10 n
  List.replicate (width - digits.length) '0' ++ digits

end Text

end Intake
