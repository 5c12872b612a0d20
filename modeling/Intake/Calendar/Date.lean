import Intake.Binary64.Numeral
import Intake.Text.Blank

/-
  This file defines days of the proleptic Gregorian calendar,
  their text, and the reader of that text.

  Key definitions include:
    * `Date`
    * `Date.ofParts?`
    * `Date.dayNumber`
    * `Date.write`
    * `Date.read?`
-/

namespace Intake

------------------------------------------------------------
-- Days
------------------------------------------------------------

/- A year with a 29th of February. -/
def isLeapYear
    (year : Int) : Bool :=
  year % 4 == 0 && (year % 100 != 0 || year % 400 == 0)

/- The number of days of a month. -/
def daysInMonth
    (year : Int)
    (month : Nat) : Nat :=
  if month = 2 then (if isLeapYear year then 29 else 28)
  else if month = 4 ∨ month = 6 ∨ month = 9 ∨ month = 11 then 30
  else 31

/- A day of the proleptic Gregorian calendar. -/
structure Date where
  year : Int
  month : Nat
  day : Nat
  month_mem : 1 ≤ month ∧ month ≤ 12
  day_mem : 1 ≤ day ∧ day ≤ daysInMonth year month
deriving DecidableEq

namespace Date

/- The day with a year, month and day of the month, if there is one. -/
def ofParts?
    (year : Int)
    (month day : Nat) : Option Date :=
  if h : (1 ≤ month ∧ month ≤ 12) ∧
      (1 ≤ day ∧ day ≤ daysInMonth year month) then
    some ⟨year, month, day, h.1, h.2⟩
  else
    none

/-
  The number of days from the first of March of the year 0.
  Years are counted from March, so that the leap day is last.
-/
def dayNumber
    (d : Date) : Int :=
  let year := if d.month ≤ 2 then d.year - 1 else d.year
  let month := (d.month + 9) % 12
  365 * year + year / 4 - year / 100 + year / 400 +
    (153 * month + 2) / 5 + d.day - 1

------------------------------------------------------------
-- Text
------------------------------------------------------------

/-
  The text of a year has four digits at least, and a sign if
  the year is outside of 0 to 9999.
-/
def writeYear
    (year : Int) : List Char :=
  if year < 0 then '-' :: Text.padDigits 4 year.natAbs
  else if year ≤ 9999 then Text.padDigits 4 year.natAbs
  else '+' :: Text.padDigits 4 year.natAbs

/- The text of a day: year, month and day of the month. -/
def writeChars
    (d : Date) : List Char :=
  writeYear d.year ++ '-' :: Text.padDigits 2 d.month ++
    '-' :: Text.padDigits 2 d.day

/- The text of a day. -/
def write
    (d : Date) : String :=
  String.ofList d.writeChars

------------------------------------------------------------
-- Reading
------------------------------------------------------------

/- Between one and `width` digits as a number. -/
def readNumber?
    (width : Nat)
    (text : List Char) : Option (Nat × List Char) :=
  let digits := (text.take width).takeWhile Char.isDigit
  if digits.isEmpty then none
  else some (Text.digitsValue digits, text.drop digits.length)

/-
  A year after blanks.  With a sign it may have any number of
  digits, without a sign four at most.
-/
def readYear?
    (text : List Char) : Option (Int × List Char) :=
  match Text.trimStart text with
  | '-' :: rest =>
      (readNumber? rest.length rest).map fun (n, rest) => (-(n : Int), rest)
  | '+' :: rest =>
      (readNumber? rest.length rest).map fun (n, rest) => ((n : Int), rest)
  | rest => (readNumber? 4 rest).map fun (n, rest) => ((n : Int), rest)

/- A hyphen. -/
def readHyphen? : List Char → Option (List Char)
  | '-' :: rest => some rest
  | _ => none

/- Year, month and day of the month as the whole text. -/
def readFields?
    (text : List Char) : Option Date := do
  let (year, text) ← readYear? text
  let text ← readHyphen? text
  let (month, text) ← readNumber? 2 (Text.trimStart text)
  let text ← readHyphen? text
  let (day, text) ← readNumber? 2 (Text.trimStart text)
  if text.isEmpty then ofParts? year month day else none

/- The byte of a text at a position is a hyphen. -/
def hyphenAt
    (text : String)
    (position : Nat) : Bool :=
  text.toUTF8.data[position]? == some '-'.toUInt8

/-
  The day that a text of ten bytes writes, with hyphens as its
  fifth and eighth byte.  Blanks may fill the front of a field.
-/
def read?
    (text : String) : Option Date :=
  if text.utf8ByteSize == 10 && hyphenAt text 4 && hyphenAt text 7 then
    readFields? text.toList
  else
    none

end Date

end Intake
