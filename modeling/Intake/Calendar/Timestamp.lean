import Intake.Calendar.Date

/-
  This file defines points in time with a local time and an
  offset from universal time, their RFC 3339 text, and the
  reader of that text.

  Key definitions include:
    * `Timestamp`
    * `Timestamp.sameInstant`
    * `Timestamp.write`
    * `Timestamp.writeShort`
    * `Timestamp.read?`
-/

namespace Intake

------------------------------------------------------------
-- Timestamps
------------------------------------------------------------

/-
  A local time with its offset, in minutes, from universal
  time.  The nanoseconds of a leap second go on counting from
  the second before it.
-/
structure Timestamp where
  date : Date
  hour : Nat
  minute : Nat
  second : Nat
  nanosecond : Nat
  offset : Int
  hour_lt : hour < 24
  minute_lt : minute < 60
  second_lt : second < 60
  nanosecond_lt : nanosecond < 2 * tenTo 9
  offset_lt : offset.natAbs < 24 * 60
deriving DecidableEq

namespace Timestamp

/- The seconds of universal time since a fixed day, leap seconds aside. -/
def instant
    (t : Timestamp) : Int :=
  ((t.date.dayNumber * 24 + t.hour) * 60 + t.minute - t.offset) * 60 +
    t.second

/- Two local times stand for the same point in time. -/
def sameInstant
    (a b : Timestamp) : Bool :=
  a.instant == b.instant && a.nanosecond == b.nanosecond

------------------------------------------------------------
-- Text
------------------------------------------------------------

/-
  A fraction of a second in as many groups of three digits as
  it needs.
-/
def writeFraction
    (nanosecond : Nat) : List Char :=
  if nanosecond = 0 then []
  else if nanosecond % tenTo 6 = 0 then
    '.' :: Text.padDigits 3 (nanosecond / tenTo 6)
  else if nanosecond % tenTo 3 = 0 then
    '.' :: Text.padDigits 6 (nanosecond / tenTo 3)
  else
    '.' :: Text.padDigits 9 nanosecond

/- An offset as sign, hours and minutes. -/
def writeOffset
    (offset : Int) : List Char :=
  (if offset < 0 then '-' else '+') ::
    (Text.padDigits 2 (offset.natAbs / 60) ++
      ':' :: Text.padDigits 2 (offset.natAbs % 60))

/- The local time; a leap second is second 60. -/
def writeLocal
    (t : Timestamp) : List Char :=
  let leap := decide (tenTo 9 ≤ t.nanosecond)
  let second := if leap then t.second + 1 else t.second
  let nanosecond := if leap then t.nanosecond - tenTo 9 else t.nanosecond
  t.date.writeChars ++ 'T' :: Text.padDigits 2 t.hour ++
    ':' :: Text.padDigits 2 t.minute ++
    ':' :: Text.padDigits 2 second ++ writeFraction nanosecond

/- The text of a timestamp, with its offset in numbers. -/
def write
    (t : Timestamp) : String :=
  String.ofList (t.writeLocal ++ writeOffset t.offset)

/- The text of a timestamp, with `Z` for universal time. -/
def writeShort
    (t : Timestamp) : String :=
  String.ofList
    (t.writeLocal ++ if t.offset = 0 then ['Z'] else writeOffset t.offset)

------------------------------------------------------------
-- Reading
------------------------------------------------------------

/- A number of exactly `width` digits. -/
def readExact?
    (width : Nat)
    (text : List Char) : Option (Nat × List Char) :=
  let digits := text.take width
  if digits.length == width && digits.all Char.isDigit then
    some (Text.digitsValue digits, text.drop width)
  else
    none

/- One character that passes a test. -/
def readChar?
    (test : Char → Bool) : List Char → Option (List Char)
  | c :: rest => if test c then some rest else none
  | [] => none

/-
  An optional fraction of a second, in nanoseconds.  Digits
  after the ninth are passed over.
-/
def readFraction?
    (text : List Char) : Option (Nat × List Char) :=
  match text with
  | '.' :: rest =>
      let digits := rest.takeWhile Char.isDigit
      if digits.isEmpty then none
      else
        let kept := digits.take 9
        some
          (Text.digitsValue kept * tenTo (9 - kept.length),
            rest.dropWhile Char.isDigit)
  | _ => some (0, text)

/-
  An offset in minutes: `Z`, or a sign with hours and minutes.
  The minus sign of typography is a sign too.
-/
def readOffset?
    (text : List Char) : Option (Int × List Char) :=
  match text with
  | [] => none
  | c :: rest =>
      if c == 'Z' || c == 'z' then some (0, rest)
      else if c == '+' || c == '-' || c == '\u2212' then do
        let (hours, rest) ← readExact? 2 rest
        let rest ← readChar? (· == ':') rest
        let (minutes, rest) ← readExact? 2 rest
        if minutes < 60 then
          let size : Int := hours * 60 + minutes
          return (if c == '+' then size else -size, rest)
        else
          none
      else none

/- A timestamp from its fields; second 60 is a leap second. -/
def ofFields?
    (date : Date)
    (hour minute second nanosecond : Nat)
    (offset : Int) : Option Timestamp :=
  let leap := second == 60
  let second := if leap then 59 else second
  let nanosecond := if leap then nanosecond + tenTo 9 else nanosecond
  if h : (hour < 24 ∧ minute < 60 ∧ second < 60) ∧
      nanosecond < 2 * tenTo 9 ∧ offset.natAbs < 24 * 60 then
    some ⟨date, hour, minute, second, nanosecond, offset,
      h.1.1, h.1.2.1, h.1.2.2, h.2.1, h.2.2⟩
  else
    none

/- The timestamp that the whole text writes. -/
def readChars?
    (text : List Char) : Option Timestamp := do
  let (year, text) ← readExact? 4 text
  let text ← readChar? (· == '-') text
  let (month, text) ← readExact? 2 text
  let text ← readChar? (· == '-') text
  let (day, text) ← readExact? 2 text
  let text ← readChar? (fun c => c == 'T' || c == 't' || c == ' ') text
  let (hour, text) ← readExact? 2 text
  let text ← readChar? (· == ':') text
  let (minute, text) ← readExact? 2 text
  let text ← readChar? (· == ':') text
  let (second, text) ← readExact? 2 text
  let (nanosecond, text) ← readFraction? text
  let (offset, text) ← readOffset? text
  let date ← Date.ofParts? year month day
  if text.isEmpty then
    ofFields? date hour minute second nanosecond offset
  else
    none

/- The timestamp that an RFC 3339 text writes. -/
def read?
    (text : String) : Option Timestamp :=
  readChars? text.toList

end Timestamp

end Intake
