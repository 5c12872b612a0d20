import Intake.Calendar.Timestamp
import Intake.Document
import Intake.Document.Toml.Text

/-
  This file reads the leaves of a TOML document: numbers,
  truth values, dates and times.

  Dates, times and fractions are checked, but all of them
  stand for the leaf `other`.

  Key definitions include:
    * `Toml.number`
    * `Toml.moment`
    * `Toml.scalar`
-/

namespace Intake

namespace Toml

------------------------------------------------------------
-- Digits
------------------------------------------------------------

/-
  Underscores stand between digits only: none is first, last,
  or next to another.
-/
def wellSpaced (afterDigit : Bool) : List Char → Bool
  | [] => afterDigit
  | c :: rest =>
      if c == '_' then afterDigit && wellSpaced false rest
      else wellSpaced true rest

/- One digit or more, with underscores between them left out. -/
def digits
    (isDigit : Char → Bool)
    (text : List Char) : Option (List Char × List Char) :=
  let inRun (c : Char) := isDigit c || c == '_'
  let run := text.takeWhile inRun
  if wellSpaced false run then
    some (run.filter (· != '_'), text.dropWhile inRun)
  else none

/- The number that digits of a base write. -/
def valueInBase
    (base : Nat)
    (ds : List Char) : Nat :=
  ds.foldl (fun n c => base * n + (JsonSyntax.hexValue? c).getD 0) 0

/- A digit of a base up to sixteen. -/
def isDigitOf
    (base : Nat)
    (c : Char) : Bool :=
  match JsonSyntax.hexValue? c with
  | some n => decide (n < base)
  | none => false

------------------------------------------------------------
-- Numbers
------------------------------------------------------------

/- The leaf for an integer, which has to fit into 64 bits. -/
def wholeLeaf?
    (k : Int) : Option Document :=
  if FitsSigned k then some (.whole k) else none

/- A whole number in a base, after the letter of the base. -/
def inBase
    (base : Nat)
    (text : List Char) : Option (Document × List Char) := do
  let (ds, rest) ← digits (isDigitOf base) text
  return (← wholeLeaf? (valueInBase base ds), rest)

/- The exponent of a number, after its letter. -/
def exponent
    (text : List Char) : Option (Int × List Char) := do
  let (negative, text) := Text.splitSign text
  let (ds, rest) ← digits Char.isDigit text
  let size : Int := Text.digitsValue ds
  return (if negative then -size else size, rest)

/-
  A decimal number after its sign.  With a point or an exponent
  it is a fraction, which must not be too large for a double.
-/
def decimal
    (negative : Bool)
    (text : List Char) : Option (Document × List Char) := do
  let (whole, rest) ← digits Char.isDigit text
  if whole.head? == some '0' && whole.length != 1 then none
  else
    let (fraction, rest) ←
      match rest with
      | '.' :: rest =>
          (digits Char.isDigit rest).map fun (ds, rest) => (some ds, rest)
      | _ => some (none, rest)
    let (power, rest) ←
      match rest with
      | 'e' :: rest =>
          (exponent rest).map fun (power, rest) => (some power, rest)
      | 'E' :: rest =>
          (exponent rest).map fun (power, rest) => (some power, rest)
      | _ => some (none, rest)
    if fraction.isNone && power.isNone then
      let size : Int := Text.digitsValue whole
      return (← wholeLeaf? (if negative then -size else size), rest)
    else
      let places := fraction.getD []
      let value := Binary64.ofScientific negative
        (Text.digitsValue (whole ++ places))
        (power.getD 0 - places.length)
      if value = Binary64.infinity false then none else some (.other, rest)

/- The text after a fixed word. -/
def afterWord?
    (word : String)
    (text : List Char) : Option (List Char) :=
  JsonSyntax.expect word.toList text

/- A number, or one of the names of doubles that are no numbers. -/
def number
    (text : List Char) : Option (Document × List Char) :=
  match text with
  | '0' :: 'x' :: rest => inBase 16 rest
  | '0' :: 'o' :: rest => inBase 8 rest
  | '0' :: 'b' :: rest => inBase 2 rest
  | _ =>
      let (negative, body) := Text.splitSign text
      match (afterWord? "inf" body).orElse fun _ => afterWord? "nan" body with
      | some rest => some (.other, rest)
      | none => decimal negative body

------------------------------------------------------------
-- Dates and Times
------------------------------------------------------------

/- The text after a day of the calendar. -/
def date
    (text : List Char) : Option (List Char) := do
  let (year, text) ← Timestamp.readExact? 4 text
  let text ← Timestamp.readChar? (· == '-') text
  let (month, text) ← Timestamp.readExact? 2 text
  let text ← Timestamp.readChar? (· == '-') text
  let (day, text) ← Timestamp.readExact? 2 text
  let _ ← Date.ofParts? year month day
  return text

/- The text after a time of day. -/
def clock
    (text : List Char) : Option (List Char) := do
  let (hour, text) ← Timestamp.readExact? 2 text
  let text ← Timestamp.readChar? (· == ':') text
  let (minute, text) ← Timestamp.readExact? 2 text
  let text ← Timestamp.readChar? (· == ':') text
  let (second, text) ← Timestamp.readExact? 2 text
  let (_, text) ← Timestamp.readFraction? text
  if hour < 24 ∧ minute < 60 ∧ second ≤ 60 then some text else none

/- The text after an offset from universal time. -/
def offset
    (text : List Char) : Option (List Char) :=
  match text with
  | c :: rest =>
      if c == 'Z' || c == 'z' then some rest
      else if c == '+' || c == '-' then do
        let (hours, rest) ← Timestamp.readExact? 2 rest
        let rest ← Timestamp.readChar? (· == ':') rest
        let (minutes, rest) ← Timestamp.readExact? 2 rest
        if hours < 24 ∧ minutes < 60 then some rest else none
      else none
  | [] => none

/- A time after the mark between a date and its time. -/
def clockAfterDate
    (text : List Char) : Option (List Char) := do
  let text ← Timestamp.readChar?
    (fun c => c == 'T' || c == 't' || c == ' ') text
  let text ← clock text
  return (offset text).getD text

/- A date, a time of day, or both, of which only both have an offset. -/
def moment
    (text : List Char) : Option (Document × List Char) :=
  let rest :=
    match date text with
    | some rest => some ((clockAfterDate rest).getD rest)
    | none => clock text
  rest.map fun rest => (.other, rest)

------------------------------------------------------------
-- Leaves
------------------------------------------------------------

/- A leaf of a document. -/
def scalar
    (text : List Char) : Option (Document × List Char) :=
  match text with
  | '"' :: _ => (string text).map fun (s, rest) => (.text s, rest)
  | '\'' :: _ => (string text).map fun (s, rest) => (.text s, rest)
  | 't' :: _ => (afterWord? "true" text).map fun rest => (.flag true, rest)
  | 'f' :: _ => (afterWord? "false" text).map fun rest => (.flag false, rest)
  | _ => (moment text).orElse fun _ => number text

end Toml

end Intake
