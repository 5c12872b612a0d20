/-
  This file defines sets of characters that are given by
  ranges of code points.

  A table of ranges is written in lines of hexadecimal text,
  such as `41-5A 61-7A AA`.

  Key definitions include:
    * `CodeRanges`
    * `CodeRanges.contains`
    * `CodeRanges.ofLines`
-/

namespace Intake

/- Code points from each first to each second number, inclusive. -/
structure CodeRanges where
  ranges : List (Nat × Nat)

namespace CodeRanges

/- A code point lies in one of the ranges. -/
def containsCode
    (set : CodeRanges)
    (code : Nat) : Bool :=
  set.ranges.any fun (low, high) =>
    decide (low ≤ code) && decide (code ≤ high)

/- A character lies in one of the ranges. -/
def contains
    (set : CodeRanges)
    (c : Char) : Bool :=
  set.containsCode c.toNat

/- The value of a hexadecimal digit in upper case. -/
def digitValue
    (c : Char) : Nat :=
  if c.isDigit then c.toNat - '0'.toNat else c.toNat - 'A'.toNat + 10

/- What has been read of a line of ranges. -/
structure Scan where
  ranges : List (Nat × Nat)
  low : Option Nat
  code : Nat
  started : Bool

/- The range that ends here, in front of the ranges before it. -/
def Scan.close
    (scan : Scan) : List (Nat × Nat) :=
  if scan.started then
    (scan.low.getD scan.code, scan.code) :: scan.ranges
  else
    scan.ranges

/- Read one character of a line of ranges. -/
def Scan.step
    (scan : Scan)
    (c : Char) : Scan :=
  if c == ' ' then ⟨scan.close, none, 0, false⟩
  else if c == '-' then { scan with low := some scan.code, code := 0 }
  else { scan with code := scan.code * 16 + digitValue c, started := true }

/- The ranges of a line, in order. -/
def ofLine
    (line : String) : List (Nat × Nat) :=
  (line.toList.foldl Scan.step ⟨[], none, 0, false⟩).close.reverse

/- The ranges of a table. -/
def ofLines
    (lines : List String) : CodeRanges :=
  ⟨lines.flatMap ofLine⟩

end CodeRanges

end Intake
