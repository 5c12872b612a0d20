/-
  This file defines the blanks of Unicode, the characters with
  the property `White_Space`, and trimming by them.

  Key definitions include:
    * `Text.isBlank`
    * `Text.trimStart`
    * `Text.trim`
-/

namespace Intake

namespace Text

/- The code points with the property `White_Space`. -/
def blankCodes : List Nat :=
  [0x09, 0x0A, 0x0B, 0x0C, 0x0D, 0x20, 0x85, 0xA0, 0x1680,
    0x2000, 0x2001, 0x2002, 0x2003, 0x2004, 0x2005, 0x2006,
    0x2007, 0x2008, 0x2009, 0x200A, 0x2028, 0x2029, 0x202F,
    0x205F, 0x3000]

/- A character with the property `White_Space`. -/
def isBlank
    (c : Char) : Bool :=
  blankCodes.contains c.toNat

/- The text after its leading blanks. -/
def trimStart
    (text : List Char) : List Char :=
  text.dropWhile isBlank

/- The text without blanks at its end. -/
def trimEnd
    (text : List Char) : List Char :=
  (text.reverse.dropWhile isBlank).reverse

/- The text without blanks at either end. -/
def trim
    (text : List Char) : List Char :=
  trimEnd (trimStart text)

end Text

end Intake
