import Intake.Binary64.Numeral
import Intake.Raw

/-
  This file reads JSON text into its syntax tree.

  The tree keeps every field of an object, also a repeated
  one, and keeps a leaf that is well formed but stands for no
  value (a number beyond the doubles, an unpaired surrogate)
  as `none`.  A reader of records can therefore pass over
  parts that it does not need, and `JsonSyntax.toRaw?` accepts
  only what has a value throughout.

  Key definitions include:
    * `JsonSyntax`
    * `JsonSyntax.read?`
    * `JsonSyntax.toRaw?`
    * `Raw.read?`
-/

namespace Intake

------------------------------------------------------------
-- Syntax Trees
------------------------------------------------------------

/- The syntax tree of a JSON text. -/
inductive JsonSyntax where
  | null
  | bool (b : Bool)
  | number (value : Option Raw.Number)
  | string (content : Option String)
  | array (items : List JsonSyntax)
  | object (fields : List (Option String × JsonSyntax))
deriving Inhabited

namespace JsonSyntax

/- The result of reading a part of a text, and the rest of the text. -/
abbrev Reader (α : Type) :=
  List Char → Option (α × List Char)

/- The four blanks of JSON. -/
def isBlank
    (c : Char) : Bool :=
  c == ' ' || c == '\n' || c == '\t' || c == '\r'

/- The text after its leading blanks. -/
def skipBlanks
    (text : List Char) : List Char :=
  text.dropWhile isBlank

/- Read a fixed word. -/
def expect
    (word : List Char)
    (text : List Char) : Option (List Char) :=
  if word.isPrefixOf text then some (text.drop word.length) else none

------------------------------------------------------------
-- Strings
------------------------------------------------------------

/- The value of a hexadecimal digit. -/
def hexValue?
    (c : Char) : Option Nat :=
  if '0' ≤ c ∧ c ≤ '9' then some (c.toNat - '0'.toNat)
  else if 'a' ≤ c ∧ c ≤ 'f' then some (c.toNat - 'a'.toNat + 10)
  else if 'A' ≤ c ∧ c ≤ 'F' then some (c.toNat - 'A'.toNat + 10)
  else none

/- Four hexadecimal digits as a number. -/
def hexUnit? : Reader Nat
  | a :: b :: c :: d :: rest => do
      let a ← hexValue? a
      let b ← hexValue? b
      let c ← hexValue? c
      let d ← hexValue? d
      return (((a * 16 + b) * 16 + c) * 16 + d, rest)
  | _ => none

/- The character of an escape of one letter. -/
def escapeLetter? : Char → Option Char
  | '"' => some '"'
  | '\\' => some '\\'
  | '/' => some '/'
  | 'b' => some '\x08'
  | 'f' => some '\x0c'
  | 'n' => some '\n'
  | 'r' => some '\r'
  | 't' => some '\t'
  | _ => none

/-
  The parts of a string up to its closing quote: characters,
  and 16-bit units that were written as escapes.
-/
def readParts : Nat → Reader (List (Char ⊕ Nat))
  | 0, _ => none
  | _ + 1, [] => none
  | _ + 1, '"' :: rest => some ([], rest)
  | fuel + 1, '\\' :: 'u' :: rest => do
      let (unit, rest) ← hexUnit? rest
      let (parts, rest) ← readParts fuel rest
      return (.inr unit :: parts, rest)
  | fuel + 1, '\\' :: c :: rest => do
      let c ← escapeLetter? c
      let (parts, rest) ← readParts fuel rest
      return (.inl c :: parts, rest)
  | _ + 1, ['\\'] => none
  | fuel + 1, c :: rest =>
      if c.toNat < 32 then none
      else do
        let (parts, rest) ← readParts fuel rest
        return (.inl c :: parts, rest)

/- A unit that opens a surrogate pair. -/
def isHighSurrogate
    (unit : Nat) : Bool :=
  decide (0xD800 ≤ unit) && decide (unit < 0xDC00)

/- A unit that closes a surrogate pair. -/
def isLowSurrogate
    (unit : Nat) : Bool :=
  decide (0xDC00 ≤ unit) && decide (unit < 0xE000)

/- The characters of string parts; a surrogate must be part of a pair. -/
def joinUnits? : List (Char ⊕ Nat) → Option (List Char)
  | [] => some []
  | .inl c :: rest => (joinUnits? rest).map (c :: ·)
  | [.inr unit] =>
      if isHighSurrogate unit || isLowSurrogate unit then none
      else some [Char.ofNat unit]
  | .inr high :: .inr low :: rest =>
      if isHighSurrogate high then
        if isLowSurrogate low then
          let code := 0x10000 + (high - 0xD800) * 0x400 + (low - 0xDC00)
          (joinUnits? rest).map (Char.ofNat code :: ·)
        else none
      else if isLowSurrogate high then none
      else (joinUnits? (.inr low :: rest)).map (Char.ofNat high :: ·)
  | .inr unit :: .inl c :: rest =>
      if isHighSurrogate unit || isLowSurrogate unit then none
      else (joinUnits? (.inl c :: rest)).map (Char.ofNat unit :: ·)

/- A string after its opening quote. -/
def readString
    (text : List Char) : Option (Option String × List Char) := do
  let (parts, rest) ← readParts (text.length + 1) text
  return ((joinUnits? parts).map String.ofList, rest)

------------------------------------------------------------
-- Numbers
------------------------------------------------------------

/- One digit or more. -/
def readDigits : Reader (List Char)
  | text =>
      let digits := text.takeWhile Char.isDigit
      if digits.isEmpty then none
      else some (digits, text.dropWhile Char.isDigit)

/- The digits before the point: no zero stands in front of another digit. -/
def readWhole : Reader (List Char)
  | '0' :: rest =>
      match rest with
      | c :: _ => if c.isDigit then none else some (['0'], rest)
      | [] => some (['0'], [])
  | text => readDigits text

/- The exponent after its letter. -/
def readExponent
    (text : List Char) : Option (Int × List Char) := do
  let (negative, text) := Text.splitSign text
  let (digits, rest) ← readDigits text
  let size : Int := Text.digitsValue digits
  return (if negative then -size else size, rest)

/-
  A number.  Without point and exponent it is a whole number,
  except for the negative zero, which is a double.
-/
def readNumber
    (text : List Char) : Option (Option Raw.Number × List Char) := do
  let (negative, text) :=
    match text with
    | '-' :: rest => (true, rest)
    | _ => (false, text)
  let (whole, text) ← readWhole text
  let (fraction, text) ←
    match text with
    | '.' :: rest => readDigits rest
    | _ => some ([], text)
  let (exponent, rest) ←
    match text with
    | 'e' :: rest => (readExponent rest).map fun (e, r) => (some e, r)
    | 'E' :: rest => (readExponent rest).map fun (e, r) => (some e, r)
    | _ => some (none, text)
  let size := Text.digitsValue (whole ++ fraction)
  if fraction.isEmpty && exponent.isNone then
    if negative && size == 0 then
      return (Raw.Number.ofBinary64? (.zero true), rest)
    else
      return (Raw.Number.ofInt? (if negative then -(size : Int) else size), rest)
  else
    let value := Binary64.ofScientific negative size
      (exponent.getD 0 - fraction.length)
    return (Raw.Number.ofBinary64? value, rest)

------------------------------------------------------------
-- Trees
------------------------------------------------------------

/-
  The elements of a list after its opening bracket, up to the
  closing bracket.  The fuel bounds the number of elements.
-/
def readElements
    (element : Reader α)
    (close : Char) : Nat → Reader (List α)
  | 0, _ => none
  | fuel + 1, text => do
      let (first, rest) ← element text
      match skipBlanks rest with
      | c :: rest =>
          if c == close then return ([first], rest)
          else if c == ',' then
            let (others, rest) ← readElements element close fuel rest
            return (first :: others, rest)
          else none
      | [] => none

/- A list after its opening bracket; it may be empty. -/
def readList
    (element : Reader α)
    (close : Char)
    (text : List Char) : Option (List α × List Char) :=
  match skipBlanks text with
  | c :: rest =>
      if c == close then some ([], rest)
      else readElements element close (text.length + 1) text
  | [] => none

/- A field of an object. -/
def readField
    (value : Reader JsonSyntax)
    (text : List Char) :
    Option ((Option String × JsonSyntax) × List Char) := do
  match skipBlanks text with
  | '"' :: rest =>
      let (key, rest) ← readString rest
      match skipBlanks rest with
      | ':' :: rest =>
          let (content, rest) ← value rest
          return ((key, content), rest)
      | _ => none
  | _ => none

/- A value after blanks.  The fuel bounds the depth of the tree. -/
def readValue : Nat → Reader JsonSyntax
  | 0, _ => none
  | fuel + 1, text =>
      match skipBlanks text with
      | 'n' :: rest => (expect ['u', 'l', 'l'] rest).map ((.null, ·))
      | 't' :: rest => (expect ['r', 'u', 'e'] rest).map ((.bool true, ·))
      | 'f' :: rest =>
          (expect ['a', 'l', 's', 'e'] rest).map ((.bool false, ·))
      | '"' :: rest =>
          (readString rest).map fun (content, rest) => (.string content, rest)
      | '[' :: rest =>
          (readList (readValue fuel) ']' rest).map
            fun (items, rest) => (.array items, rest)
      | '\x7b' :: rest =>
          (readList (readField (readValue fuel)) '\x7d' rest).map
            fun (fields, rest) => (.object fields, rest)
      | text =>
          (readNumber text).map fun (value, rest) => (.number value, rest)

/- The syntax tree of a whole text, with blanks around it. -/
def read?
    (text : String) : Option JsonSyntax :=
  let chars := text.toList
  match readValue (chars.length + 1) chars with
  | some (tree, rest) => if (skipBlanks rest).isEmpty then some tree else none
  | none => none

------------------------------------------------------------
-- Values
------------------------------------------------------------

/- The deepest nesting of arrays and objects that a value may have. -/
def maxNesting : Nat :=
  127

mutual

/-
  The raw data that a syntax tree stands for, nested at most
  to a depth.  Repeated keys are kept as they are.
-/
def toRaw? (depth : Nat) : JsonSyntax → Option Raw
  | .null => some .null
  | .bool b => some (.bool b)
  | .number value => value.map .number
  | .string content => content.map .string
  | .array items =>
      if depth = 0 then none else (itemsToRaw? (depth - 1) items).map .array
  | .object fields =>
      if depth = 0 then none else (fieldsToRaw? (depth - 1) fields).map .object

/- The raw data of the items of an array. -/
def itemsToRaw? (depth : Nat) : List JsonSyntax → Option (List Raw)
  | [] => some []
  | item :: rest => do
      let item ← toRaw? depth item
      let rest ← itemsToRaw? depth rest
      return item :: rest

/- The raw data of the fields of an object. -/
def fieldsToRaw? (depth : Nat) :
    List (Option String × JsonSyntax) → Option (List (String × Raw))
  | [] => some []
  | (key, value) :: rest => do
      let key ← key
      let value ← toRaw? depth value
      let rest ← fieldsToRaw? depth rest
      return (key, value) :: rest

end

end JsonSyntax

/- The raw data of a JSON text, with each key of an object once. -/
def Raw.read?
    (text : String) : Option Raw :=
  (JsonSyntax.read? text).bind fun tree =>
    (tree.toRaw? JsonSyntax.maxNesting).map mergeKeys

end Intake
