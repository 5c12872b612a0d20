import Intake.Binary64.Numeral
import Intake.Raw

/-
  This file writes raw data as compact JSON text.

  Key definitions include:
    * `Raw.quote`
    * `Raw.Number.write`
    * `Raw.write`
-/

namespace Intake

namespace Raw

------------------------------------------------------------
-- Strings
------------------------------------------------------------

/- One hexadecimal digit in lower case. -/
def hexDigit
    (n : Nat) : Char :=
  (Nat.toDigits 16 (n % 16)).headD '0'

/-
  A character inside a JSON string.  Only what JSON demands is
  escaped: the quote, the backslash and the control characters.
-/
def escape
    (c : Char) : List Char :=
  if c == '"' then ['\\', '"']
  else if c == '\\' then ['\\', '\\']
  else if c == '\n' then ['\\', 'n']
  else if c == '\r' then ['\\', 'r']
  else if c == '\t' then ['\\', 't']
  else if c.toNat == 8 then ['\\', 'b']
  else if c.toNat == 12 then ['\\', 'f']
  else if c.toNat < 32 then
    ['\\', 'u', '0', '0', hexDigit (c.toNat / 16), hexDigit c.toNat]
  else [c]

/- A string as JSON text. -/
def quote
    (s : String) : String :=
  "\"" ++ String.ofList (s.toList.flatMap escape) ++ "\""

------------------------------------------------------------
-- Trees
------------------------------------------------------------

/- A number as JSON text. -/
def Number.write : Raw.Number → String
  | .whole k _ => toString k
  | .real x _ => x.write .compact

mutual

/- A tree as JSON text without blanks. -/
def write : Raw → String
  | .null => "null"
  | .bool true => "true"
  | .bool false => "false"
  | .number n => n.write
  | .string s => quote s
  | .array items => "[" ++ ",".intercalate (writeItems items) ++ "]"
  | .object fields =>
      "\x7b" ++ ",".intercalate (writeFields fields) ++ "\x7d"

/- The texts of the items of an array. -/
def writeItems : List Raw → List String
  | [] => []
  | item :: rest => write item :: writeItems rest

/- The texts of the fields of an object. -/
def writeFields : List (String × Raw) → List String
  | [] => []
  | (key, value) :: rest =>
      (quote key ++ ":" ++ write value) :: writeFields rest

end

end Raw

end Intake
