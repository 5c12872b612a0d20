import Intake.Text.Property

/-
  This file writes strings, options and records for
  developers.

  Key definitions include:
    * `Text.inspect`
    * `Text.inspectOption`
    * `Text.inspectRecord`
-/

namespace Intake

namespace Text

/- A character by its code point. -/
def codeEscape
    (c : Char) : List Char :=
  ['\\', 'u', '\x7b'] ++ Nat.toDigits 16 c.toNat ++ ['\x7d']

/-
  A character inside of quotes.  What cannot be seen, or
  changes the character before it, is shown by its code point.
-/
def inspectChar
    (c : Char) : List Char :=
  if c.toNat == 0 then ['\\', '0']
  else if c == '\t' then ['\\', 't']
  else if c == '\r' then ['\\', 'r']
  else if c == '\n' then ['\\', 'n']
  else if c == '\\' then ['\\', '\\']
  else if c == '"' then ['\\', '"']
  else if 32 ≤ c.toNat ∧ c.toNat < 127 then [c]
  else if Property.extending.contains c then codeEscape c
  else if Property.unprintable.contains c then codeEscape c
  else [c]

/- A string in quotes. -/
def inspect
    (s : String) : String :=
  "\"" ++ String.ofList (s.toList.flatMap inspectChar) ++ "\""

/- A content that may be absent. -/
def inspectOption : Option String → String
  | none => "None"
  | some content => "Some(" ++ content ++ ")"

/- Contents in brackets. -/
def inspectList
    (contents : List String) : String :=
  "[" ++ ", ".intercalate contents ++ "]"

/- A truth value. -/
def inspectBool
    (b : Bool) : String :=
  if b then "true" else "false"

/-
  A record with its fields.  Points at the end say that it has
  more fields.
-/
def inspectRecord
    (name : String)
    (fields : List (String × String))
    (more : Bool) : String :=
  let entries := fields.map fun (label, content) => label ++ ": " ++ content
  name ++ " \x7b " ++
    ", ".intercalate (if more then entries ++ [".."] else entries) ++ " \x7d"

end Text

end Intake
