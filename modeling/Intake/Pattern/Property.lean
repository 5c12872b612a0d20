import Intake.Text.Property
import Intake.Text.Script

/-
  This file finds the sets of characters that patterns refer
  to by names.

  Names are compared without regard to case, blanks, hyphens
  and underscores, and may start with `is`.

  Key definitions include:
    * `looseName`
    * `classNamed?`
    * `classOfValue?`
    * `asciiClass?`
-/

namespace Intake

namespace Pattern

------------------------------------------------------------
-- Names of Unicode
------------------------------------------------------------

/- A name without case, blanks, hyphens and underscores. -/
def stripName
    (name : List Char) : List Char :=
  (name.filter fun c =>
    decide (c.toNat < 128) && c != ' ' && c != '_' && c != '-').map
    Char.toLower

/-
  A name in its loose form.  A leading `is` is dropped, unless
  the name would be `c` then, which means another thing.
-/
def looseName
    (name : List Char) : String :=
  match name with
  | a :: b :: rest =>
      if a.toLower == 'i' && b.toLower == 's' then
        let stripped := stripName rest
        if stripped == ['c'] then "isc" else String.ofList stripped
      else
        String.ofList (stripName name)
  | _ => String.ofList (stripName name)

/-
  The characters of a property, category or script.  Three
  short names stand for categories although they are names of
  other properties too.
-/
def classNamed?
    (name : List Char) : Option CharSet :=
  let name := looseName name
  let category := Category.ofName? name
  if name == "cf" || name == "sc" || name == "lc" then category
  else
    (Property.ofName? name).orElse fun _ =>
      category.orElse fun _ => Script.ofName? name

/- The characters for which a property has a value. -/
def classOfValue?
    (property value : List Char) : Option CharSet :=
  let property := looseName property
  let value := looseName value
  if property == "gc" || property == "generalcategory" then
    Category.ofName? value
  else if property == "sc" || property == "script" then
    Script.ofName? value
  else none

------------------------------------------------------------
-- Classes of ASCII
------------------------------------------------------------

/- The classes of ASCII with their names. -/
def asciiClasses : List (String × List (Nat × Nat)) :=
  [("alnum", [(0x30, 0x39), (0x41, 0x5A), (0x61, 0x7A)]),
    ("alpha", [(0x41, 0x5A), (0x61, 0x7A)]),
    ("ascii", [(0x00, 0x7F)]),
    ("blank", [(0x09, 0x09), (0x20, 0x20)]),
    ("cntrl", [(0x00, 0x1F), (0x7F, 0x7F)]),
    ("digit", [(0x30, 0x39)]),
    ("graph", [(0x21, 0x7E)]),
    ("lower", [(0x61, 0x7A)]),
    ("print", [(0x20, 0x7E)]),
    ("punct", [(0x21, 0x2F), (0x3A, 0x40), (0x5B, 0x60), (0x7B, 0x7E)]),
    ("space", [(0x09, 0x0D), (0x20, 0x20)]),
    ("upper", [(0x41, 0x5A)]),
    ("word", [(0x30, 0x39), (0x41, 0x5A), (0x5F, 0x5F), (0x61, 0x7A)]),
    ("xdigit", [(0x30, 0x39), (0x41, 0x46), (0x61, 0x66)])]

/- The class of ASCII with a name. -/
def asciiClass?
    (name : String) : Option CharSet :=
  (asciiClasses.lookup name).map fun ranges => .ranges ⟨ranges⟩

/- All characters of ASCII. -/
def asciiOnly : CharSet :=
  .range 0 0x7F

/- Digits, blanks or characters of words, as a letter after a backslash says. -/
def letterClass?
    (unicode : Bool)
    (letter : Char) : Option CharSet :=
  if letter == 'd' then
    if unicode then some Category.decimalNumber else asciiClass? "digit"
  else if letter == 's' then
    if unicode then some Property.whiteSpace else asciiClass? "space"
  else if letter == 'w' then
    if unicode then some Property.word else asciiClass? "word"
  else none

end Pattern

end Intake
