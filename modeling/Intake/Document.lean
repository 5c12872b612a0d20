import Intake.Fields
import Intake.Power

/-
  This file defines the tree that a settings document stands
  for, in either of the two formats of documents.

  Key definitions include:
    * `DocumentFormat`
    * `Document`
    * `Document.text?`
    * `Document.flag?`
    * `Document.whole?`
-/

namespace Intake

------------------------------------------------------------
-- Formats
------------------------------------------------------------

/- The formats that a document may be written in. -/
inductive DocumentFormat where
  | toml
  | json
deriving DecidableEq, Inhabited

namespace DocumentFormat

/- The name of a format. -/
def name : DocumentFormat → String
  | .toml => "toml"
  | .json => "json"

/- The format with a name in lower case. -/
def ofName?
    (name : String) : Option DocumentFormat :=
  if name == "toml" then some .toml
  else if name == "json" then some .json
  else none

end DocumentFormat

------------------------------------------------------------
-- Trees
------------------------------------------------------------

/-
  The content of a document.  A leaf that no setting can have,
  such as a fraction or a time of day, is `other`.
-/
inductive Document where
  | null
  | flag (b : Bool)
  | whole (k : Int)
  | text (s : String)
  | other
  | list (items : List Document)
  | table (fields : List (String × Document))
deriving Inhabited

namespace Document

/- The content of a text. -/
def text? : Document → Option String
  | .text s => some s
  | _ => none

/- The content of a truth value. -/
def flag? : Document → Option Bool
  | .flag b => some b
  | _ => none

/- The largest number that a setting can have. -/
def maxWhole : Nat :=
  twoTo 64 - 1

/- The content of a natural number. -/
def whole? : Document → Option Nat
  | .whole (.ofNat n) => if n ≤ maxWhole then some n else none
  | _ => none

/- A list or table without contents. -/
def isEmpty : Document → Bool
  | .list items => items.isEmpty
  | .table fields => fields.isEmpty
  | _ => false

end Document

end Intake
