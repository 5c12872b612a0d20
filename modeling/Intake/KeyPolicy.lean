/-
  This file defines which names a schema may give to its
  parameters.

  Key definitions include:
    * `KeyPolicy`
    * `KeyPolicy.accepts`
-/

namespace Intake

/- Names are any strings, or they are identifiers. -/
inductive KeyPolicy where
  | string
  | atom
deriving DecidableEq, Inhabited

namespace KeyPolicy

/- The name of a policy. -/
def name : KeyPolicy → String
  | .string => "string"
  | .atom => "atom"

/- The policy with a name. -/
def ofName?
    (name : String) : Option KeyPolicy :=
  if name == "string" then some .string
  else if name == "atom" then some .atom
  else none

/- A character that may open an identifier: an ASCII letter or `_`. -/
def opensIdentifier
    (c : Char) : Bool :=
  c.isAlpha || c == '_'

/- A character inside an identifier: an ASCII letter, a digit or `_`. -/
def continuesIdentifier
    (c : Char) : Bool :=
  c.isAlphanum || c == '_'

/- A plain ASCII identifier. -/
def isIdentifier : List Char → Bool
  | [] => false
  | c :: rest => opensIdentifier c && rest.all continuesIdentifier

/- A policy accepts a name. -/
def accepts
    (policy : KeyPolicy)
    (name : String) : Bool :=
  match policy with
  | .string => true
  | .atom => isIdentifier name.toList

end KeyPolicy

end Intake
