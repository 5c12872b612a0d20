import Intake.Constraint
import Intake.Input
import Intake.KeyPolicy
import Intake.Typing.TypeTable

/-
  This file defines schemas.  A schema declares the parameters
  of an input, one after the other, and the checks that
  concern several of them.  A parameter can refer to another
  schema, which had to be there first, so schemas are finite
  trees.

  Key definitions include:
    * `TypeExpr`
    * `Resolved`
    * `DefaultRule`
    * `Parameter`
    * `GlobalCheck`
    * `Schema`
-/

namespace Intake

------------------------------------------------------------
-- Types
------------------------------------------------------------

/- A type as a parameter declares it, over schemas of type `S`. -/
inductive TypeExpr (S : Type) where
  | scalar (name : String)
  | arrayOf (element : TypeExpr S)
  | nested (schema : S)
  | arrayOfNested (schema : S)

/-
  An array of a declared type.  An array of objects of one
  schema has a form of its own.
-/
def TypeExpr.array : TypeExpr S → TypeExpr S
  | .nested schema => .arrayOfNested schema
  | element => .arrayOf element

/-
  What a declared type means for raw data: a coercer, one
  object of a schema, or an array of such objects.
-/
inductive Resolved (S : Type) where
  | coerced (name : String) (coerce : Coercer)
  | nested (schema : S)
  | nestedList (schema : S)

------------------------------------------------------------
-- Parameters
------------------------------------------------------------

/-
  What stands in for an absent or null parameter: fixed data,
  data from a function without argument, or data from the raw
  input.
-/
inductive DefaultRule where
  | none
  | fixed (raw : Raw)
  | nullary (provide : Unit → Raw)
  | unary (provide : Input → Raw)

namespace DefaultRule

/- There is no default. -/
def isNone : DefaultRule → Bool
  | .none => true
  | _ => false

/- The raw data that a rule gives for an input. -/
def provide? : DefaultRule → Input → Option Raw
  | .none, _ => Option.none
  | .fixed raw, _ => some raw
  | .nullary provide, _ => some (provide ())
  | .unary provide, input => some (provide input)

end DefaultRule

/- A usable parameter. -/
structure Parameter (S : Type) where
  name : String
  type : TypeExpr S
  resolved : Resolved S
  required : Bool
  source : Source
  default : DefaultRule
  check : Option (Check Pattern)

------------------------------------------------------------
-- Schemas
------------------------------------------------------------

/-
  A check of the values of all parameters together.  A halting
  check that fails stops the checks after it.
-/
structure GlobalCheck where
  test : Params → Except String Unit
  halts : Bool

/- A usable schema. -/
structure Schema where
  name : String
  params : List (Parameter Schema)
  types : TypeTable
  globals : List GlobalCheck
  keyPolicy : KeyPolicy

namespace Schema

/- The parameter with a name. -/
def param?
    (schema : Schema)
    (name : String) : Option (Parameter Schema) :=
  schema.params.find? fun param => param.name == name

end Schema

end Intake
