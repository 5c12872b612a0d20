import Intake.Document
import Intake.Raw.Syntax

/-
  This file reads settings documents that are written in JSON.

  Key definitions include:
    * `JsonSyntax.toDocument?`
    * `Document.readJson?`
-/

namespace Intake

namespace JsonSyntax

/- The leaf for a number. -/
def numberLeaf : Raw.Number → Document
  | .whole k _ => .whole k
  | .real _ _ => .other

/- All names are different. -/
def distinctNames : List String → Bool
  | [] => true
  | name :: rest => !rest.contains name && distinctNames rest

mutual

/-
  The document of a syntax tree, nested at most to a depth.
  A table must not have two fields of one name.
-/
def toDocument? (depth : Nat) : JsonSyntax → Option Document
  | .null => some .null
  | .bool b => some (.flag b)
  | .number value => value.map numberLeaf
  | .string content => content.map .text
  | .array items =>
      if depth = 0 then none
      else (itemsToDocument? (depth - 1) items).map .list
  | .object fields =>
      if depth = 0 then none
      else do
        let fields ← fieldsToDocument? (depth - 1) fields
        if distinctNames (Fields.names fields) then some (.table fields)
        else none

/- The documents of the items of an array. -/
def itemsToDocument? (depth : Nat) :
    List JsonSyntax → Option (List Document)
  | [] => some []
  | item :: rest => do
      let item ← toDocument? depth item
      let rest ← itemsToDocument? depth rest
      return item :: rest

/- The documents of the fields of an object. -/
def fieldsToDocument? (depth : Nat) :
    List (Option String × JsonSyntax) → Option (List (String × Document))
  | [] => some []
  | (key, value) :: rest => do
      let key ← key
      let value ← toDocument? depth value
      let rest ← fieldsToDocument? depth rest
      return (key, value) :: rest

end

end JsonSyntax

/- The document that a JSON text writes. -/
def Document.readJson?
    (text : String) : Option Document :=
  (JsonSyntax.read? text).bind fun tree =>
    tree.toDocument? JsonSyntax.maxNesting

end Intake
