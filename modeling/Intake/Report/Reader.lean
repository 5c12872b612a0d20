import Intake.Raw.Syntax
import Intake.Report

/-
  This file reads error records from JSON text.

  A record is an object, in which fields of other names are
  passed over, or an array of path, message and code.

  Key definitions include:
    * `JsonSyntax.field?`
    * `JsonSyntax.unitVariant?`
    * `ErrorRecord.read?`
-/

namespace Intake

------------------------------------------------------------
-- Parts of Records
------------------------------------------------------------

namespace JsonSyntax

/- All keys of an object have a value as strings. -/
def keysValid
    (fields : List (Option String × JsonSyntax)) : Bool :=
  fields.all fun field => field.1.isSome

/-
  The value of a field, if the object has it.  A field that is
  there twice is refused.
-/
def field?
    (fields : List (Option String × JsonSyntax))
    (name : String) : Option (Option JsonSyntax) :=
  match fields.filter fun field => field.1 == some name with
  | [] => some none
  | [(_, value)] => some (some value)
  | _ => none

/- The content of a string. -/
def text? : JsonSyntax → Option String
  | .string content => content
  | _ => none

/- The content of a string, or nothing for null. -/
def optionalText? : JsonSyntax → Option (Option String)
  | .null => some none
  | .string content => content.map some
  | _ => none

/-
  The name of a choice without contents: a string, or an
  object whose only field has that key and the value null.
-/
def unitVariant? : JsonSyntax → Option String
  | .string content => content
  | .object [(key, .null)] => key
  | _ => none

end JsonSyntax

------------------------------------------------------------
-- Error Records
------------------------------------------------------------

namespace ErrorRecord

/- The code that a syntax tree names. -/
def codeOf?
    (tree : JsonSyntax) : Option ErrorCode :=
  tree.unitVariant?.bind ErrorCode.ofName?

/- The record that a syntax tree stands for. -/
def ofSyntax? : JsonSyntax → Option ErrorRecord
  | .object fields =>
      if JsonSyntax.keysValid fields then do
        let param ←
          match ← JsonSyntax.field? fields "param" with
          | some tree => tree.optionalText?
          | none => some none
        let message ← (← JsonSyntax.field? fields "message")
        let code ← (← JsonSyntax.field? fields "error_code")
        return ⟨param, ← message.text?, ← codeOf? code⟩
      else none
  | .array [param, message, code] => do
      return ⟨← param.optionalText?, ← message.text?, ← codeOf? code⟩
  | _ => none

/- The record that a JSON text writes. -/
def read?
    (text : String) : Option ErrorRecord :=
  (JsonSyntax.read? text).bind ofSyntax?

end ErrorRecord

end Intake
