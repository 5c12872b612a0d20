import Intake.Raw.Writer
import Intake.Schema.Draft
import Intake.Text.Inspect

/-
  This file writes schemas and their parts for developers.

  Key definitions include:
    * `Value.inspect`
    * `Check.inspect`
    * `Parameter.inspect`
    * `Schema.inspect`
    * `SchemaDraft.inspect`
-/

namespace Intake

------------------------------------------------------------
-- Values
------------------------------------------------------------

/- A content after the name of its constructor. -/
def Value.tagged
    (tag content : String) : String :=
  tag ++ "(" ++ content ++ ")"

mutual

/- A value with its kind. -/
def Value.inspect : Value → String
  | .null => "Null"
  | .bool b => Value.tagged "Bool" (Text.inspectBool b)
  | .integer k _ => Value.tagged "Integer" (toString k)
  | .float x => Value.tagged "Float" (x.write .pointed)
  | .decimal d => Value.tagged "Decimal" d.write
  | .string s => Value.tagged "String" (Text.inspect s)
  | .date d => Value.tagged "Date" d.write
  | .timestamp t => Value.tagged "DateTime" t.write
  | .list items =>
      Value.tagged "List" (Text.inspectList (inspectValues items))
  | .map fields =>
      Value.tagged "Map"
        (Value.braced (", ".intercalate (inspectFields fields)))

/- The items of a list. -/
def inspectValues : List Value → List String
  | [] => []
  | item :: rest => item.inspect :: inspectValues rest

/- The fields of a map. -/
def inspectFields : List (String × Value) → List String
  | [] => []
  | (key, value) :: rest =>
      (Text.inspect key ++ ": " ++ value.inspect) :: inspectFields rest

end

------------------------------------------------------------
-- Checks
------------------------------------------------------------

/- Bounds with all five relations. -/
def Bounds.inspect
    (bounds : Bounds) : String :=
  let entry (bound : Option Decimal) :=
    Text.inspectOption (bound.map Decimal.write)
  Text.inspectRecord "Bounds"
    [("gt", entry bounds.gt),
      ("gte", entry bounds.gte),
      ("lt", entry bounds.lt),
      ("lte", entry bounds.lte),
      ("eq", entry bounds.eq)]
    false

/- A constraint that is not a function. -/
def Check.builtin
    (content : String) : String :=
  Value.tagged "Validator::Builtin" content

/- A check with its constraint. -/
def Check.inspect : Check Pattern → String
  | .custom _ => "Validator::Custom"
  | .numericality bounds =>
      Check.builtin (Value.tagged "Numericality" bounds.inspect)
  | .length bounds => Check.builtin (Value.tagged "Length" bounds.inspect)
  | .size bounds => Check.builtin (Value.tagged "Size" bounds.inspect)
  | .among allowed =>
      Check.builtin
        (Value.tagged "In" (Text.inspectList (allowed.map Value.inspect)))
  | .format pattern =>
      Check.builtin
        (Value.tagged "Format"
          (Value.tagged "Regex" (Text.inspect pattern.source)))

------------------------------------------------------------
-- Parameters
------------------------------------------------------------

/- A declared type. -/
def TypeExpr.inspect
    (type : TypeExpr Schema) : String :=
  Value.tagged "TypeRef" type.write

/- A resolved type. -/
def Resolved.inspect
    (type : Resolved Schema) : String :=
  Value.tagged "ResolvedType" type.name

/- The name of a source. -/
def Source.inspect : Source → String
  | .auto => "Auto"
  | .path => "Path"
  | .body => "Body"
  | .query => "Query"

/- A default; of a function only the number of arguments is shown. -/
def DefaultRule.inspect : DefaultRule → String
  | .none => "None"
  | .fixed raw => Value.tagged "Static" raw.write
  | .nullary _ => "Provider(fn/0)"
  | .unary _ => "Provider(fn/1)"

/- A usable parameter. -/
def Parameter.inspect
    (param : Parameter Schema) : String :=
  Text.inspectRecord "ParamDef"
    [("name", Text.inspect param.name),
      ("type", Text.inspect param.type.write),
      ("required", Text.inspectBool param.required),
      ("source", param.source.inspect),
      ("default", param.default.inspect),
      ("validator",
        Text.inspectOption
          (param.check.map fun check => Text.inspect check.kind))]
    false

/- A declared parameter. -/
def ParameterDraft.inspect
    (draft : ParameterDraft) : String :=
  Text.inspectRecord "ParamBuilder"
    [("name", Text.inspect draft.name),
      ("type", Text.inspect draft.type.write),
      ("validators",
        Text.inspectList
          (draft.checks.map fun check => Text.inspect check.kind))]
    true

------------------------------------------------------------
-- Schemas
------------------------------------------------------------

/- The name of a policy. -/
def KeyPolicy.inspect : KeyPolicy → String
  | .string => "String"
  | .atom => "Atom"

/- A check of a whole schema. -/
def GlobalCheck.inspect
    (check : GlobalCheck) : String :=
  Text.inspectRecord "GlobalValidator"
    [("halt", Text.inspectBool check.halts)] true

/- A usable schema. -/
def Schema.inspect
    (schema : Schema) : String :=
  Text.inspectRecord "Schema"
    [("name", Text.inspect schema.name),
      ("params", Text.inspectList (schema.params.map Parameter.inspect)),
      ("globals", toString schema.globals.length),
      ("key_policy", schema.keyPolicy.inspect)]
    false

/- A declared schema. -/
def SchemaDraft.inspect
    (draft : SchemaDraft) : String :=
  Text.inspectRecord "SchemaBuilder"
    [("name", Text.inspect draft.name),
      ("params", Text.inspectList (draft.params.map ParameterDraft.inspect)),
      ("globals", toString draft.globals.length)]
    true

/- A type of a table. -/
def TypeTable.inspectType
    (name : String) : String :=
  Text.inspectRecord "TypeDef" [("name", Text.inspect name)] false

end Intake
