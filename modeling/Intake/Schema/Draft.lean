import Intake.Schema.Resolution

/-
  This file defines drafts of schemas and builds schemas from
  them.  Building finds every error of a draft, in the order
  of its parameters, and reports the first one.  The library of
  patterns is given to it.

  Key definitions include:
    * `SchemaError`
    * `ParameterDraft`
    * `SchemaDraft`
    * `SchemaDraft.errors`
    * `SchemaDraft.build`
-/

namespace Intake

------------------------------------------------------------
-- Errors
------------------------------------------------------------

/- Why a name cannot be the name of a parameter. -/
inductive NameFault where
  | empty
  | notAccepted (policy : KeyPolicy)
deriving DecidableEq

/- Why a draft is not a schema. -/
inductive SchemaError where
  | unresolvedType (param typeName : String)
  | unsupportedType (param typeName : String)
  | duplicateParam (name : String)
  | conflictingChecks (param first second : String)
  | invalidPattern (param pattern reason : String)
  | emptyConstraint (param kind : String)
  | invalidName (name : String) (fault : NameFault)
deriving DecidableEq

/- Why a name cannot be used, in words. -/
def NameFault.message : NameFault → String
  | .empty => "name must not be empty"
  | .notAccepted policy =>
      "not an identifier under the " ++ policy.name ++ " key policy"

/- Text between single quotation marks. -/
def SchemaError.quoted
    (text : String) : String :=
  "'" ++ text ++ "'"

/- An error in words. -/
def SchemaError.message : SchemaError → String
  | .unresolvedType param typeName =>
      "parameter " ++ quoted param ++ " references unknown type " ++
        quoted typeName
  | .unsupportedType param typeName =>
      "parameter " ++ quoted param ++ " uses unsupported type " ++
        quoted typeName ++
        ": lists of lists of nested schemas are not supported"
  | .duplicateParam name => "duplicate parameter " ++ quoted name
  | .conflictingChecks param first second =>
      "parameter " ++ quoted param ++
        " configures more than one validator (" ++ first ++ " and " ++
        second ++ ")"
  | .invalidPattern param pattern reason =>
      "parameter " ++ quoted param ++ " has an invalid pattern " ++
        quoted pattern ++ ": " ++ reason
  | .emptyConstraint param kind =>
      "parameter " ++ quoted param ++ " has an empty " ++ kind ++
        " constraint"
  | .invalidName name fault =>
      "invalid parameter name " ++ quoted name ++ ": " ++ fault.message

/- The error of a type at a parameter. -/
def SchemaError.ofTypeError
    (param : String) : TypeError → SchemaError
  | .unknown typeName => .unresolvedType param typeName
  | .unsupported typeName => .unsupportedType param typeName

/- The error of a check at a parameter. -/
def SchemaError.ofCheckError
    (param : String) : CheckError → SchemaError
  | .emptyConstraint kind => .emptyConstraint param kind
  | .invalidPattern pattern reason => .invalidPattern param pattern reason

------------------------------------------------------------
-- Parameters
------------------------------------------------------------

/-
  A parameter as it is declared.  Nothing about it has been
  looked at, and more than one check may be declared.
-/
structure ParameterDraft where
  name : String
  type : TypeExpr Schema
  required : Bool
  source : Source
  default : DefaultRule
  checks : List (Check String)

namespace ParameterDraft

/- An optional parameter of the unified bucket. -/
def ofType
    (name : String)
    (type : TypeExpr Schema) : ParameterDraft :=
  ⟨name, type, false, .auto, .none, []⟩

/- What is wrong with a name under a policy. -/
def nameFault?
    (policy : KeyPolicy)
    (name : String) : Option NameFault :=
  if name.isEmpty then some .empty
  else if policy.accepts name then none
  else some (.notAccepted policy)

/- The only check of a parameter, if there is one, in its usable form. -/
def compileChecks
    (patterns : PatternLibrary)
    (param : String) :
    List (Check String) → Except SchemaError (Option (Check Pattern))
  | [] => .ok none
  | [check] =>
      match check.compile patterns with
      | .ok usable => .ok (some usable)
      | .error e => .error (.ofCheckError param e)
  | first :: second :: _ =>
      .error (.conflictingChecks param first.kind second.kind)

/- The usable parameter, or every error of its name, type and check. -/
def resolve
    (patterns : PatternLibrary)
    (types : TypeTable)
    (policy : KeyPolicy)
    (draft : ParameterDraft) :
    Except (List SchemaError) (Parameter Schema) :=
  let nameErrors : List SchemaError :=
    match nameFault? policy draft.name with
    | some fault => [.invalidName draft.name fault]
    | none => []
  match draft.type.resolve types,
      compileChecks patterns draft.name draft.checks with
  | .ok resolved, .ok check =>
      if nameErrors.isEmpty then
        .ok ⟨draft.name, draft.type, resolved, draft.required,
          draft.source, draft.default, check⟩
      else
        .error nameErrors
  | .error e, .ok _ => .error (nameErrors ++ [.ofTypeError draft.name e])
  | .ok _, .error e => .error (nameErrors ++ [e])
  | .error e, .error e' =>
      .error (nameErrors ++ [.ofTypeError draft.name e, e'])

end ParameterDraft

------------------------------------------------------------
-- Schemas
------------------------------------------------------------

/- A schema as it is declared. -/
structure SchemaDraft where
  name : String
  types : TypeTable
  params : List ParameterDraft
  globals : List GlobalCheck
  keyPolicy : KeyPolicy

namespace SchemaDraft

/- A draft without parameters, with the builtin types. -/
def ofName
    (name : String) : SchemaDraft :=
  ⟨name, .builtins, [], [], .string⟩

/-
  Resolve parameters in order.  A parameter whose name came
  before is an error, and nothing else of it is looked at.
-/
def resolveParams
    (patterns : PatternLibrary)
    (types : TypeTable)
    (policy : KeyPolicy)
    (seen : List String) :
    List ParameterDraft →
    List (Except (List SchemaError) (Parameter Schema))
  | [] => []
  | draft :: rest =>
      (if seen.contains draft.name then
        .error [.duplicateParam draft.name]
      else
        draft.resolve patterns types policy) ::
      resolveParams patterns types policy (draft.name :: seen) rest

/- The parameters of a draft, each usable or with its errors. -/
def resolved
    (patterns : PatternLibrary)
    (draft : SchemaDraft) :
    List (Except (List SchemaError) (Parameter Schema)) :=
  resolveParams patterns draft.types draft.keyPolicy [] draft.params

/- Every error of a draft, in the order of the parameters. -/
def errors
    (patterns : PatternLibrary)
    (draft : SchemaDraft) : List SchemaError :=
  (draft.resolved patterns).flatMap fun
    | .error found => found
    | .ok _ => []

/- The usable parameters of a draft. -/
def usableParams
    (patterns : PatternLibrary)
    (draft : SchemaDraft) : List (Parameter Schema) :=
  (draft.resolved patterns).filterMap fun
    | .error _ => none
    | .ok param => some param

/- The schema of a draft, or the first of its errors. -/
def build
    (patterns : PatternLibrary)
    (draft : SchemaDraft) : Except SchemaError Schema :=
  match draft.errors patterns with
  | first :: _ => .error first
  | [] =>
      .ok ⟨draft.name, draft.usableParams patterns, draft.types,
        draft.globals, draft.keyPolicy⟩

end SchemaDraft

end Intake
