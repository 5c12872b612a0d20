import Intake.Schema
import Intake.Validation.Path

/-
  This file defines the validation of inputs by schemas.

  Each parameter is fetched from its source, replaced by its
  default if it is absent or null, coerced by its type and
  checked.  Only if no parameter failed do the checks of the
  whole schema follow.  A nested schema is run on the object
  that stands for its parameter.

  Key definitions include:
    * `Parameter.effective`
    * `GlobalCheck.failures`
    * `Schema.run`
    * `Parameter.resolve`
-/

namespace Intake

------------------------------------------------------------
-- Effective Data
------------------------------------------------------------

/-
  The raw data of a parameter: what its source has, or else
  its default, or else null.
-/
def Parameter.effective
    (param : Parameter Schema)
    (input : Input) : Raw :=
  match input.fetch? param.source param.name with
  | none => (param.default.provide? input).getD .null
  | some raw =>
      if raw.isNull then (param.default.provide? input).getD .null
      else raw

/- Check the value of a parameter.  Null is not checked. -/
def Parameter.admit
    (param : Parameter Schema)
    (v : Value) : Except Failure Value :=
  match param.check with
  | none => .ok v
  | some check =>
      if v.isNull then .ok v
      else
        match check.run v with
        | .ok () => .ok v
        | .error reason => .error (.validation reason)

------------------------------------------------------------
-- Checks of Whole Schemas
------------------------------------------------------------

/-
  The reasons of the checks that fail, up to the first failing
  one that halts.
-/
def GlobalCheck.failures
    (params : Params) : List GlobalCheck → List String
  | [] => []
  | check :: rest =>
      match check.test params with
      | .ok () => failures params rest
      | .error reason =>
          if check.halts then [reason] else reason :: failures params rest

/- The result of each parameter of a schema, by name. -/
abbrev ParamResults :=
  List (String × Except Failure Value)

namespace ParamResults

/- The values of the parameters that did not fail. -/
def values
    (results : ParamResults) : Params :=
  results.filterMap fun
    | (name, .ok v) => some (name, v)
    | (_, .error _) => none

/- The failures of parameters. -/
def failures
    (results : ParamResults) : List (String × Failure) :=
  results.filterMap fun
    | (_, .ok _) => none
    | (name, .error failure) => some (name, failure)

/-
  The result of a schema: the records of all failures of its
  parameters, or those of its own checks, or all values.
-/
def conclude
    (globals : List GlobalCheck)
    (results : ParamResults) : Except (List ErrorRecord) Params :=
  match results.failures with
  | [] =>
      match GlobalCheck.failures results.values globals with
      | [] => .ok results.values
      | reasons => .error (reasons.map .overall)
  | failed =>
      .error (failed.flatMap fun (name, failure) => failure.records name)

end ParamResults

------------------------------------------------------------
-- Objects and Arrays of Objects
------------------------------------------------------------

/- The reason given for a schema nested below the limit. -/
def tooDeepReason : String :=
  "nesting too deep"

/- The failure of a value under which a schema has failed. -/
def Failure.ofNested :
    Except (List ErrorRecord) Params → Except Failure Value
  | .ok params => .ok (.map params)
  | .error records => .error (.nested records)

/-
  The values of the objects of an array, up to the first
  element that is no object or fails.  Its records alone are
  kept, with its place in their paths.
-/
def validateElements
    (validate : Bucket → Except (List ErrorRecord) Params)
    (index : Nat) : List Raw → Except Failure (List Value)
  | [] => .ok []
  | .object fields :: rest =>
      match validate fields with
      | .error records =>
          .error (.nested (records.map (.move (Path.belowElement index))))
      | .ok params =>
          match validateElements validate (index + 1) rest with
          | .error failure => .error failure
          | .ok vs => .ok (.map params :: vs)
  | _ :: _ =>
      .error (.nested [.atParam (Path.element index) invalidReason])

------------------------------------------------------------
-- Running Schemas
------------------------------------------------------------

mutual

/-
  Run a schema on an input at a depth.  The depth of the
  schemas below it may not exceed the limit.
-/
def Schema.run
    (limit depth : Nat) :
    Schema → Input → Except (List ErrorRecord) Params
  | ⟨_, params, _, globals, _⟩, input =>
      (resolveParams limit depth params input).conclude globals

/- The results of parameters, in order. -/
def resolveParams
    (limit depth : Nat) :
    List (Parameter Schema) → Input → ParamResults
  | [], _ => []
  | param :: rest, input =>
      (param.name, param.resolve limit depth input) ::
        resolveParams limit depth rest input

/- The result of a parameter. -/
def Parameter.resolve
    (limit depth : Nat) :
    Parameter Schema → Input → Except Failure Value
  | ⟨name, type, resolved, required, source, default, check⟩, input =>
      let param : Parameter Schema :=
        ⟨name, type, resolved, required, source, default, check⟩
      let raw := param.effective input
      if raw.isNull then
        if required then .error (.coercion requiredReason) else .ok .null
      else
        match resolved.coerce limit depth raw with
        | .error failure => .error failure
        | .ok v => param.admit v

/- Coerce raw data that is not null by a resolved type. -/
def Resolved.coerce
    (limit depth : Nat) :
    Resolved Schema → Raw → Except Failure Value
  | .coerced _ coerce, raw =>
      match coerce raw with
      | .ok v => .ok v
      | .error reason => .error (.coercion reason)
  | .nested schema, raw =>
      match raw with
      | .object fields =>
          if limit < depth + 1 then .error (.coercion tooDeepReason)
          else Failure.ofNested (schema.run limit (depth + 1) (.nested fields))
      | _ => .error (.coercion invalidReason)
  | .nestedList schema, raw =>
      match raw with
      | .array items =>
          if limit < depth + 1 then .error (.coercion tooDeepReason)
          else
            (validateElements
              (fun fields => schema.run limit (depth + 1) (.nested fields))
              0 items).map .list
      | _ => .error (.coercion invalidReason)

end

end Intake
