import Intake.Proofs.Lists
import Intake.Validation.Outcome

/-
  This file says when running a schema succeeds and what the
  parts of a run give.  Proofs about runs use these
  statements and not the definitions.

  The statements about success are:
    * `Schema.run_eq_ok_iff`
    * `Parameter.resolve_eq_ok_iff`
    * `Resolved.coerce_nested_eq_ok_iff`
    * `Resolved.coerce_nestedList_eq_ok_iff`
-/

namespace Intake

------------------------------------------------------------
-- Checks of Whole Schemas
------------------------------------------------------------

/- No check has a reason exactly if all of them pass. -/
theorem GlobalCheck.failures_eq_nil_iff
    (fields : Params)
    (checks : List GlobalCheck) :
    GlobalCheck.failures fields checks = [] ↔
      ∀ check ∈ checks, check.test fields = .ok () := by
  induction checks with
  | nil => simp [failures]
  | cons check rest ih =>
      cases hTest : check.test fields with
      | ok _ => simp [failures, hTest, ih]
      | error reason =>
          by_cases hHalts : check.halts <;>
            simp [failures, hTest, hHalts]

------------------------------------------------------------
-- Results of Parameters
------------------------------------------------------------

namespace ParamResults

/- Values of parameters as results of parameters. -/
def ofValues
    (fields : Params) : ParamResults :=
  fields.map fun field => (field.1, .ok field.2)

/- The values of results that are values. -/
@[simp] theorem values_ofValues
    (fields : Params) :
    values (ofValues fields) = fields := by
  simp [values, ofValues, List.filterMap_map]

/- Results that are values have no failures. -/
@[simp] theorem failures_ofValues
    (fields : Params) :
    failures (ofValues fields) = [] := by
  simp [failures, ofValues]

/- Results without failures are values. -/
theorem eq_ofValues_of_failures_eq_nil
    (results : ParamResults)
    (hNone : results.failures = []) :
    results = ofValues results.values := by
  induction results with
  | nil => rfl
  | cons result rest ih =>
      rcases result with ⟨name, failure | v⟩
      · simp [failures] at hNone
      · have hRest : failures rest = [] := by
          simpa [failures] using hNone
        simpa [ofValues, values] using ih hRest

/-
  Results conclude with values exactly if they are these
  values and every check of the whole schema passes.
-/
theorem conclude_eq_ok_iff
    (globals : List GlobalCheck)
    (results : ParamResults)
    (fields : Params) :
    results.conclude globals = .ok fields ↔
      results = ofValues fields ∧
        ∀ check ∈ globals, check.test fields = .ok () := by
  rw [← GlobalCheck.failures_eq_nil_iff]
  constructor
  · intro hConclude
    unfold conclude at hConclude
    split at hConclude
    · next hNone =>
        split at hConclude
        · next hPass =>
            cases hConclude
            exact ⟨eq_ofValues_of_failures_eq_nil _ hNone, hPass⟩
        · cases hConclude
    · cases hConclude
  · rintro ⟨rfl, hPass⟩
    simp [conclude, hPass]

end ParamResults

------------------------------------------------------------
-- Schemas
------------------------------------------------------------

/- The results of parameters are those of each one by itself. -/
theorem resolveParams_eq_map
    (limit depth : Nat)
    (params : List (Parameter Schema))
    (input : Input) :
    resolveParams limit depth params input =
      params.map fun param =>
        (param.name, param.resolve limit depth input) := by
  induction params with
  | nil => rfl
  | cons param rest ih => rw [resolveParams, ih, List.map_cons]

/- A run concludes the results of the parameters. -/
theorem Schema.run_eq
    (limit depth : Nat)
    (schema : Schema)
    (input : Input) :
    schema.run limit depth input =
      ParamResults.conclude schema.globals
        (schema.params.map fun param =>
          (param.name, param.resolve limit depth input)) := by
  rw [← resolveParams_eq_map]
  cases schema
  rw [Schema.run]

/-
  The fields are the parameters of a schema in order, with the
  values that they have for an input.
-/
def Schema.Yields
    (limit depth : Nat)
    (schema : Schema)
    (input : Input)
    (fields : Params) : Prop :=
  List.Forall₂
    (fun param field =>
      param.name = field.1 ∧
        param.resolve limit depth input = .ok field.2)
    schema.params fields

/- The fields have the names of the parameters, in order. -/
theorem Schema.Yields.names_eq
    {limit depth : Nat}
    {schema : Schema}
    {input : Input}
    {fields : Params}
    (hYields : schema.Yields limit depth input fields) :
    Fields.names fields = schema.params.map Parameter.name :=
  (map_eq_map_of_forall₂ hYields fun _ _ h => h.1).symm

/-
  The results of parameters are values exactly if these are
  yielded.
-/
theorem Schema.map_resolve_eq_ofValues_iff
    (limit depth : Nat)
    (schema : Schema)
    (input : Input)
    (fields : Params) :
    (schema.params.map fun param =>
        (param.name, param.resolve limit depth input)) =
        ParamResults.ofValues fields ↔
      schema.Yields limit depth input fields := by
  rw [ParamResults.ofValues, ← List.forall₂_eq_eq_eq,
    List.forall₂_map_left_iff, List.forall₂_map_right_iff]
  simp only [Prod.mk.injEq]
  rfl

/-
  A run gives fields exactly if they are the parameters in
  order with their values, and every check of the whole
  schema passes.
-/
theorem Schema.run_eq_ok_iff
    (limit depth : Nat)
    (schema : Schema)
    (input : Input)
    (fields : Params) :
    schema.run limit depth input = .ok fields ↔
      schema.Yields limit depth input fields ∧
        ∀ check ∈ schema.globals, check.test fields = .ok () := by
  rw [Schema.run_eq, ParamResults.conclude_eq_ok_iff,
    Schema.map_resolve_eq_ofValues_iff]

------------------------------------------------------------
-- Parameters
------------------------------------------------------------

namespace Parameter

/-
  A null parameter fails if it is required.  Other raw data is
  coerced, and the value is checked.
-/
theorem resolve_eq
    (limit depth : Nat)
    (param : Parameter Schema)
    (input : Input) :
    param.resolve limit depth input =
      if (param.effective input).isNull then
        if param.required then .error (.coercion requiredReason)
        else .ok .null
      else
        (param.resolved.coerce limit depth
          (param.effective input)).bind param.admit := by
  rcases param with
    ⟨name, type, resolved, required, source, default, check⟩
  rw [Parameter.resolve]
  cases hCoerce :
      resolved.coerce limit depth
        (effective
          ⟨name, type, resolved, required, source, default, check⟩
          input) <;>
    simp [Except.bind]

/- The check of a parameter passes on a value. -/
def Passes
    (param : Parameter Schema)
    (v : Value) : Prop :=
  ∀ check, param.check = some check → check.run v = .ok ()

/-
  A value is admitted exactly if it is null or passes the
  check.
-/
theorem admit_eq_ok_iff
    (param : Parameter Schema)
    (v w : Value) :
    param.admit v = .ok w ↔
      w = v ∧ (v.isNull = true ∨ param.Passes v) := by
  unfold Parameter.admit Passes
  rw [eq_comm (a := w)]
  cases hCheck : param.check with
  | none => simp
  | some check =>
      by_cases hNull : v.isNull = true
      · simp [hNull]
      · cases hRun : check.run v <;> simp [hNull, hRun]

/-
  A parameter has a value exactly if it is null and need not
  have one, or if its raw data is coerced to the value and the
  value is admitted.
-/
theorem resolve_eq_ok_iff
    (limit depth : Nat)
    (param : Parameter Schema)
    (input : Input)
    (v : Value) :
    param.resolve limit depth input = .ok v ↔
      ((param.effective input).isNull = true ∧
        param.required = false ∧ v = .null) ∨
      ((param.effective input).isNull = false ∧
        param.resolved.coerce limit depth
          (param.effective input) = .ok v ∧
        (v.isNull = true ∨ param.Passes v)) := by
  rw [resolve_eq]
  by_cases hNull : (param.effective input).isNull = true
  · rw [eq_comm (a := v)]
    by_cases hRequired : param.required = true <;>
      simp [hNull, hRequired]
  · cases hCoerce :
        param.resolved.coerce limit depth
          (param.effective input) with
    | error failure => simp [hNull, Except.bind]
    | ok w =>
        have hAdmit :
            v = w ∧ (w.isNull = true ∨ param.Passes w) ↔
              w = v ∧ (v.isNull = true ∨ param.Passes v) := by
          constructor <;> rintro ⟨rfl, hPasses⟩ <;>
            exact ⟨rfl, hPasses⟩
        simpa [hNull, Except.bind, admit_eq_ok_iff] using hAdmit

end Parameter

------------------------------------------------------------
-- Objects and Arrays of Objects
------------------------------------------------------------

/-
  An element of an array is an object that validates, to a
  map.
-/
def ElementValidates
    (validate : Bucket → Except (List ErrorRecord) Params)
    (item : Raw)
    (v : Value) : Prop :=
  ∃ fields params, item = .object fields ∧
    validate fields = .ok params ∧ v = .map params

/-
  The elements of an array have values exactly if each one
  validates, and the values are the maps in order.
-/
theorem validateElements_eq_ok_iff
    (validate : Bucket → Except (List ErrorRecord) Params)
    (index : Nat)
    (items : List Raw)
    (vs : List Value) :
    validateElements validate index items = .ok vs ↔
      List.Forall₂ (ElementValidates validate) items vs := by
  induction items generalizing index vs with
  | nil => cases vs <;> simp [validateElements]
  | cons item rest ih =>
      cases item with
      | object fields =>
          cases hValidate : validate fields with
          | error records =>
              cases vs <;>
                simp [validateElements, hValidate, ElementValidates]
          | ok params =>
              cases hRest :
                  validateElements validate (index + 1) rest with
              | error failure =>
                  cases vs <;>
                    simp [validateElements, hValidate, hRest,
                      ← ih (index + 1)]
              | ok others =>
                  cases vs with
                  | nil => simp [validateElements, hValidate, hRest]
                  | cons v vs =>
                      simp [validateElements, hValidate, hRest,
                        ElementValidates, ← ih (index + 1),
                        @eq_comm _ v]
      | null | bool | number | string | array =>
          cases vs <;> simp [validateElements, ElementValidates]

/- Run a schema on an object, one level below a depth. -/
def Schema.runBelow
    (limit depth : Nat)
    (schema : Schema)
    (fields : Bucket) : Except (List ErrorRecord) Params :=
  schema.run limit (depth + 1) (.nested fields)

namespace Resolved

/- Within the limit, an object is left to the nested schema. -/
theorem coerce_nested_object
    {limit depth : Nat}
    (hDepth : depth + 1 ≤ limit)
    (schema : Schema)
    (fields : Bucket) :
    (Resolved.nested schema).coerce limit depth (.object fields) =
      Failure.ofNested (schema.runBelow limit depth fields) := by
  rw [Resolved.coerce]
  exact if_neg (Nat.not_lt.mpr hDepth)

/- Within the limit, an array is left to the nested schema. -/
theorem coerce_nestedList_array
    {limit depth : Nat}
    (hDepth : depth + 1 ≤ limit)
    (schema : Schema)
    (items : List Raw) :
    (Resolved.nestedList schema).coerce limit depth (.array items) =
      (validateElements (schema.runBelow limit depth) 0 items).map
        .list := by
  rw [Resolved.coerce]
  exact if_neg (Nat.not_lt.mpr hDepth)

/- A coercer gives a value under its own reasons. -/
theorem coerce_coerced_eq_ok_iff
    (limit depth : Nat)
    (name : String)
    (coerce : Coercer)
    (raw : Raw)
    (v : Value) :
    (Resolved.coerced name coerce).coerce limit depth raw = .ok v ↔
      coerce raw = .ok v := by
  cases hCoerce : coerce raw <;> simp [Resolved.coerce, hCoerce]

/-
  A nested schema gives a value exactly for an object on which
  it runs one level deeper, within the limit.
-/
theorem coerce_nested_eq_ok_iff
    (limit depth : Nat)
    (schema : Schema)
    (raw : Raw)
    (v : Value) :
    (Resolved.nested schema).coerce limit depth raw = .ok v ↔
      ∃ fields params, raw = .object fields ∧ depth + 1 ≤ limit ∧
        schema.runBelow limit depth fields = .ok params ∧
        v = .map params := by
  cases raw with
  | object fields =>
      by_cases hDepth : depth + 1 ≤ limit
      · rw [coerce_nested_object hDepth]
        cases hRun : schema.runBelow limit depth fields <;>
          simp [Failure.ofNested, hDepth, hRun, @eq_comm _ v]
      · simp [Resolved.coerce, Nat.not_le.mp hDepth, hDepth]
  | null | bool | number | string | array =>
      simp [Resolved.coerce]

/-
  An array of a nested schema gives a value exactly for an
  array of objects on each of which the schema runs one level
  deeper, within the limit.
-/
theorem coerce_nestedList_eq_ok_iff
    (limit depth : Nat)
    (schema : Schema)
    (raw : Raw)
    (v : Value) :
    (Resolved.nestedList schema).coerce limit depth raw = .ok v ↔
      ∃ items vs, raw = .array items ∧ depth + 1 ≤ limit ∧
        List.Forall₂ (ElementValidates (schema.runBelow limit depth))
          items vs ∧
        v = .list vs := by
  cases raw with
  | array items =>
      by_cases hDepth : depth + 1 ≤ limit
      · rw [coerce_nestedList_array hDepth]
        simp only [← validateElements_eq_ok_iff _ 0]
        cases hElements :
            validateElements (schema.runBelow limit depth) 0 items <;>
          simp [Except.map, hDepth, hElements, @eq_comm _ v]
      · simp [Resolved.coerce, Nat.not_le.mp hDepth, hDepth]
  | null | bool | number | string | object =>
      simp [Resolved.coerce]

end Resolved

------------------------------------------------------------
-- Outcomes
------------------------------------------------------------

/-
  The fields of a valid outcome are those of a run at depth
  zero.
-/
theorem Engine.run_of_validate
    (engine : Engine)
    (schema : Schema)
    (input : Input)
    {fields : Params}
    (hValid : engine.validate schema input = .valid fields) :
    schema.run engine.maxDepth 0 input = .ok fields := by
  unfold validate at hValid
  cases hRun : schema.run engine.maxDepth 0 input with
  | error records => simp [hRun, Outcome.ofResult] at hValid
  | ok found =>
      rw [hRun] at hValid
      cases hValid
      rfl

/-
  The records of an invalid outcome are those of a run at
  depth zero.
-/
theorem Engine.run_of_validate_invalid
    (engine : Engine)
    (schema : Schema)
    (input : Input)
    {records : List ErrorRecord}
    (hInvalid : engine.validate schema input = .invalid records) :
    schema.run engine.maxDepth 0 input = .error records := by
  unfold validate at hInvalid
  cases hRun : schema.run engine.maxDepth 0 input with
  | ok fields => simp [hRun, Outcome.ofResult] at hInvalid
  | error found =>
      rw [hRun] at hInvalid
      cases hInvalid
      rfl

end Intake
