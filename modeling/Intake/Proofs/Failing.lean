import Intake.Proofs.Running

/-
  This file says when running a schema fails, and what the
  records are then.  Together with the statements about
  success it determines every run.

  Key definitions include:
    * `Schema.Reports`
    * `ElementFails`

  The statements about failure are:
    * `Schema.run_eq_error_iff`
    * `Schema.reports_iff`
    * `Parameter.resolve_eq_error_iff`
    * `Resolved.coerce_eq_nested_error_iff`
    * `Resolved.failure_cases`
    * `validateElements_eq_error_iff`
    * `Parameter.resolve_eq_nested_error_iff`
-/

namespace Intake

------------------------------------------------------------
-- Results of Parameters
------------------------------------------------------------

namespace ParamResults

/-
  Results conclude with records exactly if some of them are
  failures, whose records these are, or if all of them are
  values that do not pass the checks of the whole schema.
-/
theorem conclude_eq_error_iff
    (globals : List GlobalCheck)
    (results : ParamResults)
    (records : List ErrorRecord) :
    results.conclude globals = .error records ↔
      (results.failures ≠ [] ∧
        records =
          results.failures.flatMap fun (name, failure) =>
            failure.records name) ∨
      (∃ fields, results = ofValues fields ∧
        GlobalCheck.failures fields globals ≠ [] ∧
          records =
            (GlobalCheck.failures fields globals).map .overall) := by
  cases hFailures : results.failures with
  | cons failure rest =>
      have hNoValues : ∀ fields, results ≠ ofValues fields := by
        rintro fields rfl
        simp at hFailures
      simp [conclude, hFailures, hNoValues, @eq_comm _ records]
  | nil =>
      have hValues :=
        eq_ofValues_of_failures_eq_nil results hFailures
      have hConclude :
          results.conclude globals = .error records ↔
            GlobalCheck.failures results.values globals ≠ [] ∧
              records =
                (GlobalCheck.failures results.values globals).map
                  .overall := by
        rw [eq_comm (a := records)]
        cases hChecks :
            GlobalCheck.failures results.values globals <;>
          simp [conclude, hFailures, hChecks]
      rw [hConclude]
      constructor
      · intro hFails
        exact Or.inr ⟨results.values, hValues, hFails⟩
      · rintro (⟨hSome, _⟩ | ⟨fields, rfl, hFails⟩)
        · exact absurd rfl hSome
        · rw [values_ofValues]
          exact hFails

end ParamResults

------------------------------------------------------------
-- Schemas
------------------------------------------------------------

namespace Schema

/-
  The failures of the parameters of a schema, by name and in
  order.
-/
def failed
    (limit depth : Nat)
    (schema : Schema)
    (input : Input) : List (String × Failure) :=
  ParamResults.failures
    (schema.params.map fun param =>
      (param.name, param.resolve limit depth input))

/-
  The failures of the parameters are those of each one by
  itself.
-/
theorem mem_failed_iff
    (limit depth : Nat)
    (schema : Schema)
    (input : Input)
    (name : String)
    (failure : Failure) :
    (name, failure) ∈ schema.failed limit depth input ↔
      ∃ param ∈ schema.params, param.name = name ∧
        param.resolve limit depth input = .error failure := by
  unfold failed ParamResults.failures
  rw [List.mem_filterMap]
  constructor
  · rintro ⟨⟨found, result⟩, hMem, hResult⟩
    rcases List.mem_map.mp hMem with ⟨param, hParam, hSame⟩
    cases result with
    | ok v => cases hResult
    | error other =>
        cases hResult
        rw [Prod.mk.injEq] at hSame
        exact ⟨param, hParam, hSame⟩
  · rintro ⟨param, hParam, rfl, hResolve⟩
    refine ⟨(param.name, .error failure), ?_, rfl⟩
    rw [← hResolve]
    exact List.mem_map_of_mem hParam

/-
  A run gives records exactly if some parameters fail, and
  these are their records in order, or if all parameters have
  values and these do not pass the checks of the whole schema.
-/
theorem run_eq_error_iff
    (limit depth : Nat)
    (schema : Schema)
    (input : Input)
    (records : List ErrorRecord) :
    schema.run limit depth input = .error records ↔
      (schema.failed limit depth input ≠ [] ∧
        records =
          (schema.failed limit depth input).flatMap
            fun (name, failure) => failure.records name) ∨
      (∃ fields, schema.Yields limit depth input fields ∧
        GlobalCheck.failures fields schema.globals ≠ [] ∧
          records =
            (GlobalCheck.failures fields schema.globals).map
              .overall) := by
  rw [Schema.run_eq, ParamResults.conclude_eq_error_iff]
  simp only [map_resolve_eq_ofValues_iff]
  rfl

/- A run of a schema gives a record, among others. -/
def Reports
    (limit depth : Nat)
    (schema : Schema)
    (input : Input)
    (record : ErrorRecord) : Prop :=
  ∃ records, schema.run limit depth input = .error records ∧
    record ∈ records

/-
  A schema reports the records of the parameters that fail.
  If none fails, it reports the reasons of its own checks.
-/
theorem reports_iff
    (limit depth : Nat)
    (schema : Schema)
    (input : Input)
    (record : ErrorRecord) :
    schema.Reports limit depth input record ↔
      (∃ param ∈ schema.params, ∃ failure,
        param.resolve limit depth input = .error failure ∧
          record ∈ failure.records param.name) ∨
      (∃ fields, schema.Yields limit depth input fields ∧
        ∃ reason ∈ GlobalCheck.failures fields schema.globals,
          record = .overall reason) := by
  unfold Reports
  constructor
  · rintro ⟨records, hRun, hMem⟩
    rcases (schema.run_eq_error_iff limit depth input records).mp
        hRun with
      ⟨_, rfl⟩ | ⟨fields, hParams, _, rfl⟩
    · rcases List.mem_flatMap.mp hMem with
        ⟨⟨name, failure⟩, hFailed, hRecord⟩
      rcases (schema.mem_failed_iff limit depth input name
          failure).mp hFailed with
        ⟨param, hParam, rfl, hResolve⟩
      exact Or.inl ⟨param, hParam, failure, hResolve, hRecord⟩
    · rcases List.mem_map.mp hMem with ⟨reason, hReason, rfl⟩
      exact Or.inr ⟨fields, hParams, reason, hReason, rfl⟩
  · rintro
      (⟨param, hParam, failure, hResolve, hRecord⟩ |
        ⟨fields, hParams, reason, hReason, rfl⟩)
    · have hFailed :
          (param.name, failure) ∈
            schema.failed limit depth input :=
        (schema.mem_failed_iff limit depth input _ _).mpr
          ⟨param, hParam, rfl, hResolve⟩
      refine ⟨_, (schema.run_eq_error_iff limit depth input _).mpr
        (Or.inl ⟨List.ne_nil_of_mem hFailed, rfl⟩), ?_⟩
      exact List.mem_flatMap.mpr ⟨_, hFailed, hRecord⟩
    · refine ⟨_, (schema.run_eq_error_iff limit depth input _).mpr
        (Or.inr
          ⟨fields, hParams, List.ne_nil_of_mem hReason, rfl⟩), ?_⟩
      exact List.mem_map_of_mem hReason

end Schema

------------------------------------------------------------
-- Parameters
------------------------------------------------------------

namespace Parameter

/-
  A value that is not admitted fails with the reason of a
  check.
-/
theorem admit_eq_error
    (param : Parameter Schema)
    (v : Value)
    {failure : Failure}
    (hAdmit : param.admit v = .error failure) :
    ∃ reason, failure = .validation reason := by
  unfold Parameter.admit at hAdmit
  split at hAdmit
  · cases hAdmit
  · split at hAdmit
    · cases hAdmit
    · split at hAdmit
      · cases hAdmit
      · next reason _ =>
          cases hAdmit
          exact ⟨reason, rfl⟩

/-
  A parameter fails exactly if it is null and required, or if
  its raw data is not coerced, or if its value is not admitted.
-/
theorem resolve_eq_error_iff
    (limit depth : Nat)
    (param : Parameter Schema)
    (input : Input)
    (failure : Failure) :
    param.resolve limit depth input = .error failure ↔
      ((param.effective input).isNull = true ∧
        param.required = true ∧
          failure = .coercion requiredReason) ∨
      ((param.effective input).isNull = false ∧
        (param.resolved.coerce limit depth
            (param.effective input) = .error failure ∨
          ∃ v,
            param.resolved.coerce limit depth
              (param.effective input) = .ok v ∧
            param.admit v = .error failure)) := by
  rw [resolve_eq]
  by_cases hNull : (param.effective input).isNull = true
  · by_cases hRequired : param.required = true <;>
      simp [hNull, hRequired, @eq_comm _ failure]
  · cases hCoerce :
        param.resolved.coerce limit depth
          (param.effective input) <;>
      simp [hNull, Except.bind]

end Parameter

------------------------------------------------------------
-- Objects and Arrays of Objects
------------------------------------------------------------

/-
  The failure of an element of an array: the records of an
  object that does not validate, or the record of an element
  that is no object.
-/
inductive ElementFails
    (validate : Bucket → Except (List ErrorRecord) Params)
    (index : Nat) : Raw → Failure → Prop where
  | object
      {fields : Bucket}
      {records : List ErrorRecord}
      (fails : validate fields = .error records) :
      ElementFails validate index (.object fields)
        (.nested (records.map (.move (Path.belowElement index))))
  | other
      {item : Raw}
      (shape : ∀ fields, item ≠ .object fields) :
      ElementFails validate index item
        (.nested [.atParam (Path.element index) invalidReason])

/- An element that fails does not validate. -/
theorem ElementFails.not_validates
    {validate : Bucket → Except (List ErrorRecord) Params}
    {index : Nat}
    {item : Raw}
    {failure : Failure}
    (hFails : ElementFails validate index item failure) :
    ¬ ∃ v, ElementValidates validate item v := by
  rintro ⟨_, fields, params, rfl, hValidate, rfl⟩
  cases hFails with
  | object fails => simp [hValidate] at fails
  | other shape => exact shape fields rfl

/- After an element that validates, the rest decides. -/
theorem validateElements_cons_of_validates
    (validate : Bucket → Except (List ErrorRecord) Params)
    (index : Nat)
    {item : Raw}
    (rest : List Raw)
    (failure : Failure)
    (hItem : ∃ v, ElementValidates validate item v) :
    validateElements validate index (item :: rest) =
        .error failure ↔
      validateElements validate (index + 1) rest =
        .error failure := by
  rcases hItem with ⟨_, fields, params, rfl, hValidate, rfl⟩
  cases hRest : validateElements validate (index + 1) rest <;>
    simp [validateElements, hValidate, hRest]

/- An element that does not validate decides by itself. -/
theorem validateElements_cons_of_not_validates
    (validate : Bucket → Except (List ErrorRecord) Params)
    (index : Nat)
    {item : Raw}
    (rest : List Raw)
    (failure : Failure)
    (hItem : ¬ ∃ v, ElementValidates validate item v) :
    validateElements validate index (item :: rest) =
        .error failure ↔
      ElementFails validate index item failure := by
  cases item with
  | object fields =>
      cases hValidate : validate fields with
      | ok params =>
          exact absurd ⟨_, fields, params, rfl, hValidate, rfl⟩ hItem
      | error records =>
          simp only [validateElements, hValidate, Except.error.injEq]
          constructor
          · rintro rfl
            exact .object hValidate
          · intro hFails
            cases hFails with
            | object fails =>
                rw [hValidate] at fails
                cases fails
                rfl
            | other shape => exact absurd rfl (shape fields)
  | null | bool | number | string | array =>
      simp only [validateElements, Except.error.injEq]
      constructor
      · rintro rfl
        exact .other (by simp)
      · intro hFails
        cases hFails
        rfl

/-
  The elements of an array fail exactly if one of them does
  and all elements before it validate.
-/
theorem validateElements_eq_error_iff
    (validate : Bucket → Except (List ErrorRecord) Params)
    (index : Nat)
    (items : List Raw)
    (failure : Failure) :
    validateElements validate index items = .error failure ↔
      ∃ before item after, items = before ++ item :: after ∧
        (∀ other ∈ before, ∃ v, ElementValidates validate other v) ∧
          ElementFails validate (index + before.length) item
            failure := by
  induction items generalizing index with
  | nil => simp [validateElements]
  | cons item rest ih =>
      rw [exists_append_cons_iff _ fun place found =>
        ElementFails validate (index + place) found failure]
      by_cases hItem : ∃ v, ElementValidates validate item v
      · rw [validateElements_cons_of_validates validate index rest
          failure hItem, ih (index + 1)]
        simp only [Nat.add_assoc, Nat.add_comm 1]
        constructor
        · intro hRest
          exact Or.inr ⟨hItem, hRest⟩
        · rintro (hFails | ⟨_, hRest⟩)
          · exact absurd hItem hFails.not_validates
          · exact hRest
      · rw [validateElements_cons_of_not_validates validate index rest
          failure hItem]
        constructor
        · intro hFails
          exact Or.inl hFails
        · rintro (hFails | ⟨hValidates, _⟩)
          · exact hFails
          · exact absurd hValidates hItem

namespace Resolved

/-
  Coercion fails with nested records exactly if a schema fails
  on an object, or on the elements of an array.
-/
theorem coerce_eq_nested_error_iff
    (limit depth : Nat)
    (resolved : Resolved Schema)
    (raw : Raw)
    (records : List ErrorRecord) :
    resolved.coerce limit depth raw = .error (.nested records) ↔
      (∃ schema fields, resolved = .nested schema ∧
        raw = .object fields ∧ depth + 1 ≤ limit ∧
          schema.runBelow limit depth fields = .error records) ∨
      (∃ schema items, resolved = .nestedList schema ∧
        raw = .array items ∧ depth + 1 ≤ limit ∧
          validateElements (schema.runBelow limit depth) 0 items =
            .error (.nested records)) := by
  by_cases hDepth : depth + 1 ≤ limit
  · cases resolved with
    | coerced name coerce =>
        cases hCoerce : coerce raw <;>
          simp [Resolved.coerce, hCoerce]
    | nested schema =>
        cases raw with
        | object fields =>
            rw [coerce_nested_object hDepth]
            cases hRun : schema.runBelow limit depth fields <;>
              simp [Failure.ofNested, hRun, hDepth]
        | null | bool | number | string | array =>
            simp [Resolved.coerce]
    | nestedList schema =>
        cases raw with
        | array items =>
            rw [coerce_nestedList_array hDepth]
            cases hElements :
                validateElements (schema.runBelow limit depth) 0
                  items <;>
              simp [Except.map, hElements, hDepth]
        | null | bool | number | string | object =>
            simp [Resolved.coerce]
  · have hDeep : limit < depth + 1 := Nat.not_le.mp hDepth
    cases resolved with
    | coerced name coerce =>
        cases hCoerce : coerce raw <;>
          simp [Resolved.coerce, hCoerce]
    | nested schema =>
        cases raw <;> simp [Resolved.coerce, hDeep, hDepth]
    | nestedList schema =>
        cases raw <;> simp [Resolved.coerce, hDeep, hDepth]

/-
  Coercion fails with the reason of a coercer, or because data
  has the wrong shape or is nested too deep, or it fails with
  the records of what is nested.
-/
theorem failure_cases
    {limit depth : Nat}
    {resolved : Resolved Schema}
    {raw : Raw}
    {failure : Failure}
    (hCoerce : resolved.coerce limit depth raw = .error failure) :
    (∃ reason, failure = .coercion reason ∧
      (reason = invalidReason ∨ reason = tooDeepReason ∨
        ∃ name coerce, resolved = .coerced name coerce ∧
          coerce raw = .error reason)) ∨
    ∃ records, failure = .nested records := by
  cases resolved with
  | coerced name coerce =>
      left
      rw [Resolved.coerce] at hCoerce
      split at hCoerce
      · cases hCoerce
      · next reason hFound =>
          cases hCoerce
          exact ⟨reason, rfl, Or.inr (Or.inr ⟨_, _, rfl, hFound⟩)⟩
  | nested schema =>
      cases raw with
      | object fields =>
          by_cases hDepth : depth + 1 ≤ limit
          · right
            rw [coerce_nested_object hDepth] at hCoerce
            cases hRun : schema.runBelow limit depth fields with
            | ok params =>
                rw [hRun] at hCoerce
                cases hCoerce
            | error records =>
                rw [hRun] at hCoerce
                cases hCoerce
                exact ⟨records, rfl⟩
          · left
            rw [Resolved.coerce, if_pos (Nat.not_le.mp hDepth)]
              at hCoerce
            cases hCoerce
            exact ⟨_, rfl, Or.inr (Or.inl rfl)⟩
      | null | bool | number | string | array =>
          cases hCoerce
          exact Or.inl ⟨_, rfl, Or.inl rfl⟩
  | nestedList schema =>
      cases raw with
      | array items =>
          by_cases hDepth : depth + 1 ≤ limit
          · right
            rw [coerce_nestedList_array hDepth] at hCoerce
            cases hElements :
                validateElements (schema.runBelow limit depth) 0
                  items with
            | ok vs =>
                rw [hElements] at hCoerce
                cases hCoerce
            | error found =>
                rw [hElements] at hCoerce
                cases hCoerce
                rcases (validateElements_eq_error_iff _ _ _ _).mp
                    hElements with
                  ⟨_, _, _, _, _, hFails⟩
                cases hFails with
                | object fails => exact ⟨_, rfl⟩
                | other shape => exact ⟨_, rfl⟩
          · left
            rw [Resolved.coerce, if_pos (Nat.not_le.mp hDepth)]
              at hCoerce
            cases hCoerce
            exact ⟨_, rfl, Or.inr (Or.inl rfl)⟩
      | null | bool | number | string | object =>
          cases hCoerce
          exact Or.inl ⟨_, rfl, Or.inl rfl⟩

end Resolved

namespace Parameter

/- A parameter fails with one reason or with nested records. -/
theorem reason_or_nested_of_resolve_eq_error
    (limit depth : Nat)
    (param : Parameter Schema)
    (input : Input)
    {failure : Failure}
    (hResolve : param.resolve limit depth input = .error failure) :
    (∃ reason, failure.reason? = some reason) ∨
      ∃ records, failure = .nested records := by
  rcases (param.resolve_eq_error_iff limit depth input failure).mp
      hResolve with
    ⟨_, _, rfl⟩ | ⟨_, hCoerce | ⟨v, _, hAdmit⟩⟩
  · exact Or.inl ⟨requiredReason, rfl⟩
  · rcases Resolved.failure_cases hCoerce with
      ⟨reason, rfl, _⟩ | ⟨records, rfl⟩
    · exact Or.inl ⟨reason, rfl⟩
    · exact Or.inr ⟨records, rfl⟩
  · rcases param.admit_eq_error v hAdmit with ⟨reason, rfl⟩
    exact Or.inl ⟨reason, rfl⟩

/- Nested records come from coercion. -/
theorem resolve_eq_nested_error_iff
    (limit depth : Nat)
    (param : Parameter Schema)
    (input : Input)
    (records : List ErrorRecord) :
    param.resolve limit depth input = .error (.nested records) ↔
      (param.effective input).isNull = false ∧
        param.resolved.coerce limit depth (param.effective input) =
          .error (.nested records) := by
  rw [resolve_eq_error_iff]
  constructor
  · rintro (⟨_, _, hSame⟩ | ⟨hRaw, hCoerce | ⟨v, _, hAdmit⟩⟩)
    · cases hSame
    · exact ⟨hRaw, hCoerce⟩
    · rcases param.admit_eq_error v hAdmit with ⟨reason, hSame⟩
      cases hSame
  · rintro ⟨hRaw, hCoerce⟩
    exact Or.inr ⟨hRaw, Or.inl hCoerce⟩

end Parameter

end Intake
