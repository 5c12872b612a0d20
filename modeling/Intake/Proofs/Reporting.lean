import Intake.Proofs.Invocation
import Intake.Validation.Metrics
import Intake.Validation.Trace

/-
  This file shows that every failed validation reports
  something, so that all ways to ask for a validation agree on
  what has failed.

  Labels are computed from the list of records and not from the
  outcome.  They tell the truth only because no invalid outcome
  is without records, at any level of nested schemas.

  Key definitions include:
    * `Engine.EntryPointsAgree`

  The main statements are:
    * `Invocation.ne_nil_of_run_eq_error`
    * `ErrorBody.exists_ofRecords_eq_one_iff`
    * `Engine.entryPointsAgree`
-/

namespace Intake

universe u

------------------------------------------------------------
-- Records of Failing Runs
------------------------------------------------------------

namespace Invocation

variable {limit : Nat}
variable {call : Invocation}

/-
  A parameter that fails has a record, if the invocations that
  fail below have one.
-/
theorem records_ne_nil
    (hBelow :
      ∀ segment next found, call.Enters limit segment next →
        next.run limit = .error found → found ≠ [])
    {param : Parameter Schema}
    (hParam : param ∈ call.schema.params)
    {failure : Failure}
    (hResolve :
      param.resolve limit call.depth call.input = .error failure) :
    failure.records param.name ≠ [] := by
  rcases records_cases hParam hResolve with
    ⟨segment, fault, _, _, hRecords⟩ |
    ⟨segment, next, found, _, hEnters, hRun, hRecords⟩
  · rw [hRecords]
    exact List.cons_ne_nil _ _
  · have hFound := hBelow segment next found hEnters hRun
    rw [hRecords, Ne, List.map_eq_nil_iff]
    exact hFound

/-
  A run that fails has a record.  The induction is on the tree
  of schemas, for a parameter may have nothing but the records
  of the run that it enters.
-/
theorem ne_nil_of_run_eq_error
    {records : List ErrorRecord}
    (hRun : call.run limit = .error records) :
    records ≠ [] := by
  induction hSchema : call.schema using Schema.induction
    generalizing call records with
  | step schema ih =>
      subst hSchema
      have hBelow :
          ∀ segment next found, call.Enters limit segment next →
            next.run limit = .error found → found ≠ [] := by
        intro segment next found hEnters hNext
        rcases hEnters.exists_declared with ⟨param, hParam, _, hChild⟩
        exact ih param hParam next.schema hChild hNext rfl
      rcases (call.schema.run_eq_error_iff limit call.depth call.input
          records).mp hRun with
        ⟨hFailed, rfl⟩ | ⟨fields, _, hReasons, rfl⟩
      · rcases List.exists_mem_of_ne_nil _ hFailed with
          ⟨⟨name, failure⟩, hMem⟩
        rcases (Schema.mem_failed_iff _ _ _ _ name failure).mp hMem with
          ⟨param, hParam, rfl, hResolve⟩
        have hSome := records_ne_nil hBelow hParam hResolve
        intro hNone
        exact hSome (List.flatMap_eq_nil_iff.mp hNone _ hMem)
      · rw [Ne, List.map_eq_nil_iff]
        exact hReasons

end Invocation

/- The records of an invalid outcome are not none. -/
theorem Engine.ne_nil_of_validate_invalid
    (engine : Engine)
    (schema : Schema)
    (input : Input)
    {records : List ErrorRecord}
    (hInvalid : engine.validate schema input = .invalid records) :
    records ≠ [] := by
  have hRun :
      Invocation.run engine.maxDepth ⟨0, schema, input⟩ =
        .error records :=
    engine.run_of_validate_invalid schema input hInvalid
  exact Invocation.ne_nil_of_run_eq_error hRun

------------------------------------------------------------
-- Bodies and Labels
------------------------------------------------------------

namespace ErrorBody

/- A body has the records that it was made of. -/
theorem records_ofRecords
    (collapse : Bool)
    (records : List ErrorRecord) :
    (ofRecords collapse records).records = records := by
  unfold ofRecords
  split
  · rfl
  · rfl

/-
  A record is sent bare exactly if this is wanted and there is
  no other one.
-/
theorem exists_ofRecords_eq_one_iff
    (collapse : Bool)
    (records : List ErrorRecord) :
    (∃ record, ofRecords collapse records = .one record) ↔
      collapse = true ∧ records.length = 1 := by
  rw [List.length_eq_one_iff]
  constructor
  · rintro ⟨record, hOne⟩
    unfold ofRecords at hOne
    split at hOne
    · next found => exact ⟨rfl, found, rfl⟩
    · cases hOne
  · rintro ⟨rfl, record, rfl⟩
    exact ⟨record, rfl⟩

end ErrorBody

namespace Outcome

/- No invalid outcome is without records. -/
def Reported
    (outcome : Outcome) : Prop :=
  ∀ records, outcome = .invalid records → records ≠ []

/-
  An outcome that reports what has failed is valid exactly if
  it has no records.
-/
theorem Reported.isEmpty_records
    {outcome : Outcome}
    (hReported : outcome.Reported) :
    outcome.records.isEmpty = outcome.isValid := by
  cases outcome with
  | valid params => rfl
  | invalid records =>
      have hSome := hReported records rfl
      cases records with
      | nil => exact absurd rfl hSome
      | cons record rest => rfl

end Outcome

/- An outcome for raw data reports what has failed. -/
theorem Engine.reported_validateRaw
    (engine : Engine)
    (schema : Schema)
    (raw : Raw) :
    (engine.validateRaw schema raw).Reported := by
  intro records hInvalid
  cases raw with
  | object fields =>
      exact engine.ne_nil_of_validate_invalid schema _ hInvalid
  | null | bool | number | string | array =>
      cases hInvalid
      exact List.cons_ne_nil _ _

------------------------------------------------------------
-- Entry Points
------------------------------------------------------------

/-
  All ways to ask an engine for a validation agree.

  An invalid outcome has records, so the labels of the event at
  its end and of what is counted are those of the outcome.
  Binding gives the values of a valid outcome, and else it
  renders a body that has all records in order, which is also
  the body of the outcome.  Raw data is validated as an object,
  and other data has a single record without path.
-/
structure Engine.EntryPointsAgree
    (engine : Engine)
    (schema : Schema) : Prop where
  reported :
    ∀ input records,
      engine.validate schema input = .invalid records → records ≠ []
  labelled :
    ∀ outcome : Outcome,
      ((∃ input, outcome = engine.validate schema input) ∨
        ∃ raw, outcome = engine.validateRaw schema raw) →
        Engine.finished schema outcome =
            .validationFinished schema.name outcome.isValid
              outcome.records.length ∧
          (outcome.records.length = 0 ↔ outcome.isValid = true) ∧
          Metrics.recorded schema.name outcome.records =
            .validations schema.name outcome.isValid ::
              .duration schema.name ::
                outcome.records.map fun record =>
                  .errors schema.name record.code
  bound :
    ∀ input params (R : Type u) (render : ErrorBody → R),
      engine.bind schema input render = .ok params ↔
        engine.validate schema input = .valid params
  rendered :
    ∀ input records,
      engine.validate schema input = .invalid records →
        ∃ body : ErrorBody,
          (∀ (R : Type u) (render : ErrorBody → R),
            engine.bind schema input render = .error (render body)) ∧
          (engine.validate schema input).body? engine.collapse =
            some body ∧
          body.records = records ∧ body.records ≠ [] ∧
          ((∃ record, body = .one record) ↔
            engine.collapse = true ∧ records.length = 1)
  silent :
    ∀ input params,
      engine.validate schema input = .valid params →
        (engine.validate schema input).body? engine.collapse = none
  object :
    ∀ fields,
      engine.validateRaw schema (.object fields) =
        engine.validate schema (.ofAuto fields)
  other :
    ∀ raw, (∀ fields, raw ≠ .object fields) →
      engine.validateRaw schema raw =
        .invalid [⟨none, "Validation error: invalid", .invalid⟩]

/- The ways to ask for a validation agree for every schema. -/
theorem Engine.entryPointsAgree
    (engine : Engine)
    (schema : Schema) :
    Engine.EntryPointsAgree.{u} engine schema := by
  constructor
  case reported =>
    intro input records hInvalid
    exact engine.ne_nil_of_validate_invalid schema input hInvalid
  case labelled =>
    intro outcome hOutcome
    have hReported : outcome.Reported := by
      rcases hOutcome with ⟨input, rfl⟩ | ⟨raw, rfl⟩
      · intro records hInvalid
        exact engine.ne_nil_of_validate_invalid schema input hInvalid
      · exact engine.reported_validateRaw schema raw
    have hLabel := hReported.isEmpty_records
    refine ⟨?_, ?_, ?_⟩
    · rw [finished, hLabel]
    · rw [← hLabel, List.isEmpty_iff, List.length_eq_zero_iff]
    · rw [Metrics.recorded, hLabel]
  case bound =>
    intro input params R render
    unfold bind
    cases engine.validate schema input <;> simp
  case rendered =>
    intro input records hInvalid
    have hSome := engine.ne_nil_of_validate_invalid schema input hInvalid
    have hRecords := ErrorBody.records_ofRecords engine.collapse records
    refine
      ⟨.ofRecords engine.collapse records, ?_, ?_, hRecords, ?_, ?_⟩
    · intro R render
      rw [bind, hInvalid]
    · rw [hInvalid]
      rfl
    · rw [hRecords]
      exact hSome
    · exact ErrorBody.exists_ofRecords_eq_one_iff _ _
  case silent =>
    intro input params hValid
    rw [hValid]
    rfl
  case object =>
    intro fields
    rfl
  case other =>
    intro raw hOther
    cases raw with
    | object fields => exact absurd rfl (hOther fields)
    | null | bool | number | string | array => rfl

end Intake
