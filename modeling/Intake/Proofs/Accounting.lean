import Intake.Proofs.Reporting
import Intake.Validation.Recording

/-
  This file shows that the counts account for every call.  After
  any calls in a row, on whatever schemas and engines, a series
  has been counted as often as the outcomes of the calls say.

  Recording is a step of its own at the end of a call, so the
  counts after calls are those of the series of their outcomes.
  The label of an outcome is found by looking at its records;
  it is right because no invalid outcome is without any.

  Key definitions include:
    * `Call.series`
    * `Metrics.AccountsFor`

  The main statements are:
    * `Metrics.count_increment`
    * `Call.run_perform`
    * `Metrics.count_after`
    * `Metrics.accountsFor`
-/

namespace Intake

------------------------------------------------------------
-- Counting
------------------------------------------------------------

namespace Metrics

/- The count of a series is that of its first entry. -/
theorem count_cons
    (entry : Series × Nat)
    (rest : Metrics)
    (series : Series) :
    count (entry :: rest) series =
      if entry.1 = series then entry.2 else count rest series := by
  by_cases hHere : entry.1 = series <;> simp [count, hHere]

/- Counting at the entries of a series keeps all other counts. -/
theorem count_map_of_ne
    (metrics : Metrics)
    (series other : Series)
    (hOther : series ≠ other) :
    count
        (metrics.map fun entry =>
          if entry.1 == series then (entry.1, entry.2 + 1) else entry)
        other =
      metrics.count other := by
  induction metrics with
  | nil => rfl
  | cons entry rest ih =>
      rw [List.map_cons, count_cons, count_cons, ih]
      by_cases hEntry : entry.1 = series
      · have hSkip : entry.1 ≠ other := by
          rw [hEntry]
          exact hOther
        have hMarked : (entry.1 == series) = true := beq_iff_eq.mpr hEntry
        rw [if_pos hMarked, if_neg hSkip, if_neg hSkip]
      · simp [hEntry]

/-
  A record is counted at the first entry if this is the one of
  its series, and else in the rest.
-/
theorem increment_cons
    (entry : Series × Nat)
    (rest : Metrics)
    (series : Series) :
    increment (entry :: rest) series =
      if entry.1 = series then
        (entry.1, entry.2 + 1) ::
          rest.map fun entry =>
            if entry.1 == series then (entry.1, entry.2 + 1) else entry
      else entry :: increment rest series := by
  unfold increment
  by_cases hHere : entry.1 = series
  · simp [hHere]
  · by_cases hRest : (rest.any fun entry => entry.1 == series) = true <;>
      simp [hHere, hRest]

/- One more record of a series adds one to its count only. -/
theorem count_increment
    (metrics : Metrics)
    (series other : Series) :
    (metrics.increment series).count other =
      metrics.count other + if series = other then 1 else 0 := by
  induction metrics with
  | nil =>
      have hNew : increment [] series = [(series, 1)] := rfl
      rw [hNew, count_cons]
      simp [count]
  | cons entry rest ih =>
      rw [increment_cons, count_cons]
      by_cases hHere : entry.1 = series
      · rw [if_pos hHere, count_cons]
        by_cases hOther : series = other
        · have hFirst : entry.1 = other := hHere.trans hOther
          rw [if_pos hFirst, if_pos hFirst, if_pos hOther]
        · have hSkip : entry.1 ≠ other := by
            rw [hHere]
            exact hOther
          rw [if_neg hSkip, if_neg hSkip, if_neg hOther,
            count_map_of_ne rest series other hOther, Nat.add_zero]
      · rw [if_neg hHere, count_cons, ih]
        by_cases hFirst : entry.1 = other
        · have hOther : series ≠ other := by
            intro hSame
            exact hHere (hFirst.trans hSame.symm)
          rw [if_pos hFirst, if_pos hFirst, if_neg hOther, Nat.add_zero]
        · rw [if_neg hFirst, if_neg hFirst]

/- Records in a row add to each series as often as it is among them. -/
theorem count_foldl_increment
    (metrics : Metrics)
    (recorded : List Series)
    (series : Series) :
    (recorded.foldl increment metrics).count series =
      metrics.count series + recorded.count series := by
  induction recorded generalizing metrics with
  | nil => rfl
  | cons first rest ih =>
      rw [List.foldl_cons, ih, count_increment, List.count_cons,
        Nat.add_assoc, Nat.add_comm (List.count series rest)]
      simp only [beq_iff_eq]

end Metrics

------------------------------------------------------------
-- Calls
------------------------------------------------------------

namespace Call

/- The outcome of a call reports what has failed. -/
theorem reported_outcome
    (call : Call) :
    call.outcome.Reported := by
  cases call with
  | validate engine schema input | bind engine schema input render =>
      intro records hInvalid
      exact engine.ne_nil_of_validate_invalid schema input hInvalid
  | validateRaw engine schema raw =>
      exact engine.reported_validateRaw schema raw

/-
  The series that a call is recorded in, with the label of its
  outcome.
-/
def series
    (call : Call) : List Series :=
  .validations call.schema.name call.outcome.isValid ::
    .duration call.schema.name ::
      call.outcome.records.map fun record =>
        .errors call.schema.name record.code

/- The series of records are counters of errors only. -/
theorem count_errors_of_metric_ne
    (name : String)
    (records : List ErrorRecord)
    {series : Series}
    (hMetric : series.metric ≠ .errors) :
    (records.map fun record => Series.errors name record.code).count
      series = 0 := by
  rw [List.count_eq_zero]
  intro hMem
  rcases List.mem_map.mp hMem with ⟨record, _, rfl⟩
  exact hMetric rfl

/- A call is recorded once under its name and its label. -/
theorem count_series_validations
    (call : Call)
    (name : String)
    (valid : Bool) :
    call.series.count (.validations name valid) =
      if (call.schema.name == name && call.outcome.isValid == valid) = true
      then 1 else 0 := by
  have hMetric : (Series.validations name valid).metric ≠ .errors :=
    nofun
  rw [series, List.count_cons, List.count_cons,
    count_errors_of_metric_ne _ _ hMetric]
  simp

/- A call has one duration, under its name. -/
theorem count_series_duration
    (call : Call)
    (name : String) :
    call.series.count (.duration name) =
      if (call.schema.name == name) = true then 1 else 0 := by
  have hMetric : (Series.duration name).metric ≠ .errors := nofun
  rw [series, List.count_cons, List.count_cons,
    count_errors_of_metric_ne _ _ hMetric]
  simp

/- A call is recorded once for each record, under its own name. -/
theorem count_series_errors
    (call : Call)
    (name : String)
    (code : ErrorCode) :
    call.series.count (.errors name code) =
      if (call.schema.name == name) = true then
        call.outcome.records.countP fun record => record.code == code
      else 0 := by
  rw [series, List.count_cons, List.count_cons, List.count_eq_countP,
    List.countP_map]
  by_cases hName : call.schema.name = name
  · subst hName
    simp [Function.comp_def, Bool.beq_eq_decide_eq]
  · simp [hName, Function.comp_def]

/- Recording the outcome of a call counts its series. -/
theorem record_outcome
    (call : Call)
    (metrics : Metrics) :
    metrics.record call.schema call.outcome =
      call.series.foldl Metrics.increment metrics := by
  rw [Metrics.record, Metrics.recorded,
    call.reported_outcome.isEmpty_records]
  rfl

end Call

namespace Engine

/-
  Each entry point gives the answer that it gives without
  recording, and records the outcome of its validation once.
-/
theorem run_validateRecorded
    (engine : Engine)
    (schema : Schema)
    (input : Input)
    (metrics : Metrics) :
    (engine.validateRecorded schema input).run metrics =
      (engine.validate schema input,
        metrics.record schema (engine.validate schema input)) :=
  rfl

theorem run_validateRawRecorded
    (engine : Engine)
    (schema : Schema)
    (raw : Raw)
    (metrics : Metrics) :
    (engine.validateRawRecorded schema raw).run metrics =
      (engine.validateRaw schema raw,
        metrics.record schema (engine.validateRaw schema raw)) := by
  cases raw with
  | object fields =>
      exact engine.run_validateRecorded schema (.ofAuto fields) metrics
  | null | bool | number | string | array => rfl

theorem run_bindRecorded
    {R : Type}
    (engine : Engine)
    (schema : Schema)
    (input : Input)
    (render : ErrorBody → R)
    (metrics : Metrics) :
    (engine.bindRecorded schema input render).run metrics =
      (engine.bind schema input render,
        metrics.record schema (engine.validate schema input)) := by
  unfold bindRecorded bind
  rw [StateT.run_bind, run_validateRecorded]
  cases engine.validate schema input with
  | valid params => rfl
  | invalid records => rfl

end Engine

namespace Call

/- What is counted does not depend on the use of the answer. -/
theorem run_discard
    {R : Type}
    (act : Recorded R)
    (metrics : Metrics) :
    ((discard act).run metrics).2 = (act.run metrics).2 :=
  rfl

/- A call counts the series of its outcome, each one once. -/
theorem run_perform
    (call : Call)
    (metrics : Metrics) :
    (call.perform.run metrics).2 =
      call.series.foldl Metrics.increment metrics := by
  rw [← call.record_outcome]
  cases call with
  | validate engine schema input =>
      rw [perform, run_discard, engine.run_validateRecorded]
      rfl
  | validateRaw engine schema raw =>
      rw [perform, run_discard, engine.run_validateRawRecorded]
      rfl
  | bind engine schema input render =>
      rw [perform, run_discard, engine.run_bindRecorded]
      rfl

/-
  Calls in a row count the series of all their outcomes.  The
  induction is on the calls, from any counts to start with.
-/
theorem run_forM_perform
    (calls : List Call)
    (metrics : Metrics) :
    ((calls.forM perform).run metrics).2 =
      (calls.flatMap series).foldl Metrics.increment metrics := by
  induction calls generalizing metrics with
  | nil => rfl
  | cons call rest ih =>
      rw [List.flatMap_cons, List.foldl_append, ← ih,
        ← call.run_perform metrics]
      rfl

/-
  A series that some calls record once, and others not at all,
  is recorded as often as there are such calls.
-/
theorem count_flatMap_series
    (calls : List Call)
    {series : Series}
    {records : Call → Bool}
    (hOnce :
      ∀ call : Call,
        call.series.count series = if records call = true then 1 else 0) :
    (calls.flatMap Call.series).count series = calls.countP records := by
  induction calls with
  | nil => rfl
  | cons call rest ih =>
      rw [List.flatMap_cons, List.count_append, ih, hOnce,
        List.countP_cons, Nat.add_comm]

end Call

------------------------------------------------------------
-- Accounts
------------------------------------------------------------

namespace Metrics

/- A series is counted once for each time that a call records it. -/
theorem count_after
    (calls : List Call)
    (series : Series) :
    (after calls).count series =
      (calls.flatMap Call.series).count series := by
  rw [after, Call.run_forM_perform, count_foldl_increment]
  exact Nat.zero_add _

/-
  The counts are those of calls: for every name of a schema, how
  many calls on schemas of this name had a valid or an invalid
  outcome, how many there were, and how many records with a code
  all their outcomes had.
-/
structure AccountsFor
    (metrics : Metrics)
    (calls : List Call) : Prop where
  validations :
    ∀ name valid,
      metrics.count (.validations name valid) =
        calls.countP fun call =>
          call.schema.name == name && call.outcome.isValid == valid
  durations :
    ∀ name,
      metrics.count (.duration name) =
        calls.countP fun call => call.schema.name == name
  errors :
    ∀ name code,
      metrics.count (.errors name code) =
        ((calls.filter fun call => call.schema.name == name).flatMap
          fun call => call.outcome.records).countP
            fun record => record.code == code

/- The counts after calls account for every one of them. -/
theorem accountsFor
    (calls : List Call) :
    (after calls).AccountsFor calls := by
  constructor
  case validations =>
    intro name valid
    rw [count_after]
    exact
      Call.count_flatMap_series calls fun call =>
        call.count_series_validations name valid
  case durations =>
    intro name
    rw [count_after]
    exact
      Call.count_flatMap_series calls fun call =>
        call.count_series_duration name
  case errors =>
    intro name code
    rw [count_after]
    induction calls with
    | nil => rfl
    | cons call rest ih =>
        rw [List.flatMap_cons, List.count_append, ih,
          call.count_series_errors, List.filter_cons]
        by_cases hName : (call.schema.name == name) = true
        · rw [if_pos hName, if_pos hName, List.flatMap_cons,
            List.countP_append]
        · rw [if_neg hName, if_neg hName, Nat.zero_add]

end Metrics

end Intake
