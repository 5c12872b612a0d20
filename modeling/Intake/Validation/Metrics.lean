import Intake.Event
import Intake.Validation.Outcome

/-
  This file defines what is counted about validations.

  Every series has a name, labels in a fixed order, and the
  number of times that it was recorded.

  Key definitions include:
    * `Metric`
    * `Series`
    * `Metrics`
    * `Metrics.record`
-/

namespace Intake

------------------------------------------------------------
-- Metrics
------------------------------------------------------------

/- What is counted. -/
inductive Metric where
  | validations
  | duration
  | errors
deriving DecidableEq

namespace Metric

/- The name under which a metric is published. -/
def name : Metric → String
  | .validations => "veritas_validations_total"
  | .duration => "veritas_validation_duration_seconds"
  | .errors => "veritas_validation_errors_total"

/- The kind of a metric, and what it says. -/
def description : Metric → String
  | .validations => "counter: Total number of validation calls by outcome"
  | .duration => "histogram: Validation duration in seconds"
  | .errors =>
      "counter: Total number of validation error entries by error code"

/- All metrics. -/
def all : List Metric :=
  [.validations, .duration, .errors]

end Metric

------------------------------------------------------------
-- Series
------------------------------------------------------------

/- A metric with the values of its labels. -/
inductive Series where
  | validations (schema : String) (valid : Bool)
  | duration (schema : String)
  | errors (schema : String) (code : ErrorCode)
deriving DecidableEq

namespace Series

/- The metric of a series. -/
def metric : Series → Metric
  | .validations _ _ => .validations
  | .duration _ => .duration
  | .errors _ _ => .errors

/- The labels of a series. -/
def labels : Series → Fields String
  | .validations schema valid =>
      [("schema", schema), ("outcome", Event.verdict valid)]
  | .duration schema => [("schema", schema)]
  | .errors schema code => [("schema", schema), ("code", code.name)]

/- The text of a series: its name, and its labels between braces. -/
def write
    (series : Series) : String :=
  series.metric.name ++ Value.braced
    (",".intercalate (series.labels.map fun (label, content) =>
      label ++ "=" ++ content))

end Series

------------------------------------------------------------
-- Counts
------------------------------------------------------------

/- The number of records of each series. -/
abbrev Metrics :=
  List (Series × Nat)

namespace Metrics

/- The number of records of a series. -/
def count
    (metrics : Metrics)
    (series : Series) : Nat :=
  ((metrics.find? fun entry => entry.1 == series).map Prod.snd).getD 0

/- Count one more record of a series. -/
def increment
    (metrics : Metrics)
    (series : Series) : Metrics :=
  if metrics.any fun entry => entry.1 == series then
    metrics.map fun entry =>
      if entry.1 == series then (entry.1, entry.2 + 1) else entry
  else
    metrics ++ [(series, 1)]

/- The series that one validation of a schema is recorded in. -/
def recorded
    (schema : String)
    (records : List ErrorRecord) : List Series :=
  .validations schema records.isEmpty :: .duration schema ::
    records.map fun record => .errors schema record.code

/- Record a validation of a schema with its outcome. -/
def record
    (metrics : Metrics)
    (schema : Schema)
    (outcome : Outcome) : Metrics :=
  (recorded schema.name outcome.records).foldl increment metrics

end Metrics

end Intake
