import Intake.Proofs.Faults

/-
  This file follows a run of a schema to the runs of nested
  schemas that it starts.

  An invocation is a schema that is run on an input at some
  depth.  It enters another one for the object of a nested
  parameter, and for each element of an array of objects, as
  long as the elements before it validate.

  Key definitions include:
    * `Invocation`
    * `Invocation.Enters`
    * `Invocation.Reaches`

  The main statements are:
    * `Invocation.Enters.faultAt`
    * `Invocation.records_cases`
-/

namespace Intake

/- A schema that is run on an input at a depth. -/
structure Invocation where
  depth : Nat
  schema : Schema
  input : Input

namespace Invocation

------------------------------------------------------------
-- Steps and Chains of Steps
------------------------------------------------------------

/- The result of an invocation. -/
def run
    (limit : Nat)
    (call : Invocation) : Except (List ErrorRecord) Params :=
  call.schema.run limit call.depth call.input

/-
  An invocation starts another one, for the object of one of
  its parameters or for an element of an array of objects.
-/
inductive Enters
    (limit : Nat)
    (call : Invocation) : Segment → Invocation → Prop where
  | object
      {param : Parameter Schema}
      {child : Schema}
      {fields : Bucket}
      (declared : param ∈ call.schema.params)
      (refers : param.resolved = .nested child)
      (shape : param.effective call.input = .object fields)
      (level : call.depth + 1 ≤ limit) :
      Enters limit call ⟨param.name, none⟩
        ⟨call.depth + 1, child, .nested fields⟩
  | element
      {param : Parameter Schema}
      {child : Schema}
      {before after : List Raw}
      {fields : Bucket}
      (declared : param ∈ call.schema.params)
      (refers : param.resolved = .nestedList child)
      (shape :
        param.effective call.input =
          .array (before ++ .object fields :: after))
      (level : call.depth + 1 ≤ limit)
      (first :
        ∀ item ∈ before, ∃ v,
          ElementValidates (child.runBelow limit call.depth) item v) :
      Enters limit call ⟨param.name, some before.length⟩
        ⟨call.depth + 1, child, .nested fields⟩

/-
  The invocations that are started one below the other, with
  the place of the last one.
-/
inductive Reaches
    (limit : Nat) : Invocation → Place → Invocation → Prop where
  | here
      (call : Invocation) :
      Reaches limit call [] call
  | step
      {call next last : Invocation}
      {segment : Segment}
      {place : Place}
      (enters : call.Enters limit segment next)
      (rest : Reaches limit next place last) :
      Reaches limit call (segment :: place) last

variable {limit : Nat}
variable {call next : Invocation}
variable {segment : Segment}

/- The schema that is entered is that of a declared parameter. -/
theorem Enters.exists_declared
    (hEnters : call.Enters limit segment next) :
    ∃ param ∈ call.schema.params,
      segment.name = param.name ∧
        param.resolved.schema? = some next.schema := by
  cases hEnters with
  | @object param child fields declared refers shape level =>
      refine ⟨param, declared, rfl, ?_⟩
      rw [refers]
      rfl
  | @element param child before after fields declared refers shape
      level first =>
      refine ⟨param, declared, rfl, ?_⟩
      rw [refers]
      rfl

/- An invocation is the only one at its own place. -/
theorem reaches_nil_iff
    {last : Invocation} :
    call.Reaches limit [] last ↔ last = call := by
  constructor
  · intro hReaches
    cases hReaches
    rfl
  · rintro rfl
    exact .here last

/- What is reached by a place is reached from where it enters. -/
theorem reaches_cons_iff
    {place : Place}
    {last : Invocation} :
    call.Reaches limit (segment :: place) last ↔
      ∃ next, call.Enters limit segment next ∧
        next.Reaches limit place last := by
  constructor
  · intro hReaches
    cases hReaches with
    | step enters rest => exact ⟨_, enters, rest⟩
  · rintro ⟨next, hEnters, hRest⟩
    exact .step hEnters hRest

------------------------------------------------------------
-- Faults
------------------------------------------------------------

/- A fault arises at a place below an invocation. -/
def FaultAt
    (limit : Nat)
    (call : Invocation)
    (place : Place)
    (fault : Fault) : Prop :=
  call.schema.FaultAt limit call.depth call.input place fault

/- A fault of an invocation is one of those that lead to it. -/
theorem Enters.faultAt
    (hEnters : call.Enters limit segment next)
    {place : Place}
    {fault : Fault}
    (hFault : next.FaultAt limit place fault) :
    call.FaultAt limit (segment :: place) fault := by
  cases hEnters with
  | object declared refers shape level =>
      exact .nested declared refers shape level hFault
  | element declared refers shape level first =>
      exact .element declared refers shape level first hFault

/- The records of a run are those of its faults. -/
theorem exists_faultAt
    {records : List ErrorRecord}
    (hRun : call.run limit = .error records)
    {record : ErrorRecord}
    (hMem : record ∈ records) :
    ∃ place fault, call.FaultAt limit place fault ∧
      record = fault.recordAt place :=
  Schema.exists_faultAt_of_reports ⟨records, hRun, hMem⟩

/- The record of a fault goes below a segment together with it. -/
theorem move_recordAt
    (segment : Segment)
    (fault : Fault)
    (place : Place) :
    (fault.recordAt place).move segment.pathBefore =
      fault.recordAt (segment :: place) :=
  rfl

/-
  A parameter that fails has one record of its own, or the
  records of the invocation in which it fails, moved below its
  name.
-/
theorem records_cases
    {param : Parameter Schema}
    (hParam : param ∈ call.schema.params)
    {failure : Failure}
    (hResolve :
      param.resolve limit call.depth call.input = .error failure) :
    (∃ segment fault, segment.name = param.name ∧
      call.FaultAt limit [segment] fault ∧
        failure.records param.name = [fault.recordAt [segment]]) ∨
    ∃ segment next found, segment.name = param.name ∧
      call.Enters limit segment next ∧
        next.run limit = .error found ∧
          failure.records param.name =
            found.map (.move segment.pathBefore) := by
  rcases param.reason_or_nested_of_resolve_eq_error limit call.depth
      call.input hResolve with
    ⟨reason, hReason⟩ | ⟨records, rfl⟩
  · refine Or.inl ⟨⟨param.name, none⟩, ⟨reason, .ofReason reason⟩,
      rfl, .param hParam hResolve hReason, ?_⟩
    rw [Failure.records_of_reason? _ hReason]
    rfl
  · rw [Parameter.resolve_eq_nested_error_iff,
      Resolved.coerce_eq_nested_error_iff] at hResolve
    rcases hResolve.2 with
      ⟨child, fields, hRefers, hShape, hLevel, hRun⟩ |
      ⟨child, items, hRefers, hShape, hLevel, hElements⟩
    · exact Or.inr ⟨⟨param.name, none⟩, _, records, rfl,
        .object hParam hRefers hShape hLevel, hRun, rfl⟩
    · rcases (validateElements_eq_error_iff _ _ _ _).mp hElements with
        ⟨before, item, after, rfl, hFirst, hFails⟩
      rw [Nat.zero_add] at hFails
      cases hFails with
      | @object fields found fails =>
          refine Or.inr ⟨⟨param.name, some before.length⟩, _, found,
            rfl, .element hParam hRefers hShape hLevel hFirst, fails,
            ?_⟩
          rw [Failure.records, List.map_map]
          rfl
      | other shape =>
          exact Or.inl ⟨⟨param.name, some before.length⟩,
            ⟨invalidReason, .invalid⟩, rfl,
            .elementShape hParam hRefers hShape hLevel hFirst shape,
            rfl⟩

end Invocation

end Intake
