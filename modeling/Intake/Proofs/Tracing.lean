import Intake.Proofs.Invocation
import Intake.Validation.Trace

/-
  This file compares the events of a run with the invocations
  that the run reaches.  The events are logged while the run
  goes on, so they show from outside which schemas are run, and
  at which depth.

  Key definitions include:
    * `Invocation.trace`
    * `Invocation.resolvedEvent`

  The main statements are:
    * `Invocation.mem_trace_iff_enters`
    * `Invocation.mem_trace_iff_reaches`
-/

namespace Intake

------------------------------------------------------------
-- Events of Parameters and Elements
------------------------------------------------------------

/-
  The events of an array are those of its objects, as long as
  all elements before the object validate.
-/
theorem mem_traceElements_iff
    (validate : Bucket → Except (List ErrorRecord) Params)
    (trace : Bucket → List Event)
    (items : List Raw)
    (event : Event) :
    event ∈ traceElements validate trace items ↔
      ∃ before item after, items = before ++ item :: after ∧
        (∀ other ∈ before, ∃ v, ElementValidates validate other v) ∧
          ∃ fields, item = .object fields ∧
            event ∈ trace fields := by
  induction items with
  | nil => simp [traceElements]
  | cons item rest ih =>
      rw [exists_append_cons_iff _ fun _ found =>
        ∃ fields, found = Raw.object fields ∧ event ∈ trace fields,
        ← ih]
      cases item with
      | object fields =>
          cases hValidate : validate fields with
          | ok params =>
              have hItem :
                  ∃ v, ElementValidates validate (.object fields) v :=
                ⟨_, fields, params, rfl, hValidate, rfl⟩
              simp [traceElements, hValidate, succeeded, hItem]
          | error records =>
              -- Nothing after an element that fails is looked at.
              have hFails : ElementFails validate 0 (.object fields) _ :=
                .object hValidate
              have hItem := hFails.not_validates
              simp [traceElements, hValidate, succeeded, hItem]
      | null | bool | number | string | array =>
          simp [traceElements, ElementValidates]

namespace Resolved

/-
  A nested schema has events exactly for an object, on which it
  is run one level deeper, within the limit.
-/
theorem mem_trace_nested_iff
    (limit depth : Nat)
    (schema : Schema)
    (raw : Raw)
    (event : Event) :
    event ∈ (Resolved.nested schema).trace limit depth raw ↔
      ∃ fields, raw = .object fields ∧ depth + 1 ≤ limit ∧
        event ∈ schema.trace limit (depth + 1) (.nested fields) := by
  cases raw with
  | object fields =>
      by_cases hDepth : depth + 1 ≤ limit
      · simp [Resolved.trace, Nat.not_lt.mpr hDepth, hDepth]
      · simp [Resolved.trace, Nat.not_le.mp hDepth, hDepth]
  | null | bool | number | string | array => simp [Resolved.trace]

/-
  An array of a nested schema has events exactly for its
  objects, as long as all elements before the object validate,
  within the limit.
-/
theorem mem_trace_nestedList_iff
    (limit depth : Nat)
    (schema : Schema)
    (raw : Raw)
    (event : Event) :
    event ∈ (Resolved.nestedList schema).trace limit depth raw ↔
      ∃ before fields after,
        raw = .array (before ++ .object fields :: after) ∧
          depth + 1 ≤ limit ∧
            (∀ item ∈ before, ∃ v,
              ElementValidates (schema.runBelow limit depth) item v) ∧
              event ∈
                schema.trace limit (depth + 1) (.nested fields) := by
  cases raw with
  | array items =>
      by_cases hDepth : depth + 1 ≤ limit
      · rw [Resolved.trace, if_neg (Nat.not_lt.mpr hDepth),
          mem_traceElements_iff]
        simp only [Raw.array.injEq, hDepth, true_and]
        constructor
        · rintro
            ⟨before, item, after, hItems, hFirst, fields, rfl, hEvent⟩
          exact ⟨before, fields, after, hItems, hFirst, hEvent⟩
        · rintro ⟨before, fields, after, hItems, hFirst, hEvent⟩
          exact ⟨before, _, after, hItems, hFirst, fields, rfl, hEvent⟩
      · simp [Resolved.trace, Nat.not_le.mp hDepth, hDepth]
  | null | bool | number | string | object => simp [Resolved.trace]

end Resolved

/- The events of parameters follow one another. -/
theorem traceParams_eq_flatMap
    (limit depth : Nat)
    (schemaName : String)
    (params : List (Parameter Schema))
    (input : Input) :
    traceParams limit depth schemaName params input =
      params.flatMap fun param =>
        param.resolved.trace limit depth (param.effective input) ++
          [.paramResolved schemaName param.name depth
            (succeeded (param.resolve limit depth input))] := by
  induction params with
  | nil => rfl
  | cons param rest ih =>
      rw [traceParams, ih, List.flatMap_cons, List.append_assoc]
      cases param
      rw [Parameter.trace]
      rfl

namespace Invocation

variable {limit : Nat}

------------------------------------------------------------
-- Events of Invocations
------------------------------------------------------------

/- The events of an invocation. -/
def trace
    (limit : Nat)
    (call : Invocation) : List Event :=
  call.schema.trace limit call.depth call.input

/- The event that tells whether a parameter has a value. -/
def resolvedEvent
    (limit : Nat)
    (call : Invocation)
    (param : Parameter Schema) : Event :=
  .paramResolved call.schema.name param.name call.depth
    (succeeded (param.resolve limit call.depth call.input))

/-
  An invocation has an event of its own for each parameter, and
  those of the schema that coerces the data of the parameter.
-/
theorem mem_trace_iff
    (call : Invocation)
    (event : Event) :
    event ∈ call.trace limit ↔
      ∃ param ∈ call.schema.params,
        event ∈ param.resolved.trace limit call.depth
            (param.effective call.input) ∨
          event = call.resolvedEvent limit param := by
  rcases call with ⟨depth, schema, input⟩
  rcases schema with ⟨name, params, types, globals, policy⟩
  rw [trace, Schema.trace, traceParams_eq_flatMap]
  simp only [List.mem_flatMap, List.mem_append, List.mem_singleton]
  rfl

/-
  An event belongs to an invocation itself or to one that the
  invocation enters.
-/
theorem mem_trace_iff_enters
    (call : Invocation)
    (event : Event) :
    event ∈ call.trace limit ↔
      (∃ param ∈ call.schema.params,
        event = call.resolvedEvent limit param) ∨
      ∃ segment next, call.Enters limit segment next ∧
        event ∈ next.trace limit := by
  rw [mem_trace_iff]
  constructor
  · rintro ⟨param, hParam, hTrace | hOwn⟩
    · right
      cases hResolved : param.resolved with
      | coerced name coerce =>
          simp [hResolved, Resolved.trace] at hTrace
      | nested child =>
          rw [hResolved, Resolved.mem_trace_nested_iff] at hTrace
          rcases hTrace with ⟨fields, hShape, hLevel, hEvent⟩
          exact ⟨_, _, .object hParam hResolved hShape hLevel, hEvent⟩
      | nestedList child =>
          rw [hResolved, Resolved.mem_trace_nestedList_iff] at hTrace
          rcases hTrace with
            ⟨before, fields, after, hShape, hLevel, hFirst, hEvent⟩
          exact
            ⟨_, _, .element hParam hResolved hShape hLevel hFirst,
              hEvent⟩
    · exact Or.inl ⟨param, hParam, hOwn⟩
  · rintro (⟨param, hParam, hOwn⟩ | ⟨segment, next, hEnters, hTrace⟩)
    · exact ⟨param, hParam, Or.inr hOwn⟩
    · cases hEnters with
      | @object param child fields declared refers shape level =>
          refine ⟨param, declared, Or.inl ?_⟩
          rw [refers, Resolved.mem_trace_nested_iff]
          exact ⟨fields, shape, level, hTrace⟩
      | @element param child before after fields declared refers shape
          level first =>
          refine ⟨param, declared, Or.inl ?_⟩
          rw [refers, Resolved.mem_trace_nestedList_iff]
          exact ⟨before, fields, after, shape, level, first, hTrace⟩

/-
  The events of an invocation are those of the parameters of
  all invocations that it reaches.
-/
theorem mem_trace_iff_reaches
    (call : Invocation)
    (event : Event) :
    event ∈ call.trace limit ↔
      ∃ place last, call.Reaches limit place last ∧
        ∃ param ∈ last.schema.params,
          event = last.resolvedEvent limit param := by
  constructor
  · intro hTrace
    induction hSchema : call.schema using Schema.induction
      generalizing call with
    | step schema ih =>
        subst hSchema
        rcases (call.mem_trace_iff_enters event).mp hTrace with
          hOwn | ⟨segment, next, hEnters, hNext⟩
        · exact ⟨[], call, .here call, hOwn⟩
        · rcases hEnters.exists_declared with
            ⟨param, hParam, _, hChild⟩
          rcases ih param hParam next.schema hChild next hNext rfl with
            ⟨place, last, hReaches, hOwn⟩
          exact ⟨segment :: place, last, .step hEnters hReaches, hOwn⟩
  · rintro ⟨place, last, hReaches, hOwn⟩
    induction hReaches with
    | here call =>
        exact (call.mem_trace_iff_enters event).mpr (Or.inl hOwn)
    | @step call next last segment place enters rest ih =>
        exact
          (call.mem_trace_iff_enters event).mpr
            (Or.inr ⟨segment, next, enters, ih hOwn⟩)

end Invocation

end Intake
