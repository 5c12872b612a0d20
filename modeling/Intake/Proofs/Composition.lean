import Intake.Proofs.Faults

/-
  This file shows that nested schemas are run as if each one
  stood alone.  Only the levels that are left below a
  parameter count, and the records of a nested run are those
  of a run by itself, with longer paths.

  Key definitions include:
    * `Schema.runAlone`
    * `ErrorRecord.within`
    * `Schema.Composes`

  The main statements are:
    * `Schema.run_add`
    * `Schema.composes`
-/

namespace Intake

------------------------------------------------------------
-- Levels
------------------------------------------------------------

/-
  Coercion depends on the levels that are left, if runs of the
  schema below do.
-/
theorem Resolved.coerce_add
    (limit depth levels : Nat)
    (resolved : Resolved Schema)
    (hBelow :
      ∀ schema, resolved.schema? = some schema → ∀ input,
        schema.run (limit + levels) (depth + 1 + levels) input =
          schema.run limit (depth + 1) input)
    (raw : Raw) :
    resolved.coerce (limit + levels) (depth + levels) raw =
      resolved.coerce limit depth raw := by
  have hLevel : depth + levels + 1 = depth + 1 + levels := by
    omega
  have hDeep :
      limit + levels < depth + 1 + levels ↔ limit < depth + 1 := by
    omega
  cases resolved with
  | coerced name coerce => rw [Resolved.coerce, Resolved.coerce]
  | nested schema =>
      cases raw with
      | object fields =>
          rw [Resolved.coerce, Resolved.coerce]
          simp only [hLevel, hDeep, hBelow schema rfl]
      | null | bool | number | string | array =>
          simp only [Resolved.coerce]
  | nestedList schema =>
      cases raw with
      | array items =>
          rw [Resolved.coerce, Resolved.coerce]
          simp only [hLevel, hDeep, hBelow schema rfl]
      | null | bool | number | string | object =>
          simp only [Resolved.coerce]

/-
  A run depends on the levels that are left, and not on the
  depth.
-/
theorem Schema.run_add
    (schema : Schema)
    (limit depth levels : Nat)
    (input : Input) :
    schema.run (limit + levels) (depth + levels) input =
      schema.run limit depth input := by
  induction schema using Schema.induction
    generalizing depth input with
  | step schema ih =>
      have hParams :
          ∀ param ∈ schema.params,
            param.resolve (limit + levels) (depth + levels) input =
              param.resolve limit depth input := by
        intro param hParam
        rw [Parameter.resolve_eq, Parameter.resolve_eq,
          Resolved.coerce_add]
        intro below hBelow input
        exact ih param hParam below hBelow (depth + 1) input
      rw [Schema.run_eq, Schema.run_eq]
      congr 1
      apply List.map_congr_left
      intro param hParam
      rw [hParams param hParam]

namespace Schema

/-
  Run a schema by itself on an object, under the levels that
  are left below a depth.
-/
def runAlone
    (limit depth : Nat)
    (schema : Schema)
    (fields : Bucket) : Except (List ErrorRecord) Params :=
  schema.run (limit - depth - 1) 0 (.nested fields)

/- A run at a greater depth is a run at depth zero. -/
theorem run_succ
    (schema : Schema)
    {limit depth : Nat}
    (hDepth : depth < limit)
    (input : Input) :
    schema.run limit (depth + 1) input =
      schema.run (limit - depth - 1) 0 input := by
  have hLimit : limit - depth - 1 + (depth + 1) = limit := by
    omega
  have hRun :=
    schema.run_add (limit - depth - 1) 0 (depth + 1) input
  rw [hLimit, Nat.zero_add] at hRun
  exact hRun

/- A run one level deeper is a run by itself. -/
theorem runBelow_eq_runAlone
    (schema : Schema)
    {limit depth : Nat}
    (hDepth : depth < limit) :
    schema.runBelow limit depth = schema.runAlone limit depth := by
  funext fields
  exact schema.run_succ hDepth (.nested fields)

end Schema

------------------------------------------------------------
-- Paths
------------------------------------------------------------

/- The record with its path below another path, after a point. -/
def ErrorRecord.within
    (path : String)
    (record : ErrorRecord) : ErrorRecord :=
  record.move fun
    | none => path
    | some child => path ++ "." ++ child

namespace Schema

variable {limit depth : Nat}
variable {schema : Schema}
variable {input : Input}

/- The place of a fault begins with a declared parameter. -/
theorem FaultAt.exists_declared
    {segment : Segment}
    {rest : Place}
    {fault : Fault}
    (hFault :
      schema.FaultAt limit depth input (segment :: rest) fault) :
    ∃ param ∈ schema.params, segment.name = param.name := by
  cases hFault with
  | param declared fails simple => exact ⟨_, declared, rfl⟩
  | nested declared refers shape level below =>
      exact ⟨_, declared, rfl⟩
  | element declared refers shape level first below =>
      exact ⟨_, declared, rfl⟩
  | elementShape declared refers shape level first other =>
      exact ⟨_, declared, rfl⟩

/-
  If no parameter is called like an index, no path that the
  schema reports starts as an index does.
-/
theorem startsAtElement_of_reports
    (hBuilt : schema.Built)
    (hNames :
      ∀ param ∈ schema.params,
        Path.startsAtElement param.name = false)
    {record : ErrorRecord}
    (hReports : schema.Reports limit depth input record)
    {path : String}
    (hPath : record.param = some path) :
    Path.startsAtElement path = false := by
  rcases exists_faultAt_of_reports hReports with
    ⟨place, fault, hFault, rfl⟩
  cases place with
  | nil => cases hPath
  | cons segment rest =>
      cases hPath
      rcases hFault.exists_declared with ⟨param, hParam, hName⟩
      have hSome := hFault.hasNames hBuilt segment (by simp)
      rw [segment.startsAtElement_pathBefore hSome,
        Segment.looksLikeIndex, hName]
      exact hNames param hParam

end Schema

/-
  Below a parameter, a path that looks like no index follows a
  point.
-/
theorem ErrorRecord.move_below
    (name : String)
    (record : ErrorRecord)
    (hPath :
      ∀ path, record.param = some path →
        Path.startsAtElement path = false) :
    record.move (Path.below name) = record.within name := by
  rcases record with ⟨_ | path, message, code⟩
  · rfl
  · have hStart := hPath path rfl
    simp [move, within, Path.below, hStart]

/- Below an element, every path follows a point. -/
theorem ErrorRecord.move_belowElement
    (name : String)
    (index : Nat)
    (record : ErrorRecord) :
    (record.move (Path.belowElement index)).move (Path.below name) =
      record.within (name ++ Path.element index) := by
  simp only [move, within, Path.below_belowElement]
  rcases record with ⟨_ | path, message, code⟩
  · rfl
  · simp [Path.belowElement, String.append_assoc]

------------------------------------------------------------
-- Nested Runs
------------------------------------------------------------

/- A nested run succeeds with the map of the fields. -/
theorem Failure.ofNested_eq_ok_iff
    (result : Except (List ErrorRecord) Params)
    (v : Value) :
    ofNested result = .ok v ↔
      ∃ fields, result = .ok fields ∧ v = .map fields := by
  cases result <;> simp [ofNested, @eq_comm _ v]

/-
  A parameter fails if its raw data is not null and not
  coerced.
-/
theorem Parameter.resolve_of_coerce_eq_error
    (limit depth : Nat)
    (param : Parameter Schema)
    (input : Input)
    {failure : Failure}
    (hRaw : (param.effective input).isNull = false)
    (hCoerce :
      param.resolved.coerce limit depth (param.effective input) =
        .error failure) :
    param.resolve limit depth input = .error failure := by
  rw [resolve_eq_error_iff]
  exact Or.inr ⟨hRaw, Or.inl hCoerce⟩

/-
  How the first failing element of an array shows: all elements
  before it validate, and the records are either those of the
  element by itself, below its place, or the one record of an
  element that is no object.
-/
def ElementReported
    (validate : Bucket → Except (List ErrorRecord) Params)
    (name : String)
    (items : List Raw)
    (records : List ErrorRecord) : Prop :=
  ∃ before item after, items = before ++ item :: after ∧
    (∀ other ∈ before, ∃ v, ElementValidates validate other v) ∧
      ((∃ fields found, item = .object fields ∧
          validate fields = .error found ∧
            records =
              found.map
                (.within (name ++ Path.element before.length))) ∨
        ((∀ fields, item ≠ .object fields) ∧
          records =
            [.atParam (name ++ Path.element before.length)
              invalidReason]))

/-
  The records of elements that fail are those of the first
  one.
-/
theorem elementReported_of_validateElements
    (validate : Bucket → Except (List ErrorRecord) Params)
    (name : String)
    (items : List Raw)
    {failure : Failure}
    (hElements :
      validateElements validate 0 items = .error failure) :
    ElementReported validate name items (failure.records name) := by
  rcases (validateElements_eq_error_iff _ _ _ _).mp hElements with
    ⟨before, item, after, rfl, hBefore, hFails⟩
  rw [Nat.zero_add] at hFails
  refine ⟨before, item, after, rfl, hBefore, ?_⟩
  cases hFails with
  | @object fields found fails =>
      refine Or.inl ⟨fields, found, rfl, fails, ?_⟩
      rw [Failure.records, List.map_map]
      apply List.map_congr_left
      intro record _
      exact record.move_belowElement name before.length
  | other shape =>
      refine Or.inr ⟨shape, ?_⟩
      have hPath :=
        Path.below_belowElement name before.length none
      simpa [Failure.records, ErrorRecord.move, ErrorRecord.atParam,
        Path.belowElement] using hPath

------------------------------------------------------------
-- Composition
------------------------------------------------------------

/-
  A schema that is nested at a depth is run as it is by itself
  under the levels that are left.  A parameter that refers to
  it succeeds exactly if the runs by themselves do, with their
  fields, and else it has their records below its own name.
-/
structure Schema.Composes
    (limit depth : Nat)
    (schema : Schema) : Prop where
  level :
    ∀ input,
      schema.run limit (depth + 1) input =
        schema.run (limit - depth - 1) 0 input
  object :
    ∀ (param : Parameter Schema) (input : Input) (fields : Bucket),
      param.resolved = .nested schema →
        param.effective input = .object fields →
          (∀ v,
            param.resolved.coerce limit depth (.object fields) =
                .ok v ↔
              ∃ found, schema.runAlone limit depth fields = .ok found ∧
                v = .map found) ∧
          ∀ records,
            schema.runAlone limit depth fields = .error records →
              ∃ failure,
                param.resolve limit depth input = .error failure ∧
                  failure.records param.name =
                    records.map (.within param.name)
  array :
    ∀ (param : Parameter Schema) (input : Input) (items : List Raw),
      param.resolved = .nestedList schema →
        param.effective input = .array items →
          (∀ v,
            param.resolved.coerce limit depth (.array items) = .ok v ↔
              ∃ vs,
                List.Forall₂
                    (ElementValidates (schema.runAlone limit depth))
                    items vs ∧
                  v = .list vs) ∧
          ((¬ ∃ vs,
              List.Forall₂
                (ElementValidates (schema.runAlone limit depth))
                items vs) →
            ∃ failure,
              param.resolve limit depth input = .error failure ∧
                ElementReported (schema.runAlone limit depth)
                  param.name items (failure.records param.name))

/-
  Within the limit, nested validation is compositional for
  every schema without a parameter that is called like an
  index.
-/
theorem Schema.composes
    (schema : Schema)
    (hBuilt : schema.Built)
    (hNames :
      ∀ param ∈ schema.params,
        Path.startsAtElement param.name = false)
    (limit depth : Nat)
    (hDepth : depth < limit) :
    schema.Composes limit depth := by
  constructor
  case level =>
    intro input
    exact schema.run_succ hDepth input
  case object =>
    intro param input fields hRefers hShape
    have hCoerce :
        param.resolved.coerce limit depth (.object fields) =
          Failure.ofNested (schema.runAlone limit depth fields) := by
      rw [hRefers, Resolved.coerce_nested_object hDepth,
        schema.runBelow_eq_runAlone hDepth]
    constructor
    · intro v
      rw [hCoerce, Failure.ofNested_eq_ok_iff]
    · intro records hRun
      refine ⟨.nested records, ?_, ?_⟩
      · apply param.resolve_of_coerce_eq_error
        · rw [hShape]
          rfl
        · rw [hShape, hCoerce, hRun]
          rfl
      · apply List.map_congr_left
        intro record hMem
        apply record.move_below
        intro path hPath
        exact
          startsAtElement_of_reports hBuilt hNames
            ⟨records, hRun, hMem⟩ hPath
  case array =>
    intro param input items hRefers hShape
    have hCoerce :
        param.resolved.coerce limit depth (.array items) =
          (validateElements (schema.runAlone limit depth) 0 items).map
            .list := by
      rw [hRefers, Resolved.coerce_nestedList_array hDepth,
        schema.runBelow_eq_runAlone hDepth]
    simp only [← validateElements_eq_ok_iff _ 0]
    cases hElements :
        validateElements (schema.runAlone limit depth) 0 items with
    | ok vs =>
        simp [hCoerce, hElements, Except.map, @eq_comm _ (Value.list vs)]
    | error failure =>
        refine ⟨by simp [hCoerce, hElements, Except.map], ?_⟩
        intro _
        refine ⟨failure, ?_,
          elementReported_of_validateElements _ _ _ hElements⟩
        apply param.resolve_of_coerce_eq_error
        · rw [hShape]
          rfl
        · rw [hShape, hCoerce, hElements]
          rfl

/-
  A line composes at the outermost level, where a basket
  refers to it and one of its lines lacks its name.
-/
theorem Samples.line_composes :
    Samples.line.Built ∧
      (∀ param ∈ Samples.line.params,
        Path.startsAtElement param.name = false) ∧
      0 < 32 ∧
      Samples.line.Composes 32 0 ∧
      ∃ param ∈ Samples.basket.params,
        param.resolved = .nestedList Samples.line ∧
          param.effective Samples.namelessLine =
            .array [.object [("x", .string "a")], .object []] := by
  have hNames :
      ∀ param ∈ Samples.line.params,
        Path.startsAtElement param.name = false := by
    decide
  exact
    ⟨Samples.line_built, hNames, by decide,
      Schema.composes Samples.line Samples.line_built hNames 32 0
        (by decide),
      _, List.mem_cons_self, rfl, rfl⟩

end Intake
