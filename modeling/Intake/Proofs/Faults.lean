import Intake.Proofs.Building
import Intake.Proofs.Failing
import Intake.Proofs.Place

/-
  This file says where errors arise in an input, without
  regard to how records are put together, and shows that the
  records of an invalid outcome are exactly the records of
  these errors, with the paths of their places.

  The path of a place is its text only as long as no name that
  begins with a bracket follows a name without index, which
  the key policy of strings does not rule out.

  Key definitions include:
    * `Fault`
    * `Schema.FaultAt`

  The main statements are:
    * `Schema.reports_iff_faultAt`
    * `Schema.FaultAt.hasNames`
    * `Engine.path_of_validate_invalid`
-/

namespace Intake

------------------------------------------------------------
-- Faults
------------------------------------------------------------

/- What is wrong at a place. -/
structure Fault where
  reason : String
  code : ErrorCode
deriving DecidableEq

/- The record of a fault at a place. -/
def Fault.recordAt
    (fault : Fault)
    (place : Place) : ErrorRecord :=
  ⟨place.path?, messageLead ++ fault.reason, fault.code⟩

/-
  A fault that arises at a place when a schema is run.  It
  concerns the whole schema, or one of its parameters, or it
  arises below a parameter: in a nested object, in an element
  of an array of objects, or in place of such an element.
  Elements are looked at up to the first one that fails.
-/
inductive Schema.FaultAt
    (limit : Nat) :
    Nat → Schema → Input → Place → Fault → Prop where
  | overall
      {depth : Nat}
      {schema : Schema}
      {input : Input}
      {fields : Params}
      {reason : String}
      (values : schema.Yields limit depth input fields)
      (fails : reason ∈ GlobalCheck.failures fields schema.globals) :
      FaultAt limit depth schema input [] ⟨reason, .invalid⟩
  | param
      {depth : Nat}
      {schema : Schema}
      {input : Input}
      {param : Parameter Schema}
      {failure : Failure}
      {reason : String}
      (declared : param ∈ schema.params)
      (fails : param.resolve limit depth input = .error failure)
      (simple : failure.reason? = some reason) :
      FaultAt limit depth schema input [⟨param.name, none⟩]
        ⟨reason, .ofReason reason⟩
  | nested
      {depth : Nat}
      {schema child : Schema}
      {input : Input}
      {param : Parameter Schema}
      {fields : Bucket}
      {place : Place}
      {fault : Fault}
      (declared : param ∈ schema.params)
      (refers : param.resolved = .nested child)
      (shape : param.effective input = .object fields)
      (level : depth + 1 ≤ limit)
      (below :
        FaultAt limit (depth + 1) child (.nested fields) place fault) :
      FaultAt limit depth schema input (⟨param.name, none⟩ :: place)
        fault
  | element
      {depth : Nat}
      {schema child : Schema}
      {input : Input}
      {param : Parameter Schema}
      {before after : List Raw}
      {fields : Bucket}
      {place : Place}
      {fault : Fault}
      (declared : param ∈ schema.params)
      (refers : param.resolved = .nestedList child)
      (shape :
        param.effective input =
          .array (before ++ .object fields :: after))
      (level : depth + 1 ≤ limit)
      (first :
        ∀ item ∈ before, ∃ v,
          ElementValidates (child.runBelow limit depth) item v)
      (below :
        FaultAt limit (depth + 1) child (.nested fields) place fault) :
      FaultAt limit depth schema input
        (⟨param.name, some before.length⟩ :: place) fault
  | elementShape
      {depth : Nat}
      {schema child : Schema}
      {input : Input}
      {param : Parameter Schema}
      {before after : List Raw}
      {item : Raw}
      (declared : param ∈ schema.params)
      (refers : param.resolved = .nestedList child)
      (shape :
        param.effective input = .array (before ++ item :: after))
      (level : depth + 1 ≤ limit)
      (first :
        ∀ item ∈ before, ∃ v,
          ElementValidates (child.runBelow limit depth) item v)
      (other : ∀ fields, item ≠ .object fields) :
      FaultAt limit depth schema input
        [⟨param.name, some before.length⟩] ⟨invalidReason, .invalid⟩

------------------------------------------------------------
-- Faults and Records
------------------------------------------------------------

/- A failure with one reason has one record. -/
theorem Failure.records_of_reason?
    (name : String)
    {failure : Failure}
    {reason : String}
    (hReason : failure.reason? = some reason) :
    failure.records name = [.atParam name reason] := by
  cases failure with
  | coercion found | validation found =>
      cases hReason
      rfl
  | overall reasons | nested records => cases hReason

/- The records of nested records are moved below the parameter. -/
theorem Failure.mem_records_nested
    (name : String)
    {records : List ErrorRecord}
    {record : ErrorRecord}
    (hMem : record ∈ records) :
    record.move (Path.below name) ∈
      (Failure.nested records).records name :=
  List.mem_map_of_mem hMem

/- An element that fails makes its parameter fail. -/
theorem Parameter.resolve_of_elementFails
    {limit depth : Nat}
    {input : Input}
    {param : Parameter Schema}
    {child : Schema}
    {before after : List Raw}
    {item : Raw}
    {records : List ErrorRecord}
    (hRefers : param.resolved = .nestedList child)
    (hShape : param.effective input = .array (before ++ item :: after))
    (hLevel : depth + 1 ≤ limit)
    (hFirst :
      ∀ other ∈ before, ∃ v,
        ElementValidates (child.runBelow limit depth) other v)
    (hFails :
      ElementFails (child.runBelow limit depth) before.length item
        (.nested records)) :
    param.resolve limit depth input = .error (.nested records) := by
  rw [← Nat.zero_add before.length] at hFails
  rw [resolve_eq_nested_error_iff, hRefers, hShape,
    Resolved.coerce_eq_nested_error_iff]
  refine ⟨rfl, Or.inr ⟨_, _, rfl, rfl, hLevel, ?_⟩⟩
  rw [validateElements_eq_error_iff]
  exact ⟨before, item, after, rfl, hFirst, hFails⟩

namespace Schema

variable {limit depth : Nat}
variable {schema : Schema}
variable {input : Input}

/- Every fault is reported, with the path of its place. -/
theorem FaultAt.reports
    {place : Place}
    {fault : Fault}
    (hFault : schema.FaultAt limit depth input place fault) :
    schema.Reports limit depth input (fault.recordAt place) := by
  induction hFault with
  | overall values fails =>
      rw [reports_iff]
      exact Or.inr ⟨_, values, _, fails, rfl⟩
  | param declared fails simple =>
      rw [reports_iff]
      refine Or.inl ⟨_, declared, _, fails, ?_⟩
      rw [Failure.records_of_reason? _ simple]
      exact List.mem_singleton.mpr rfl
  | nested declared refers shape level below ih =>
      rcases ih with ⟨records, hRun, hMem⟩
      rw [reports_iff]
      refine Or.inl ⟨_, declared, .nested records, ?_,
        Failure.mem_records_nested _ hMem⟩
      rw [Parameter.resolve_eq_nested_error_iff, refers, shape,
        Resolved.coerce_eq_nested_error_iff]
      exact ⟨rfl, Or.inl ⟨_, _, rfl, rfl, level, hRun⟩⟩
  | element declared refers shape level first below ih =>
      rcases ih with ⟨records, hRun, hMem⟩
      rw [reports_iff]
      refine Or.inl ⟨_, declared, _,
        Parameter.resolve_of_elementFails refers shape level first
          (.object hRun), ?_⟩
      exact Failure.mem_records_nested _ (List.mem_map_of_mem hMem)
  | elementShape declared refers shape level first other =>
      rw [reports_iff]
      refine Or.inl ⟨_, declared, _,
        Parameter.resolve_of_elementFails refers shape level first
          (.other other), ?_⟩
      exact
        Failure.mem_records_nested _ (List.mem_singleton.mpr rfl)

/-
  Every reported record is that of a fault.  The induction is
  on the tree of schemas: a record that was moved below a
  parameter belongs to a fault of the schema there.
-/
theorem exists_faultAt_of_reports
    {record : ErrorRecord}
    (hReports : schema.Reports limit depth input record) :
    ∃ place fault, schema.FaultAt limit depth input place fault ∧
      record = fault.recordAt place := by
  induction schema using Schema.induction
    generalizing depth input record with
  | step schema ih =>
      rcases (schema.reports_iff limit depth input record).mp
          hReports with
        ⟨param, hParam, failure, hResolve, hRecord⟩ |
        ⟨fields, hValues, reason, hReason, rfl⟩
      · rcases param.reason_or_nested_of_resolve_eq_error limit depth
            input hResolve with
          ⟨reason, hReason⟩ | ⟨records, rfl⟩
        · rw [Failure.records_of_reason? _ hReason,
            List.mem_singleton] at hRecord
          subst hRecord
          exact ⟨_, _, .param hParam hResolve hReason, rfl⟩
        · rw [Parameter.resolve_eq_nested_error_iff,
            Resolved.coerce_eq_nested_error_iff] at hResolve
          rcases List.mem_map.mp hRecord with
            ⟨inner, hInner, rfl⟩
          rcases hResolve.2 with
            ⟨child, fields, hRefers, hShape, hLevel, hRun⟩ |
            ⟨child, items, hRefers, hShape, hLevel, hElements⟩
          · have hBelow : param.resolved.schema? = some child := by
              rw [hRefers]
              rfl
            rcases ih param hParam child hBelow
                ⟨records, hRun, hInner⟩ with
              ⟨place, fault, hFault, rfl⟩
            exact
              ⟨_, fault, .nested hParam hRefers hShape hLevel hFault,
                rfl⟩
          · have hBelow : param.resolved.schema? = some child := by
              rw [hRefers]
              rfl
            rcases (validateElements_eq_error_iff _ _ _ _).mp
                hElements with
              ⟨before, item, after, rfl, hFirst, hFails⟩
            rw [Nat.zero_add] at hFails
            cases hFails with
            | @object fields found fails =>
                rcases List.mem_map.mp hInner with
                  ⟨lower, hLower, rfl⟩
                rcases ih param hParam child hBelow
                    ⟨found, fails, hLower⟩ with
                  ⟨place, fault, hFault, rfl⟩
                exact
                  ⟨_, fault,
                    .element hParam hRefers hShape hLevel hFirst hFault,
                    rfl⟩
            | other shape =>
                rw [List.mem_singleton] at hInner
                subst hInner
                exact
                  ⟨_, _,
                    .elementShape hParam hRefers hShape hLevel hFirst
                      shape,
                    rfl⟩
      · exact ⟨[], _, .overall hValues hReason, rfl⟩

/- The reported records are exactly those of the faults. -/
theorem reports_iff_faultAt
    (record : ErrorRecord) :
    schema.Reports limit depth input record ↔
      ∃ place fault, schema.FaultAt limit depth input place fault ∧
        record = fault.recordAt place := by
  constructor
  · exact exists_faultAt_of_reports
  · rintro ⟨place, fault, hFault, rfl⟩
    exact hFault.reports

/- The places of faults of a built schema consist of names. -/
theorem FaultAt.hasNames
    {place : Place}
    {fault : Fault}
    (hFault : schema.FaultAt limit depth input place fault)
    (hBuilt : schema.Built) :
    place.HasNames := by
  induction hFault with
  | overall values fails => exact List.forall_mem_nil _
  | param declared fails simple =>
      exact List.forall_mem_singleton.mpr
        (hBuilt.name_accepted declared).1
  | elementShape declared refers shape level first other =>
      exact List.forall_mem_singleton.mpr
        (hBuilt.name_accepted declared).1
  | nested declared refers shape level below ih =>
      refine List.forall_mem_cons.mpr
        ⟨(hBuilt.name_accepted declared).1, ih ?_⟩
      apply hBuilt.child declared
      rw [refers]
      rfl
  | element declared refers shape level first below ih =>
      refine List.forall_mem_cons.mpr
        ⟨(hBuilt.name_accepted declared).1, ih ?_⟩
      apply hBuilt.child declared
      rw [refers]
      rfl

end Schema

------------------------------------------------------------
-- Outcomes
------------------------------------------------------------

/-
  The records of an invalid outcome are those of the faults of
  the input, each with the path of its place, and the path is
  the text of the place exactly if no point is left out.
-/
theorem Engine.path_of_validate_invalid
    (engine : Engine)
    (schema : Schema)
    (hBuilt : schema.Built)
    (input : Input)
    (records : List ErrorRecord)
    (hInvalid : engine.validate schema input = .invalid records) :
    (∀ record, record ∈ records ↔
      ∃ place fault,
        schema.FaultAt engine.maxDepth 0 input place fault ∧
          record =
            ⟨place.path?, messageLead ++ fault.reason, fault.code⟩) ∧
    ∀ place fault,
      schema.FaultAt engine.maxDepth 0 input place fault →
        (place.path? = place.write? ↔ place.KeepsPoints) := by
  have hRun := engine.run_of_validate_invalid schema input hInvalid
  constructor
  · intro record
    have hReported :
        record ∈ records ↔
          schema.Reports engine.maxDepth 0 input record := by
      constructor
      · intro hMem
        exact ⟨records, hRun, hMem⟩
      · rintro ⟨found, hFound, hMem⟩
        rw [hRun] at hFound
        cases hFound
        exact hMem
    exact hReported.trans (Schema.reports_iff_faultAt record)
  · intro place fault hFault
    exact place.path?_eq_write?_iff (hFault.hasNames hBuilt)

namespace Samples

/- A basket whose second line lacks its name. -/
def namelessLine : Input :=
  .ofAuto
    [("items", .array [.object [("x", .string "a")], .object []])]

/- A schema with a name that begins as an index does. -/
def bracketDraft : SchemaDraft :=
  { SchemaDraft.ofName "bracket" with
    params :=
      [{ ParameterDraft.ofType "[x" (.scalar "string") with
          required := true }] }

/- A schema that refers to the one with a bracket. -/
def holderDraft : SchemaDraft :=
  { SchemaDraft.ofName "holder" with
    params :=
      [ParameterDraft.ofType "p" (.nested bracketDraft.assembled)] }

/- An object without the name that begins with a bracket. -/
def bracketless : Input :=
  .ofAuto [("p", .object [])]

end Samples

/-
  In the second line of a basket, all points of the path are
  there.
-/
theorem Engine.basket_path :
    Samples.basket.Built ∧
      Engine.standard.validate Samples.basket Samples.namelessLine =
        .invalid
          [⟨some "items[1].x", "Validation error: required",
            .missing⟩] ∧
      (∃ place fault,
        Samples.basket.FaultAt 32 0 Samples.namelessLine place fault ∧
          (⟨some "items[1].x", "Validation error: required",
              .missing⟩ : ErrorRecord) =
            ⟨place.path?, messageLead ++ fault.reason, fault.code⟩) ∧
      ∀ place fault,
        Samples.basket.FaultAt 32 0 Samples.namelessLine place fault →
          (place.path? = place.write? ↔ place.KeepsPoints) := by
  have hInvalid :
      Engine.standard.validate Samples.basket Samples.namelessLine =
        .invalid
          [⟨some "items[1].x", "Validation error: required",
            .missing⟩] :=
    rfl
  have hFaults :=
    Engine.path_of_validate_invalid .standard _ Samples.basket_built
      Samples.namelessLine _ hInvalid
  exact
    ⟨Samples.basket_built, hInvalid,
      (hFaults.1 _).mp (List.mem_singleton.mpr rfl), hFaults.2⟩

/-
  The only record of an object without the name that begins
  with a bracket has a path without the point in front of the
  name.
-/
theorem Engine.bracket_path :
    Samples.holderDraft.assembled.Built ∧
      Engine.standard.validate Samples.holderDraft.assembled
          Samples.bracketless =
        .invalid
          [⟨some "p[x", "Validation error: required", .missing⟩] ∧
      Samples.holderDraft.assembled.FaultAt 32 0 Samples.bracketless
        [⟨"p", none⟩, ⟨"[x", none⟩] ⟨"required", .missing⟩ ∧
      Place.write? [⟨"p", none⟩, ⟨"[x", none⟩] = some "p.[x" := by
  refine ⟨?_, rfl, ?_, rfl⟩
  · apply Schema.Built.intro
      (Samples.holderDraft.build_of_errors_eq_nil rfl)
    intro declared hDeclared child hChild
    rw [List.mem_singleton.mp hDeclared] at hChild
    cases hChild
    apply Schema.Built.intro
      (Samples.bracketDraft.build_of_errors_eq_nil rfl)
    intro declared hDeclared child hChild
    rw [List.mem_singleton.mp hDeclared] at hChild
    cases hChild
  · have hInner :
        Samples.bracketDraft.assembled.FaultAt 32 1 (.nested [])
          [⟨"[x", none⟩] ⟨"required", .missing⟩ := by
      have hParam :
          ∃ param ∈ Samples.bracketDraft.assembled.params,
            param.name = "[x" ∧
              param.resolve 32 1 (.nested []) =
                .error (.coercion "required") :=
        ⟨_, List.mem_singleton.mpr rfl, rfl, rfl⟩
      rcases hParam with ⟨param, hMem, hName, hResolve⟩
      rw [← hName]
      exact .param hMem hResolve rfl
    have hParam :
        ∃ param ∈ Samples.holderDraft.assembled.params,
          param.name = "p" ∧
            param.resolved = .nested Samples.bracketDraft.assembled ∧
              param.effective Samples.bracketless = .object [] :=
      ⟨_, List.mem_singleton.mpr rfl, rfl, rfl, rfl⟩
    rcases hParam with ⟨param, hMem, hName, hRefers, hShape⟩
    rw [← hName]
    exact .nested hMem hRefers hShape (by decide) hInner

end Intake
