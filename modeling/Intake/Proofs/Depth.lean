import Intake.Proofs.References
import Intake.Proofs.Tracing

/-
  This file shows what the limit of an engine does.

  Schemas are nested in levels, and the schemas of one level
  more than the limit are never run.  Instead of them, every
  parameter that has data for them fails with one and the same
  reason.  A higher limit keeps what is valid, and it changes
  nothing once it reaches the height of the tree of schemas.

  Key definitions include:
    * `Schema.height`
    * `Schema.upTo`
    * `Resolved.HasShape`
    * `Engine.LimitsDepth`

  The main statements are:
    * `Schema.run_mono`
    * `Schema.run_eq_of_height_le`
    * `Schema.run_upTo`
    * `Engine.limitsDepth`
-/

namespace Intake

------------------------------------------------------------
-- Levels of Schemas
------------------------------------------------------------

mutual

/- The number of levels of schemas below a schema. -/
def Schema.height : Schema → Nat
  | ⟨_, params, _, _, _⟩ => paramsHeight params

/- The number of levels of schemas below parameters. -/
def paramsHeight : List (Parameter Schema) → Nat
  | [] => 0
  | param :: rest => max param.height (paramsHeight rest)

/- The number of levels of schemas below a parameter. -/
def Parameter.height : Parameter Schema → Nat
  | ⟨_, _, resolved, _, _, _, _⟩ => resolved.height

/- The number of levels of schemas in a resolved type. -/
def Resolved.height : Resolved Schema → Nat
  | .coerced _ _ => 0
  | .nested schema => schema.height + 1
  | .nestedList schema => schema.height + 1

end

/- A resolved type is one level higher than the schema in it. -/
theorem Resolved.height_le_iff
    (resolved : Resolved Schema)
    (levels : Nat) :
    resolved.height ≤ levels ↔
      ∀ below, resolved.schema? = some below →
        below.height + 1 ≤ levels := by
  cases resolved <;> simp [Resolved.height, Resolved.schema?]

/- Schemas are one level higher than the highest schema below them. -/
theorem Schema.height_le_iff
    (schema : Schema)
    (levels : Nat) :
    schema.height ≤ levels ↔
      ∀ param ∈ schema.params, ∀ below,
        param.resolved.schema? = some below →
          below.height + 1 ≤ levels := by
  rcases schema with ⟨name, params, types, globals, policy⟩
  rw [Schema.height]
  simp only [← Resolved.height_le_iff]
  induction params with
  | nil => simp [paramsHeight]
  | cons param rest ih =>
      rw [paramsHeight, Nat.max_le, ih, List.forall_mem_cons]
      cases param
      rw [Parameter.height]

/- The schema that stands where a tree of schemas is cut off. -/
def Schema.stub : Schema :=
  ⟨"", [], .empty, [], .string⟩

/-
  The schema with as many levels below it as are given.  All
  schemas of the next level are cut off, so that two schemas
  are the same up to a level if they differ in nothing but the
  schemas after it.
-/
def Schema.upTo : Nat → Schema → Schema
  | 0, schema => schema.mapBelow fun _ => stub
  | levels + 1, schema => schema.mapBelow (upTo levels)

/-
  A run depends on no schema that is cut off after the levels
  that are left.
-/
theorem Schema.run_upTo
    (levels : Nat)
    (schema : Schema)
    {limit depth : Nat}
    (hLevels : limit ≤ depth + levels)
    (input : Input) :
    (schema.upTo levels).run limit depth input =
      schema.run limit depth input := by
  induction levels generalizing schema depth input with
  | zero =>
      apply schema.run_mapBelow
      intro param _ below _ hLevel
      omega
  | succ levels ih =>
      apply schema.run_mapBelow
      intro param _ below _ _ fields
      exact ih below (by omega) (.nested fields)

------------------------------------------------------------
-- Higher Limits
------------------------------------------------------------

/-
  Data that is coerced under a limit is coerced to the same
  value under a higher one, if runs below keep their fields.
-/
theorem Resolved.coerce_mono
    {limit limit' depth : Nat}
    (hLimit : limit ≤ limit')
    (resolved : Resolved Schema)
    (hBelow :
      ∀ schema, resolved.schema? = some schema → ∀ fields params,
        schema.runBelow limit depth fields = .ok params →
          schema.runBelow limit' depth fields = .ok params)
    {raw : Raw}
    {v : Value}
    (hCoerce : resolved.coerce limit depth raw = .ok v) :
    resolved.coerce limit' depth raw = .ok v := by
  cases resolved with
  | coerced name coerce =>
      rw [coerce_coerced_eq_ok_iff] at hCoerce ⊢
      exact hCoerce
  | nested schema =>
      rw [coerce_nested_eq_ok_iff] at hCoerce ⊢
      rcases hCoerce with ⟨fields, params, hRaw, hDepth, hRun, hValue⟩
      exact
        ⟨fields, params, hRaw, hDepth.trans hLimit,
          hBelow schema rfl fields params hRun, hValue⟩
  | nestedList schema =>
      rw [coerce_nestedList_eq_ok_iff] at hCoerce ⊢
      rcases hCoerce with ⟨items, vs, hRaw, hDepth, hItems, hValue⟩
      refine ⟨items, vs, hRaw, hDepth.trans hLimit, ?_, hValue⟩
      apply hItems.imp
      rintro item w ⟨fields, params, hItem, hRun, hMap⟩
      exact
        ⟨fields, params, hItem, hBelow schema rfl fields params hRun,
          hMap⟩

/- A run keeps its fields under a higher limit. -/
theorem Schema.run_mono
    {limit limit' : Nat}
    (hLimit : limit ≤ limit')
    (schema : Schema)
    {depth : Nat}
    {input : Input}
    {fields : Params}
    (hRun : schema.run limit depth input = .ok fields) :
    schema.run limit' depth input = .ok fields := by
  induction schema using Schema.induction
    generalizing depth input fields with
  | step schema ih =>
      rw [Schema.run_eq_ok_iff] at hRun ⊢
      refine ⟨?_, hRun.2⟩
      apply forall₂_imp_of_mem hRun.1
      rintro param hParam ⟨name, v⟩ _ ⟨hName, hResolve⟩
      refine ⟨hName, ?_⟩
      rw [Parameter.resolve_eq_ok_iff] at hResolve ⊢
      rcases hResolve with hNull | ⟨hRaw, hCoerce, hAdmit⟩
      · exact Or.inl hNull
      · refine Or.inr ⟨hRaw, ?_, hAdmit⟩
        apply Resolved.coerce_mono hLimit _ ?_ hCoerce
        intro below hBelow fields params hFields
        exact ih param hParam below hBelow hFields

/-
  Two limits coerce data to the same result, if both allow the
  next level and runs there are the same.
-/
theorem Resolved.coerce_eq_of_limits
    {limit limit' depth : Nat}
    (resolved : Resolved Schema)
    (hBelow :
      ∀ schema, resolved.schema? = some schema →
        depth + 1 ≤ limit ∧ depth + 1 ≤ limit' ∧
          schema.runBelow limit depth = schema.runBelow limit' depth)
    (raw : Raw) :
    resolved.coerce limit depth raw =
      resolved.coerce limit' depth raw := by
  cases resolved with
  | coerced name coerce => rw [Resolved.coerce, Resolved.coerce]
  | nested schema =>
      rcases hBelow schema rfl with ⟨hDepth, hDepth', hRun⟩
      cases raw with
      | object fields =>
          rw [coerce_nested_object hDepth, coerce_nested_object hDepth',
            hRun]
      | null | bool | number | string | array =>
          simp only [Resolved.coerce]
  | nestedList schema =>
      rcases hBelow schema rfl with ⟨hDepth, hDepth', hRun⟩
      cases raw with
      | array items =>
          rw [coerce_nestedList_array hDepth,
            coerce_nestedList_array hDepth', hRun]
      | null | bool | number | string | object =>
          simp only [Resolved.coerce]

/-
  All limits that allow the levels of a schema run it in the
  same way.
-/
theorem Schema.run_eq_of_height_le
    (schema : Schema)
    {limit limit' depth : Nat}
    (hHeight : depth + schema.height ≤ limit)
    (hHeight' : depth + schema.height ≤ limit')
    (input : Input) :
    schema.run limit depth input = schema.run limit' depth input := by
  induction schema using Schema.induction
    generalizing depth input with
  | step schema ih =>
      apply Schema.run_congr ?_ rfl
      rw [List.forall₂_same]
      intro param hParam
      refine ⟨rfl, Parameter.resolve_congr rfl rfl rfl ?_⟩
      apply Resolved.coerce_eq_of_limits
      intro below hBelow
      have hLevel : below.height + 1 ≤ schema.height :=
        (schema.height_le_iff schema.height).mp le_rfl param hParam
          below hBelow
      refine ⟨by omega, by omega, ?_⟩
      funext fields
      exact
        ih param hParam below hBelow (by omega) (by omega)
          (.nested fields)

------------------------------------------------------------
-- Levels of Invocations
------------------------------------------------------------

/-
  Data of the outer shape that a reference to a schema asks
  for: an object, or an array.
-/
def Resolved.HasShape
    (resolved : Resolved Schema)
    (raw : Raw) : Prop :=
  (∃ child fields, resolved = .nested child ∧ raw = .object fields) ∨
    ∃ child items, resolved = .nestedList child ∧ raw = .array items

/-
  At the limit, data of the right shape fails for a single
  reason.
-/
theorem Parameter.resolve_of_hasShape
    {limit depth : Nat}
    (hDepth : limit ≤ depth)
    (param : Parameter Schema)
    {input : Input}
    (hShape : param.resolved.HasShape (param.effective input)) :
    param.resolve limit depth input =
      .error (.coercion tooDeepReason) := by
  have hDeep : limit < depth + 1 := Nat.lt_succ_of_le hDepth
  rw [resolve_eq_error_iff]
  right
  rcases hShape with
    ⟨child, fields, hRefers, hRaw⟩ | ⟨child, items, hRefers, hRaw⟩
  · rw [hRefers, hRaw]
    exact ⟨rfl, Or.inl (by simp [Resolved.coerce, hDeep])⟩
  · rw [hRefers, hRaw]
    exact ⟨rfl, Or.inl (by simp [Resolved.coerce, hDeep])⟩

namespace Invocation

variable {limit : Nat}
variable {call next last : Invocation}
variable {segment : Segment}
variable {place : Place}

/- An invocation enters others one level deeper, within the limit. -/
theorem Enters.depth_eq
    (hEnters : call.Enters limit segment next) :
    next.depth = call.depth + 1 ∧ next.depth ≤ limit := by
  cases hEnters with
  | object declared refers shape level => exact ⟨rfl, level⟩
  | element declared refers shape level first => exact ⟨rfl, level⟩

/- A place has a segment for every level that leads to it. -/
theorem Reaches.depth_eq
    (hReaches : call.Reaches limit place last) :
    last.depth = call.depth + place.length := by
  induction hReaches with
  | here call => rfl
  | step enters rest ih =>
      rw [ih, enters.depth_eq.1, List.length_cons]
      omega

/- No invocation below the limit leads beyond it. -/
theorem Reaches.depth_le
    (hReaches : call.Reaches limit place last)
    (hDepth : call.depth ≤ limit) :
    last.depth ≤ limit := by
  induction hReaches with
  | here call => exact hDepth
  | step enters rest ih => exact ih enters.depth_eq.2

/- A fault of an invocation is one of those that reach it. -/
theorem Reaches.faultAt
    (hReaches : call.Reaches limit place last)
    {rest : Place}
    {fault : Fault}
    (hFault : last.FaultAt limit rest fault) :
    call.FaultAt limit (place ++ rest) fault := by
  induction hReaches with
  | here call => exact hFault
  | step enters _ ih => exact enters.faultAt (ih hFault)

end Invocation

------------------------------------------------------------
-- Outcomes
------------------------------------------------------------

/-
  What the limit of an engine does when it validates an input.

  A higher limit keeps the fields of a valid outcome, and the
  whole outcome if the limit allows all levels of the schema.
  The schemas of the level after the limit make no difference.
  Each parameter at the limit that has data for one of them
  fails for one reason, which is reported.  Every invocation
  and every event stays within the limit.
-/
structure Engine.LimitsDepth
    (engine : Engine)
    (schema : Schema)
    (input : Input) : Prop where
  monotone :
    ∀ deeper : Engine, engine.maxDepth ≤ deeper.maxDepth →
      ∀ fields, engine.validate schema input = .valid fields →
        deeper.validate schema input = .valid fields
  saturated :
    schema.height ≤ engine.maxDepth →
      ∀ deeper : Engine, engine.maxDepth ≤ deeper.maxDepth →
        deeper.validate schema input = engine.validate schema input
  truncated :
    ∀ other : Schema,
      other.upTo engine.maxDepth = schema.upTo engine.maxDepth →
        engine.validate other input = engine.validate schema input
  tooDeep :
    ∀ place call,
      Invocation.Reaches engine.maxDepth ⟨0, schema, input⟩ place
          call →
        call.depth = engine.maxDepth →
          ∀ param ∈ call.schema.params,
            param.resolved.HasShape (param.effective call.input) →
              param.resolve engine.maxDepth call.depth call.input =
                  .error (.coercion "nesting too deep") ∧
                ∃ records,
                  engine.validate schema input = .invalid records ∧
                    ⟨Place.path? (place ++ [⟨param.name, none⟩]),
                        "Validation error: nesting too deep",
                        .invalid⟩ ∈
                      records
  bounded :
    ∀ place call,
      Invocation.Reaches engine.maxDepth ⟨0, schema, input⟩ place
          call →
        call.depth = place.length ∧ call.depth ≤ engine.maxDepth
  logged :
    ∀ name param depth valid,
      .paramResolved name param depth valid ∈
          engine.trace schema input →
        depth ≤ engine.maxDepth

/- A valid outcome stays as it is under a higher limit. -/
theorem Engine.validate_valid_of_le
    {engine deeper : Engine}
    (hDeeper : engine.maxDepth ≤ deeper.maxDepth)
    {schema : Schema}
    {input : Input}
    {fields : Params}
    (hValid : engine.validate schema input = .valid fields) :
    deeper.validate schema input = .valid fields := by
  have hRun :=
    schema.run_mono hDeeper (engine.run_of_validate schema input hValid)
  unfold validate
  rw [hRun]
  rfl

/- Limits that allow all levels of a schema have the same outcome. -/
theorem Engine.validate_of_height_le
    {first second : Engine}
    {schema : Schema}
    (hFirst : schema.height ≤ first.maxDepth)
    (hSecond : schema.height ≤ second.maxDepth)
    (input : Input) :
    first.validate schema input = second.validate schema input := by
  have hRun :
      schema.run first.maxDepth 0 input =
        schema.run second.maxDepth 0 input := by
    apply schema.run_eq_of_height_le
    · omega
    · omega
  unfold validate
  rw [hRun]

/-
  An outcome is the same for schemas that are the same up to
  the limit.
-/
theorem Engine.validate_of_upTo_eq
    (engine : Engine)
    {first second : Schema}
    (hSame :
      first.upTo engine.maxDepth = second.upTo engine.maxDepth)
    (input : Input) :
    engine.validate first input = engine.validate second input := by
  have hLevels : engine.maxDepth ≤ 0 + engine.maxDepth := by
    omega
  unfold validate
  rw [← first.run_upTo engine.maxDepth hLevels, hSame,
    second.run_upTo engine.maxDepth hLevels]

/- A fault in an invocation that is reached is in the outcome. -/
theorem Engine.exists_validate_of_faultAt
    (engine : Engine)
    {schema : Schema}
    {input : Input}
    {place rest : Place}
    {call : Invocation}
    {fault : Fault}
    (hReaches :
      Invocation.Reaches engine.maxDepth ⟨0, schema, input⟩ place
        call)
    (hFault : call.FaultAt engine.maxDepth rest fault) :
    ∃ records, engine.validate schema input = .invalid records ∧
      fault.recordAt (place ++ rest) ∈ records := by
  rcases Schema.FaultAt.reports (hReaches.faultAt hFault) with
    ⟨records, hRun, hMem⟩
  refine ⟨records, ?_, hMem⟩
  unfold validate
  rw [hRun]
  rfl

/- The limit of every engine is exact, for every schema and input. -/
theorem Engine.limitsDepth
    (engine : Engine)
    (schema : Schema)
    (input : Input) :
    engine.LimitsDepth schema input := by
  constructor
  case monotone =>
    intro deeper hDeeper fields hValid
    exact validate_valid_of_le hDeeper hValid
  case saturated =>
    intro hHeight deeper hDeeper
    exact validate_of_height_le (hHeight.trans hDeeper) hHeight input
  case truncated =>
    intro other hSame
    exact engine.validate_of_upTo_eq hSame input
  case tooDeep =>
    intro place call hReaches hDepth param hParam hShape
    have hResolve :=
      param.resolve_of_hasShape (Nat.le_of_eq hDepth.symm) hShape
    have hFault :
        call.FaultAt engine.maxDepth [⟨param.name, none⟩]
          ⟨tooDeepReason, .ofReason tooDeepReason⟩ :=
      .param hParam hResolve rfl
    exact ⟨hResolve, engine.exists_validate_of_faultAt hReaches hFault⟩
  case bounded =>
    intro place call hReaches
    have hDepth := hReaches.depth_eq
    rw [Nat.zero_add] at hDepth
    exact ⟨hDepth, hReaches.depth_le (Nat.zero_le _)⟩
  case logged =>
    intro name param depth valid hEvent
    rcases List.mem_append.mp hEvent with hEvent | hEvent
    · rcases (Invocation.mem_trace_iff_reaches ⟨0, schema, input⟩
          _).mp hEvent with
        ⟨place, last, hReaches, found, _, hSame⟩
      cases hSame
      exact hReaches.depth_le (Nat.zero_le _)
    · cases List.mem_singleton.mp hEvent

/-
  A basket has lines on one level, and no engine that stays
  above this level runs them, not even for an empty array.
-/
example :
    Samples.basket.height = 1 ∧
      Engine.validate ⟨0, true⟩ Samples.basket
          (.ofAuto [("items", .array []), ("gift", .string "a")]) =
        .invalid
          [⟨some "items", "Validation error: nesting too deep",
              .invalid⟩,
            ⟨some "gift", "Validation error: invalid", .invalid⟩] :=
  ⟨rfl, rfl⟩

end Intake
