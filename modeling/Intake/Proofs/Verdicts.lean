import Intake.Proofs.Reporting
import Intake.Proofs.Visits
import Mathlib.Tactic.FinCases

/-
  This file shows that the events of a validation reveal no
  more than verdicts.

  An input enters the events of a run only by the verdicts of
  the parameters that are resolved, and by the number of
  records at the end.  Two inputs that agree on these are
  logged alike, whatever their data is.

  Key definitions include:
    * `Invocation.Resolves`
    * `Invocation.SameVerdicts`
    * `Engine.LogsVerdicts`

  The main statements are:
    * `Invocation.SameVerdicts.below`
    * `Invocation.trace_eq_of_sameVerdicts`
    * `Engine.logsVerdicts`
-/

namespace Intake

/-
  Lists that have items with the same parts at the same places
  have the same parts.
-/
theorem map_eq_map_of_getElem?
    {α β γ : Type}
    {f : α → γ}
    {g : β → γ}
    {xs : List α}
    {ys : List β}
    (hFirst :
      ∀ (index : Nat) x, xs[index]? = some x →
        ∃ y, ys[index]? = some y ∧ f x = g y)
    (hSecond :
      ∀ (index : Nat) y, ys[index]? = some y →
        ∃ x, xs[index]? = some x) :
    xs.map f = ys.map g := by
  apply List.ext_getElem?
  intro index
  rw [List.getElem?_map, List.getElem?_map]
  cases hx : xs[index]? with
  | some x =>
      rcases hFirst index x hx with ⟨y, hy, hSame⟩
      rw [hy, Option.map_some, Option.map_some, hSame]
  | none =>
      cases hy : ys[index]? with
      | some y =>
          rcases hSecond index y hy with ⟨x, hFound⟩
          rw [hx] at hFound
          cases hFound
      | none => rfl

namespace Invocation

variable {limit : Nat}
variable {call next other otherNext : Invocation}
variable {segment : Segment}
variable {param : Parameter Schema}

------------------------------------------------------------
-- Verdicts
------------------------------------------------------------

/-
  A run reaches an invocation of a schema at a place, where a
  parameter of the schema is resolved with a verdict.
-/
def Resolves
    (limit : Nat)
    (call : Invocation)
    (place : Place)
    (schema : Schema)
    (param : Parameter Schema)
    (valid : Bool) : Prop :=
  ∃ last, call.Reaches limit place last ∧
    last.schema = schema ∧ param ∈ schema.params ∧
      succeeded (param.resolve limit last.depth last.input) = valid

/-
  Two runs resolve the same parameters in all invocations, with
  the same verdicts.
-/
def SameVerdicts
    (limit : Nat)
    (call other : Invocation) : Prop :=
  ∀ place schema param valid,
    call.Resolves limit place schema param valid ↔
      other.Resolves limit place schema param valid

/- Having the same verdicts does not depend on the order. -/
theorem SameVerdicts.symm
    (hSame : call.SameVerdicts limit other) :
    other.SameVerdicts limit call :=
  fun place schema param valid =>
    (hSame place schema param valid).symm

/- What is resolved in an invocation entered is so below its segment. -/
theorem Enters.resolves
    (hEnters : call.Enters limit segment next)
    {place : Place}
    {schema : Schema}
    {valid : Bool}
    (hResolves : next.Resolves limit place schema param valid) :
    call.Resolves limit (segment :: place) schema param valid := by
  rcases hResolves with ⟨last, hReaches, hResolved⟩
  exact ⟨last, .step hEnters hReaches, hResolved⟩

/- The verdicts below a segment are those of what it leads to. -/
theorem resolves_cons_iff
    (hBuilt : call.schema.Built)
    (hEnters : call.Enters limit segment next)
    (place : Place)
    (schema : Schema)
    (param : Parameter Schema)
    (valid : Bool) :
    call.Resolves limit (segment :: place) schema param valid ↔
      next.Resolves limit place schema param valid := by
  constructor
  · rintro ⟨last, hReaches, hResolved⟩
    rcases reaches_cons_iff.mp hReaches with ⟨found, hFound, hRest⟩
    have hNext : found = next := hFound.unique hBuilt hEnters
    rw [hNext] at hRest
    exact ⟨last, hRest, hResolved⟩
  · exact hEnters.resolves

/- The same segment of two runs leads to the same verdicts. -/
theorem SameVerdicts.below
    (hSame : call.SameVerdicts limit other)
    (hBuilt : call.schema.Built)
    (hOther : other.schema.Built)
    (hEnters : call.Enters limit segment next)
    (hEnters' : other.Enters limit segment otherNext) :
    next.SameVerdicts limit otherNext := by
  intro place schema param valid
  rw [← resolves_cons_iff hBuilt hEnters,
    ← resolves_cons_iff hOther hEnters']
  exact hSame (segment :: place) schema param valid

/-
  What one run resolves, another run of the schema resolves too,
  if their parameters have the same verdicts, and if each
  invocation that the one starts has its like in the other.
-/
theorem Resolves.of_entered
    (hSchema : other.schema = call.schema)
    (hHere :
      ∀ param ∈ call.schema.params,
        succeeded (param.resolve limit call.depth call.input) =
          succeeded (param.resolve limit other.depth other.input))
    (hBelow :
      ∀ param ∈ call.schema.params,
        ∀ entry ∈ call.entered limit param,
          ∃ found ∈ other.entered limit param,
            entry.1 = found.1 ∧ entry.2.SameVerdicts limit found.2)
    {place : Place}
    {schema : Schema}
    {valid : Bool}
    (hResolves : call.Resolves limit place schema param valid) :
    other.Resolves limit place schema param valid := by
  rcases hResolves with ⟨last, hReaches, hLast, hParam, hVerdict⟩
  cases place with
  | nil =>
      rw [reaches_nil_iff] at hReaches
      subst hReaches hLast
      exact
        ⟨other, .here other, hSchema, hParam,
          (hHere param hParam).symm.trans hVerdict⟩
  | cons segment rest =>
      rcases reaches_cons_iff.mp hReaches with ⟨next, hNext, hRest⟩
      rcases enters_iff.mp hNext with ⟨start, hStart, hEntry⟩
      rcases hBelow start hStart _ hEntry with
        ⟨⟨segment, otherNext⟩, hFound, rfl, hSame⟩
      rw [← hSchema] at hStart
      have hEnters : other.Enters limit segment otherNext :=
        enters_iff.mpr ⟨start, hStart, hFound⟩
      exact
        hEnters.resolves
          ((hSame rest schema param valid).mp
            ⟨last, hRest, hLast, hParam, hVerdict⟩)

/-
  Runs of a schema have the same verdicts if its parameters
  have, and if they start invocations with the same verdicts by
  the same segments.
-/
theorem SameVerdicts.of_entered
    (hSchema : other.schema = call.schema)
    (hHere :
      ∀ param ∈ call.schema.params,
        succeeded (param.resolve limit call.depth call.input) =
          succeeded (param.resolve limit other.depth other.input))
    (hBelow :
      ∀ param ∈ call.schema.params,
        List.Forall₂
          (fun entry found =>
            entry.1 = found.1 ∧ entry.2.SameVerdicts limit found.2)
          (call.entered limit param) (other.entered limit param)) :
    call.SameVerdicts limit other := by
  intro place schema param valid
  constructor
  · apply Resolves.of_entered hSchema hHere
    intro start hStart entry hEntry
    exact exists_of_forall₂_of_mem (hBelow start hStart).flip hEntry
  · apply Resolves.of_entered hSchema.symm
    · intro start hStart
      rw [hSchema] at hStart
      exact (hHere start hStart).symm
    · intro start hStart entry hEntry
      rw [hSchema] at hStart
      rcases exists_of_forall₂_of_mem (hBelow start hStart) hEntry with
        ⟨found, hFound, hSegment, hSame⟩
      exact ⟨found, hFound, hSegment.symm, hSame.symm⟩

/- A parameter has the same verdict in both runs. -/
theorem SameVerdicts.succeeded_eq
    (hSame : call.SameVerdicts limit other)
    (hParam : param ∈ call.schema.params) :
    succeeded (param.resolve limit call.depth call.input) =
      succeeded (param.resolve limit other.depth other.input) := by
  have hHere : call.Resolves limit [] call.schema param _ :=
    ⟨call, .here call, rfl, hParam, rfl⟩
  rcases (hSame _ _ _ _).mp hHere with ⟨last, hReaches, _, _, hVerdict⟩
  rw [reaches_nil_iff] at hReaches
  rw [← hVerdict, hReaches]

/-
  What a parameter starts in one run it starts in the other one
  too, unless the schema that it refers to has no parameters.
-/
theorem SameVerdicts.exists_entered
    (hSame : call.SameVerdicts limit other)
    (hBuilt : other.schema.Built)
    (hParam : param ∈ other.schema.params)
    {entry : Segment × Invocation}
    {index : Nat}
    (hEntry : (call.entered limit param)[index]? = some entry)
    (hEnters : call.Enters limit entry.1 entry.2)
    (hSome : entry.2.schema.params ≠ []) :
    ∃ found, (other.entered limit param)[index]? = some found ∧
      found.1 = entry.1 ∧ found.2.schema = entry.2.schema := by
  rcases List.exists_mem_of_ne_nil _ hSome with ⟨inner, hInner⟩
  have hThere :
      call.Resolves limit [entry.1] entry.2.schema inner _ :=
    ⟨entry.2, .step hEnters (.here _), rfl, hInner, rfl⟩
  rcases (hSame _ _ _ _).mp hThere with ⟨last, hReaches, hSchema, _⟩
  rcases reaches_cons_iff.mp hReaches with ⟨next, hNext, hHere⟩
  rw [reaches_nil_iff] at hHere
  subst hHere
  rcases enters_iff.mp hNext with ⟨param', hParam', hFound⟩
  rcases List.getElem?_of_mem hFound with ⟨index', hIndex'⟩
  -- The segment tells both the parameter and the index.
  have hPlace := segment_of_getElem?_entered hEntry
  have hPlace' := segment_of_getElem?_entered hIndex'
  have hSameParam : param' = param :=
    hBuilt.eq_of_name_eq hParam' hParam
      (hPlace'.1.symm.trans hPlace.1)
  have hSameIndex : index' = index := hPlace'.2.symm.trans hPlace.2
  rw [hSameParam, hSameIndex] at hIndex'
  exact ⟨(entry.1, last), hIndex', rfl, hSchema⟩

/- An invocation of a schema without parameters has no events. -/
theorem trace_eq_nil
    (hNone : call.schema.params = []) :
    call.trace limit = [] := by
  rw [trace_eq, hNone]
  rfl

/- However many such invocations a parameter starts, there are none. -/
theorem flatMap_entered_eq_nil
    {child : Schema}
    (hChild : param.resolved.schema? = some child)
    (hEmpty : child.params = [])
    (run : Invocation) :
    ((run.entered limit param).flatMap fun entry =>
      entry.2.trace limit) = [] := by
  rw [List.flatMap_eq_nil_iff]
  intro entry hEntry
  have hRefers := schema?_of_mem_entered hEntry
  rw [hChild, Option.some.injEq] at hRefers
  apply trace_eq_nil
  rw [← hRefers, hEmpty]

/-
  What a parameter starts has the same events in both runs, if
  this holds of any two invocations that are entered by one
  segment.
-/
theorem SameVerdicts.flatMap_entered_eq
    (hSame : call.SameVerdicts limit other)
    (hSchema : other.schema = call.schema)
    (hBuilt : call.schema.Built)
    (hParam : param ∈ call.schema.params)
    (hBelow :
      ∀ segment next otherNext, call.Enters limit segment next →
        other.Enters limit segment otherNext →
          otherNext.schema = next.schema →
            next.trace limit = otherNext.trace limit) :
    ((call.entered limit param).flatMap fun entry =>
        entry.2.trace limit) =
      (other.entered limit param).flatMap fun entry =>
        entry.2.trace limit := by
  have hOther : other.schema.Built := by
    rw [hSchema]
    exact hBuilt
  have hParam' : param ∈ other.schema.params := by
    rw [hSchema]
    exact hParam
  have hEnters :
      ∀ entry ∈ call.entered limit param,
        call.Enters limit entry.1 entry.2 :=
    fun entry hEntry => enters_iff.mpr ⟨param, hParam, hEntry⟩
  have hEnters' :
      ∀ entry ∈ other.entered limit param,
        other.Enters limit entry.1 entry.2 :=
    fun entry hEntry => enters_iff.mpr ⟨param, hParam', hEntry⟩
  by_cases hNone :
      ∃ child, param.resolved.schema? = some child ∧ child.params = []
  · rcases hNone with ⟨child, hChild, hEmpty⟩
    rw [flatMap_entered_eq_nil hChild hEmpty call,
      flatMap_entered_eq_nil hChild hEmpty other]
  · have hSome :
        ∀ (run : Invocation), ∀ entry ∈ run.entered limit param,
          entry.2.schema.params ≠ [] := by
      intro run entry hEntry hEmpty
      exact hNone ⟨_, schema?_of_mem_entered hEntry, hEmpty⟩
    rw [List.flatMap_def, List.flatMap_def]
    refine congrArg List.flatten (map_eq_map_of_getElem? ?_ ?_)
    · intro index entry hIndex
      have hEntry := List.mem_of_getElem? hIndex
      rcases hSame.exists_entered hOther hParam' hIndex
          (hEnters entry hEntry) (hSome call entry hEntry) with
        ⟨found, hFound, hSegment, hChild⟩
      have hThere := hEnters' found (List.mem_of_getElem? hFound)
      rw [hSegment] at hThere
      exact
        ⟨found, hFound,
          hBelow _ _ _ (hEnters entry hEntry) hThere hChild⟩
    · intro index entry hIndex
      have hEntry := List.mem_of_getElem? hIndex
      rcases hSame.symm.exists_entered hBuilt hParam hIndex
          (hEnters' entry hEntry) (hSome other entry hEntry) with
        ⟨found, hFound, _⟩
      exact ⟨found, hFound⟩

/-
  Runs of a schema at the same depth have the same events if
  their verdicts are the same.  The induction is on the schema,
  and what two runs enter at one segment has the same verdicts
  again.
-/
theorem trace_eq_of_sameVerdicts
    (hBuilt : call.schema.Built)
    (hSchema : other.schema = call.schema)
    (hDepth : other.depth = call.depth)
    (hSame : call.SameVerdicts limit other) :
    call.trace limit = other.trace limit := by
  induction hHere : call.schema using Schema.induction
    generalizing call other with
  | step schema ih =>
      subst hHere
      have hOther : other.schema.Built := by
        rw [hSchema]
        exact hBuilt
      rw [trace_eq, trace_eq, hSchema]
      apply List.flatMap_congr
      intro param hParam
      have hOwn :
          call.resolvedEvent limit param =
            other.resolvedEvent limit param := by
        rw [resolvedEvent, resolvedEvent, hSame.succeeded_eq hParam,
          hSchema, hDepth]
      have hNested :=
        hSame.flatMap_entered_eq hSchema hBuilt hParam
          fun segment next otherNext hNext hOtherNext hChild => by
            rcases hNext.exists_declared with
              ⟨param', hParam', _, hRefers⟩
            have hLevel : otherNext.depth = next.depth := by
              rw [hOtherNext.depth_eq.1, hNext.depth_eq.1, hDepth]
            exact
              ih param' hParam' next.schema hRefers
                (hBuilt.child hParam' hRefers) hChild hLevel
                (hSame.below hBuilt hOther hNext hOtherNext) rfl
      rw [hOwn, hNested]

end Invocation

------------------------------------------------------------
-- What Is Logged
------------------------------------------------------------

/-
  An event tells about a visit: at the lowest level, the name of
  the schema, that of the declared parameter, the depth of the
  invocation and the verdict, and no more.
-/
def Visit.LoggedAs
    (limit : Nat)
    (visit : Visit)
    (event : Event) : Prop :=
  event.level = .trace ∧ event.message = "parameter resolved" ∧
    event.fields =
      [("schema", .text visit.call.schema.name),
        ("param", .text visit.param.name),
        ("depth", .number visit.call.depth),
        ("outcome", .text (Event.verdict (succeeded
          (visit.param.resolve limit visit.call.depth
            visit.call.input))))]

/-
  An event tells about the end of a validation: the name of the
  schema, whether the outcome is valid, and the number of its
  records.
-/
def Outcome.LoggedAs
    (schema : Schema)
    (outcome : Outcome)
    (event : Event) : Prop :=
  event.level = .debug ∧ event.message = "validation finished" ∧
    event.fields =
      [("schema", .text schema.name),
        ("outcome", .text (Event.verdict outcome.isValid)),
        ("error_count", .number outcome.records.length)]

namespace Engine

/-
  The logs of an engine reveal no more than verdicts.

  For every input there is one event for each visit of the run,
  in the order of the visits, and one event for the outcome at
  the end.  Raw data that is no object has the last one only.
  Two inputs with the same verdicts, and with outcomes that have
  equally many records, have the same events.
-/
structure LogsVerdicts
    (engine : Engine)
    (schema : Schema) : Prop where
  listed :
    ∀ input, ∃ visits events ending,
      engine.trace schema input = events ++ [ending] ∧
        Invocation.Visits engine.maxDepth ⟨0, schema, input⟩ visits ∧
          List.Forall₂ (Visit.LoggedAs engine.maxDepth) visits events ∧
            (engine.validate schema input).LoggedAs schema ending
  object :
    ∀ fields,
      engine.traceRaw schema (.object fields) =
        engine.trace schema (.ofAuto fields)
  other :
    ∀ raw, (∀ fields, raw ≠ .object fields) →
      ∃ ending, engine.traceRaw schema raw = [ending] ∧
        (engine.validateRaw schema raw).LoggedAs schema ending
  alike :
    ∀ input input',
      Invocation.SameVerdicts engine.maxDepth ⟨0, schema, input⟩
          ⟨0, schema, input'⟩ →
        (engine.validate schema input).records.length =
            (engine.validate schema input').records.length →
          engine.trace schema input = engine.trace schema input'

/- The last event tells about the outcome. -/
theorem loggedAs_finished
    (schema : Schema)
    (outcome : Outcome)
    (hReported : outcome.Reported) :
    outcome.LoggedAs schema (finished schema outcome) := by
  refine ⟨rfl, rfl, ?_⟩
  rw [finished, hReported.isEmpty_records]
  rfl

/- The logs of an engine reveal no more than verdicts. -/
theorem logsVerdicts
    (engine : Engine)
    (schema : Schema)
    (hBuilt : schema.Built) :
    engine.LogsVerdicts schema := by
  constructor
  case listed =>
    intro input
    have hVisited :
        ∃ visits,
          Invocation.Visits engine.maxDepth ⟨0, schema, input⟩ visits ∧
            Invocation.trace engine.maxDepth ⟨0, schema, input⟩ =
              visits.map (Visit.event engine.maxDepth) :=
      Invocation.exists_visits hBuilt
    rcases hVisited with ⟨visits, hVisits, hTrace⟩
    have hEvents :
        List.Forall₂ (Visit.LoggedAs engine.maxDepth) visits
          (visits.map (Visit.event engine.maxDepth)) := by
      rw [List.forall₂_map_right_iff]
      exact List.forall₂_same.mpr fun visit _ => ⟨rfl, rfl, rfl⟩
    have hEnding :=
      loggedAs_finished schema (engine.validate schema input)
        fun records hInvalid =>
          engine.ne_nil_of_validate_invalid schema input hInvalid
    have hAll :
        engine.trace schema input =
          visits.map (Visit.event engine.maxDepth) ++
            [finished schema (engine.validate schema input)] :=
      congrArg (· ++ _) hTrace
    exact ⟨visits, _, _, hAll, hVisits, hEvents, hEnding⟩
  case object =>
    intro fields
    rfl
  case other =>
    intro raw hOther
    have hEnding :=
      loggedAs_finished schema _ (engine.reported_validateRaw schema raw)
    cases raw with
    | object fields => exact absurd rfl (hOther fields)
    | null | bool | number | string | array => exact ⟨_, rfl, hEnding⟩
  case alike =>
    intro input input' hSame hCount
    have hRun :
        Invocation.trace engine.maxDepth ⟨0, schema, input⟩ =
          Invocation.trace engine.maxDepth ⟨0, schema, input'⟩ := by
      apply Invocation.trace_eq_of_sameVerdicts hBuilt
      · rfl
      · rfl
      · exact hSame
    have hEmpty :
        (engine.validate schema input).records.isEmpty =
          (engine.validate schema input').records.isEmpty := by
      rw [Bool.eq_iff_iff, List.isEmpty_iff_length_eq_zero, hCount,
        List.isEmpty_iff_length_eq_zero]
    have hEnding :
        finished schema (engine.validate schema input) =
          finished schema (engine.validate schema input') := by
      rw [finished, finished, hEmpty, hCount]
    calc
      engine.trace schema input
        = Invocation.trace engine.maxDepth ⟨0, schema, input⟩ ++
            [finished schema (engine.validate schema input)] := rfl
      _ = Invocation.trace engine.maxDepth ⟨0, schema, input'⟩ ++
            [finished schema (engine.validate schema input')] := by
          rw [hRun, hEnding]
      _ = engine.trace schema input' := rfl

end Engine

namespace Samples

/-
  A basket with two lines and a gift.  The names of the first
  line and of the gift, the second line and the day are given.
-/
def wrapped
    (name : String)
    (second : Bucket)
    (day : Raw) : Input :=
  .ofAuto
    [("items",
        .array [.object [("x", .string name)], .object second]),
      ("gift", .object [("x", .string name)]), ("day", day)]

/- A basket whose second line has no name, on a day that is none. -/
def looseBasket : Input :=
  wrapped "a" [] (.string "never")

/- A basket whose second line has a number for a name, on a number. -/
def numberedBasket : Input :=
  wrapped "secret" [("x", one)] one

/- The events of a basket whose second line and day fail. -/
def wrappedEvents : List Event :=
  [.paramResolved "item" "x" 1 true,
    .paramResolved "item" "quantity" 1 true,
    .paramResolved "item" "x" 1 false,
    .paramResolved "item" "quantity" 1 true,
    .paramResolved "basket" "items" 0 false,
    .paramResolved "item" "x" 1 true,
    .paramResolved "item" "quantity" 1 true,
    .paramResolved "basket" "gift" 0 true,
    .paramResolved "basket" "total" 0 true,
    .paramResolved "basket" "day" 0 false,
    .validationFinished "basket" false 2]

/- Two lines have the same verdicts if both parameters have. -/
theorem line_sameVerdicts
    (fields fields' : Bucket)
    (hHere :
      ∀ param ∈ line.params,
        succeeded (param.resolve 32 1 (.nested fields)) =
          succeeded (param.resolve 32 1 (.nested fields'))) :
    Invocation.SameVerdicts 32 ⟨1, line, .nested fields⟩
      ⟨1, line, .nested fields'⟩ := by
  apply Invocation.SameVerdicts.of_entered
  · rfl
  · exact hHere
  · intro param hParam
    fin_cases hParam <;> exact .nil

/- The two baskets have the same verdicts. -/
theorem wrapped_sameVerdicts :
    Invocation.SameVerdicts 32 ⟨0, basket, looseBasket⟩
      ⟨0, basket, numberedBasket⟩ := by
  apply Invocation.SameVerdicts.of_entered
  · rfl
  · intro param hParam
    fin_cases hParam <;> rfl
  · intro param hParam
    fin_cases hParam
    · refine .cons ⟨rfl, ?_⟩ (.cons ⟨rfl, ?_⟩ .nil)
      · apply line_sameVerdicts
        intro param hParam
        fin_cases hParam <;> rfl
      · apply line_sameVerdicts
        intro param hParam
        fin_cases hParam <;> rfl
    · refine .cons ⟨rfl, ?_⟩ .nil
      apply line_sameVerdicts
      intro param hParam
      fin_cases hParam <;> rfl
    · exact .nil
    · exact .nil

end Samples

/-
  Two baskets with different data, whose parameters have the
  same verdicts, have the same events.
-/
theorem Engine.basket_logsVerdicts :
    Samples.basket.Built ∧
      Engine.standard.LogsVerdicts Samples.basket ∧
      Invocation.SameVerdicts 32
        ⟨0, Samples.basket, Samples.looseBasket⟩
        ⟨0, Samples.basket, Samples.numberedBasket⟩ ∧
      Engine.standard.trace Samples.basket Samples.looseBasket =
        Samples.wrappedEvents ∧
      Engine.standard.trace Samples.basket Samples.numberedBasket =
        Samples.wrappedEvents := by
  have hLogs := Engine.logsVerdicts .standard _ Samples.basket_built
  have hFirst :
      Engine.standard.trace Samples.basket Samples.looseBasket =
        Samples.wrappedEvents :=
    rfl
  have hAlike :=
    hLogs.alike Samples.looseBasket Samples.numberedBasket
      Samples.wrapped_sameVerdicts rfl
  exact
    ⟨Samples.basket_built, hLogs, Samples.wrapped_sameVerdicts, hFirst,
      hAlike.symm.trans hFirst⟩

end Intake
