import Intake.Proofs.Invocation
import Intake.Proofs.Place.Reading

/-
  This file shows that paths say where errors arise, as long as
  all names are identifiers.

  The path of a record is read back to one place.  This place
  leads through the schemas, and through the data that is
  effective there, to a parameter or to an element of an
  array.  Records share a path only if they are reasons of the
  checks of one and the same run of a schema.

  Key definitions include:
    * `Schema.Leads`
    * `Invocation.SharesChecks`

  The main statements are:
    * `Schema.FaultAt.leads`
    * `Invocation.pairwise_of_run`
    * `Engine.unambiguous_of_validate_invalid`
-/

namespace Intake

------------------------------------------------------------
-- Places That Lead Somewhere
------------------------------------------------------------

namespace Schema

/-
  A place leads from a schema to a parameter or to an element
  of an array.  On its way it follows the declared parameters
  and the data that they have in effect, and every index is
  one of an array of objects.
-/
inductive Leads : Schema → Input → Place → Prop where
  | param
      {schema : Schema}
      {input : Input}
      {param : Parameter Schema}
      (declared : param ∈ schema.params) :
      Leads schema input [⟨param.name, none⟩]
  | item
      {schema child : Schema}
      {input : Input}
      {param : Parameter Schema}
      {items : List Raw}
      {index : Nat}
      (declared : param ∈ schema.params)
      (refers : param.resolved = .nestedList child)
      (shape : param.effective input = .array items)
      (inRange : index < items.length) :
      Leads schema input [⟨param.name, some index⟩]
  | object
      {schema child : Schema}
      {input : Input}
      {param : Parameter Schema}
      {fields : Bucket}
      {place : Place}
      (declared : param ∈ schema.params)
      (refers : param.resolved = .nested child)
      (shape : param.effective input = .object fields)
      (below : Leads child (.nested fields) place) :
      Leads schema input (⟨param.name, none⟩ :: place)
  | element
      {schema child : Schema}
      {input : Input}
      {param : Parameter Schema}
      {items : List Raw}
      {index : Nat}
      {fields : Bucket}
      {place : Place}
      (declared : param ∈ schema.params)
      (refers : param.resolved = .nestedList child)
      (shape : param.effective input = .array items)
      (found : items[index]? = some (.object fields))
      (below : Leads child (.nested fields) place) :
      Leads schema input (⟨param.name, some index⟩ :: place)

variable {limit depth : Nat}
variable {schema : Schema}
variable {input : Input}
variable {place : Place}

/-
  The place of a fault leads to where it arises, unless the
  fault concerns the whole schema.
-/
theorem FaultAt.leads
    {fault : Fault}
    (hFault : schema.FaultAt limit depth input place fault)
    (hPlace : place ≠ []) :
    schema.Leads input place := by
  induction hFault with
  | overall values fails => exact absurd rfl hPlace
  | param declared fails simple => exact .param declared
  | @nested depth schema child input param fields place fault declared
      refers shape level below ih =>
      cases place with
      | nil => exact .param declared
      | cons segment rest =>
          exact .object declared refers shape (ih (List.cons_ne_nil _ _))
  | @element depth schema child input param before after fields place
      fault declared refers shape level first below ih =>
      cases place with
      | nil =>
          refine .item declared refers shape ?_
          rw [List.length_append, List.length_cons]
          omega
      | cons segment rest =>
          refine .element declared refers shape ?_
            (ih (List.cons_ne_nil _ _))
          simp
  | elementShape declared refers shape level first other =>
      refine .item declared refers shape ?_
      rw [List.length_append, List.length_cons]
      omega

/- Under the policy of identifiers, places lead through identifiers. -/
theorem Leads.hasIdentifiers
    (hLeads : schema.Leads input place)
    (hBuilt : schema.Built)
    (hAtoms : schema.Throughout fun s => s.keyPolicy = .atom) :
    place.HasIdentifiers := by
  have hAccepts :
      ∀ {schema : Schema} {param : Parameter Schema},
        schema.Built →
          (schema.Throughout fun s => s.keyPolicy = .atom) →
            param ∈ schema.params →
              KeyPolicy.atom.accepts param.name = true := by
    intro schema param hBuilt hAtoms hParam
    rw [← hAtoms.root]
    exact (hBuilt.name_accepted hParam).2
  induction hLeads with
  | param declared | item declared refers shape inRange =>
      exact List.forall_mem_singleton.mpr
        (hAccepts hBuilt hAtoms declared)
  | @object schema child input param fields place declared refers shape
      below ih =>
      have hChild : param.resolved.schema? = some child := by
        rw [refers]
        rfl
      refine List.forall_mem_cons.mpr
        ⟨hAccepts hBuilt hAtoms declared, ih ?_ ?_⟩
      · exact hBuilt.child declared hChild
      · exact hAtoms.child declared hChild
  | @element schema child input param items index fields place declared
      refers shape found below ih =>
      have hChild : param.resolved.schema? = some child := by
        rw [refers]
        rfl
      refine List.forall_mem_cons.mpr
        ⟨hAccepts hBuilt hAtoms declared, ih ?_ ?_⟩
      · exact hBuilt.child declared hChild
      · exact hAtoms.child declared hChild

/- The place of every fault consists of identifiers. -/
theorem FaultAt.hasIdentifiers
    {fault : Fault}
    (hFault : schema.FaultAt limit depth input place fault)
    (hBuilt : schema.Built)
    (hAtoms : schema.Throughout fun s => s.keyPolicy = .atom) :
    place.HasIdentifiers := by
  cases place with
  | nil => exact List.forall_mem_nil _
  | cons segment rest =>
      exact
        (hFault.leads (List.cons_ne_nil _ _)).hasIdentifiers hBuilt
          hAtoms

end Schema

------------------------------------------------------------
-- Records with the Same Path
------------------------------------------------------------

/- Failures have names of results, in order. -/
theorem ParamResults.sublist_names_failures
    (results : ParamResults) :
    (results.failures.map Prod.fst).Sublist
      (results.map Prod.fst) := by
  induction results with
  | nil => exact List.Sublist.refl []
  | cons result rest ih =>
      rcases result with ⟨name, failure | v⟩
      · exact ih.cons_cons name
      · exact ih.cons name

namespace Invocation

/-
  Two records are different reasons of the checks of one run of
  a schema, in the order of the checks.
-/
def SharesChecks
    (limit : Nat)
    (call : Invocation)
    (first second : ErrorRecord) : Prop :=
  ∃ place last fields reason other,
    call.Reaches limit place last ∧
      last.schema.Yields limit last.depth last.input fields ∧
        [reason, other].Sublist
            (GlobalCheck.failures fields last.schema.globals) ∧
          first = Fault.recordAt ⟨reason, .invalid⟩ place ∧
            second = Fault.recordAt ⟨other, .invalid⟩ place

variable {limit : Nat}
variable {call next : Invocation}
variable {segment : Segment}

/-
  Records that share the checks of a run do so below the
  invocation that leads to it.
-/
theorem SharesChecks.move
    (hEnters : call.Enters limit segment next)
    {first second : ErrorRecord}
    (hShares : next.SharesChecks limit first second) :
    call.SharesChecks limit (first.move segment.pathBefore)
      (second.move segment.pathBefore) := by
  rcases hShares with
    ⟨place, last, fields, reason, other, hReaches, hYields, hReasons,
      rfl, rfl⟩
  exact
    ⟨segment :: place, last, fields, reason, other,
      .step hEnters hReaches, hYields, hReasons, rfl, rfl⟩

/-
  Records of the checks of a schema are different reasons of
  these checks.
-/
theorem pairwise_overall
    {fields : Params}
    (hYields : call.schema.Yields limit call.depth call.input fields) :
    ((GlobalCheck.failures fields call.schema.globals).map
        ErrorRecord.overall).Pairwise
      (call.SharesChecks limit) := by
  rw [List.pairwise_map, List.pairwise_iff_forall_sublist]
  intro reason other hReasons
  exact
    ⟨[], call, fields, reason, other, .here call, hYields, hReasons, rfl,
      rfl⟩

/-
  The record of a parameter that fails is that of a fault whose
  place begins with the parameter.
-/
theorem exists_faultAt_of_mem_records
    {param : Parameter Schema}
    (hParam : param ∈ call.schema.params)
    {failure : Failure}
    (hResolve :
      param.resolve limit call.depth call.input = .error failure)
    {record : ErrorRecord}
    (hMem : record ∈ failure.records param.name) :
    ∃ segment rest fault, segment.name = param.name ∧
      call.FaultAt limit (segment :: rest) fault ∧
        record = fault.recordAt (segment :: rest) := by
  rcases records_cases hParam hResolve with
    ⟨segment, fault, hName, hFault, hRecords⟩ |
    ⟨segment, next, found, hName, hEnters, hRun, hRecords⟩
  · rw [hRecords, List.mem_singleton] at hMem
    exact ⟨segment, [], fault, hName, hFault, hMem⟩
  · rw [hRecords] at hMem
    rcases List.mem_map.mp hMem with ⟨inner, hInner, rfl⟩
    rcases exists_faultAt hRun hInner with ⟨place, fault, hFault, rfl⟩
    exact
      ⟨segment, place, fault, hName, hEnters.faultAt hFault,
        move_recordAt segment fault place⟩

/-
  Among identifiers, moving records below a segment makes no
  paths equal that were different.
-/
theorem param_eq_of_move
    (hBuilt : call.schema.Built)
    (hAtoms : call.schema.Throughout fun s => s.keyPolicy = .atom)
    (hEnters : call.Enters limit segment next)
    {found : List ErrorRecord}
    (hRun : next.run limit = .error found)
    {first second : ErrorRecord}
    (hFirst : first ∈ found)
    (hSecond : second ∈ found)
    (hSame :
      (first.move segment.pathBefore).param =
        (second.move segment.pathBefore).param) :
    first.param = second.param := by
  rcases exists_faultAt hRun hFirst with ⟨place, fault, hFault, rfl⟩
  rcases exists_faultAt hRun hSecond with ⟨other, wrong, hWrong, rfl⟩
  have hPlaces : segment :: place = segment :: other :=
    Place.path?_injective
      ((hEnters.faultAt hFault).hasIdentifiers hBuilt hAtoms)
      ((hEnters.faultAt hWrong).hasIdentifiers hBuilt hAtoms)
      hSame
  rw [List.cons.injEq] at hPlaces
  rw [hPlaces.2]
  rfl

/-
  The records of different parameters have different paths, for
  the paths begin with the names of the parameters.
-/
theorem param_ne_of_name_ne
    (hBuilt : call.schema.Built)
    (hAtoms : call.schema.Throughout fun s => s.keyPolicy = .atom)
    {param other : Parameter Schema}
    (hParam : param ∈ call.schema.params)
    (hOther : other ∈ call.schema.params)
    (hNames : param.name ≠ other.name)
    {failure wrong : Failure}
    (hFailure :
      param.resolve limit call.depth call.input = .error failure)
    (hWrong : other.resolve limit call.depth call.input = .error wrong)
    {first second : ErrorRecord}
    (hFirst : first ∈ failure.records param.name)
    (hSecond : second ∈ wrong.records other.name) :
    first.param ≠ second.param := by
  rcases exists_faultAt_of_mem_records hParam hFailure hFirst with
    ⟨segment, rest, fault, hName, hFault, rfl⟩
  rcases exists_faultAt_of_mem_records hOther hWrong hSecond with
    ⟨segment', rest', fault', hName', hFault', rfl⟩
  intro hSame
  have hPlaces : segment :: rest = segment' :: rest' :=
    Place.path?_injective (hFault.hasIdentifiers hBuilt hAtoms)
      (hFault'.hasIdentifiers hBuilt hAtoms) hSame
  rw [List.cons.injEq] at hPlaces
  apply hNames
  rw [← hName, ← hName', hPlaces.1]

/- Different parameters that fail have different names. -/
theorem pairwise_failed
    (hBuilt : call.schema.Built) :
    (call.schema.failed limit call.depth call.input).Pairwise
      fun failed other => failed.1 ≠ other.1 := by
  have hNames :
      call.schema.params.map Parameter.name =
        (call.schema.params.map fun param =>
          (param.name, param.resolve limit call.depth call.input)).map
            Prod.fst := by
    rw [List.map_map]
    rfl
  have hNodup := hBuilt.nodup_names
  rw [hNames] at hNodup
  rw [← List.pairwise_map]
  exact hNodup.sublist (ParamResults.sublist_names_failures _)

/-
  Records of a run have the same path only if they are reasons
  of the checks of one run.  The induction is on the tree of
  schemas.  Records of different parameters begin with
  different names, and those of one parameter come from one
  run below it.
-/
theorem pairwise_of_run
    (hBuilt : call.schema.Built)
    (hAtoms : call.schema.Throughout fun s => s.keyPolicy = .atom)
    {records : List ErrorRecord}
    (hRun : call.run limit = .error records) :
    records.Pairwise fun first second =>
      first.param = second.param →
        call.SharesChecks limit first second := by
  induction hSchema : call.schema using Schema.induction
    generalizing call records with
  | step schema ih =>
      subst hSchema
      rcases (call.schema.run_eq_error_iff limit call.depth call.input
          records).mp hRun with
        ⟨_, rfl⟩ | ⟨fields, hYields, _, rfl⟩
      · rw [List.pairwise_flatMap]
        constructor
        · rintro ⟨name, failure⟩ hFailed
          rcases (Schema.mem_failed_iff _ _ _ _ name failure).mp
              hFailed with
            ⟨param, hParam, rfl, hResolve⟩
          rcases records_cases hParam hResolve with
            ⟨segment, fault, _, _, hRecords⟩ |
            ⟨segment, next, found, _, hEnters, hFound, hRecords⟩
          · simp only [hRecords]
            exact List.pairwise_singleton _ _
          · rcases hEnters.exists_declared with
              ⟨declared, hDeclared, _, hChild⟩
            have hInner :=
              ih declared hDeclared next.schema hChild
                (hBuilt.child hDeclared hChild)
                (hAtoms.child hDeclared hChild) hFound rfl
            simp only [hRecords]
            rw [List.pairwise_map]
            apply hInner.imp_of_mem
            intro first second hFirst hSecond hShares hSame
            apply SharesChecks.move hEnters
            apply hShares
            exact
              param_eq_of_move hBuilt hAtoms hEnters hFound hFirst
                hSecond hSame
        · apply (pairwise_failed hBuilt).imp_of_mem
          rintro ⟨name, failure⟩ ⟨name', wrong⟩ hFailed hFailed' hNames
            first hFirst second hSecond hSame
          rcases (Schema.mem_failed_iff _ _ _ _ name failure).mp
              hFailed with
            ⟨param, hParam, rfl, hResolve⟩
          rcases (Schema.mem_failed_iff _ _ _ _ name' wrong).mp
              hFailed' with
            ⟨other, hOther, rfl, hResolve'⟩
          exact absurd hSame
            (param_ne_of_name_ne hBuilt hAtoms hParam hOther hNames
              hResolve hResolve' hFirst hSecond)
      · apply (pairwise_overall hYields).imp
        intro first second hShares _
        exact hShares

end Invocation

------------------------------------------------------------
-- Outcomes
------------------------------------------------------------

/-
  If all schemas have the policy of identifiers, no two places
  have the same path.  The path of every record of an invalid
  outcome is read back to the one place that it stands for,
  and the place leads to a parameter or to an element of an
  array.  Two records have the same path only if they are
  different reasons of the checks of one run of a schema.
-/
theorem Engine.unambiguous_of_validate_invalid
    (engine : Engine)
    (schema : Schema)
    (hBuilt : schema.Built)
    (hAtoms : schema.Throughout fun s => s.keyPolicy = .atom)
    (input : Input)
    (records : List ErrorRecord)
    (hInvalid : engine.validate schema input = .invalid records) :
    (∀ place other : Place,
      place.HasIdentifiers → other.HasIdentifiers →
        place.path? = other.path? → place = other) ∧
    (∀ record ∈ records,
      (Place.ofPath record.param).HasIdentifiers ∧
        (Place.ofPath record.param).path? = record.param ∧
        (record.param ≠ none →
          schema.Leads input (Place.ofPath record.param))) ∧
    records.Pairwise fun first second =>
      first.param = second.param →
        Invocation.SharesChecks engine.maxDepth ⟨0, schema, input⟩ first
          second := by
  have hRun :
      Invocation.run engine.maxDepth ⟨0, schema, input⟩ =
        .error records :=
    engine.run_of_validate_invalid schema input hInvalid
  refine ⟨?_, ?_, ?_⟩
  · intro place other hPlace hOther hSame
    exact Place.path?_injective hPlace hOther hSame
  · intro record hMem
    rcases Invocation.exists_faultAt hRun hMem with
      ⟨place, fault, hFault, rfl⟩
    have hNames := hFault.hasIdentifiers hBuilt hAtoms
    have hRead : Place.ofPath (fault.recordAt place).param = place :=
      place.ofPath_path? hNames
    rw [hRead]
    refine ⟨hNames, rfl, ?_⟩
    intro hParam
    apply hFault.leads
    rintro rfl
    exact hParam rfl
  · exact Invocation.pairwise_of_run hBuilt hAtoms hRun

namespace Samples

/- A check that two texts are different. -/
def differ
    (name other reason : String) : GlobalCheck where
  test := fun params =>
    if textOf? params name == textOf? params other then .error reason
    else .ok ()
  halts := false

/- A leg of a journey, which has to lead somewhere else. -/
def legDraft : SchemaDraft :=
  { SchemaDraft.ofName "leg" with
    params :=
      [{ ParameterDraft.ofType "start" (.scalar "string") with
          required := true },
        { ParameterDraft.ofType "stop" (.scalar "string") with
          required := true },
        ParameterDraft.ofType "via" (.scalar "string")]
    globals :=
      [differ "start" "stop" "start and stop are the same",
        differ "via" "stop" "via and stop are the same"]
    keyPolicy := .atom }

/- A journey of several legs, with a way back. -/
def journeyDraft : SchemaDraft :=
  { SchemaDraft.ofName "journey" with
    params :=
      [ParameterDraft.ofType "legs" (.arrayOfNested legDraft.assembled),
        ParameterDraft.ofType "back" (.nested legDraft.assembled)]
    keyPolicy := .atom }

/- A leg from a town to the same town, over that town. -/
def roundLeg : Raw :=
  .object
    [("start", .string "Ulm"), ("via", .string "Ulm"),
      ("stop", .string "Ulm")]

/- A journey whose second leg leads nowhere, without a start of the way back. -/
def roundJourney : Input :=
  .ofAuto
    [("legs",
        .array
          [.object [("start", .string "Ulm"), ("stop", .string "Linz")],
            roundLeg]),
      ("back", .object [("stop", .string "Ulm")])]

/- The records of the journey. -/
def roundRecords : List ErrorRecord :=
  [⟨some "legs[1]", "Validation error: start and stop are the same",
      .invalid⟩,
    ⟨some "legs[1]", "Validation error: via and stop are the same",
      .invalid⟩,
    ⟨some "back.start", "Validation error: required", .missing⟩]

/- A leg refers to no schema, a journey to legs only. -/
theorem schema?_of_mem_legDraft :
    ∀ declared ∈ legDraft.params, declared.type.schema? = none := by
  simp [legDraft, ParameterDraft.ofType, TypeExpr.schema?]

theorem schema?_of_mem_journeyDraft :
    ∀ declared ∈ journeyDraft.params, ∀ child,
      declared.type.schema? = some child →
        child = legDraft.assembled := by
  simp [journeyDraft, ParameterDraft.ofType, TypeExpr.schema?,
    @eq_comm _ legDraft.assembled]

/- The drafts build a leg and a journey. -/
theorem leg_build :
    legDraft.build .empty = .ok legDraft.assembled :=
  legDraft.build_of_errors_eq_nil rfl

theorem journey_build :
    journeyDraft.build .empty = .ok journeyDraft.assembled :=
  journeyDraft.build_of_errors_eq_nil rfl

/- A journey is built. -/
theorem journey_built :
    journeyDraft.assembled.Built := by
  apply Schema.Built.intro journey_build
  intro declared hDeclared child hChild
  rw [schema?_of_mem_journeyDraft declared hDeclared child hChild]
  exact .of_leaf leg_build schema?_of_mem_legDraft

/- A journey and its legs have the policy of identifiers. -/
theorem journey_atoms :
    journeyDraft.assembled.Throughout fun s => s.keyPolicy = .atom := by
  apply Schema.Throughout.of_build journey_build
  · rfl
  · intro declared hDeclared child hChild
    rw [schema?_of_mem_journeyDraft declared hDeclared child hChild]
    exact .of_leaf leg_build rfl schema?_of_mem_legDraft

end Samples

/-
  The two records of the second leg have the same path, and the
  path of the third one leads to the start of the way back.
-/
theorem Engine.journey_unambiguous :
    Samples.journeyDraft.assembled.Built ∧
      Samples.journeyDraft.assembled.Throughout
        (fun s => s.keyPolicy = .atom) ∧
      Engine.standard.validate Samples.journeyDraft.assembled
          Samples.roundJourney =
        .invalid Samples.roundRecords ∧
      Samples.journeyDraft.assembled.Leads Samples.roundJourney
        [⟨"back", none⟩, ⟨"start", none⟩] ∧
      Samples.roundRecords.Pairwise fun first second =>
        first.param = second.param →
          Invocation.SharesChecks 32
            ⟨0, Samples.journeyDraft.assembled, Samples.roundJourney⟩
            first second := by
  have hInvalid :
      Engine.standard.validate Samples.journeyDraft.assembled
          Samples.roundJourney =
        .invalid Samples.roundRecords :=
    rfl
  have hPaths :=
    Engine.unambiguous_of_validate_invalid .standard _
      Samples.journey_built Samples.journey_atoms Samples.roundJourney
      _ hInvalid
  have hMem :
      (⟨some "back.start", "Validation error: required", .missing⟩ :
        ErrorRecord) ∈ Samples.roundRecords := by
    decide
  have hPlace :
      Place.ofPath (some "back.start") =
        [⟨"back", none⟩, ⟨"start", none⟩] := by
    decide
  have hLeads := (hPaths.2.1 _ hMem).2.2 (Option.some_ne_none _)
  rw [hPlace] at hLeads
  exact
    ⟨Samples.journey_built, Samples.journey_atoms, hInvalid, hLeads,
      hPaths.2.2⟩

end Intake
