import Intake.Proofs.Depth
import Intake.Proofs.Reasons

/-
  This file follows every reported record back to where its
  error has arisen, and says which reason and which code the
  record has from there.

  A value counts as missing only by the text of a reason, so
  that any type or check may say that it is.  The builtin ones
  never do, and there a record says that a value is missing
  exactly if a required parameter has none.

  Key definitions include:
    * `Origin`
    * `Invocation.Raises`
    * `Schema.OverBuiltins`
    * `Engine.Arises`
    * `Engine.KeepsOrigins`

  The main statements are:
    * `Invocation.exists_raises`
    * `Invocation.Raises.code_eq_missing_iff`
    * `ErrorRecord.reason_of_message`
    * `Engine.keepsOrigins_of_validate_invalid`
-/

namespace Intake

------------------------------------------------------------
-- Messages
------------------------------------------------------------

namespace ErrorRecord

/- The lead is taken off once, whatever comes after it. -/
theorem stripLead?_append
    (lead text : List Char) :
    stripLead? lead (lead ++ text) = some text := by
  induction lead with
  | nil => rfl
  | cons c lead ih =>
      rw [List.cons_append, stripLead?, if_pos (beq_self_eq_true c)]
      exact ih

/-
  The reason of a record is the text after the lead, even if
  this text begins with the lead once more.
-/
theorem reason_of_message
    {record : ErrorRecord}
    {reason : String}
    (hMessage : record.message = messageLead ++ reason) :
    record.reason = reason := by
  unfold ErrorRecord.reason
  rw [hMessage, String.toList_append, stripLead?_append]
  exact String.ofList_toList

example :
    (overall "Validation error: odd").reason =
      "Validation error: odd" := by
  decide

end ErrorRecord

------------------------------------------------------------
-- Origins
------------------------------------------------------------

/-
  What an error arises from: a check of a whole schema, or a
  parameter.  A parameter is required without having data, or
  its data is refused by its type, or its value is rejected by
  its check, or its array has an element that is no object.
-/
inductive Origin where
  | overall (reason : String)
  | missing (param : Parameter Schema)
  | refused (param : Parameter Schema) (reason : String)
  | rejected (param : Parameter Schema) (reason : String)
  | element (param : Parameter Schema) (index : Nat)

namespace Origin

/- The parameter at which an error arises. -/
def param? : Origin → Option (Parameter Schema)
  | .overall _ => none
  | .missing param => some param
  | .refused param _ => some param
  | .rejected param _ => some param
  | .element param _ => some param

/- The reason that is raised. -/
def reason : Origin → String
  | .overall reason => reason
  | .missing _ => requiredReason
  | .refused _ reason => reason
  | .rejected _ reason => reason
  | .element _ _ => invalidReason

/- The code is that of the reason, but at parameters only. -/
def code : Origin → ErrorCode
  | .overall _ => .invalid
  | .missing _ => .missing
  | .refused _ reason => .ofReason reason
  | .rejected _ reason => .ofReason reason
  | .element _ _ => .invalid

/- The place at which an error arises in an invocation. -/
def place : Origin → Place
  | .overall _ => []
  | .missing param => [⟨param.name, none⟩]
  | .refused param _ => [⟨param.name, none⟩]
  | .rejected param _ => [⟨param.name, none⟩]
  | .element param index => [⟨param.name, some index⟩]

/- What is wrong at the place. -/
def fault
    (origin : Origin) : Fault :=
  ⟨origin.reason, origin.code⟩

end Origin

------------------------------------------------------------
-- Origins in an Invocation
------------------------------------------------------------

namespace Invocation

/- An error arises in an invocation itself, not below it. -/
inductive Raises
    (limit : Nat)
    (call : Invocation) : Origin → Prop where
  | overall
      {fields : Params}
      {reason : String}
      (values :
        call.schema.Yields limit call.depth call.input fields)
      (fails :
        reason ∈ GlobalCheck.failures fields call.schema.globals) :
      Raises limit call (.overall reason)
  | missing
      {param : Parameter Schema}
      (declared : param ∈ call.schema.params)
      (required : param.required = true)
      (null : (param.effective call.input).isNull = true) :
      Raises limit call (.missing param)
  | refused
      {param : Parameter Schema}
      {reason : String}
      (declared : param ∈ call.schema.params)
      (data : (param.effective call.input).isNull = false)
      (fails :
        param.resolved.coerce limit call.depth
            (param.effective call.input) =
          .error (.coercion reason)) :
      Raises limit call (.refused param reason)
  | rejected
      {param : Parameter Schema}
      {v : Value}
      {reason : String}
      (declared : param ∈ call.schema.params)
      (data : (param.effective call.input).isNull = false)
      (coerced :
        param.resolved.coerce limit call.depth
            (param.effective call.input) =
          .ok v)
      (fails : param.admit v = .error (.validation reason)) :
      Raises limit call (.rejected param reason)
  | element
      {param : Parameter Schema}
      {child : Schema}
      {before after : List Raw}
      {item : Raw}
      (declared : param ∈ call.schema.params)
      (refers : param.resolved = .nestedList child)
      (shape :
        param.effective call.input =
          .array (before ++ item :: after))
      (level : call.depth + 1 ≤ limit)
      (first :
        ∀ item ∈ before, ∃ v,
          ElementValidates (child.runBelow limit call.depth) item v)
      (other : ∀ fields, item ≠ .object fields) :
      Raises limit call (.element param before.length)

variable {limit : Nat}
variable {call last : Invocation}
variable {place : Place}
variable {origin : Origin}

/- What arises in an invocation is one of its faults. -/
theorem Raises.faultAt
    (hRaises : call.Raises limit origin) :
    call.FaultAt limit origin.place origin.fault := by
  cases hRaises with
  | overall values fails => exact .overall values fails
  | @missing param declared required null =>
      exact .param declared
        ((param.resolve_eq_error_iff _ _ _ _).mpr
          (Or.inl ⟨null, required, rfl⟩))
        rfl
  | @refused param reason declared data fails =>
      exact .param declared
        ((param.resolve_eq_error_iff _ _ _ _).mpr
          (Or.inr ⟨data, Or.inl fails⟩))
        rfl
  | @rejected param v reason declared data coerced fails =>
      exact .param declared
        ((param.resolve_eq_error_iff _ _ _ _).mpr
          (Or.inr ⟨data, Or.inr ⟨v, coerced, fails⟩⟩))
        rfl
  | element declared refers shape level first other =>
      exact .elementShape declared refers shape level first other

/-
  A parameter that fails with one reason does so because its
  value is missing, refused or rejected.
-/
theorem exists_raises_of_resolve
    {param : Parameter Schema}
    (hParam : param ∈ call.schema.params)
    {failure : Failure}
    (hResolve :
      param.resolve limit call.depth call.input = .error failure)
    {reason : String}
    (hReason : failure.reason? = some reason) :
    ∃ origin, call.Raises limit origin ∧
      origin.place = [⟨param.name, none⟩] ∧
        origin.fault = ⟨reason, .ofReason reason⟩ := by
  rcases (param.resolve_eq_error_iff _ _ _ _).mp hResolve with
    ⟨hNull, hRequired, rfl⟩ | ⟨hData, hCoerce | ⟨v, hCoerce, hAdmit⟩⟩
  · cases hReason
    exact
      ⟨.missing param, .missing hParam hRequired hNull, rfl, rfl⟩
  · rcases Resolved.failure_cases hCoerce with
      ⟨found, rfl, _⟩ | ⟨records, rfl⟩
    · cases hReason
      exact
        ⟨.refused param reason, .refused hParam hData hCoerce, rfl, rfl⟩
    · cases hReason
  · rcases param.admit_eq_error v hAdmit with ⟨found, rfl⟩
    cases hReason
    exact
      ⟨.rejected param reason, .rejected hParam hData hCoerce hAdmit,
        rfl, rfl⟩

/-
  Every fault arises in an invocation that is reached, at the
  place that leads to it followed by the place of the origin.
-/
theorem exists_raises
    {depth : Nat}
    {schema : Schema}
    {input : Input}
    {fault : Fault}
    (hFault : schema.FaultAt limit depth input place fault) :
    ∃ before last origin,
      Reaches limit ⟨depth, schema, input⟩ before last ∧
        last.Raises limit origin ∧
          place = before ++ origin.place ∧ fault = origin.fault := by
  induction hFault with
  | @overall depth schema input fields reason values fails =>
      exact
        ⟨[], _, .overall reason, .here _, .overall values fails, rfl,
          rfl⟩
  | @param depth schema input param failure reason declared fails
      simple =>
      have hCall :
          param ∈ (Invocation.mk depth schema input).schema.params :=
        declared
      rcases exists_raises_of_resolve hCall fails simple with
        ⟨origin, hRaises, hPlace, hFault⟩
      exact
        ⟨[], _, origin, .here _, hRaises, hPlace.symm, hFault.symm⟩
  | nested declared refers shape level below ih =>
      rcases ih with
        ⟨before, last, origin, hReaches, hRaises, rfl, rfl⟩
      exact
        ⟨_, last, origin,
          .step (.object declared refers shape level) hReaches, hRaises,
          rfl, rfl⟩
  | element declared refers shape level first below ih =>
      rcases ih with
        ⟨before, last, origin, hReaches, hRaises, rfl, rfl⟩
      exact
        ⟨_, last, origin,
          .step (.element declared refers shape level first) hReaches,
          hRaises, rfl, rfl⟩
  | elementShape declared refers shape level first other =>
      exact
        ⟨[], _, .element _ _, .here _,
          .element declared refers shape level first other, rfl, rfl⟩

/-
  A record of an invocation is among those of any invocation
  that reaches it, with another path.
-/
theorem Reaches.exists_record
    (hReaches : call.Reaches limit place last)
    {inner : ErrorRecord}
    {found : List ErrorRecord}
    (hRun : last.run limit = .error found)
    (hMem : inner ∈ found) :
    ∃ records, call.run limit = .error records ∧
      ∃ record ∈ records,
        record.message = inner.message ∧ record.code = inner.code := by
  rcases exists_faultAt hRun hMem with ⟨rest, fault, hFault, rfl⟩
  rcases Schema.FaultAt.reports (hReaches.faultAt hFault) with
    ⟨records, hCall, hRecord⟩
  exact ⟨records, hCall, _, hRecord, rfl, rfl⟩

------------------------------------------------------------
-- Builtin Types and Checks
------------------------------------------------------------

/- What holds of all schemas of a tree holds of those reached. -/
theorem Reaches.throughout
    {P : Schema → Prop}
    (hReaches : call.Reaches limit place last)
    (hCall : call.schema.Throughout P) :
    last.schema.Throughout P := by
  induction hReaches with
  | here call => exact hCall
  | step enters rest ih =>
      rcases enters.exists_declared with ⟨param, hParam, _, hChild⟩
      exact ih (hCall.child hParam hChild)

end Invocation

/-
  A parameter whose type means what it does in the table of
  builtin types, and whose check is no function.
-/
def Parameter.IsBuiltin
    (param : Parameter Schema) : Prop :=
  param.type.resolve .builtins = .ok param.resolved ∧
    param.hasCustomCheck = false

/- A tree of schemas without types and checks of its own. -/
def Schema.OverBuiltins
    (schema : Schema) : Prop :=
  schema.Throughout fun schema =>
    ∀ param ∈ schema.params, param.IsBuiltin

/-
  A schema is one over builtin types and checks if it is built
  with the builtin table and none of its checks is a function.
-/
theorem Schema.overBuiltins_of_built
    {schema : Schema}
    (hBuilt : schema.Built)
    (hTree :
      schema.Throughout fun schema =>
        schema.types = .builtins ∧
          ∀ param ∈ schema.params, param.hasCustomCheck = false) :
    schema.OverBuiltins := by
  induction schema using Schema.induction with
  | step schema ih =>
      constructor
      · intro param hParam
        have hResolve := hBuilt.resolve_type hParam
        rw [hTree.root.1] at hResolve
        exact ⟨hResolve, hTree.root.2 param hParam⟩
      · intro param hParam child hChild
        exact ih param hParam child hChild
          (hBuilt.child hParam hChild) (hTree.child hParam hChild)

/- A builtin type says of no data that it is missing. -/
theorem Parameter.IsBuiltin.reason_ne_of_refused
    {param : Parameter Schema}
    (hBuiltin : param.IsBuiltin)
    {limit depth : Nat}
    {raw : Raw}
    {reason : String}
    (hCoerce :
      param.resolved.coerce limit depth raw =
        .error (.coercion reason)) :
    reason ≠ requiredReason := by
  rcases Resolved.failure_cases hCoerce with
    ⟨found, hSame, hFound⟩ | ⟨records, hSame⟩
  · cases hSame
    rcases hFound with rfl | rfl | ⟨name, coerce, hType, hRaw⟩
    · decide
    · decide
    · have hResolve := hBuiltin.1
      rw [hType] at hResolve
      exact ne_requiredReason_of_hasBlank
        (Coercer.explains_of_resolve_builtins _ hResolve raw _ hRaw)
  · cases hSame

/- A builtin check says of no value that it is missing. -/
theorem Parameter.IsBuiltin.reason_ne_of_rejected
    {param : Parameter Schema}
    (hBuiltin : param.IsBuiltin)
    {v : Value}
    {reason : String}
    (hAdmit : param.admit v = .error (.validation reason)) :
    reason ≠ requiredReason :=
  ne_requiredReason_of_hasBlank
    (param.hasBlank_of_rejected hBuiltin.2 v hAdmit)

/- Every reason but one has the code of an invalid value. -/
theorem ErrorCode.ofReason_of_ne
    {reason : String}
    (hReason : reason ≠ requiredReason) :
    ofReason reason = .invalid := by
  rw [ofReason, if_neg]
  rw [beq_iff_eq]
  exact hReason

namespace Invocation

variable {limit : Nat}
variable {call : Invocation}
variable {origin : Origin}

/- An error arises at a required parameter without data. -/
def Lacks
    (call : Invocation)
    (origin : Origin) : Prop :=
  ∃ param ∈ call.schema.params, origin.param? = some param ∧
    param.required = true ∧
      (param.effective call.input).isNull = true

/-
  Over builtin types and checks, the code of an error says
  that a value is missing exactly if the error arises at a
  required parameter without data.
-/
theorem Raises.code_eq_missing_iff
    (hRaises : call.Raises limit origin)
    (hBuiltin : ∀ param ∈ call.schema.params, param.IsBuiltin) :
    origin.code = .missing ↔ call.Lacks origin := by
  -- All origins at a parameter but one presuppose data.
  have hData :
      ∀ param, origin.param? = some param →
        (param.effective call.input).isNull = false →
          ¬ call.Lacks origin := by
    rintro param hParam hRaw ⟨other, _, hOther, _, hNull⟩
    rw [hParam] at hOther
    cases hOther
    rw [hRaw] at hNull
    cases hNull
  cases hRaises with
  | overall values fails =>
      constructor
      · intro hCode
        cases hCode
      · rintro ⟨param, _, hParam, _⟩
        cases hParam
  | @missing param declared required null =>
      constructor
      · intro _
        exact ⟨param, declared, rfl, required, null⟩
      · intro _
        rfl
  | @refused param reason declared data fails =>
      have hReason :=
        (hBuiltin param declared).reason_ne_of_refused fails
      rw [Origin.code, ErrorCode.ofReason_of_ne hReason]
      exact iff_of_false nofun (hData param rfl data)
  | @rejected param v reason declared data coerced fails =>
      have hReason :=
        (hBuiltin param declared).reason_ne_of_rejected fails
      rw [Origin.code, ErrorCode.ofReason_of_ne hReason]
      exact iff_of_false nofun (hData param rfl data)
  | @element param child before after item declared refers shape
      level first other =>
      have hRaw : (param.effective call.input).isNull = false := by
        rw [shape]
        rfl
      exact iff_of_false nofun (hData param rfl hRaw)

/- A required parameter without data gives no other error. -/
theorem Raises.reason_eq_of_lacks
    (hRaises : call.Raises limit origin)
    (hLacks : call.Lacks origin) :
    origin.reason = requiredReason := by
  rcases hLacks with ⟨param, _, hParam, _, hNull⟩
  cases hRaises with
  | overall values fails => cases hParam
  | missing declared required null => rfl
  | refused declared data fails
  | rejected declared data coerced fails =>
      cases hParam
      rw [hNull] at data
      cases data
  | element declared refers shape level first other =>
      cases hParam
      rw [shape] at hNull
      cases hNull

end Invocation

------------------------------------------------------------
-- Outcomes
------------------------------------------------------------

namespace Engine

/-
  A record comes from an error that arises in an invocation
  which the validation of an input reaches.
-/
def Arises
    (engine : Engine)
    (schema : Schema)
    (input : Input)
    (record : ErrorRecord)
    (call : Invocation)
    (origin : Origin) : Prop :=
  ∃ place,
    Invocation.Reaches engine.maxDepth ⟨0, schema, input⟩ place
      call ∧
    call.Raises engine.maxDepth origin ∧
    record = origin.fault.recordAt (place ++ origin.place)

/-
  The records of an invalid outcome keep what is known where
  their errors arise.

  They are exactly the records of the errors that arise, in
  whatever invocation.  Each tells the reason of its error and
  has its code, and the invocation of the error reports a
  record with the same message and the same code.  What an
  invocation reports is reported from there on.  An error of
  a whole schema is never one of a missing value.  Over
  builtin types and checks, the errors of missing values are
  those of required parameters without data.
-/
structure KeepsOrigins
    (engine : Engine)
    (schema : Schema)
    (input : Input)
    (records : List ErrorRecord) : Prop where
  arises :
    ∀ record, record ∈ records ↔
      ∃ call origin, engine.Arises schema input record call origin
  told :
    ∀ record call origin,
      engine.Arises schema input record call origin →
        record.message = "Validation error: " ++ origin.reason ∧
          record.reason = origin.reason ∧
            record.code = origin.code
  reported :
    ∀ record call origin,
      engine.Arises schema input record call origin →
        ∃ found, call.run engine.maxDepth = .error found ∧
          ∃ inner ∈ found, inner.message = record.message ∧
            inner.code = record.code
  kept :
    ∀ place call,
      Invocation.Reaches engine.maxDepth ⟨0, schema, input⟩ place
          call →
        ∀ found, call.run engine.maxDepth = .error found →
          ∀ inner ∈ found, ∃ record ∈ records,
            record.message = inner.message ∧
              record.code = inner.code
  overall :
    ∀ record call reason,
      engine.Arises schema input record call (.overall reason) →
        record.code = .invalid
  missing :
    schema.OverBuiltins →
      ∀ record call origin,
        engine.Arises schema input record call origin →
          (call.Lacks origin →
            record.code = .missing ∧
              record.message = "Validation error: required") ∧
          (¬ call.Lacks origin → record.code = .invalid)

/-
  The records of an invalid outcome are those of the errors
  that arise in the invocations that are reached.
-/
theorem mem_iff_arises
    (engine : Engine)
    (schema : Schema)
    (input : Input)
    {records : List ErrorRecord}
    (hInvalid : engine.validate schema input = .invalid records)
    (record : ErrorRecord) :
    record ∈ records ↔
      ∃ call origin,
        engine.Arises schema input record call origin := by
  constructor
  · intro hMem
    have hRun := engine.run_of_validate_invalid schema input hInvalid
    rcases Schema.exists_faultAt_of_reports ⟨records, hRun, hMem⟩
      with ⟨place, fault, hFault, rfl⟩
    rcases Invocation.exists_raises hFault with
      ⟨before, call, origin, hReaches, hRaises, rfl, rfl⟩
    exact ⟨call, origin, before, hReaches, hRaises, rfl⟩
  · rintro ⟨call, origin, place, hReaches, hRaises, rfl⟩
    rcases engine.exists_validate_of_faultAt hReaches hRaises.faultAt
      with ⟨found, hFound, hMem⟩
    rw [hInvalid] at hFound
    cases hFound
    exact hMem

/- Every invalid outcome keeps the origins of its records. -/
theorem keepsOrigins_of_validate_invalid
    (engine : Engine)
    (schema : Schema)
    (input : Input)
    (records : List ErrorRecord)
    (hInvalid : engine.validate schema input = .invalid records) :
    engine.KeepsOrigins schema input records := by
  have hRun := engine.run_of_validate_invalid schema input hInvalid
  constructor
  case arises =>
    intro record
    exact engine.mem_iff_arises schema input hInvalid record
  case told =>
    rintro record call origin ⟨place, _, _, rfl⟩
    exact ⟨rfl, ErrorRecord.reason_of_message rfl, rfl⟩
  case reported =>
    rintro record call origin ⟨place, _, hRaises, rfl⟩
    rcases Schema.FaultAt.reports hRaises.faultAt with
      ⟨found, hFound, hMem⟩
    exact ⟨found, hFound, _, hMem, rfl, rfl⟩
  case kept =>
    intro place call hReaches found hFound inner hInner
    rcases hReaches.exists_record hFound hInner with
      ⟨others, hOthers, hRecord⟩
    cases hRun.symm.trans hOthers
    exact hRecord
  case overall =>
    rintro record call reason ⟨place, _, _, rfl⟩
    rfl
  case missing =>
    rintro hBuiltin record call origin ⟨place, hReaches, hRaises, rfl⟩
    have hTree : call.schema.OverBuiltins :=
      hReaches.throughout hBuiltin
    have hCode := hRaises.code_eq_missing_iff hTree.root
    constructor
    · intro hLacks
      refine ⟨hCode.mpr hLacks, ?_⟩
      show messageLead ++ origin.reason = _
      rw [hRaises.reason_eq_of_lacks hLacks]
      rfl
    · intro hData
      show origin.code = .invalid
      cases hFound : origin.code with
      | invalid => rfl
      | missing => exact absurd (hCode.mp hFound) hData

end Engine

namespace Samples

/- A ticket must have a row as soon as it has a seat. -/
def rowCheck : GlobalCheck where
  test := fun params =>
    if (textOf? params "row").isSome then .ok ()
    else .error requiredReason
  halts := false

/- A ticket, whose row is asked for by a check only. -/
def ticketDraft : SchemaDraft :=
  { SchemaDraft.ofName "ticket" with
    params :=
      [{ ParameterDraft.ofType "seat" (.scalar "string") with
          required := true },
        ParameterDraft.ofType "row" (.scalar "string")]
    globals := [rowCheck] }

/- A trip with one ticket for the way out and some for the way back. -/
def tripDraft : SchemaDraft :=
  { SchemaDraft.ofName "trip" with
    params :=
      [ParameterDraft.ofType "out" (.nested ticketDraft.assembled),
        ParameterDraft.ofType "back"
          (.arrayOfNested ticketDraft.assembled)] }

/- A trip without a row on the way out, and without a seat back. -/
def incompleteTrip : Input :=
  .ofAuto
    [("out", .object [("seat", .string "1")]),
      ("back",
        .array
          [.object [("seat", .string "1"), ("row", .string "A")],
            .object [("row", .string "B")]])]

/- A trip refers to tickets only. -/
theorem schema?_of_mem_tripDraft :
    ∀ declared ∈ tripDraft.params, ∀ child,
      declared.type.schema? = some child →
        child = ticketDraft.assembled := by
  simp [tripDraft, ParameterDraft.ofType, TypeExpr.schema?,
    @eq_comm _ ticketDraft.assembled]

/- A ticket refers to no schema. -/
theorem schema?_of_mem_ticketDraft :
    ∀ declared ∈ ticketDraft.params,
      declared.type.schema? = none := by
  simp [ticketDraft, ParameterDraft.ofType, TypeExpr.schema?]

/- Trips have builtin types and checks at all parameters. -/
theorem trip_overBuiltins :
    tripDraft.assembled.OverBuiltins := by
  have hTicket :=
    ticketDraft.build_of_errors_eq_nil rfl
  have hTrip :=
    tripDraft.build_of_errors_eq_nil rfl
  apply Schema.overBuiltins_of_built
  · apply Schema.Built.intro hTrip
    intro declared hDeclared child hChild
    rw [schema?_of_mem_tripDraft declared hDeclared child hChild]
    exact .of_leaf hTicket schema?_of_mem_ticketDraft
  · apply Schema.Throughout.of_build hTrip
    · exact ⟨rfl, by decide⟩
    · intro declared hDeclared child hChild
      rw [schema?_of_mem_tripDraft declared hDeclared child hChild]
      exact .of_leaf hTicket ⟨rfl, by decide⟩
        schema?_of_mem_ticketDraft

end Samples

/-
  The row on the way out is required by a check, so that it
  counts as invalid.  The seat on the way back is missing.
-/
theorem Engine.trip_origins :
    Samples.tripDraft.assembled.OverBuiltins ∧
      Engine.standard.validate Samples.tripDraft.assembled
          Samples.incompleteTrip =
        .invalid
          [⟨some "out", "Validation error: required", .invalid⟩,
            ⟨some "back[1].seat", "Validation error: required",
              .missing⟩] ∧
      Engine.standard.KeepsOrigins Samples.tripDraft.assembled
        Samples.incompleteTrip
        [⟨some "out", "Validation error: required", .invalid⟩,
          ⟨some "back[1].seat", "Validation error: required",
            .missing⟩] := by
  have hInvalid :
      Engine.standard.validate Samples.tripDraft.assembled
          Samples.incompleteTrip =
        .invalid
          [⟨some "out", "Validation error: required", .invalid⟩,
            ⟨some "back[1].seat", "Validation error: required",
              .missing⟩] :=
    rfl
  exact
    ⟨Samples.trip_overBuiltins, hInvalid,
      Engine.keepsOrigins_of_validate_invalid .standard _ _ _ hInvalid⟩

end Intake
