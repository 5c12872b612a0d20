import Intake.Proofs.Coercion
import Intake.Proofs.Invocation

/-
  This file says which required parameters are null in a valid
  outcome.

  A required parameter may have no null data, but its value is
  what the coercer of its type gives.  So it is null exactly
  if its type is a scalar whose coercer turns data that is not
  null into null.  No builtin type does this, and neither do
  lists or nested schemas.

  Key definitions include:
    * `Params.at?`
    * `Schema.at?`
    * `Parameter.IsNullified`

  The main statements are:
    * `Parameter.isNull_iff_isNullified`
    * `Invocation.exists_reaches_of_at?`
    * `Engine.required_of_validate`
-/

namespace Intake

------------------------------------------------------------
-- Fields of Nested Schemas
------------------------------------------------------------

/-
  The fields of an object that stands in one of the fields, or
  in an element of a list.
-/
def Params.within?
    (fields : Params)
    (segment : Segment) : Option Params :=
  (Fields.lookup? fields segment.name).bind fun v =>
    match segment.index with
    | none => v.fields?
    | some index =>
        (v.items?.bind fun items => items[index]?).bind Value.fields?

/- The fields that stand at a place inside of fields. -/
def Params.at?
    (fields : Params) : Place → Option Params
  | [] => some fields
  | segment :: rest =>
      (fields.within? segment).bind fun inner => at? inner rest

/-
  The schema to which a parameter refers, for its object or
  for the elements of its array.
-/
def Schema.within?
    (schema : Schema)
    (segment : Segment) : Option Schema :=
  (schema.param? segment.name).bind fun param =>
    match param.resolved, segment.index with
    | .nested child, none => some child
    | .nestedList child, some _ => some child
    | _, _ => none

/- The schema of the objects that stand at a place. -/
def Schema.at?
    (schema : Schema) : Place → Option Schema
  | [] => some schema
  | segment :: rest =>
      (schema.within? segment).bind fun child => at? child rest

/- A value with fields is a map. -/
theorem Value.eq_map_of_fields?
    {v : Value}
    {fields : Params}
    (hFields : v.fields? = some fields) :
    v = .map fields := by
  cases v <;> cases hFields
  rfl

/- A value with items is a list. -/
theorem Value.eq_list_of_items?
    {v : Value}
    {items : List Value}
    (hItems : v.items? = some items) :
    v = .list items := by
  cases v <;> cases hItems
  rfl

/- A null value is the null. -/
theorem Value.eq_null_of_isNull
    {v : Value}
    (hNull : v.isNull = true) :
    v = .null := by
  cases v <;> cases hNull
  rfl

/- The parameter that is found under a name has this name. -/
theorem Schema.mem_of_param?
    (schema : Schema)
    {name : String}
    {param : Parameter Schema}
    (hFound : schema.param? name = some param) :
    param ∈ schema.params ∧ param.name = name := by
  refine ⟨List.mem_of_find?_eq_some hFound, ?_⟩
  have hName := List.find?_some hFound
  exact eq_of_beq hName

/-
  The schema that a segment refers to is that of an object or
  of the elements of an array.
-/
theorem Schema.within?_eq_some
    (schema : Schema)
    {segment : Segment}
    {child : Schema}
    (hWithin : schema.within? segment = some child) :
    ∃ param ∈ schema.params, param.name = segment.name ∧
      ((param.resolved = .nested child ∧ segment.index = none) ∨
        ∃ index, param.resolved = .nestedList child ∧
          segment.index = some index) := by
  rcases Option.bind_eq_some_iff.mp hWithin with
    ⟨param, hFound, hRefers⟩
  rcases schema.mem_of_param? hFound with ⟨hParam, hName⟩
  refine ⟨param, hParam, hName, ?_⟩
  split at hRefers
  · next found hResolved hIndex =>
      cases hRefers
      exact Or.inl ⟨hResolved, hIndex⟩
  · next found index hResolved hIndex =>
      cases hRefers
      exact Or.inr ⟨index, hResolved, hIndex⟩
  · cases hRefers

------------------------------------------------------------
-- Values of Parameters
------------------------------------------------------------

/- The fields of a run have the values of the parameters. -/
theorem Schema.Yields.lookup?
    {limit depth : Nat}
    {schema : Schema}
    {input : Input}
    {fields : Params}
    (hYields : schema.Yields limit depth input fields)
    (hBuilt : schema.Built)
    {param : Parameter Schema}
    (hParam : param ∈ schema.params) :
    ∃ v, Fields.lookup? fields param.name = some v ∧
      param.resolve limit depth input = .ok v := by
  have hNames : (Fields.names fields).Nodup := by
    rw [hYields.names_eq]
    exact hBuilt.nodup_names
  rcases exists_of_forall₂_of_mem hYields.flip hParam with
    ⟨⟨name, v⟩, hField, hName, hResolve⟩
  refine ⟨v, ?_, hResolve⟩
  rw [hName]
  exact Fields.lookup?_of_mem fields hNames hField

/-
  The type of a parameter is a scalar whose coercer turns the
  data of the parameter into null.
-/
def Parameter.IsNullified
    (types : TypeTable)
    (param : Parameter Schema)
    (input : Input) : Prop :=
  ∃ typeName coerce, param.type = .scalar typeName ∧
    types.scalar? typeName = some coerce ∧
      coerce (param.effective input) = .ok .null

/-
  A type that resolves to a coercer gives null, for data that
  is not null, exactly if it is a scalar whose coercer does.
  Lists are never null.
-/
theorem TypeExpr.isNull_iff_of_resolve
    {types : TypeTable}
    (type : TypeExpr Schema)
    {name : String}
    {coerce : Coercer}
    (hResolve : type.resolve types = .ok (.coerced name coerce)) :
    ∀ raw v, raw.isNull = false → coerce raw = .ok v →
      (v.isNull = true ↔
        ∃ typeName found, type = .scalar typeName ∧
          types.scalar? typeName = some found ∧
            found raw = .ok .null) := by
  refine TypeExpr.coercer_induction ?_ ?_ type coerce hResolve
  · intro typeName coerce hFound raw v _ hCoerce
    constructor
    · intro hNull
      rw [Value.eq_null_of_isNull hNull] at hCoerce
      exact ⟨typeName, coerce, rfl, hFound, hCoerce⟩
    · rintro ⟨other, found, hSame, hOther, hGives⟩
      cases hSame
      rw [hFound] at hOther
      cases hOther
      rw [hCoerce] at hGives
      cases hGives
      rfl
  · intro element coerce _ _ raw v hRaw hCoerce
    rcases (Coercer.listOf_eq_ok_iff coerce raw v hRaw).mp hCoerce with
      ⟨_, vs, _, _, rfl⟩
    constructor
    · intro hNull
      cases hNull
    · rintro ⟨typeName, found, hSame, _⟩
      cases hSame

/-
  A required parameter of a built schema is null exactly if its
  type turns its data into null.
-/
theorem Parameter.isNull_iff_isNullified
    {schema : Schema}
    (hBuilt : schema.Built)
    {param : Parameter Schema}
    (hParam : param ∈ schema.params)
    (hRequired : param.required = true)
    {limit depth : Nat}
    {input : Input}
    {v : Value}
    (hResolve : param.resolve limit depth input = .ok v) :
    v.isNull = true ↔ param.IsNullified schema.types input := by
  have hType := hBuilt.resolve_type hParam
  rcases (param.resolve_eq_ok_iff limit depth input v).mp hResolve with
    ⟨_, hOptional, _⟩ | ⟨hRaw, hCoerce, _⟩
  · rw [hRequired] at hOptional
    cases hOptional
  · rcases param.type.resolve_cases schema.types hType with
      ⟨coerce, _, hCoerced⟩ | ⟨child, hScalar, hNested⟩ |
        ⟨child, hScalar, hNested⟩
    · rw [hCoerced] at hType
      rw [hCoerced, Resolved.coerce_coerced_eq_ok_iff] at hCoerce
      exact param.type.isNull_iff_of_resolve hType _ v hRaw hCoerce
    · rw [hNested, Resolved.coerce_nested_eq_ok_iff] at hCoerce
      rcases hCoerce with ⟨_, fields, _, _, _, rfl⟩
      simp [IsNullified, Value.isNull, hScalar]
    · rw [hNested, Resolved.coerce_nestedList_eq_ok_iff] at hCoerce
      rcases hCoerce with ⟨_, vs, _, _, _, rfl⟩
      rcases hScalar with hScalar | hScalar <;>
        simp [IsNullified, Value.isNull, hScalar]

------------------------------------------------------------
-- Runs That Give Nested Fields
------------------------------------------------------------

namespace Invocation

variable {limit : Nat}
variable {call : Invocation}

/-
  The fields of a nested schema that stand inside of the fields
  of a run were given by a run that it has started.
-/
theorem exists_enters_of_within?
    (hBuilt : call.schema.Built)
    {fields inner : Params}
    (hRun : call.run limit = .ok fields)
    {segment : Segment}
    {child : Schema}
    (hSchema : call.schema.within? segment = some child)
    (hFields : fields.within? segment = some inner) :
    ∃ next, call.Enters limit segment next ∧
      next.schema = child ∧ next.run limit = .ok inner := by
  have hYields :=
    ((call.schema.run_eq_ok_iff limit call.depth call.input fields).mp
      hRun).1
  rcases call.schema.within?_eq_some hSchema with
    ⟨param, hParam, hName, hRefers⟩
  rcases hYields.lookup? hBuilt hParam with ⟨v, hLookup, hResolve⟩
  rcases Option.bind_eq_some_iff.mp hFields with ⟨w, hFound, hInner⟩
  rw [← hName, hLookup] at hFound
  cases hFound
  rcases segment with ⟨name, index⟩
  cases hName
  rcases hRefers with ⟨hNested, rfl⟩ | ⟨index, hNested, rfl⟩
  · have hMap := Value.eq_map_of_fields? hInner
    subst hMap
    rcases (param.resolve_eq_ok_iff limit call.depth call.input
        _).mp hResolve with
      ⟨_, _, hNull⟩ | ⟨_, hCoerce, _⟩
    · cases hNull
    · rw [hNested, Resolved.coerce_nested_eq_ok_iff] at hCoerce
      rcases hCoerce with ⟨object, found, hShape, hLevel, hBelow, hSame⟩
      cases hSame
      exact ⟨_, .object hParam hNested hShape hLevel, rfl, hBelow⟩
  · rcases Option.bind_eq_some_iff.mp hInner with ⟨item, hItem, hMap⟩
    rcases Option.bind_eq_some_iff.mp hItem with ⟨vs, hItems, hIndex⟩
    have hList := Value.eq_list_of_items? hItems
    subst hList
    rcases (param.resolve_eq_ok_iff limit call.depth call.input
        _).mp hResolve with
      ⟨_, _, hNull⟩ | ⟨_, hCoerce, _⟩
    · cases hNull
    · rw [hNested, Resolved.coerce_nestedList_eq_ok_iff] at hCoerce
      rcases hCoerce with ⟨items, found, hShape, hLevel, hAll, hSame⟩
      cases hSame
      rcases exists_append_of_forall₂ hAll hIndex with
        ⟨before, raw, after, rfl, rfl, hValidates, hFirst⟩
      rcases hValidates with ⟨object, params, rfl, hBelow, rfl⟩
      cases hMap
      exact
        ⟨_, .element hParam hNested hShape hLevel hFirst, rfl, hBelow⟩

/-
  The fields that stand at a place inside of the fields of a
  run, and that belong to a nested schema, were given by a run
  that it has reached.
-/
theorem exists_reaches_of_at?
    (hBuilt : call.schema.Built)
    {fields inner : Params}
    (hRun : call.run limit = .ok fields)
    (place : Place)
    {below : Schema}
    (hSchema : call.schema.at? place = some below)
    (hFields : fields.at? place = some inner) :
    ∃ last, call.Reaches limit place last ∧
      last.schema = below ∧ last.schema.Built ∧
        last.run limit = .ok inner := by
  induction place generalizing call fields with
  | nil =>
      cases hSchema
      cases hFields
      exact ⟨call, .here call, rfl, hBuilt, hRun⟩
  | cons segment rest ih =>
      rcases Option.bind_eq_some_iff.mp hSchema with
        ⟨child, hChild, hBelow⟩
      rcases Option.bind_eq_some_iff.mp hFields with
        ⟨found, hFound, hInner⟩
      rcases exists_enters_of_within? hBuilt hRun hChild hFound with
        ⟨next, hEnters, rfl, hNext⟩
      rcases hEnters.exists_declared with ⟨param, hParam, _, hRefers⟩
      rcases ih (hBuilt.child hParam hRefers) hNext hBelow hInner with
        ⟨last, hReaches, hLast⟩
      exact ⟨last, .step hEnters hReaches, hLast⟩

end Invocation

------------------------------------------------------------
-- Outcomes
------------------------------------------------------------

/-
  Wherever a valid outcome has the fields of a schema, at the
  top or inside, a run of this schema has given them.  Each
  required parameter has a value there, and the value is null
  exactly if the type of the parameter turns its data into
  null.
-/
theorem Engine.required_of_validate
    (engine : Engine)
    (schema : Schema)
    (hBuilt : schema.Built)
    (input : Input)
    (fields : Params)
    (hValid : engine.validate schema input = .valid fields)
    (place : Place)
    (below : Schema)
    (inner : Params)
    (hSchema : schema.at? place = some below)
    (hFields : fields.at? place = some inner) :
    ∃ call : Invocation,
      Invocation.Reaches engine.maxDepth ⟨0, schema, input⟩ place call ∧
        call.schema = below ∧
        ∀ param ∈ below.params, param.required = true →
          ∃ v, Fields.lookup? inner param.name = some v ∧
            (v.isNull = true ↔
              param.IsNullified below.types call.input) := by
  have hRun :
      Invocation.run engine.maxDepth ⟨0, schema, input⟩ = .ok fields :=
    engine.run_of_validate schema input hValid
  rcases Invocation.exists_reaches_of_at? hBuilt hRun place hSchema
      hFields with
    ⟨call, hReaches, rfl, hBelow, hInner⟩
  refine ⟨call, hReaches, rfl, ?_⟩
  intro param hParam hRequired
  have hYields :=
    ((call.schema.run_eq_ok_iff engine.maxDepth call.depth call.input
      inner).mp hInner).1
  rcases hYields.lookup? hBelow hParam with ⟨v, hLookup, hResolve⟩
  exact
    ⟨v, hLookup,
      Parameter.isNull_iff_isNullified hBelow hParam hRequired hResolve⟩

namespace Samples

/- The builtin types and one that turns all data into null. -/
def blankTypes : TypeTable :=
  TypeTable.builtins.define "blank" fun _ => .ok .null

/- A form with a required text and a required blank. -/
def formDraft : SchemaDraft :=
  { SchemaDraft.ofName "form" with
    types := blankTypes
    params :=
      [{ ParameterDraft.ofType "p" (.scalar "blank") with
          required := true },
        { ParameterDraft.ofType "q" (.scalar "string") with
          required := true }] }

/- A file of forms. -/
def fileDraft : SchemaDraft :=
  { SchemaDraft.ofName "file" with
    params :=
      [ParameterDraft.ofType "forms"
        (.arrayOfNested formDraft.assembled)] }

/- A form refers to no schema, a file to forms only. -/
theorem schema?_of_mem_formDraft :
    ∀ declared ∈ formDraft.params, declared.type.schema? = none := by
  simp [formDraft, ParameterDraft.ofType, TypeExpr.schema?]

theorem schema?_of_mem_fileDraft :
    ∀ declared ∈ fileDraft.params, ∀ child,
      declared.type.schema? = some child →
        child = formDraft.assembled := by
  simp [fileDraft, ParameterDraft.ofType, TypeExpr.schema?,
    @eq_comm _ formDraft.assembled]

/- A form is built. -/
theorem form_built :
    formDraft.assembled.Built := by
  apply Schema.Built.of_leaf (formDraft.build_of_errors_eq_nil rfl)
  exact schema?_of_mem_formDraft

/- A file is built. -/
theorem file_built :
    fileDraft.assembled.Built := by
  apply Schema.Built.intro (fileDraft.build_of_errors_eq_nil rfl)
  intro declared hDeclared child hChild
  rw [schema?_of_mem_fileDraft declared hDeclared child hChild]
  exact form_built

/- The fields of a form whose blank is filled in with a number. -/
def filledForm : Bucket :=
  [("p", one), ("q", .string "a")]

/- The values of the filled form. -/
def formFields : Params :=
  [("p", .null), ("q", .string "a")]

end Samples

/-
  In a file with one form, the parameters of the form have
  values, of which only those are null whose type turns their
  data into null.
-/
theorem Engine.file_required :
    Samples.fileDraft.assembled.Built ∧
      Engine.standard.validate Samples.fileDraft.assembled
          (.ofAuto [("forms", .array [.object Samples.filledForm])]) =
        .valid [("forms", .list [.map Samples.formFields])] ∧
      Samples.fileDraft.assembled.at? [⟨"forms", some 0⟩] =
        some Samples.formDraft.assembled ∧
      Params.at? [("forms", .list [.map Samples.formFields])]
          [⟨"forms", some 0⟩] =
        some Samples.formFields ∧
      ∃ call : Invocation,
        Invocation.Reaches 32
            ⟨0, Samples.fileDraft.assembled,
              .ofAuto
                [("forms", .array [.object Samples.filledForm])]⟩
            [⟨"forms", some 0⟩] call ∧
          call.schema = Samples.formDraft.assembled ∧
          ∀ param ∈ Samples.formDraft.assembled.params,
            param.required = true →
              ∃ v,
                Fields.lookup? Samples.formFields param.name = some v ∧
                  (v.isNull = true ↔
                    param.IsNullified Samples.formDraft.assembled.types
                      call.input) :=
  ⟨Samples.file_built, rfl, rfl, rfl,
    Engine.required_of_validate .standard _ Samples.file_built _ _ rfl
      [⟨"forms", some 0⟩] _ _ rfl rfl⟩

/-
  The form by itself validates with a required parameter that
  is null.
-/
theorem Engine.form_null_of_required :
    Samples.formDraft.assembled.Built ∧
      (∃ param ∈ Samples.formDraft.assembled.params,
        param.name = "p" ∧ param.required = true) ∧
      Engine.standard.validate Samples.formDraft.assembled
          (.ofAuto Samples.filledForm) =
        .valid Samples.formFields ∧
      Fields.lookup? Samples.formFields "p" = some .null :=
  ⟨Samples.form_built, ⟨_, List.mem_cons_self, rfl, rfl⟩, rfl, rfl⟩

end Intake
