import Intake.Proofs.Building
import Intake.Proofs.Coercion
import Intake.Proofs.Running
import Intake.Validation.Outcome

/-
  This file says what it means that typed fields conform to a
  schema, by the types that the schema declares, and shows
  that the fields of every valid outcome conform.

  Key definitions include:
    * `Value.IsBuiltin`
    * `Schema.Conforms`
    * `TypeExpr.Shapes`

  The main statements are:
    * `Schema.conforms_of_run`
    * `Engine.conforms_of_validate`
-/

namespace Intake

------------------------------------------------------------
-- Conforming Fields
------------------------------------------------------------

/- A value of the builtin type with a name. -/
inductive Value.IsBuiltin : String → Value → Prop where
  | string (s : String) : IsBuiltin "string" (.string s)
  | integer (k : Int) (inRange : FitsSigned k) :
      IsBuiltin "integer" (.integer k inRange)
  | float (x : Binary64) (finite : x.isFinite = true) :
      IsBuiltin "float" (.float x)
  | decimal (d : Decimal) : IsBuiltin "decimal" (.decimal d)
  | boolean (b : Bool) : IsBuiltin "boolean" (.bool b)
  | date (d : Date) : IsBuiltin "date" (.date d)
  | datetime (t : Timestamp) : IsBuiltin "datetime" (.timestamp t)

/- A map whose fields have a property. -/
def Value.IsMapOf
    (P : Params → Prop)
    (v : Value) : Prop :=
  ∃ fields, v = .map fields ∧ P fields

mutual

/-
  The typed fields of a schema that is run at a depth within
  the limit: one for each parameter, in order, and all checks
  of the schema pass.
-/
def Schema.Conforms
    (limit depth : Nat) :
    Schema → Params → Prop
  | ⟨_, params, _, globals, _⟩, fields =>
      depth ≤ limit ∧
        FieldsConform limit depth params fields ∧
        ∀ check ∈ globals, check.test fields = .ok ()

/-
  The fields are named after parameters, in order, and conform
  to them.
-/
def FieldsConform
    (limit depth : Nat) :
    List (Parameter Schema) → Params → Prop
  | [], [] => True
  | param :: params, (name, v) :: fields =>
      (param.name = name ∧ param.Conforms limit depth v) ∧
        FieldsConform limit depth params fields
  | _, _ => False

/-
  The value of a parameter.  It is not null if the parameter
  is required; if it is not null, it has the declared type
  and passes the check.
-/
def Parameter.Conforms
    (limit depth : Nat) :
    Parameter Schema → Value → Prop
  | ⟨_, type, _, required, _, _, check⟩, v =>
      (required = true → v.isNull = false) ∧
        (v.isNull = false →
          type.Shapes limit depth v ∧
            ∀ rule, check = some rule → rule.run v = .ok ())

/-
  A value of a declared type.  Items of arrays may be null,
  but not the objects of an array of objects.
-/
def TypeExpr.Shapes
    (limit depth : Nat) :
    TypeExpr Schema → Value → Prop
  | .scalar name, v => v.IsBuiltin name
  | .nested schema, v =>
      v.IsMapOf fun fields => schema.Conforms limit (depth + 1) fields
  | .arrayOfNested schema, v =>
      v.IsListOf (Value.IsMapOf fun fields =>
        schema.Conforms limit (depth + 1) fields)
  | .arrayOf (.nested schema), v =>
      v.IsListOf (Value.IsMapOf fun fields =>
        schema.Conforms limit (depth + 1) fields)
  | .arrayOf element, v =>
      v.IsListOf fun item =>
        item = .null ∨ element.Shapes limit depth item

end

------------------------------------------------------------
-- Conformance Part by Part
------------------------------------------------------------

/- Fields conform to parameters one by one. -/
theorem fieldsConform_iff
    (limit depth : Nat)
    (params : List (Parameter Schema))
    (fields : Params) :
    FieldsConform limit depth params fields ↔
      List.Forall₂
        (fun param field =>
          param.name = field.1 ∧
            param.Conforms limit depth field.2)
        params fields := by
  induction params generalizing fields with
  | nil => cases fields <;> simp [FieldsConform]
  | cons param rest ih =>
      cases fields <;> simp [FieldsConform, ih]

/- What a conforming value of a parameter is. -/
theorem Parameter.conforms_iff
    (limit depth : Nat)
    (param : Parameter Schema)
    (v : Value) :
    param.Conforms limit depth v ↔
      (param.required = true → v.isNull = false) ∧
        (v.isNull = false →
          param.type.Shapes limit depth v ∧ param.Passes v) := by
  cases param
  rw [Parameter.Conforms]
  rfl

/- What conforming fields of a schema are. -/
theorem Schema.conforms_iff
    (limit depth : Nat)
    (schema : Schema)
    (fields : Params) :
    schema.Conforms limit depth fields ↔
      depth ≤ limit ∧
        List.Forall₂
          (fun param field =>
            param.name = field.1 ∧
              param.Conforms limit depth field.2)
          schema.params fields ∧
        ∀ check ∈ schema.globals, check.test fields = .ok () := by
  cases schema
  rw [Schema.Conforms, fieldsConform_iff]

------------------------------------------------------------
-- Coercers of Builtin Types
------------------------------------------------------------

/- The coercer of a builtin type gives values of the type. -/
theorem gives_of_scalar?_builtins
    {name : String}
    {coerce : Coercer}
    (hFound : TypeTable.builtins.scalar? name = some coerce) :
    coerce.Gives (Value.IsBuiltin name) := by
  have hMem := TypeTable.mem_of_scalar?_builtins hFound
  simp only [TypeTable.builtinCoercers, List.mem_cons, Prod.mk.injEq,
    List.not_mem_nil, or_false] at hMem
  intro raw v _ hCoerce
  rcases hMem with ⟨rfl, rfl⟩ | ⟨rfl, rfl⟩ | ⟨rfl, rfl⟩ |
    ⟨rfl, rfl⟩ | ⟨rfl, rfl⟩ | ⟨rfl, rfl⟩ | ⟨rfl, rfl⟩
  · rcases Coercer.eq_of_string_eq_ok hCoerce with ⟨s, _, rfl⟩
    exact ⟨rfl, .string s⟩
  · rcases Coercer.eq_of_integer_eq_ok hCoerce with
      ⟨k, inRange, _, rfl⟩
    exact ⟨rfl, .integer k inRange⟩
  · rcases Coercer.eq_of_float_eq_ok hCoerce with ⟨x, finite, rfl⟩
    exact ⟨rfl, .float x finite⟩
  · rcases Coercer.eq_of_decimal_eq_ok hCoerce with ⟨d, rfl⟩
    exact ⟨rfl, .decimal d⟩
  · rcases Coercer.eq_of_boolean_eq_ok hCoerce with ⟨b, rfl⟩
    exact ⟨rfl, .boolean b⟩
  · rcases Coercer.eq_of_date_eq_ok hCoerce with ⟨_, d, _, _, rfl⟩
    exact ⟨rfl, .date d⟩
  · rcases Coercer.eq_of_timestamp_eq_ok hCoerce with
      ⟨_, t, _, _, rfl⟩
    exact ⟨rfl, .datetime t⟩

/-
  A declared type that resolves to a coercer is a builtin type
  under any number of arrays, and its coercer gives values of
  the type.
-/
theorem gives_of_resolve_builtins
    (limit depth : Nat)
    (type : TypeExpr Schema)
    {name : String}
    {coerce : Coercer}
    (hResolve :
      type.resolve .builtins = .ok (.coerced name coerce)) :
    coerce.Gives (type.Shapes limit depth) := by
  refine TypeExpr.coercer_induction ?_ ?_ type coerce hResolve
  · intro typeName coerce hFound raw v hRaw hCoerce
    rw [TypeExpr.Shapes]
    exact gives_of_scalar?_builtins hFound raw v hRaw hCoerce
  · intro element coerce hElement ih raw v hRaw hCoerce
    rw [TypeExpr.Shapes]
    · exact ih.listOf raw v hRaw hCoerce
    · exact hElement

------------------------------------------------------------
-- Soundness of Runs
------------------------------------------------------------

/-
  Coercion by the resolved meaning of a declared type gives
  values of the type, if the fields that the schema below
  gives conform to it.
-/
theorem shapes_of_coerce
    (limit depth : Nat)
    (type : TypeExpr Schema)
    {resolved : Resolved Schema}
    (hResolve : type.resolve .builtins = .ok resolved)
    (hBelow :
      ∀ schema, resolved.schema? = some schema →
        depth + 1 ≤ limit → ∀ input fields,
          schema.run limit (depth + 1) input = .ok fields →
            schema.Conforms limit (depth + 1) fields)
    (raw : Raw)
    (v : Value)
    (hRaw : raw.isNull = false)
    (hCoerce : resolved.coerce limit depth raw = .ok v) :
    v.isNull = false ∧ type.Shapes limit depth v := by
  rcases type.resolve_cases .builtins hResolve with
    ⟨coerce, _, rfl⟩ | ⟨schema, rfl, rfl⟩ | ⟨schema, hType, rfl⟩
  · rw [Resolved.coerce_coerced_eq_ok_iff] at hCoerce
    exact gives_of_resolve_builtins limit depth type hResolve
      raw v hRaw hCoerce
  · rw [Resolved.coerce_nested_eq_ok_iff] at hCoerce
    rcases hCoerce with ⟨_, fields, rfl, hDepth, hRun, rfl⟩
    refine ⟨rfl, ?_⟩
    rw [TypeExpr.Shapes]
    exact ⟨fields, rfl, hBelow schema rfl hDepth _ _ hRun⟩
  · rw [Resolved.coerce_nestedList_eq_ok_iff] at hCoerce
    rcases hCoerce with ⟨items, vs, rfl, hDepth, hItems, rfl⟩
    have hShapes :
        (Value.list vs).IsListOf (Value.IsMapOf fun fields =>
          schema.Conforms limit (depth + 1) fields) := by
      refine ⟨vs, rfl, ?_⟩
      intro w hMem
      rcases exists_of_forall₂_of_mem hItems hMem with
        ⟨_, _, _, fields, _, hRun, rfl⟩
      exact ⟨fields, rfl, hBelow schema rfl hDepth _ _ hRun⟩
    refine ⟨rfl, ?_⟩
    rcases hType with rfl | rfl
    · rw [TypeExpr.Shapes]
      exact hShapes
    · rw [TypeExpr.Shapes]
      exact hShapes

/-
  The fields that a built schema gives conform to it, if it
  uses the builtin types throughout.  The induction is on the
  tree of schemas, so that fields of the schemas below are
  known to conform.
-/
theorem Schema.conforms_of_run
    (schema : Schema)
    (hBuilt : schema.Built)
    (hTypes : schema.Throughout fun s => s.types = .builtins)
    (limit depth : Nat)
    (hDepth : depth ≤ limit)
    (input : Input)
    (fields : Params)
    (hRun : schema.run limit depth input = .ok fields) :
    schema.Conforms limit depth fields := by
  induction schema using Schema.induction
    generalizing depth input fields with
  | step schema ih =>
      rcases (schema.run_eq_ok_iff limit depth input fields).mp
          hRun with
        ⟨hParams, hGlobals⟩
      rw [Schema.conforms_iff]
      refine ⟨hDepth, ?_, hGlobals⟩
      apply forall₂_imp_of_mem hParams
      rintro param hParam ⟨name, v⟩ _ ⟨hName, hResolve⟩
      refine ⟨hName, ?_⟩
      rw [Parameter.conforms_iff]
      rcases (param.resolve_eq_ok_iff limit depth input v).mp
          hResolve with
        ⟨_, hOptional, rfl⟩ | ⟨hRaw, hCoerce, hAdmit⟩
      · simp [hOptional, Value.isNull]
      · have hType := hBuilt.resolve_type hParam
        rw [hTypes.root] at hType
        have hValue :=
          shapes_of_coerce limit depth param.type hType
            (fun below hBelow hLevel input fields =>
              ih param hParam below hBelow
                (hBuilt.child hParam hBelow)
                (hTypes.child hParam hBelow)
                (depth + 1) hLevel input fields)
            (param.effective input) v hRaw hCoerce
        refine ⟨fun _ => hValue.1, fun hNull => ⟨hValue.2, ?_⟩⟩
        simpa [hNull] using hAdmit

/-
  The fields of a valid outcome conform to the schema, as far
  down as the engine allows schemas to be nested.
-/
theorem Engine.conforms_of_validate
    (engine : Engine)
    (schema : Schema)
    (hBuilt : schema.Built)
    (hTypes : schema.Throughout fun s => s.types = .builtins)
    (input : Input)
    (fields : Params)
    (hValid : engine.validate schema input = .valid fields) :
    schema.Conforms engine.maxDepth 0 fields := by
  have hRun := engine.run_of_validate schema input hValid
  exact
    schema.conforms_of_run hBuilt hTypes engine.maxDepth 0
      (Nat.zero_le _) input fields hRun

/-
  A basket with two lines, one of them with a quantity as
  text, with a day, and with nothing else.
-/
theorem Engine.basket_conforms :
    Samples.basket.Built ∧
      Samples.basket.Throughout (fun s => s.types = .builtins) ∧
      Samples.basket.Conforms 32 0
        [("items",
            .list
              [.map [("x", .string "a"),
                  ("quantity", .integer 1 (by decide))],
                .map [("x", .string "b"),
                  ("quantity", .integer 2 (by decide))]]),
          ("gift", .null),
          ("total", .null),
          ("day", .date ⟨2024, 2, 29, by decide, by decide⟩)] :=
  ⟨Samples.basket_built,
    Samples.basket_throughout rfl rfl,
    Engine.conforms_of_validate .standard _ Samples.basket_built
      (Samples.basket_throughout rfl rfl)
      (.ofAuto
        [("items",
          .array
            [.object [("x", .string "a")],
              .object [("x", .string "b"),
                ("quantity", .string "2")]]),
          ("day", .string "2024-02-29")])
      _ rfl⟩

end Intake
