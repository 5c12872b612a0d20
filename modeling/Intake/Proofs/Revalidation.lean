import Intake.Proofs.Building
import Intake.Proofs.Calendar.Timestamp
import Intake.Proofs.Coercion
import Intake.Proofs.Decimal
import Intake.Proofs.Effective
import Intake.Proofs.Running
import Intake.Proofs.Value.Conversion
import Intake.Validation.Outcome

/-
  This file shows that validation gives its own result again.
  The values of a valid outcome are written as an object, and
  this object is validated by the same schema to the same
  values.

  Key definitions include:
    * `Value.HasPlainYears`
    * `Coercer.Keeps`

  The main statements are:
    * `Schema.run_fieldsToRaw`
    * `Engine.validate_toRaw`
-/

namespace Intake

------------------------------------------------------------
-- Days inside of Values
------------------------------------------------------------

namespace Value

mutual

/-
  The days inside of a value.  Those of timestamps do not
  count.
-/
def dates : Value → List Date
  | .date d => [d]
  | .list items => datesOfItems items
  | .map fields => datesOfFields fields
  | _ => []

/- The days inside of the items of a list. -/
def datesOfItems : List Value → List Date
  | [] => []
  | item :: rest => dates item ++ datesOfItems rest

/- The days inside of the fields of a map. -/
def datesOfFields : List (String × Value) → List Date
  | [] => []
  | (_, value) :: rest => dates value ++ datesOfFields rest

end

/-
  Every day inside of a value has a year of four digits
  without sign.
-/
def HasPlainYears
    (v : Value) : Prop :=
  ∀ d ∈ v.dates, d.HasPlainYear

/- The days inside of a list are those inside of its items. -/
theorem hasPlainYears_list_iff
    (items : List Value) :
    (list items).HasPlainYears ↔
      ∀ item ∈ items, item.HasPlainYears := by
  unfold HasPlainYears
  rw [dates]
  induction items with
  | nil => simp [datesOfItems]
  | cons item rest ih =>
      rw [datesOfItems, List.forall_mem_append, ih,
        List.forall_mem_cons]

/- The days inside of a map are those inside of its fields. -/
theorem hasPlainYears_map_iff
    (fields : Params) :
    (map fields).HasPlainYears ↔
      ∀ field ∈ fields, field.2.HasPlainYears := by
  unfold HasPlainYears
  rw [dates]
  induction fields with
  | nil => simp [datesOfFields]
  | cons field rest ih =>
      rw [datesOfFields, List.forall_mem_append, ih,
        List.forall_mem_cons]

end Value

------------------------------------------------------------
-- Coercers
------------------------------------------------------------

namespace Coercer

/-
  What a coercer gives is not null, and as raw data it is
  coerced to itself.
-/
def Keeps
    (coerce : Coercer) : Prop :=
  ∀ raw v, raw.isNull = false → coerce raw = .ok v →
    v.HasPlainYears →
      v.toRaw.isNull = false ∧ coerce v.toRaw = .ok v

/- What a coercer gives for an item is kept as an item. -/
theorem Keeps.item_toRaw
    {coerce : Coercer}
    (hKeeps : coerce.Keeps)
    {raw : Raw}
    {v : Value}
    (hItem : item coerce raw = .ok v)
    (hYears : v.HasPlainYears) :
    item coerce v.toRaw = .ok v := by
  rw [item_eq_ok_iff]
  rcases (item_eq_ok_iff coerce raw v).mp hItem with
    ⟨_, rfl⟩ | ⟨hRaw, hCoerce⟩
  · exact Or.inl ⟨rfl, rfl⟩
  · exact Or.inr (hKeeps raw v hRaw hCoerce hYears)

/-
  A coercer of lists keeps what it gives if that of items
  does.
-/
theorem Keeps.listOf
    {coerce : Coercer}
    (hKeeps : coerce.Keeps) :
    coerce.listOf.Keeps := by
  intro raw v hRaw hCoerce hYears
  rcases (listOf_eq_ok_iff coerce raw v hRaw).mp hCoerce with
    ⟨raws, vs, rfl, hItems, rfl⟩
  rw [Value.hasPlainYears_list_iff] at hYears
  have hAgain :
      List.Forall₂ (fun raw v => item coerce raw = .ok v)
        (vs.map Value.toRaw) vs := by
    rw [List.forall₂_map_left_iff, List.forall₂_same]
    intro w hMem
    rcases exists_of_forall₂_of_mem hItems hMem with
      ⟨source, _, hItem⟩
    exact hKeeps.item_toRaw hItem (hYears w hMem)
  rw [Value.toRaw_list]
  refine ⟨rfl, ?_⟩
  exact
    (listOf_eq_ok_iff coerce _ _ rfl).mpr ⟨_, vs, rfl, hAgain, rfl⟩

/- The coercers of the builtin types keep what they give. -/
theorem keeps_of_scalar?_builtins
    {name : String}
    {coerce : Coercer}
    (hFound : TypeTable.builtins.scalar? name = some coerce) :
    coerce.Keeps := by
  have hMem := TypeTable.mem_of_scalar?_builtins hFound
  simp only [TypeTable.builtinCoercers, List.mem_cons, Prod.mk.injEq,
    List.not_mem_nil, or_false] at hMem
  intro raw v _ hCoerce hYears
  rcases hMem with ⟨_, rfl⟩ | ⟨_, rfl⟩ | ⟨_, rfl⟩ |
    ⟨_, rfl⟩ | ⟨_, rfl⟩ | ⟨_, rfl⟩ | ⟨_, rfl⟩
  · rcases eq_of_string_eq_ok hCoerce with ⟨s, _, rfl⟩
    exact ⟨rfl, rfl⟩
  · rcases eq_of_integer_eq_ok hCoerce with ⟨k, inRange, _, rfl⟩
    have hFits : Value.ofInt? k = some (.integer k inRange) :=
      dif_pos inRange
    refine ⟨rfl, ?_⟩
    exact congrArg (orReason "not an integer") hFits
  · rcases eq_of_float_eq_ok hCoerce with ⟨x, finite, rfl⟩
    rw [Value.toRaw_float finite]
    exact ⟨rfl, rfl⟩
  · rcases eq_of_decimal_eq_ok hCoerce with ⟨d, rfl⟩
    have hRead : decimal (.string d.write) = .ok (.decimal d) := by
      rw [decimal, d.read?_write]
      rfl
    exact ⟨rfl, hRead⟩
  · rcases eq_of_boolean_eq_ok hCoerce with ⟨b, rfl⟩
    exact ⟨rfl, rfl⟩
  · rcases eq_of_date_eq_ok hCoerce with ⟨_, d, _, _, rfl⟩
    have hYear : d.HasPlainYear := hYears d (by simp [Value.dates])
    have hRead : date (.string d.write) = .ok (.date d) := by
      rw [date, d.read?_write hYear]
      rfl
    exact ⟨rfl, hRead⟩
  · rcases eq_of_timestamp_eq_ok hCoerce with ⟨_, t, _, hText, rfl⟩
    have hReadable := Timestamp.readable_of_read? hText
    have hRead :
        timestamp (.string t.writeShort) = .ok (.timestamp t) := by
      rw [timestamp, t.read?_writeShort hReadable]
      rfl
    exact ⟨rfl, hRead⟩

/- Every coercer that a type resolves to keeps what it gives. -/
theorem keeps_of_resolve_builtins
    (type : TypeExpr Schema)
    {name : String}
    {coerce : Coercer}
    (hResolve :
      type.resolve .builtins = .ok (.coerced name coerce)) :
    coerce.Keeps := by
  refine TypeExpr.coercer_induction ?_ ?_ type coerce hResolve
  · intro typeName coerce hFound
    exact keeps_of_scalar?_builtins hFound
  · intro element coerce _ ih
    exact ih.listOf

end Coercer

------------------------------------------------------------
-- Runs
------------------------------------------------------------

/-
  What a declared type gives is not null, and as raw data it
  is coerced to itself, if the schema below keeps its fields.
-/
theorem Resolved.coerce_toRaw
    (limit depth : Nat)
    (type : TypeExpr Schema)
    {resolved : Resolved Schema}
    (hResolve : type.resolve .builtins = .ok resolved)
    (hBelow :
      ∀ schema, resolved.schema? = some schema →
        ∀ input fields,
          schema.run limit (depth + 1) input = .ok fields →
            (Value.map fields).HasPlainYears →
              schema.run limit (depth + 1)
                (.nested (Value.fieldsToRaw fields)) = .ok fields)
    (raw : Raw)
    (v : Value)
    (hRaw : raw.isNull = false)
    (hCoerce : resolved.coerce limit depth raw = .ok v)
    (hYears : v.HasPlainYears) :
    v.toRaw.isNull = false ∧
      resolved.coerce limit depth v.toRaw = .ok v := by
  rcases type.resolve_cases .builtins hResolve with
    ⟨coerce, _, rfl⟩ | ⟨schema, rfl, rfl⟩ | ⟨schema, hType, rfl⟩
  · rw [coerce_coerced_eq_ok_iff] at hCoerce
    rw [coerce_coerced_eq_ok_iff]
    exact Coercer.keeps_of_resolve_builtins type hResolve raw v
      hRaw hCoerce hYears
  · rw [coerce_nested_eq_ok_iff] at hCoerce
    rcases hCoerce with ⟨_, fields, rfl, hDepth, hRun, rfl⟩
    refine ⟨rfl, ?_⟩
    rw [coerce_nested_eq_ok_iff]
    exact
      ⟨_, fields, rfl, hDepth,
        hBelow schema rfl _ _ hRun hYears, rfl⟩
  · rw [coerce_nestedList_eq_ok_iff] at hCoerce
    rcases hCoerce with ⟨items, vs, rfl, hDepth, hItems, rfl⟩
    rw [Value.hasPlainYears_list_iff] at hYears
    rw [Value.toRaw_list]
    refine ⟨rfl, ?_⟩
    rw [coerce_nestedList_eq_ok_iff]
    refine ⟨_, vs, rfl, hDepth, ?_, rfl⟩
    rw [List.forall₂_map_left_iff, List.forall₂_same]
    intro w hMem
    rcases exists_of_forall₂_of_mem hItems hMem with
      ⟨_, _, _, fields, rfl, hRun, rfl⟩
    exact
      ⟨_, fields, rfl,
        hBelow schema rfl _ _ hRun (hYears _ hMem), rfl⟩

/-
  A run on the raw data of its own fields gives these fields
  again.  The induction is on the tree of schemas; the inputs
  differ from level to level, but every source of the second
  one reads the fields.
-/
theorem Schema.run_fieldsToRaw
    (schema : Schema)
    (hBuilt : schema.Built)
    (hTypes : schema.Throughout fun s => s.types = .builtins)
    (hDefaults :
      schema.Throughout fun s =>
        ∀ param ∈ s.params, param.default.readsInput = false)
    (limit depth : Nat)
    (input again : Input)
    (fields : Params)
    (hRun : schema.run limit depth input = .ok fields)
    (hYears : (Value.map fields).HasPlainYears)
    (hAgain :
      ∀ source, again.bucket source = Value.fieldsToRaw fields) :
    schema.run limit depth again = .ok fields := by
  induction schema using Schema.induction
    generalizing depth input again fields with
  | step schema ih =>
      rw [Schema.run_eq_ok_iff] at hRun ⊢
      rcases hRun with ⟨hParams, hGlobals⟩
      rw [Value.hasPlainYears_map_iff] at hYears
      refine ⟨?_, hGlobals⟩
      have hNames : (Fields.names fields).Nodup := by
        rw [hParams.names_eq]
        exact hBuilt.nodup_names
      apply forall₂_imp_of_mem hParams
      rintro param hParam ⟨name, v⟩ hField ⟨hName, hResolve⟩
      refine ⟨hName, ?_⟩
      have hFetch :
          again.fetch? param.source param.name = some v.toRaw := by
        rw [Input.fetch?, hAgain, Value.fieldsToRaw_eq_map,
          Fields.lookup?_map, hName,
          Fields.lookup?_of_mem fields hNames hField]
        rfl
      rw [Parameter.resolve_eq_ok_iff] at hResolve ⊢
      rcases hResolve with
        ⟨hNull, hOptional, rfl⟩ | ⟨hRaw, hCoerce, hAdmit⟩
      · refine Or.inl ⟨?_, hOptional, rfl⟩
        rw [param.effective_of_fetch?_null again hFetch,
          param.default.provide?_eq
            (hDefaults.root param hParam) again input]
        exact param.provide?_of_isNull_effective input hNull
      · have hType := hBuilt.resolve_type hParam
        rw [hTypes.root] at hType
        have hKept :=
          Resolved.coerce_toRaw limit depth param.type hType
            (fun below hBelow input fields hRun hYears =>
              ih param hParam below hBelow
                (hBuilt.child hParam hBelow)
                (hTypes.child hParam hBelow)
                (hDefaults.child hParam hBelow)
                (depth + 1) input _ fields hRun hYears
                fun _ => rfl)
            (param.effective input) v hRaw hCoerce
            (hYears _ hField)
        rw [param.effective_of_fetch? again hFetch hKept.1]
        exact Or.inr ⟨hKept.1, hKept.2, hAdmit⟩

/-
  The values of a valid outcome are written as an object.  If
  each source is given this object, validation has the same
  outcome, unless a day has a year that its text cannot keep
  or a default depends on the input.
-/
theorem Engine.validate_toRaw
    (engine : Engine)
    (schema : Schema)
    (hBuilt : schema.Built)
    (hTypes : schema.Throughout fun s => s.types = .builtins)
    (hDefaults :
      schema.Throughout fun s =>
        ∀ param ∈ s.params, param.default.readsInput = false)
    (input : Input)
    (fields : Params)
    (hValid : engine.validate schema input = .valid fields)
    (hYears :
      ∀ d ∈ (Value.map fields).dates, 0 ≤ d.year ∧ d.year ≤ 9999) :
    ∃ object,
      (Value.map fields).toRaw = .object object ∧
        engine.validate schema (.everywhere object) =
          .valid fields := by
  have hRun := engine.run_of_validate schema input hValid
  refine ⟨Value.fieldsToRaw fields, rfl, ?_⟩
  have hAgain :=
    schema.run_fieldsToRaw hBuilt hTypes hDefaults engine.maxDepth 0
      input (.everywhere (Value.fieldsToRaw fields)) fields hRun
      hYears (by rintro ⟨⟩ <;> rfl)
  rw [Engine.validate, hAgain]
  rfl

/-
  A basket with one line of the default quantity, with a total
  that ends in zero, and with a day.
-/
theorem Engine.basket_toRaw :
    Samples.basket.Built ∧
      Samples.basket.Throughout (fun s => s.types = .builtins) ∧
      Samples.basket.Throughout (fun s =>
        ∀ param ∈ s.params, param.default.readsInput = false) ∧
      ∃ object,
        (Value.map
            [("items",
                .list
                  [.map [("x", .string "a"),
                    ("quantity", .integer 1 (by decide))]]),
              ("gift", .null),
              ("total",
                .decimal ⟨150, 2, by decide, by decide⟩),
              ("day",
                .date ⟨2024, 2, 29, by decide, by decide⟩)]).toRaw =
            .object object ∧
          Engine.standard.validate Samples.basket
              (.everywhere object) =
            .valid
              [("items",
                  .list
                    [.map [("x", .string "a"),
                      ("quantity", .integer 1 (by decide))]]),
                ("gift", .null),
                ("total",
                  .decimal ⟨150, 2, by decide, by decide⟩),
                ("day",
                  .date ⟨2024, 2, 29, by decide, by decide⟩)] := by
  have hDefaults :
      Samples.basket.Throughout fun s =>
        ∀ param ∈ s.params, param.default.readsInput = false :=
    Samples.basket_throughout (by decide) (by decide)
  exact
    ⟨Samples.basket_built, Samples.basket_throughout rfl rfl,
      hDefaults,
      Engine.validate_toRaw .standard _ Samples.basket_built
        (Samples.basket_throughout rfl rfl) hDefaults
        (.ofAuto
          [("items", .array [.object [("x", .string "a")]]),
            ("total", .string "1.50"),
            ("day", .string "2024-02-29")])
        _ rfl (by decide)⟩

end Intake
