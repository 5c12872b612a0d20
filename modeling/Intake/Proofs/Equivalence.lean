import Intake.Proofs.Building
import Intake.Proofs.Effective
import Intake.Proofs.Running

/-
  This file shows that a validation depends on nothing but the
  data that is effective for the declared parameters.

  Two inputs are equivalent for a schema if each parameter has
  related data in them.  Scalars and arrays of scalars have to
  be equal, whereas objects of a nested schema only have to be
  equivalent for this schema.  An input is equivalent to its
  canonical form, which holds the declared parameters in order
  and with their defaults written out, at every level.

  Key definitions include:
    * `Raw.Alike`
    * `Schema.Equivalent`
    * `Schema.canonical`

  The main statements are:
    * `Schema.run_eq_of_equivalent`
    * `Schema.equivalent_canonical`
    * `Engine.validate_of_equivalent`
-/

namespace Intake

------------------------------------------------------------
-- Equivalent Inputs
------------------------------------------------------------

/- Equal raw data, or two objects with related fields. -/
def Raw.Alike
    (R : Bucket → Bucket → Prop)
    (raw other : Raw) : Prop :=
  raw = other ∨
    ∃ fields others, raw = .object fields ∧ other = .object others ∧
      R fields others

mutual

/- Inputs in which all parameters of a schema have related data. -/
def Schema.Equivalent :
    Schema → Input → Input → Prop
  | ⟨_, params, _, _, _⟩, first, second =>
      ParamsEquivalent params first second

/- Inputs in which parameters have related data. -/
def ParamsEquivalent :
    List (Parameter Schema) → Input → Input → Prop
  | [], _, _ => True
  | param :: rest, first, second =>
      param.Equivalent first second ∧ ParamsEquivalent rest first second

/- Inputs in which the effective data of a parameter is related. -/
def Parameter.Equivalent :
    Parameter Schema → Input → Input → Prop
  | ⟨name, type, resolved, required, source, default, check⟩,
    first, second =>
      let param : Parameter Schema :=
        ⟨name, type, resolved, required, source, default, check⟩
      resolved.Related (param.effective first) (param.effective second)

/-
  Data that means the same to a resolved type: equal data, or
  objects that are equivalent for the nested schema, or arrays
  of the same length with such elements.
-/
def Resolved.Related :
    Resolved Schema → Raw → Raw → Prop
  | .coerced _ _, raw, other => raw = other
  | .nested schema, raw, other =>
      Raw.Alike
        (fun fields others =>
          schema.Equivalent (.nested fields) (.nested others))
        raw other
  | .nestedList schema, raw, other =>
      raw = other ∨
        ∃ items others, raw = .array items ∧ other = .array others ∧
          List.Forall₂
            (Raw.Alike fun fields others =>
              schema.Equivalent (.nested fields) (.nested others))
            items others

end

/- Inputs are equivalent by the data of each parameter. -/
theorem Schema.equivalent_iff
    (schema : Schema)
    (first second : Input) :
    schema.Equivalent first second ↔
      ∀ param ∈ schema.params,
        param.resolved.Related (param.effective first)
          (param.effective second) := by
  rcases schema with ⟨name, params, types, globals, policy⟩
  rw [Schema.Equivalent]
  induction params with
  | nil => simp [ParamsEquivalent]
  | cons param rest ih =>
      rw [ParamsEquivalent, ih, List.forall_mem_cons]
      cases param
      rw [Parameter.Equivalent]

/- A nested schema relates objects that are equivalent for it. -/
theorem Resolved.related_nested_iff
    (schema : Schema)
    (raw other : Raw) :
    (Resolved.nested schema).Related raw other ↔
      Raw.Alike
        (fun fields others =>
          schema.Equivalent (.nested fields) (.nested others))
        raw other := by
  rw [Resolved.Related]

/- An array of a nested schema relates arrays element by element. -/
theorem Resolved.related_nestedList_iff
    (schema : Schema)
    (raw other : Raw) :
    (Resolved.nestedList schema).Related raw other ↔
      raw = other ∨
        ∃ items others, raw = .array items ∧ other = .array others ∧
          List.Forall₂
            (Raw.Alike fun fields others =>
              schema.Equivalent (.nested fields) (.nested others))
            items others := by
  rw [Resolved.Related]

/- Equal data is related. -/
theorem Resolved.related_refl
    (resolved : Resolved Schema)
    (raw : Raw) :
    resolved.Related raw raw := by
  cases resolved with
  | coerced name coerce => rw [Resolved.Related]
  | nested schema => exact (related_nested_iff schema _ _).mpr (Or.inl rfl)
  | nestedList schema =>
      exact (related_nestedList_iff schema _ _).mpr (Or.inl rfl)

/- Of related data, both are null or none is. -/
theorem Resolved.isNull_eq_of_related
    {resolved : Resolved Schema}
    {raw other : Raw}
    (hRelated : resolved.Related raw other) :
    raw.isNull = other.isNull := by
  cases resolved with
  | coerced name coerce =>
      rw [Resolved.Related] at hRelated
      rw [hRelated]
  | nested schema =>
      rcases (related_nested_iff schema raw other).mp hRelated with
        rfl | ⟨_, _, rfl, rfl, _⟩
      · rfl
      · rfl
  | nestedList schema =>
      rcases (related_nestedList_iff schema raw other).mp hRelated with
        rfl | ⟨_, _, rfl, rfl, _⟩
      · rfl
      · rfl

------------------------------------------------------------
-- Runs on Equivalent Inputs
------------------------------------------------------------

/- Elements that are alike validate in the same way. -/
theorem validateElements_eq_of_alike
    {R : Bucket → Bucket → Prop}
    (validate : Bucket → Except (List ErrorRecord) Params)
    (hValidate :
      ∀ fields others, R fields others →
        validate fields = validate others)
    (index : Nat)
    {items others : List Raw}
    (hAlike : List.Forall₂ (Raw.Alike R) items others) :
    validateElements validate index items =
      validateElements validate index others := by
  induction hAlike generalizing index with
  | nil => rfl
  | @cons item other items others hHead _ ih =>
      rcases hHead with rfl | ⟨fields, fields', rfl, rfl, hFields⟩
      · cases item with
        | object fields => simp only [validateElements, ih]
        | null | bool | number | string | array =>
            simp only [validateElements]
      · simp only [validateElements, hValidate _ _ hFields, ih]

/-
  Related data is coerced to the same result, if equivalent
  inputs are the same to the schema below.
-/
theorem Resolved.coerce_eq_of_related
    (limit depth : Nat)
    {resolved : Resolved Schema}
    (hBelow :
      ∀ schema, resolved.schema? = some schema →
        ∀ first second, schema.Equivalent first second →
          schema.run limit (depth + 1) first =
            schema.run limit (depth + 1) second)
    {raw other : Raw}
    (hRelated : resolved.Related raw other) :
    resolved.coerce limit depth raw =
      resolved.coerce limit depth other := by
  cases resolved with
  | coerced name coerce =>
      rw [Resolved.Related] at hRelated
      rw [hRelated]
  | nested schema =>
      rcases (related_nested_iff schema raw other).mp hRelated with
        rfl | ⟨fields, others, rfl, rfl, hFields⟩
      · rfl
      · rw [Resolved.coerce, Resolved.coerce,
          hBelow schema rfl _ _ hFields]
  | nestedList schema =>
      rcases (related_nestedList_iff schema raw other).mp hRelated with
        rfl | ⟨items, others, rfl, rfl, hItems⟩
      · rfl
      · have hElements :=
          validateElements_eq_of_alike
            (fun fields =>
              schema.run limit (depth + 1) (.nested fields))
            (fun _ _ hFields => hBelow schema rfl _ _ hFields) 0 hItems
        rw [Resolved.coerce, Resolved.coerce, hElements]

/-
  A run gives the same result on equivalent inputs.  The
  induction is on the tree of schemas, since the objects of a
  nested schema are inputs of their own.
-/
theorem Schema.run_eq_of_equivalent
    (schema : Schema)
    (limit depth : Nat)
    {first second : Input}
    (hEquivalent : schema.Equivalent first second) :
    schema.run limit depth first = schema.run limit depth second := by
  induction schema using Schema.induction
    generalizing depth first second with
  | step schema ih =>
      rw [Schema.equivalent_iff] at hEquivalent
      rw [Schema.run_eq, Schema.run_eq]
      congr 1
      apply List.map_congr_left
      intro param hParam
      have hRelated := hEquivalent param hParam
      have hNull := Resolved.isNull_eq_of_related hRelated
      have hCoerce :
          param.resolved.coerce limit depth (param.effective first) =
            param.resolved.coerce limit depth
              (param.effective second) := by
        apply Resolved.coerce_eq_of_related limit depth ?_ hRelated
        intro below hBelow first second hFields
        exact ih param hParam below hBelow (depth + 1) hFields
      rw [Parameter.resolve_eq, Parameter.resolve_eq, hNull, hCoerce]

------------------------------------------------------------
-- Canonical Inputs
------------------------------------------------------------

/- Change the fields of an object, and nothing else. -/
def Raw.onObject
    (change : Bucket → Bucket) : Raw → Raw
  | .object fields => .object (change fields)
  | raw => raw

/- Change the items of an array, and nothing else. -/
def Raw.onItems
    (change : Raw → Raw) : Raw → Raw
  | .array items => .array (items.map change)
  | raw => raw

mutual

/-
  The declared parameters of a schema in order, each with the
  data that it has in effect.
-/
def Schema.canonical :
    Schema → Input → Bucket
  | ⟨_, params, _, _, _⟩, input => canonicalFields params input

/- Parameters with the data that they have in effect. -/
def canonicalFields :
    List (Parameter Schema) → Input → Bucket
  | [], _ => []
  | param :: rest, input =>
      param.canonical input :: canonicalFields rest input

/- A parameter with the data that it has in effect. -/
def Parameter.canonical :
    Parameter Schema → Input → String × Raw
  | ⟨name, type, resolved, required, source, default, check⟩, input =>
      let param : Parameter Schema :=
        ⟨name, type, resolved, required, source, default, check⟩
      (name, resolved.canonical (param.effective input))

/- The data of a resolved type, with the objects of schemas canonical. -/
def Resolved.canonical :
    Resolved Schema → Raw → Raw
  | .coerced _ _, raw => raw
  | .nested schema, raw =>
      raw.onObject fun fields => schema.canonical (.nested fields)
  | .nestedList schema, raw =>
      raw.onItems
        (Raw.onObject fun fields => schema.canonical (.nested fields))

end

/- The canonical fields are those of each parameter. -/
theorem Schema.canonical_eq
    (schema : Schema)
    (input : Input) :
    schema.canonical input =
      schema.params.map fun param =>
        (param.name,
          param.resolved.canonical (param.effective input)) := by
  rcases schema with ⟨name, params, types, globals, policy⟩
  rw [Schema.canonical]
  induction params with
  | nil => rfl
  | cons param rest ih =>
      rw [canonicalFields, ih, List.map_cons]
      cases param
      rw [Parameter.canonical]

/- An object is alike to what it is changed to, if its fields are related. -/
theorem Raw.alike_onObject
    {R : Bucket → Bucket → Prop}
    {change : Bucket → Bucket}
    (hChange : ∀ fields, R fields (change fields))
    (raw : Raw) :
    Raw.Alike R raw (raw.onObject change) := by
  cases raw with
  | object fields =>
      exact Or.inr ⟨fields, change fields, rfl, rfl, hChange fields⟩
  | null | bool | number | string | array => exact Or.inl rfl

/- Canonical data is null exactly if the data is. -/
theorem Resolved.isNull_canonical
    (resolved : Resolved Schema)
    (raw : Raw) :
    (resolved.canonical raw).isNull = raw.isNull := by
  cases resolved with
  | coerced name coerce => rw [Resolved.canonical]
  | nested schema =>
      rw [Resolved.canonical]
      cases raw <;> rfl
  | nestedList schema =>
      rw [Resolved.canonical]
      cases raw <;> rfl

/-
  Data is related to its canonical form, if the objects of the
  schema below are equivalent to theirs.
-/
theorem Resolved.related_canonical
    {resolved : Resolved Schema}
    (hBelow :
      ∀ schema, resolved.schema? = some schema →
        ∀ fields,
          schema.Equivalent (.nested fields)
            (.nested (schema.canonical (.nested fields))))
    (raw : Raw) :
    resolved.Related raw (resolved.canonical raw) := by
  cases resolved with
  | coerced name coerce => rw [Resolved.canonical, Resolved.Related]
  | nested schema =>
      rw [related_nested_iff, Resolved.canonical]
      exact Raw.alike_onObject (hBelow schema rfl) raw
  | nestedList schema =>
      rw [related_nestedList_iff, Resolved.canonical]
      cases raw with
      | array items =>
          refine Or.inr ⟨items, _, rfl, rfl, ?_⟩
          rw [List.forall₂_map_right_iff, List.forall₂_same]
          intro item _
          exact Raw.alike_onObject (hBelow schema rfl) item
      | null | bool | number | string | object => exact Or.inl rfl

/-
  An input is equivalent to every input whose sources read its
  canonical fields, unless a default depends on the input.
-/
theorem Schema.equivalent_canonical
    (schema : Schema)
    (hBuilt : schema.Built)
    (hDefaults :
      schema.Throughout fun s =>
        ∀ param ∈ s.params, param.default.readsInput = false)
    (input tidy : Input)
    (hTidy : ∀ source, tidy.bucket source = schema.canonical input) :
    schema.Equivalent input tidy := by
  induction schema using Schema.induction
    generalizing input tidy with
  | step schema ih =>
      rw [Schema.equivalent_iff]
      intro param hParam
      have hNames : (Fields.names (schema.canonical input)).Nodup := by
        have hSame :
            Fields.names (schema.canonical input) =
              schema.params.map Parameter.name := by
          rw [Fields.names, Schema.canonical_eq, List.map_map]
          rfl
        rw [hSame]
        exact hBuilt.nodup_names
      have hFetch :
          tidy.fetch? param.source param.name =
            some (param.resolved.canonical (param.effective input)) := by
        rw [Input.fetch?, hTidy]
        apply Fields.lookup?_of_mem _ hNames
        rw [Schema.canonical_eq]
        exact List.mem_map.mpr ⟨param, hParam, rfl⟩
      cases hNull : (param.effective input).isNull with
      | true =>
          -- Null is written out, and the default stays null for it.
          have hDefault :=
            param.provide?_of_isNull_effective input hNull
          rw [Raw.eq_null_of_isNull
            ((param.resolved.isNull_canonical _).trans hNull)] at hFetch
          rw [param.effective_of_fetch?_null tidy hFetch,
            param.default.provide?_eq (hDefaults.root param hParam)
              tidy input,
            Raw.eq_null_of_isNull hNull,
            Raw.eq_null_of_isNull hDefault]
          exact param.resolved.related_refl .null
      | false =>
          rw [param.effective_of_fetch? tidy hFetch
            ((param.resolved.isNull_canonical _).trans hNull)]
          apply Resolved.related_canonical
          intro below hBelow fields
          exact
            ih param hParam below hBelow (hBuilt.child hParam hBelow)
              (hDefaults.child hParam hBelow) _ _ fun _ => rfl

------------------------------------------------------------
-- Outcomes
------------------------------------------------------------

/-
  Equivalent inputs have the same outcome, with the same values
  or the same records.  In particular every input has the
  outcome of its canonical form, where nothing is left but the
  declared parameters, so that other keys, other sources, the
  order of keys, absent values in place of null, and defaults
  in place of values make no difference.
-/
theorem Engine.validate_of_equivalent
    (engine : Engine)
    (schema : Schema)
    (hBuilt : schema.Built)
    (hDefaults :
      schema.Throughout fun s =>
        ∀ param ∈ s.params, param.default.readsInput = false) :
    (∀ first second, schema.Equivalent first second →
      engine.validate schema first = engine.validate schema second) ∧
    ∀ input,
      schema.Equivalent input (.everywhere (schema.canonical input)) ∧
        engine.validate schema input =
          engine.validate schema
            (.everywhere (schema.canonical input)) := by
  have hSame :
      ∀ first second, schema.Equivalent first second →
        engine.validate schema first =
          engine.validate schema second := by
    intro first second hEquivalent
    unfold validate
    rw [schema.run_eq_of_equivalent engine.maxDepth 0 hEquivalent]
  refine ⟨hSame, ?_⟩
  intro input
  have hCanonical :
      schema.Equivalent input
        (.everywhere (schema.canonical input)) := by
    apply schema.equivalent_canonical hBuilt hDefaults
    exact Input.bucket_everywhere _
  exact ⟨hCanonical, hSame _ _ hCanonical⟩

namespace Samples

/-
  A basket with keys that no schema declares, with null for a
  quantity, and with a total in a bucket that is not read.
-/
def untidyBasket : Input where
  auto :=
    [("note", .string "fragile"),
      ("day", .string "2024-02-29"),
      ("items",
        .array
          [.object
            [("quantity", .null), ("color", .string "red"),
              ("x", .string "a")]])]
  path := []
  body := [("total", .string "much")]
  query := []
  isNested := false

/- The basket with its four parameters, and with the default quantity. -/
def tidyBasket : Bucket :=
  [("items",
      .array [.object [("x", .string "a"), ("quantity", one)]]),
    ("gift", .null),
    ("total", .null),
    ("day", .string "2024-02-29")]

/- No default of a basket or of a line depends on the input. -/
theorem basket_defaults :
    basket.Throughout fun s =>
      ∀ param ∈ s.params, param.default.readsInput = false :=
  basket_throughout (by decide) (by decide)

end Samples

/- The untidy basket validates as the tidy one, which it is equivalent to. -/
theorem Engine.basket_equivalent :
    Samples.basket.Built ∧
      Samples.basket.Throughout (fun s =>
        ∀ param ∈ s.params, param.default.readsInput = false) ∧
      Samples.basket.Equivalent Samples.untidyBasket
        (.everywhere Samples.tidyBasket) ∧
      Engine.standard.validate Samples.basket Samples.untidyBasket =
        Engine.standard.validate Samples.basket
          (.everywhere Samples.tidyBasket) ∧
      (Engine.standard.validate Samples.basket
        (.everywhere Samples.tidyBasket)).isValid = true := by
  have hOutcome :=
    Engine.validate_of_equivalent .standard Samples.basket
      Samples.basket_built Samples.basket_defaults
  have hCanonical :
      Samples.basket.canonical Samples.untidyBasket =
        Samples.tidyBasket :=
    rfl
  have hEquivalent := (hOutcome.2 Samples.untidyBasket).1
  rw [hCanonical] at hEquivalent
  exact
    ⟨Samples.basket_built, Samples.basket_defaults, hEquivalent,
      hOutcome.1 _ _ hEquivalent, rfl⟩

end Intake
