import Intake.Proofs.Running
import Intake.Proofs.SchemaPairs

/-
  This file shows that leaving out constraints keeps every valid
  outcome.  Constraints are the required flags and the checks of
  parameters, and the checks of whole schemas, at any level.

  Constraints are mere gates: a value that passes them is the
  value that there would be without them.  So the parameters of
  a looser schema have the same results, as long as those of the
  stricter one have values.

  Key definitions include:
    * `Variation.loosening`
    * `Schema.LoosensTo`

  The main statements are:
    * `Parameter.resolve_of_loosens`
    * `Schema.run_of_loosensTo`
    * `Engine.validate_of_loosensTo`
-/

namespace Intake

------------------------------------------------------------
-- Looser Schemas
------------------------------------------------------------

/-
  The second schema may lack required flags and checks of the
  first one.  The types are the same, and the checks of the
  whole schema that are left keep their order.
-/
def Variation.loosening : Variation where
  types strict loose := strict = loose
  param strict loose :=
    (loose.required = true → strict.required = true) ∧
      (loose.check = none ∨ loose.check = strict.check)
  globals strict loose := loose.Sublist strict

/- A schema without some constraints of a schema. -/
def Schema.LoosensTo
    (strict loose : Schema) : Prop :=
  strict.Matches .loosening loose

/- Every table has the coercers that it has. -/
theorem TypeTable.matches_refl
    (types : TypeTable) :
    types.Matches Eq types := by
  constructor
  case scalar =>
    intro name coerce other hFound hFound'
    rw [hFound] at hFound'
    exact Option.some.inj hFound'
  case list =>
    intro coerce other hSame
    rw [hSame]

------------------------------------------------------------
-- Runs of Looser Schemas
------------------------------------------------------------

/-
  A schema that has the values of another one wherever this
  other one has values.
-/
def Schema.Follows
    (limit depth : Nat)
    (strict loose : Schema) : Prop :=
  ∀ fields params, strict.runBelow limit depth fields = .ok params →
    loose.runBelow limit depth fields = .ok params

/-
  Raw data that is coerced to a value has the same value with
  schemas that follow those of the type.
-/
theorem Resolved.coerce_of_follows
    {limit depth : Nat}
    {strict loose : Resolved Schema}
    (hMatches : strict.Matches Eq (Schema.Follows limit depth) loose)
    {raw : Raw}
    {v : Value}
    (hCoerce : strict.coerce limit depth raw = .ok v) :
    loose.coerce limit depth raw = .ok v := by
  cases hMatches with
  | coerced coercers =>
      rw [coerce_coerced_eq_ok_iff] at hCoerce ⊢
      rw [← coercers]
      exact hCoerce
  | nested schemas =>
      rw [coerce_nested_eq_ok_iff] at hCoerce ⊢
      rcases hCoerce with ⟨fields, params, hRaw, hDepth, hRun, hValue⟩
      exact
        ⟨fields, params, hRaw, hDepth, schemas fields params hRun,
          hValue⟩
  | nestedList schemas =>
      rw [coerce_nestedList_eq_ok_iff] at hCoerce ⊢
      rcases hCoerce with ⟨items, vs, hRaw, hDepth, hItems, hValue⟩
      refine ⟨items, vs, hRaw, hDepth, ?_, hValue⟩
      apply hItems.imp
      rintro item w ⟨fields, params, hItem, hRun, hMap⟩
      exact ⟨fields, params, hItem, schemas fields params hRun, hMap⟩

/-
  A parameter that has a value has the same one without its
  required flag or its check, with schemas that follow those of
  its type.
-/
theorem Parameter.resolve_of_loosens
    {limit depth : Nat}
    {strict loose : Parameter Schema}
    {input : Input}
    (hEffective : strict.effective input = loose.effective input)
    (hRules : Variation.loosening.param strict loose)
    (hResolved :
      strict.resolved.Matches Eq (Schema.Follows limit depth)
        loose.resolved)
    {v : Value}
    (hResolve : strict.resolve limit depth input = .ok v) :
    loose.resolve limit depth input = .ok v := by
  rcases hRules with ⟨hRequired, hCheck⟩
  rw [resolve_eq_ok_iff] at hResolve ⊢
  rw [← hEffective]
  rcases hResolve with ⟨hNull, hOptional, hValue⟩ |
    ⟨hRaw, hCoerce, hAdmit⟩
  · refine Or.inl ⟨hNull, ?_, hValue⟩
    cases hFlag : loose.required with
    | false => rfl
    | true =>
        have hStrict := hRequired hFlag
        rw [hOptional] at hStrict
        cases hStrict
  · refine
      Or.inr ⟨hRaw, Resolved.coerce_of_follows hResolved hCoerce, ?_⟩
    rcases hAdmit with hNull | hPasses
    · exact Or.inl hNull
    · refine Or.inr ?_
      intro check hFound
      rcases hCheck with hNone | hSame
      · rw [hNone] at hFound
        cases hFound
      · rw [hSame] at hFound
        exact hPasses check hFound

/-
  A looser schema runs to the fields to which the stricter one
  runs.  The induction is on the tree of the stricter schema,
  since its references are loosened as well.
-/
theorem Schema.run_of_loosensTo
    {strict loose : Schema}
    (hStrict : strict.Built)
    (hLoose : loose.Built)
    (hLoosens : strict.LoosensTo loose)
    (limit depth : Nat)
    (input : Input)
    {fields : Params}
    (hRun : strict.run limit depth input = .ok fields) :
    loose.run limit depth input = .ok fields := by
  induction strict using Schema.induction
    generalizing loose depth input fields with
  | step strict ih =>
      cases hLoosens with
      | intro name keyPolicy types globals params =>
      rw [Schema.run_eq_ok_iff] at hRun ⊢
      rcases hRun with ⟨hYields, hGlobals⟩
      have hTypes : strict.types.Matches Eq loose.types := by
        rw [← types]
        exact strict.types.matches_refl
      refine ⟨?_, ?_⟩
      · apply forall₂_of_forall₂_of_forall₂ params hYields
        rintro param hParam param' hParam' ⟨key, v⟩ hMatches
          ⟨hName, hResolve⟩
        have hFollows :
            param.resolved.Matches Eq (Schema.Follows limit depth)
              param'.resolved := by
          apply hMatches.resolved hStrict hLoose hTypes hParam hParam'
          intro below below' hBelow hBuilt hBuilt' hLoosens
            bucket inner hInner
          exact
            ih param hParam below hBelow hBuilt hBuilt' hLoosens
              (depth + 1) (.nested bucket) hInner
        have hEffective := hMatches.effective_eq input
        cases hMatches with
        | intro name type source default rules =>
        refine ⟨name.symm.trans hName, ?_⟩
        exact
          Parameter.resolve_of_loosens hEffective rules hFollows hResolve
      · intro check hCheck
        exact hGlobals check (globals.subset hCheck)

------------------------------------------------------------
-- Outcomes
------------------------------------------------------------

/-
  An input that is valid for a schema is valid for every looser
  schema, with the same values.
-/
theorem Engine.validate_of_loosensTo
    (engine : Engine)
    (strict loose : Schema)
    (hStrict : strict.Built)
    (hLoose : loose.Built)
    (hLoosens : strict.LoosensTo loose)
    (input : Input)
    (fields : Params)
    (hValid : engine.validate strict input = .valid fields) :
    engine.validate loose input = .valid fields := by
  have hRun := engine.run_of_validate strict input hValid
  have hLooseRun :=
    Schema.run_of_loosensTo hStrict hLoose hLoosens engine.maxDepth 0
      input hRun
  unfold validate
  rw [hLooseRun]
  rfl

namespace Samples

/- The value of a field has to be there and not null. -/
def filledCheck
    (name : String) : GlobalCheck where
  test := fun params =>
    match Fields.lookup? params name with
    | some v => if v.isNull then .error "empty" else .ok ()
    | none => .error "absent"
  halts := true

/-
  A parcel with a code and a weight.  The code is constrained
  only if this is wanted, the weight always.
-/
def parcelDraft
    (strict : Bool) : SchemaDraft :=
  { SchemaDraft.ofName "parcel" with
    params :=
      [{ ParameterDraft.ofType "code" (.scalar "string") with
          required := strict
          checks :=
            if strict then [.length (Bounds.none.set .lte hundred)]
            else [] },
        { ParameterDraft.ofType "weight" (.scalar "integer") with
          default := .fixed one
          checks := [.numericality (Bounds.none.set .gt Decimal.zero)] }]
    globals := if strict then [filledCheck "code"] else [] }

/-
  A shipment of parcels with a label.  It needs the parcels only
  if this is wanted, and the label always.
-/
def shipmentDraft
    (strict : Bool) : SchemaDraft :=
  { SchemaDraft.ofName "shipment" with
    params :=
      [{ ParameterDraft.ofType "parcels"
            (.arrayOfNested (parcelDraft strict).assembled) with
          required := strict },
        ParameterDraft.ofType "label" (.scalar "string")]
    globals :=
      if strict then [filledCheck "parcels", filledCheck "label"]
      else [filledCheck "label"] }

/- Parcels are built, with all constraints and without some. -/
theorem parcel_built
    (strict : Bool) :
    (parcelDraft strict).assembled.Built := by
  have hBuild :
      (parcelDraft strict).build .empty =
        .ok (parcelDraft strict).assembled := by
    apply SchemaDraft.build_of_errors_eq_nil
    cases strict <;> rfl
  apply Schema.Built.of_leaf hBuild
  simp [parcelDraft, ParameterDraft.ofType, TypeExpr.schema?]

/- Shipments are built, with all constraints and without some. -/
theorem shipment_built
    (strict : Bool) :
    (shipmentDraft strict).assembled.Built := by
  have hBuild :
      (shipmentDraft strict).build .empty =
        .ok (shipmentDraft strict).assembled := by
    apply SchemaDraft.build_of_errors_eq_nil
    cases strict <;> rfl
  have hRefers :
      ∀ declared ∈ (shipmentDraft strict).params, ∀ child,
        declared.type.schema? = some child →
          child = (parcelDraft strict).assembled := by
    simp [shipmentDraft, ParameterDraft.ofType, TypeExpr.schema?,
      @eq_comm _ (parcelDraft strict).assembled]
  apply Schema.Built.intro hBuild
  intro declared hDeclared child hChild
  rw [hRefers declared hDeclared child hChild]
  exact parcel_built strict

/- A parcel with an unconstrained code is looser. -/
theorem parcel_loosens :
    (parcelDraft true).assembled.LoosensTo
      (parcelDraft false).assembled := by
  unfold Schema.LoosensTo
  refine
    .intro rfl rfl rfl (List.nil_sublist _) (.cons ?_ (.cons ?_ .nil))
  · exact .intro rfl (.scalar "string") rfl rfl ⟨nofun, Or.inl rfl⟩
  · exact .intro rfl (.scalar "integer") rfl rfl ⟨id, Or.inr rfl⟩

/- A shipment with fewer constraints on it and its parcels is looser. -/
theorem shipment_loosens :
    (shipmentDraft true).assembled.LoosensTo
      (shipmentDraft false).assembled := by
  unfold Schema.LoosensTo
  refine
    .intro rfl rfl rfl (List.sublist_cons_self _ _)
      (.cons ?_ (.cons ?_ .nil))
  · exact
      .intro rfl (.arrayOfNested parcel_loosens) rfl rfl
        ⟨nofun, Or.inr rfl⟩
  · exact .intro rfl (.scalar "string") rfl rfl ⟨id, Or.inr rfl⟩

/- Two parcels, one of them with a weight as text, under a label. -/
def labelledShipment : Input :=
  .ofAuto
    [("parcels",
        .array
          [.object [("code", .string "a")],
            .object [("code", .string "b"), ("weight", .string "2")]]),
      ("label", .string "c")]

/- The values of the labelled shipment. -/
def shipmentFields : Params :=
  [("parcels",
      .list
        [.map [("code", .string "a"), ("weight", .integer 1 (by decide))],
          .map
            [("code", .string "b"), ("weight", .integer 2 (by decide))]]),
    ("label", .string "c")]

end Samples

/-
  The labelled shipment is valid under all constraints, and so
  it is without some of them.
-/
theorem Engine.shipment_loose :
    (Samples.shipmentDraft true).assembled.Built ∧
      (Samples.shipmentDraft false).assembled.Built ∧
      (Samples.shipmentDraft true).assembled.LoosensTo
        (Samples.shipmentDraft false).assembled ∧
      Engine.standard.validate (Samples.shipmentDraft true).assembled
          Samples.labelledShipment =
        .valid Samples.shipmentFields ∧
      Engine.standard.validate (Samples.shipmentDraft false).assembled
          Samples.labelledShipment =
        .valid Samples.shipmentFields :=
  ⟨Samples.shipment_built true, Samples.shipment_built false,
    Samples.shipment_loosens, rfl,
    Engine.validate_of_loosensTo .standard _ _
      (Samples.shipment_built true) (Samples.shipment_built false)
      Samples.shipment_loosens _ _ rfl⟩

end Intake
