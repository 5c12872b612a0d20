import Intake.Proofs.Lists
import Intake.Proofs.SchemaTree
import Intake.Schema.Samples

/-
  This file shows what building guarantees about a schema: its
  parameters are those of the draft, with distinct names that
  the key policy accepts and with types that resolve in the
  table of the schema.  All of it holds for every library of
  patterns.

  Key definitions include:
    * `Schema.Built`

  The guarantees are:
    * `Schema.Built.nodup_names`
    * `Schema.Built.name_accepted`
    * `Schema.Built.resolve_type`
    * `Schema.Built.child`
    * `Schema.Built.of_params`
-/

namespace Intake

------------------------------------------------------------
-- Parameters
------------------------------------------------------------

section Drafts

variable (patterns : PatternLibrary)

namespace ParameterDraft

/-
  A parameter is usable exactly if its name, its type and its
  check are, and it keeps everything that was declared.
-/
theorem resolve_eq_ok_iff
    (types : TypeTable)
    (policy : KeyPolicy)
    (draft : ParameterDraft)
    (param : Parameter Schema) :
    draft.resolve patterns types policy = .ok param ↔
      nameFault? policy draft.name = none ∧
        draft.type.resolve types = .ok param.resolved ∧
        compileChecks patterns draft.name draft.checks =
          .ok param.check ∧
        param =
          ⟨draft.name, draft.type, param.resolved, draft.required,
            draft.source, draft.default, param.check⟩ := by
  rcases param with
    ⟨name, type, resolved, required, source, default, check⟩
  unfold resolve
  cases hFault : nameFault? policy draft.name <;>
    cases hType : draft.type.resolve types <;>
      cases hChecks : compileChecks patterns draft.name draft.checks <;>
        simp
  grind

/- A parameter that is not usable has an error. -/
theorem ne_nil_of_resolve_eq_error
    (types : TypeTable)
    (policy : KeyPolicy)
    (draft : ParameterDraft)
    {found : List SchemaError}
    (hResolve : draft.resolve patterns types policy = .error found) :
    found ≠ [] := by
  unfold resolve at hResolve
  cases hType : draft.type.resolve types <;>
    cases hChecks : compileChecks patterns draft.name draft.checks <;>
      cases hFault : nameFault? policy draft.name <;>
        simp [hType, hChecks, hFault] at hResolve <;>
          simp [← hResolve]

/-
  Only a name that is not empty and that the policy accepts is
  faultless.
-/
theorem nameFault?_eq_none_iff
    (policy : KeyPolicy)
    (name : String) :
    nameFault? policy name = none ↔
      name ≠ "" ∧ policy.accepts name = true := by
  unfold nameFault?
  by_cases hEmpty : name = ""
  · simp [hEmpty]
  · by_cases hAccepts : policy.accepts name = true <;>
      simp [hEmpty, hAccepts]

end ParameterDraft

------------------------------------------------------------
-- Schemas
------------------------------------------------------------

namespace SchemaDraft

/-
  If every parameter of a draft is usable, each one stands in
  the place of its declaration, and no name is repeated.
-/
theorem forall₂_of_resolveParams
    (types : TypeTable)
    (policy : KeyPolicy)
    (seen : List String)
    (drafts : List ParameterDraft)
    (params : List (Parameter Schema))
    (hResolved :
      resolveParams patterns types policy seen drafts =
        params.map .ok) :
    List.Forall₂
        (fun draft param =>
          draft.resolve patterns types policy = .ok param)
        drafts params ∧
      (drafts.map ParameterDraft.name).Nodup ∧
      ∀ draft ∈ drafts, draft.name ∉ seen := by
  induction drafts generalizing seen params with
  | nil =>
      cases params with
      | nil => simp
      | cons param others => simp [resolveParams] at hResolved
  | cons draft rest ih =>
      cases params with
      | nil => simp [resolveParams] at hResolved
      | cons param others =>
          simp only [resolveParams, List.map_cons, List.cons.injEq]
            at hResolved
          rcases hResolved with ⟨hHead, hRest⟩
          have hNew : draft.name ∉ seen := by
            intro hSeen
            simp [hSeen] at hHead
          rcases ih _ _ hRest with ⟨hForall, hNodup, hUnseen⟩
          refine ⟨List.Forall₂.cons ?_ hForall, ?_, ?_⟩
          · simpa [hNew] using hHead
          · rw [List.map_cons, List.nodup_cons]
            refine ⟨?_, hNodup⟩
            intro hRepeated
            rcases List.mem_map.mp hRepeated with
              ⟨other, hOther, hName⟩
            exact hUnseen other hOther (by simp [hName])
          · intro other hOther
            rcases List.mem_cons.mp hOther with rfl | hOther
            · exact hNew
            · intro hSeen
              exact hUnseen other hOther (by simp [hSeen])

/- A parameter of a draft that is not usable has an error. -/
theorem ne_nil_of_mem_resolveParams
    (types : TypeTable)
    (policy : KeyPolicy)
    (seen : List String)
    (drafts : List ParameterDraft)
    {found : List SchemaError}
    (hFound :
      .error found ∈ resolveParams patterns types policy seen drafts) :
    found ≠ [] := by
  induction drafts generalizing seen with
  | nil => simp [resolveParams] at hFound
  | cons draft rest ih =>
      rcases List.mem_cons.mp hFound with hHead | hRest
      · by_cases hSeen : draft.name ∈ seen
        · simp [hSeen] at hHead
          simp [hHead]
        · simp only [List.contains_eq_mem, hSeen, decide_false,
            Bool.false_eq_true, if_false] at hHead
          exact
            draft.ne_nil_of_resolve_eq_error patterns types policy
              hHead.symm
      · exact ih _ hRest

/- Results that are all usable are usable parameters in order. -/
theorem eq_map_ok
    (results :
      List (Except (List SchemaError) (Parameter Schema)))
    (hUsable : ∀ result ∈ results, ∃ param, result = .ok param) :
    ∃ params : List (Parameter Schema),
      results = params.map .ok := by
  induction results with
  | nil => exact ⟨[], rfl⟩
  | cons result rest ih =>
      rcases hUsable result (by simp) with ⟨param, rfl⟩
      rcases ih fun other hOther => hUsable other (by simp [hOther])
        with ⟨params, rfl⟩
      exact ⟨param :: params, rfl⟩

/-
  A draft builds only if all of its parameters are usable, and
  the schema consists of them and of what was declared.
-/
theorem build_eq_ok
    (draft : SchemaDraft)
    {schema : Schema}
    (hBuild : draft.build patterns = .ok schema) :
    draft.resolved patterns = schema.params.map .ok ∧
      schema =
        ⟨draft.name, schema.params, draft.types, draft.globals,
          draft.keyPolicy⟩ := by
  unfold build at hBuild
  cases hErrors : draft.errors patterns with
  | cons first others => simp [hErrors] at hBuild
  | nil =>
      simp only [hErrors, Except.ok.injEq] at hBuild
      subst hBuild
      refine ⟨?_, rfl⟩
      have hUsable :
          ∀ result ∈ draft.resolved patterns,
            ∃ param, result = .ok param := by
        intro result hResult
        have hNone :=
          List.flatMap_eq_nil_iff.mp hErrors result hResult
        cases result with
        | error found =>
            exact absurd hNone
              (ne_nil_of_mem_resolveParams _ _ _ _ _ hResult)
        | ok param => exact ⟨param, rfl⟩
      rcases eq_map_ok _ hUsable with ⟨params, hParams⟩
      simp [usableParams, hParams, List.filterMap_map]

/-
  The parameters of a schema stand in the place of their
  declarations.
-/
theorem forall₂_of_build
    (draft : SchemaDraft)
    {schema : Schema}
    (hBuild : draft.build patterns = .ok schema) :
    List.Forall₂
        (fun declared param =>
          declared.resolve patterns draft.types draft.keyPolicy =
            .ok param)
        draft.params schema.params ∧
      (draft.params.map ParameterDraft.name).Nodup := by
  have hResolved := (draft.build_eq_ok patterns hBuild).1
  have hForall :=
    forall₂_of_resolveParams patterns draft.types draft.keyPolicy []
      draft.params schema.params hResolved
  exact ⟨hForall.1, hForall.2.1⟩

/-
  If every declared parameter is usable and no name is
  repeated, all of them resolve, in order.
-/
theorem resolveParams_of_forall₂
    (types : TypeTable)
    (policy : KeyPolicy)
    (seen : List String)
    (drafts : List ParameterDraft)
    (params : List (Parameter Schema))
    (hForall :
      List.Forall₂
        (fun draft param =>
          draft.resolve patterns types policy = .ok param)
        drafts params)
    (hNodup : (drafts.map ParameterDraft.name).Nodup)
    (hUnseen : ∀ draft ∈ drafts, draft.name ∉ seen) :
    resolveParams patterns types policy seen drafts =
      params.map .ok := by
  induction hForall generalizing seen with
  | nil => rfl
  | @cons draft param drafts params hHead _ ih =>
      rw [List.map_cons, List.nodup_cons] at hNodup
      have hNew : draft.name ∉ seen := hUnseen draft (by simp)
      have hRest :
          ∀ other ∈ drafts, other.name ∉ draft.name :: seen := by
        intro other hOther hSeen
        rcases List.mem_cons.mp hSeen with hSame | hSeen
        · apply hNodup.1
          rw [← hSame]
          exact List.mem_map_of_mem hOther
        · exact hUnseen other (by simp [hOther]) hSeen
      rw [resolveParams, ih _ hNodup.2 hRest, List.map_cons]
      simp [hNew, hHead]

/- A draft all of whose parameters are usable builds. -/
theorem build_of_resolved
    (draft : SchemaDraft)
    (params : List (Parameter Schema))
    (hResolved : draft.resolved patterns = params.map .ok) :
    draft.build patterns =
      .ok
        ⟨draft.name, params, draft.types, draft.globals,
          draft.keyPolicy⟩ := by
  have hNone : draft.errors patterns = [] := by
    rw [errors, hResolved, List.flatMap_map]
    exact List.flatMap_eq_nil_iff.mpr fun _ _ => rfl
  unfold build usableParams
  rw [hNone, hResolved]
  simp [List.filterMap_map]

/- Parameters have the names under which they were declared. -/
theorem names_eq_of_forall₂
    (types : TypeTable)
    (policy : KeyPolicy)
    (drafts : List ParameterDraft)
    (params : List (Parameter Schema))
    (hForall :
      List.Forall₂
        (fun draft param =>
          draft.resolve patterns types policy = .ok param)
        drafts params) :
    drafts.map ParameterDraft.name =
      params.map Parameter.name := by
  apply map_eq_map_of_forall₂ hForall
  intro draft param hResolve
  rw [((ParameterDraft.resolve_eq_ok_iff _ _ _ _ _).mp
    hResolve).2.2.2]

end SchemaDraft

end Drafts

------------------------------------------------------------
-- Built Schemas
------------------------------------------------------------

namespace Schema

/-
  A schema that was built from a draft with some library of
  patterns, all of whose references are to schemas that were
  built before.
-/
inductive Built : Schema → Prop where
  | intro
      {patterns : PatternLibrary}
      {draft : SchemaDraft}
      {schema : Schema}
      (build : draft.build patterns = .ok schema)
      (below :
        ∀ declared ∈ draft.params, ∀ child,
          declared.type.schema? = some child → Built child) :
      Built schema

namespace Built

variable {schema : Schema}

/- A schema is built if its draft builds and refers to none. -/
theorem of_leaf
    {patterns : PatternLibrary}
    {draft : SchemaDraft}
    (hBuild : draft.build patterns = .ok schema)
    (hLeaf :
      ∀ declared ∈ draft.params, declared.type.schema? = none) :
    schema.Built := by
  apply Built.intro hBuild
  intro declared hDeclared child hChild
  rw [hLeaf declared hDeclared] at hChild
  cases hChild

/-
  Every parameter of a built schema was declared, and was
  resolved in the table and under the policy of the schema, all
  of them with one library of patterns.
-/
theorem exists_declared
    (hBuilt : schema.Built) :
    ∃ patterns : PatternLibrary,
      ∀ param ∈ schema.params, ∃ declared : ParameterDraft,
        declared.resolve patterns schema.types schema.keyPolicy =
            .ok param ∧
          ∀ child, declared.type.schema? = some child →
            child.Built := by
  cases hBuilt with
  | @intro patterns draft _ build below =>
      refine ⟨patterns, ?_⟩
      intro param hParam
      have hForall := (draft.forall₂_of_build patterns build).1
      rcases exists_of_forall₂_of_mem hForall hParam with
        ⟨declared, hDeclared, hResolve⟩
      refine ⟨declared, ?_, below declared hDeclared⟩
      rw [(draft.build_eq_ok patterns build).2]
      exact hResolve

/- The names of the parameters are distinct. -/
theorem nodup_names
    (hBuilt : schema.Built) :
    (schema.params.map Parameter.name).Nodup := by
  cases hBuilt with
  | @intro patterns draft _ build below =>
      rcases draft.forall₂_of_build patterns build with
        ⟨hForall, hNodup⟩
      rw [← SchemaDraft.names_eq_of_forall₂ _ _ _ _ _ hForall]
      exact hNodup

/- Every name is not empty, and the key policy accepts it. -/
theorem name_accepted
    (hBuilt : schema.Built)
    {param : Parameter Schema}
    (hParam : param ∈ schema.params) :
    param.name ≠ "" ∧
      schema.keyPolicy.accepts param.name = true := by
  rcases hBuilt.exists_declared with ⟨patterns, hDeclared⟩
  rcases hDeclared param hParam with ⟨declared, hResolve, _⟩
  rcases (ParameterDraft.resolve_eq_ok_iff _ _ _ _ _).mp hResolve
    with ⟨hFault, _, _, hKept⟩
  rw [hKept]
  exact
    (ParameterDraft.nameFault?_eq_none_iff _ _).mp hFault

/-
  The declared type of every parameter has its resolved
  meaning.
-/
theorem resolve_type
    (hBuilt : schema.Built)
    {param : Parameter Schema}
    (hParam : param ∈ schema.params) :
    param.type.resolve schema.types = .ok param.resolved := by
  rcases hBuilt.exists_declared with ⟨patterns, hDeclared⟩
  rcases hDeclared param hParam with ⟨declared, hResolve, _⟩
  rcases (ParameterDraft.resolve_eq_ok_iff _ _ _ _ _).mp hResolve
    with ⟨_, hType, _, hKept⟩
  rw [hKept]
  exact hType

/- The schemas that parameters refer to are built. -/
theorem child
    (hBuilt : schema.Built)
    {param : Parameter Schema}
    (hParam : param ∈ schema.params)
    {below : Schema}
    (hBelow : param.resolved.schema? = some below) :
    below.Built := by
  rcases hBuilt.exists_declared with ⟨patterns, hDeclared⟩
  rcases hDeclared param hParam with ⟨declared, hResolve, hChildren⟩
  rcases (ParameterDraft.resolve_eq_ok_iff _ _ _ _ _).mp hResolve
    with ⟨_, hType, _, _⟩
  apply hChildren
  rw [← TypeExpr.schema?_resolve _ _ hType]
  exact hBelow

/-
  The parameters of a built schema, some or all of them and in
  any order, make up a built schema, with any checks.
-/
theorem of_params
    (hBuilt : schema.Built)
    (params : List (Parameter Schema))
    (hParams : ∀ param ∈ params, param ∈ schema.params)
    (hNodup : (params.map Parameter.name).Nodup)
    (globals : List GlobalCheck) :
    Built { schema with params := params, globals := globals } := by
  rcases hBuilt.exists_declared with ⟨patterns, hDeclared⟩
  have hDrafts :
      ∃ drafts : List ParameterDraft,
        List.Forall₂
            (fun draft param =>
              draft.resolve patterns schema.types schema.keyPolicy =
                .ok param)
            drafts params ∧
          ∀ declared ∈ drafts, ∀ child,
            declared.type.schema? = some child → child.Built := by
    clear hNodup
    induction params with
    | nil => exact ⟨[], .nil, List.forall_mem_nil _⟩
    | cons param rest ih =>
        rcases ih fun other hOther => hParams other (by simp [hOther])
          with ⟨drafts, hForall, hChildren⟩
        rcases hDeclared param (hParams param (by simp)) with
          ⟨declared, hResolve, hChild⟩
        exact
          ⟨declared :: drafts, .cons hResolve hForall,
            List.forall_mem_cons.mpr ⟨hChild, hChildren⟩⟩
  rcases hDrafts with ⟨drafts, hForall, hChildren⟩
  have hNames := SchemaDraft.names_eq_of_forall₂ _ _ _ _ _ hForall
  rw [← hNames] at hNodup
  have hResolved :=
    SchemaDraft.resolveParams_of_forall₂ _ _ _ [] _ _ hForall hNodup
      fun _ _ => List.not_mem_nil
  exact
    .intro
      (SchemaDraft.build_of_resolved patterns
        ⟨schema.name, schema.types, drafts, globals, schema.keyPolicy⟩
        params hResolved)
      hChildren

end Built

/-
  A property of a schema that was built holds throughout if it
  holds throughout the schemas that were referred to.
-/
theorem Throughout.of_build
    {P : Schema → Prop}
    {patterns : PatternLibrary}
    {draft : SchemaDraft}
    {schema : Schema}
    (hBuild : draft.build patterns = .ok schema)
    (hHere : P schema)
    (hBelow :
      ∀ declared ∈ draft.params, ∀ child,
        declared.type.schema? = some child →
          child.Throughout P) :
    schema.Throughout P := by
  refine .intro hHere ?_
  intro param hParam child hChild
  have hForall := (draft.forall₂_of_build patterns hBuild).1
  rcases exists_of_forall₂_of_mem hForall hParam with
    ⟨declared, hDeclared, hResolve⟩
  have hType :=
    ((ParameterDraft.resolve_eq_ok_iff _ _ _ _ _).mp hResolve).2.1
  apply hBelow declared hDeclared
  rw [← TypeExpr.schema?_resolve _ _ hType]
  exact hChild

/-
  A property holds throughout a schema whose draft refers to
  no schema if it holds of the schema.
-/
theorem Throughout.of_leaf
    {P : Schema → Prop}
    {patterns : PatternLibrary}
    {draft : SchemaDraft}
    {schema : Schema}
    (hBuild : draft.build patterns = .ok schema)
    (hHere : P schema)
    (hLeaf :
      ∀ declared ∈ draft.params, declared.type.schema? = none) :
    schema.Throughout P := by
  apply Throughout.of_build hBuild hHere
  intro declared hDeclared child hChild
  rw [hLeaf declared hDeclared] at hChild
  cases hChild

end Schema

------------------------------------------------------------
-- Samples
------------------------------------------------------------

/-
  The schema of a draft without errors.  The samples declare no
  patterns, so they need no library of them.
-/
def SchemaDraft.assembled
    (draft : SchemaDraft) : Schema :=
  ⟨draft.name, draft.usableParams .empty, draft.types, draft.globals,
    draft.keyPolicy⟩

/- A draft without errors builds its schema. -/
theorem SchemaDraft.build_of_errors_eq_nil
    (draft : SchemaDraft)
    (hNone : draft.errors .empty = []) :
    draft.build .empty = .ok draft.assembled := by
  unfold build
  rw [hNone]
  rfl

namespace Samples

/-
  The schema of a line of an order, without a detour over
  errors.
-/
def line : Schema :=
  itemDraft.assembled

/-
  A basket of lines with its total and the day of delivery, and
  with one more line as a gift.
-/
def basketDraft : SchemaDraft :=
  { SchemaDraft.ofName "basket" with
    params :=
      [{ ParameterDraft.ofType "items" (.arrayOfNested line) with
          required := true },
        ParameterDraft.ofType "gift" (.nested line),
        ParameterDraft.ofType "total" (.scalar "decimal"),
        ParameterDraft.ofType "day" (.scalar "date")] }

/- The schema of a basket. -/
def basket : Schema :=
  basketDraft.assembled

/- A line refers to no schema. -/
theorem schema?_of_mem_itemDraft :
    ∀ declared ∈ itemDraft.params,
      declared.type.schema? = none := by
  simp [itemDraft, ParameterDraft.ofType, TypeExpr.schema?]

/- A basket refers to lines only. -/
theorem schema?_of_mem_basketDraft :
    ∀ declared ∈ basketDraft.params, ∀ child,
      declared.type.schema? = some child → child = line := by
  simp [basketDraft, ParameterDraft.ofType, TypeExpr.schema?,
    @eq_comm _ line]

/- The drafts build a line and a basket. -/
theorem line_build :
    itemDraft.build .empty = .ok line :=
  itemDraft.build_of_errors_eq_nil rfl

theorem basket_build :
    basketDraft.build .empty = .ok basket :=
  basketDraft.build_of_errors_eq_nil rfl

/-
  What holds of a basket and of a line holds throughout a
  basket.
-/
theorem basket_throughout
    {P : Schema → Prop}
    (hBasket : P basket)
    (hLine : P line) :
    basket.Throughout P := by
  apply Schema.Throughout.of_build basket_build hBasket
  intro declared hDeclared child hChild
  rw [schema?_of_mem_basketDraft declared hDeclared child hChild]
  exact .of_leaf line_build hLine schema?_of_mem_itemDraft

/- A line is built. -/
theorem line_built :
    line.Built :=
  .of_leaf line_build schema?_of_mem_itemDraft

/- A basket is built. -/
theorem basket_built :
    basket.Built := by
  apply Schema.Built.intro basket_build
  intro declared hDeclared child hChild
  rw [schema?_of_mem_basketDraft declared hDeclared child hChild]
  exact line_built

end Samples

end Intake
