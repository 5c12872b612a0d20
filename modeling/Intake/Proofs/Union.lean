import Intake.Proofs.Building
import Intake.Proofs.Failing

/-
  This file shows that a schema validates as the union of its
  parameters.

  Each parameter is validated by itself, by the schema that
  holds nothing else.  If some of these schemas fail, their
  records follow one another in the order of the parameters.
  If none does, their fields make up the values that the
  checks of the whole schema are given.

  Key definitions include:
    * `Schema.only`
    * `Engine.recordsOf`
    * `Engine.union`
    * `Engine.Unites`

  The main statements are:
    * `Engine.single_eq`
    * `Engine.validate_of_all_valid`
    * `Engine.unites`
-/

namespace Intake

------------------------------------------------------------
-- Single Parameters
------------------------------------------------------------

/- The schema with other parameters. -/
def Schema.withParams
    (schema : Schema)
    (params : List (Parameter Schema)) : Schema :=
  { schema with params := params }

/- The schema that holds one parameter, and no checks. -/
def Schema.only
    (schema : Schema)
    (param : Parameter Schema) : Schema :=
  { schema with params := [param], globals := [] }

/- The schema of one of the parameters is built. -/
theorem Schema.Built.only
    {schema : Schema}
    (hBuilt : schema.Built)
    {param : Parameter Schema}
    (hParam : param ∈ schema.params) :
    (schema.only param).Built := by
  apply hBuilt.of_params
  · exact List.forall_mem_singleton.mpr hParam
  · simp

/- The schema is built with its parameters in another order as well. -/
theorem Schema.Built.withParams
    {schema : Schema}
    (hBuilt : schema.Built)
    {params : List (Parameter Schema)}
    (hPerm : params.Perm schema.params) :
    (schema.withParams params).Built := by
  apply hBuilt.of_params
  · intro param hParam
    exact hPerm.mem_iff.mp hParam
  · exact (hPerm.map Parameter.name).nodup_iff.mpr hBuilt.nodup_names

namespace Engine

/- The outcome of one parameter by itself. -/
def single
    (engine : Engine)
    (schema : Schema)
    (input : Input)
    (param : Parameter Schema) : Outcome :=
  engine.validate (schema.only param) input

/- The records of parameters by themselves, one after the other. -/
def recordsOf
    (engine : Engine)
    (schema : Schema)
    (input : Input)
    (params : List (Parameter Schema)) : List ErrorRecord :=
  params.flatMap fun param =>
    (engine.single schema input param).records

/- The fields of parameters by themselves, one after the other. -/
def union
    (engine : Engine)
    (schema : Schema)
    (input : Input)
    (params : List (Parameter Schema)) : Params :=
  params.flatMap fun param =>
    (engine.single schema input param).params?.getD []

variable (engine : Engine)
variable (schema : Schema)
variable (input : Input)

/- By itself a parameter has its value, or the records of its failure. -/
theorem single_eq
    (param : Parameter Schema) :
    engine.single schema input param =
      match param.resolve engine.maxDepth 0 input with
      | .ok v => .valid [(param.name, v)]
      | .error failure => .invalid (failure.records param.name) := by
  have hRun :
      (schema.only param).run engine.maxDepth 0 input =
        ParamResults.conclude []
          [(param.name, param.resolve engine.maxDepth 0 input)] :=
    Schema.run_eq _ _ _ _
  unfold single validate
  rw [hRun]
  cases param.resolve engine.maxDepth 0 input with
  | ok v => rfl
  | error failure =>
      simp [ParamResults.conclude, ParamResults.failures,
        Outcome.ofResult]

/- A parameter is valid by itself exactly if it has a value. -/
theorem isValid_single_iff
    (param : Parameter Schema) :
    (engine.single schema input param).isValid = true ↔
      ∃ v, param.resolve engine.maxDepth 0 input = .ok v := by
  rw [single_eq]
  cases param.resolve engine.maxDepth 0 input with
  | ok v => simp [Outcome.isValid]
  | error failure => simp [Outcome.isValid]

------------------------------------------------------------
-- All Parameters
------------------------------------------------------------

/- The results of parameters, by name. -/
def resultsOf
    (params : List (Parameter Schema)) : ParamResults :=
  params.map fun param =>
    (param.name, param.resolve engine.maxDepth 0 input)

/- The values among the results are those of single parameters. -/
theorem values_resultsOf
    (params : List (Parameter Schema)) :
    (engine.resultsOf input params).values =
      engine.union schema input params := by
  unfold union resultsOf
  induction params with
  | nil => rfl
  | cons param rest ih =>
      rw [List.map_cons, List.flatMap_cons, ← ih, single_eq]
      cases param.resolve engine.maxDepth 0 input <;> rfl

/- The records of the failures are those of single parameters. -/
theorem flatMap_failures_resultsOf
    (params : List (Parameter Schema)) :
    ((engine.resultsOf input params).failures.flatMap
        fun (name, failure) => failure.records name) =
      engine.recordsOf schema input params := by
  unfold recordsOf resultsOf
  induction params with
  | nil => rfl
  | cons param rest ih =>
      rw [List.map_cons, List.flatMap_cons, ← ih, single_eq]
      cases param.resolve engine.maxDepth 0 input <;> rfl

/- No result is a failure exactly if all single parameters are valid. -/
theorem failures_resultsOf_eq_nil_iff
    (params : List (Parameter Schema)) :
    (engine.resultsOf input params).failures = [] ↔
      ∀ param ∈ params,
        (engine.single schema input param).isValid = true := by
  unfold resultsOf
  induction params with
  | nil => simp [ParamResults.failures]
  | cons param rest ih =>
      rw [List.map_cons, List.forall_mem_cons, ← ih,
        isValid_single_iff]
      cases param.resolve engine.maxDepth 0 input <;>
        simp [ParamResults.failures]

/- A schema concludes the results of its parameters. -/
theorem validate_eq_conclude :
    engine.validate schema input =
      .ofResult
        ((engine.resultsOf input schema.params).conclude
          schema.globals) := by
  unfold validate resultsOf
  rw [Schema.run_eq]

/- If a parameter fails by itself, only such records are reported. -/
theorem validate_of_some_invalid
    (hFails :
      ∃ param ∈ schema.params,
        (engine.single schema input param).isValid = false) :
    engine.validate schema input =
      .invalid (engine.recordsOf schema input schema.params) := by
  have hSome : (engine.resultsOf input schema.params).failures ≠ [] := by
    rw [Ne, engine.failures_resultsOf_eq_nil_iff schema]
    rintro hAll
    rcases hFails with ⟨param, hParam, hInvalid⟩
    rw [hAll param hParam] at hInvalid
    cases hInvalid
  rw [validate_eq_conclude, ← flatMap_failures_resultsOf]
  unfold ParamResults.conclude
  split
  · next hNone => exact absurd hNone hSome
  · rfl

/-
  If all parameters are valid by themselves, the checks of the
  whole schema decide, and they are given all values.
-/
theorem validate_of_all_valid
    (hValid :
      ∀ param ∈ schema.params,
        (engine.single schema input param).isValid = true) :
    engine.validate schema input =
      match
        GlobalCheck.failures (engine.union schema input schema.params)
          schema.globals
      with
      | [] => .valid (engine.union schema input schema.params)
      | reasons => .invalid (reasons.map .overall) := by
  have hNone : (engine.resultsOf input schema.params).failures = [] :=
    (engine.failures_resultsOf_eq_nil_iff schema input _).mpr hValid
  rw [validate_eq_conclude, ← values_resultsOf]
  unfold ParamResults.conclude
  rw [hNone]
  cases GlobalCheck.failures
      (engine.resultsOf input schema.params).values schema.globals <;>
    rfl

/-
  A schema validates as its parameters do by themselves.

  Their own schemas are built.  If some of them fail, their
  records are all that is reported, in the order in which the
  parameters are declared, whatever this order is.  If none
  fails, each one gives a field, and these fields are the
  values of the schema if they pass its checks, and else the
  reasons of the checks are reported.
-/
structure Unites : Prop where
  built :
    ∀ param ∈ schema.params, (schema.only param).Built
  failing :
    (∃ param ∈ schema.params,
      (engine.single schema input param).isValid = false) →
        engine.validate schema input =
          .invalid (engine.recordsOf schema input schema.params)
  field :
    ∀ param ∈ schema.params,
      (engine.single schema input param).isValid = true →
        ∃ v, engine.single schema input param =
          .valid [(param.name, v)]
  passing :
    (∀ param ∈ schema.params,
      (engine.single schema input param).isValid = true) →
        (∀ check ∈ schema.globals,
          check.test (engine.union schema input schema.params) =
            .ok ()) →
          engine.validate schema input =
            .valid (engine.union schema input schema.params)
  checked :
    (∀ param ∈ schema.params,
      (engine.single schema input param).isValid = true) →
        (¬ ∀ check ∈ schema.globals,
          check.test (engine.union schema input schema.params) =
            .ok ()) →
          engine.validate schema input =
            .invalid
              ((GlobalCheck.failures
                  (engine.union schema input schema.params)
                  schema.globals).map
                fun reason =>
                  ⟨none, messageLead ++ reason, .invalid⟩)
  reordered :
    ∀ params : List (Parameter Schema), params.Perm schema.params →
      (schema.withParams params).Built ∧
        ((∃ param ∈ schema.params,
          (engine.single schema input param).isValid = false) →
            engine.validate (schema.withParams params) input =
                .invalid (engine.recordsOf schema input params) ∧
              (engine.recordsOf schema input params).Perm
                (engine.recordsOf schema input schema.params))

/- Every built schema validates as its parameters do by themselves. -/
theorem unites
    (hBuilt : schema.Built) :
    engine.Unites schema input := by
  constructor
  case built =>
    intro param hParam
    exact hBuilt.only hParam
  case failing =>
    intro hFails
    exact engine.validate_of_some_invalid schema input hFails
  case field =>
    intro param _ hValid
    rcases (engine.isValid_single_iff schema input param).mp hValid with
      ⟨v, hResolve⟩
    refine ⟨v, ?_⟩
    rw [single_eq, hResolve]
  case passing =>
    intro hValid hPass
    rw [engine.validate_of_all_valid schema input hValid,
      (GlobalCheck.failures_eq_nil_iff _ _).mpr hPass]
  case checked =>
    intro hValid hFail
    rw [← GlobalCheck.failures_eq_nil_iff] at hFail
    rw [engine.validate_of_all_valid schema input hValid]
    split
    · next hNone => exact absurd hNone hFail
    · rfl
  case reordered =>
    intro params hPerm
    refine ⟨hBuilt.withParams hPerm, ?_⟩
    rintro ⟨param, hParam, hInvalid⟩
    constructor
    · exact
        engine.validate_of_some_invalid (schema.withParams params) input
          ⟨param, hPerm.mem_iff.mpr hParam, hInvalid⟩
    · exact hPerm.flatMap_right _

end Engine

/- A basket without its lines, with a total that is no decimal. -/
def Samples.wrongBasket : Input :=
  .ofAuto [("total", .string "much"), ("gift", .null)]

/- The records of the wrong basket are those of two parameters. -/
theorem Engine.basket_unites :
    Samples.basket.Built ∧
      Engine.standard.Unites Samples.basket Samples.wrongBasket ∧
      Engine.standard.validate Samples.basket Samples.wrongBasket =
        .invalid
          (Engine.standard.recordsOf Samples.basket Samples.wrongBasket
            Samples.basket.params) ∧
      Engine.standard.recordsOf Samples.basket Samples.wrongBasket
          Samples.basket.params =
        [⟨some "items", "Validation error: required", .missing⟩,
          ⟨some "total", "Validation error: not a decimal",
            .invalid⟩] := by
  have hUnites :=
    Engine.unites .standard Samples.basket Samples.wrongBasket
      Samples.basket_built
  refine ⟨Samples.basket_built, hUnites, hUnites.failing ?_, rfl⟩
  exact ⟨_, List.mem_cons_self, rfl⟩

end Intake
