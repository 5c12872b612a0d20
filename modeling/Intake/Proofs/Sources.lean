import Intake.Proofs.Building
import Intake.Proofs.Effective
import Intake.Proofs.References

/-
  This file shows that the sources of parameters mean nothing
  below the outermost schema.  The input of a nested schema has
  one bucket, which serves every source, so schemas that differ
  in nothing but the sources of nested parameters validate in
  the same way.

  Key definitions include:
    * `Schema.withoutSources`
    * `Schema.SameButSourcesBelow`

  The main statements are:
    * `Parameter.effective_source`
    * `Schema.run_withoutSources`
    * `Engine.validate_of_sameButSourcesBelow`
-/

namespace Intake

------------------------------------------------------------
-- Schemas without Sources
------------------------------------------------------------

mutual

/-
  A schema whose parameters are all read from the unified
  bucket, and those of the schemas below it as well.
-/
def Schema.withoutSources : Schema → Schema
  | ⟨name, params, types, globals, policy⟩ =>
      ⟨name, paramsWithoutSources params, types, globals, policy⟩

/- Parameters that are all read from the unified bucket. -/
def paramsWithoutSources :
    List (Parameter Schema) → List (Parameter Schema)
  | [] => []
  | param :: rest => param.withoutSource :: paramsWithoutSources rest

/- A parameter that is read from the unified bucket. -/
def Parameter.withoutSource :
    Parameter Schema → Parameter Schema
  | ⟨name, type, resolved, required, _, default, check⟩ =>
      ⟨name, type.withoutSources, resolved.withoutSources, required,
        .auto, default, check⟩

/- A declared type that refers to schemas without sources. -/
def TypeExpr.withoutSources :
    TypeExpr Schema → TypeExpr Schema
  | .scalar name => .scalar name
  | .arrayOf element => .arrayOf element.withoutSources
  | .nested schema => .nested schema.withoutSources
  | .arrayOfNested schema => .arrayOfNested schema.withoutSources

/- A resolved type that refers to schemas without sources. -/
def Resolved.withoutSources :
    Resolved Schema → Resolved Schema
  | .coerced name coerce => .coerced name coerce
  | .nested schema => .nested schema.withoutSources
  | .nestedList schema => .nestedList schema.withoutSources

end

/-
  Schemas that are the same but for the sources of parameters
  below their own.  Their own parameters have the same sources.
-/
def Schema.SameButSourcesBelow
    (first second : Schema) : Prop :=
  first.mapBelow .withoutSources = second.mapBelow .withoutSources

/- Parameters lose their sources one by one. -/
theorem paramsWithoutSources_eq_map
    (params : List (Parameter Schema)) :
    paramsWithoutSources params =
      params.map Parameter.withoutSource := by
  induction params with
  | nil => rfl
  | cons param rest ih =>
      rw [paramsWithoutSources, ih, List.map_cons]

/- Nothing but the parameters of a schema has to do with sources. -/
theorem Schema.withoutSources_eq
    (schema : Schema) :
    schema.withoutSources =
      { schema with
        params := schema.params.map Parameter.withoutSource } := by
  rcases schema with ⟨name, params, types, globals, policy⟩
  rw [Schema.withoutSources, paramsWithoutSources_eq_map]

/- A declared type refers to schemas without sources instead. -/
theorem TypeExpr.withoutSources_eq_map
    (type : TypeExpr Schema) :
    type.withoutSources = type.map .withoutSources := by
  induction type with
  | scalar name => rfl
  | arrayOf element ih =>
      rw [TypeExpr.withoutSources, ih, TypeExpr.map]
  | nested schema => rfl
  | arrayOfNested schema => rfl

/-
  A parameter loses its source and refers to schemas without
  sources instead.
-/
theorem Parameter.withoutSource_eq
    (param : Parameter Schema) :
    param.withoutSource =
      { param.map .withoutSources with source := .auto } := by
  rcases param with
    ⟨name, type, resolved, required, source, default, check⟩
  rw [Parameter.withoutSource, TypeExpr.withoutSources_eq_map]
  cases resolved <;> rfl

------------------------------------------------------------
-- Runs on Nested Inputs
------------------------------------------------------------

/- Every source of a nested input reads the same bucket. -/
theorem Input.bucket_of_isNested
    {input : Input}
    (hNested : input.isNested = true)
    (source : Source) :
    input.bucket source = input.auto :=
  if_pos hNested

/-
  The source of a parameter has no effect on a nested input.
  A default that reads the input gets the same input.
-/
theorem Parameter.effective_source
    (param : Parameter Schema)
    (source : Source)
    {input : Input}
    (hNested : input.isNested = true) :
    Parameter.effective { param with source := source } input =
      param.effective input := by
  unfold Parameter.effective Input.fetch?
  simp only [Input.bucket_of_isNested hNested]

/- The source of a parameter has no effect on its result there. -/
theorem Parameter.resolve_source
    {limit depth : Nat}
    (param : Parameter Schema)
    (source : Source)
    {input : Input}
    (hNested : input.isNested = true) :
    Parameter.resolve limit depth { param with source := source }
        input =
      param.resolve limit depth input :=
  resolve_congr (param.effective_source source hNested) rfl rfl rfl

/-
  On a nested input, a schema without sources runs as the
  schema does.  The induction is on the tree of schemas, since
  the schemas below have lost their sources as well.
-/
theorem Schema.run_withoutSources
    (schema : Schema)
    (limit depth : Nat)
    {input : Input}
    (hNested : input.isNested = true) :
    schema.withoutSources.run limit depth input =
      schema.run limit depth input := by
  induction schema using Schema.induction
    generalizing depth input with
  | step schema ih =>
      rw [Schema.withoutSources_eq]
      apply Schema.run_congr
      · rw [List.forall₂_map_left_iff, List.forall₂_same]
        intro param hParam
        rw [Parameter.withoutSource_eq]
        refine ⟨rfl, ?_⟩
        rw [Parameter.resolve_source _ _ hNested]
        apply param.resolve_map
        intro below hBelow _ fields
        exact ih param hParam below hBelow (depth + 1) rfl
      · rfl

/-
  On any input, a schema runs in the same way if the schemas
  below it lose their sources.
-/
theorem Schema.run_mapBelow_withoutSources
    (schema : Schema)
    (limit depth : Nat)
    (input : Input) :
    (schema.mapBelow .withoutSources).run limit depth input =
      schema.run limit depth input := by
  apply schema.run_mapBelow
  intro param _ below _ _ fields
  exact below.run_withoutSources limit (depth + 1) rfl

------------------------------------------------------------
-- Outcomes
------------------------------------------------------------

/-
  Schemas that are the same but for the sources of parameters
  below their own have the same outcome for every input.
-/
theorem Engine.validate_of_sameButSourcesBelow
    (engine : Engine)
    (first second : Schema)
    (hSame : first.SameButSourcesBelow second)
    (input : Input) :
    engine.validate first input = engine.validate second input := by
  unfold validate
  rw [← first.run_mapBelow_withoutSources, hSame,
    second.run_mapBelow_withoutSources]

namespace Samples

/-
  A note whose title is read from a source, and which else has
  the subject that the body of the input has.
-/
def noteDraft
    (source : Source) : SchemaDraft :=
  { SchemaDraft.ofName "note" with
    params :=
      [{ ParameterDraft.ofType "title" (.scalar "string") with
          required := true
          source := source
          default :=
            .unary fun input =>
              (input.fetch? .body "subject").getD .null }] }

/- A folder of notes in its body, with a note as cover. -/
def folderDraft
    (source : Source) : SchemaDraft :=
  { SchemaDraft.ofName "folder" with
    params :=
      [{ ParameterDraft.ofType "notes"
            (.arrayOfNested (noteDraft source).assembled) with
          source := .body },
        { ParameterDraft.ofType "cover"
            (.nested (noteDraft source).assembled) with
          source := .body }] }

/- A folder with two notes, of which one has a subject only. -/
def filledFolder : Input :=
  Input.empty.withBucket .body
    [("notes",
        .array
          [.object [("title", .string "a")],
            .object [("subject", .string "b")]]),
      ("cover", .object [("subject", .string "c")])]

end Samples

/-
  Folders validate in the same way, whether the titles of their
  notes are read from the path or from the query.
-/
theorem Engine.folder_sources :
    (Samples.folderDraft .path).assembled.SameButSourcesBelow
        (Samples.folderDraft .query).assembled ∧
      (Samples.folderDraft .path).assembled ≠
        (Samples.folderDraft .query).assembled ∧
      Engine.standard.validate (Samples.folderDraft .path).assembled
          Samples.filledFolder =
        Engine.standard.validate (Samples.folderDraft .query).assembled
          Samples.filledFolder ∧
      Engine.standard.validate (Samples.folderDraft .query).assembled
          Samples.filledFolder =
        .valid
          [("notes",
              .list
                [.map [("title", .string "a")],
                  .map [("title", .string "b")]]),
            ("cover", .map [("title", .string "c")])] := by
  have hSame :
      (Samples.folderDraft .path).assembled.SameButSourcesBelow
        (Samples.folderDraft .query).assembled :=
    rfl
  refine
    ⟨hSame, ?_,
      Engine.validate_of_sameButSourcesBelow .standard _ _ hSame _, rfl⟩
  intro hEqual
  have hSources :=
    congrArg
      (fun schema : Schema =>
        schema.params.map fun param =>
          param.resolved.schema?.map fun below =>
            below.params.map Parameter.source)
      hEqual
  revert hSources
  decide

end Intake
