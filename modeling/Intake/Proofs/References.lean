import Intake.Proofs.Running
import Intake.Proofs.SchemaTree

/-
  This file puts other schemas in place of those that a schema
  refers to.  A run does not notice the exchange as long as the
  other schemas give the same results on the objects that they
  are run on.

  Key definitions include:
    * `Resolved.map`
    * `Schema.mapBelow`

  The main statements are:
    * `Parameter.resolve_congr`
    * `Schema.run_congr`
    * `Resolved.coerce_map`
    * `Schema.run_mapBelow`
-/

namespace Intake

------------------------------------------------------------
-- Other Schemas in Place of References
------------------------------------------------------------

variable {S T : Type}

/- A declared type that refers to other schemas. -/
def TypeExpr.map
    (change : S → T) : TypeExpr S → TypeExpr T
  | .scalar name => .scalar name
  | .arrayOf element => .arrayOf (element.map change)
  | .nested schema => .nested (change schema)
  | .arrayOfNested schema => .arrayOfNested (change schema)

/- A resolved type that refers to other schemas. -/
def Resolved.map
    (change : S → T) : Resolved S → Resolved T
  | .coerced name coerce => .coerced name coerce
  | .nested schema => .nested (change schema)
  | .nestedList schema => .nestedList (change schema)

/- A parameter whose type refers to other schemas. -/
def Parameter.map
    (change : S → T)
    (param : Parameter S) : Parameter T :=
  { name := param.name
    type := param.type.map change
    resolved := param.resolved.map change
    required := param.required
    source := param.source
    default := param.default
    check := param.check }

/- The schema with other schemas directly below it. -/
def Schema.mapBelow
    (change : Schema → Schema)
    (schema : Schema) : Schema :=
  { schema with params := schema.params.map (Parameter.map change) }

------------------------------------------------------------
-- Runs That Agree
------------------------------------------------------------

/-
  Parameters have the same result if the same data is coerced
  to the same result, and is required and checked in the same
  way.
-/
theorem Parameter.resolve_congr
    {limit depth limit' depth' : Nat}
    {param other : Parameter Schema}
    {input input' : Input}
    (hEffective : param.effective input = other.effective input')
    (hRequired : param.required = other.required)
    (hCheck : param.check = other.check)
    (hCoerce :
      param.resolved.coerce limit depth (param.effective input) =
        other.resolved.coerce limit' depth' (param.effective input)) :
    param.resolve limit depth input =
      other.resolve limit' depth' input' := by
  have hAdmit : param.admit = other.admit := by
    funext v
    unfold Parameter.admit
    rw [hCheck]
  rw [resolve_eq, resolve_eq, hCoerce, hEffective, hRequired, hAdmit]

/-
  Runs agree if the parameters have the same names and the same
  results, in order, and the checks of the schemas are the
  same.
-/
theorem Schema.run_congr
    {limit depth limit' depth' : Nat}
    {schema other : Schema}
    {input input' : Input}
    (hParams :
      List.Forall₂
        (fun param param' =>
          param.name = param'.name ∧
            param.resolve limit depth input =
              param'.resolve limit' depth' input')
        schema.params other.params)
    (hGlobals : schema.globals = other.globals) :
    schema.run limit depth input = other.run limit' depth' input' := by
  have hResults :
      (schema.params.map fun param =>
          (param.name, param.resolve limit depth input)) =
        other.params.map fun param =>
          (param.name, param.resolve limit' depth' input') := by
    apply map_eq_map_of_forall₂ hParams
    rintro param param' ⟨hName, hResolve⟩
    rw [hName, hResolve]
  rw [Schema.run_eq, Schema.run_eq, hResults, hGlobals]

/-
  Other schemas below coerce to the same result, if they run
  in the same way one level deeper, as far as this level is
  allowed.
-/
theorem Resolved.coerce_map
    {limit depth : Nat}
    {change : Schema → Schema}
    (resolved : Resolved Schema)
    (hBelow :
      ∀ schema, resolved.schema? = some schema → depth + 1 ≤ limit →
        ∀ fields,
          (change schema).runBelow limit depth fields =
            schema.runBelow limit depth fields)
    (raw : Raw) :
    (resolved.map change).coerce limit depth raw =
      resolved.coerce limit depth raw := by
  cases resolved with
  | coerced name coerce => rfl
  | nested schema =>
      cases raw with
      | object fields =>
          rw [Resolved.map, Resolved.coerce, Resolved.coerce]
          split
          · rfl
          · next hDepth =>
              have hRun :=
                hBelow schema rfl (Nat.not_lt.mp hDepth) fields
              rw [Schema.runBelow, Schema.runBelow] at hRun
              rw [hRun]
      | null | bool | number | string | array =>
          simp only [Resolved.map, Resolved.coerce]
  | nestedList schema =>
      cases raw with
      | array items =>
          rw [Resolved.map, Resolved.coerce, Resolved.coerce]
          split
          · rfl
          · next hDepth =>
              have hRun :
                  (change schema).runBelow limit depth =
                    schema.runBelow limit depth := by
                funext fields
                exact hBelow schema rfl (Nat.not_lt.mp hDepth) fields
              unfold Schema.runBelow at hRun
              rw [hRun]
      | null | bool | number | string | object =>
          simp only [Resolved.map, Resolved.coerce]

/-
  A parameter has the same result with other schemas below, if
  these run in the same way one level deeper, as far as this
  level is allowed.
-/
theorem Parameter.resolve_map
    {limit depth : Nat}
    {change : Schema → Schema}
    (param : Parameter Schema)
    (hBelow :
      ∀ schema, param.resolved.schema? = some schema →
        depth + 1 ≤ limit → ∀ fields,
          (change schema).runBelow limit depth fields =
            schema.runBelow limit depth fields)
    (input : Input) :
    (param.map change).resolve limit depth input =
      param.resolve limit depth input := by
  have hCoerce :=
    param.resolved.coerce_map hBelow (param.effective input)
  exact resolve_congr rfl rfl rfl hCoerce

/-
  A run is the same with other schemas below, if these run in
  the same way one level deeper, as far as this level is
  allowed.
-/
theorem Schema.run_mapBelow
    {limit depth : Nat}
    {change : Schema → Schema}
    (schema : Schema)
    (hBelow :
      ∀ param ∈ schema.params, ∀ below,
        param.resolved.schema? = some below → depth + 1 ≤ limit →
          ∀ fields,
            (change below).runBelow limit depth fields =
              below.runBelow limit depth fields)
    (input : Input) :
    (schema.mapBelow change).run limit depth input =
      schema.run limit depth input := by
  apply Schema.run_congr
  · rw [Schema.mapBelow, List.forall₂_map_left_iff,
      List.forall₂_same]
    intro param hParam
    exact ⟨rfl, param.resolve_map (hBelow param hParam) input⟩
  · rfl

end Intake
