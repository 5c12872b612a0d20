import Intake.Schema.Resolution

/-
  This file treats schemas as finite trees.  The schemas
  directly below a schema are those that its parameters refer
  to, as one object or as an array of objects.

  Key definitions include:
    * `TypeExpr.schema?`
    * `Resolved.schema?`
    * `Schema.Throughout`

  What holds of a schema if it holds of the schemas below it
  holds of every schema:
    * `Schema.induction`
-/

namespace Intake

------------------------------------------------------------
-- References
------------------------------------------------------------

/- The schema that a declared type refers to, under any arrays. -/
def TypeExpr.schema? : TypeExpr S → Option S
  | .scalar _ => none
  | .arrayOf element => element.schema?
  | .nested schema => some schema
  | .arrayOfNested schema => some schema

/- The schema that a resolved type refers to. -/
def Resolved.schema? : Resolved S → Option S
  | .coerced _ _ => none
  | .nested schema => some schema
  | .nestedList schema => some schema

/-
  A declared type resolves to a coercer if it refers to no
  schema, and else to one object or to an array of objects.
-/
theorem TypeExpr.resolve_cases
    (types : TypeTable)
    (type : TypeExpr Schema)
    {resolved : Resolved Schema}
    (hResolve : type.resolve types = .ok resolved) :
    (∃ coerce, type.schema? = none ∧
      resolved = .coerced type.write coerce) ∨
    (∃ schema, type = .nested schema ∧
      resolved = .nested schema) ∨
    (∃ schema,
      (type = .arrayOfNested schema ∨
        type = .arrayOf (.nested schema)) ∧
      resolved = .nestedList schema) := by
  fun_induction TypeExpr.resolve types type
    generalizing resolved with
  | case1 name =>
      rcases exists_scalar?_of_resolve hResolve with ⟨coerce, _, rfl⟩
      exact Or.inl ⟨coerce, rfl, rfl⟩
  | case4 name =>
      rcases exists_scalar?_of_resolve_arrayOf hResolve with
        ⟨coerce, _, rfl⟩
      exact Or.inl ⟨coerce.listOf, rfl, rfl⟩
  | case2 schema =>
      cases hResolve
      exact Or.inr (Or.inl ⟨schema, rfl, rfl⟩)
  | case3 schema =>
      cases hResolve
      exact Or.inr (Or.inr ⟨schema, Or.inl rfl, rfl⟩)
  | case5 schema =>
      cases hResolve
      exact Or.inr (Or.inr ⟨schema, Or.inr rfl, rfl⟩)
  | case8 element name coerce hElement ih =>
      cases hResolve
      rcases ih hElement with ⟨_, hNone, _⟩ | ⟨_, _, hSame⟩ |
        ⟨_, _, hSame⟩
      · exact Or.inl ⟨coerce.listOf, hNone, rfl⟩
      · cases hSame
      · cases hSame
  | case6 schema | case7 element e hElement ih
  | case9 element other hOther hElement ih => cases hResolve

/-
  A type that resolves to a coercer is a type of the table
  under any number of arrays, so what holds of these types and
  is kept by arrays holds of it.
-/
@[elab_as_elim]
theorem TypeExpr.coercer_induction
    {types : TypeTable}
    {motive : TypeExpr Schema → Coercer → Prop}
    (scalar :
      ∀ name coerce, types.scalar? name = some coerce →
        motive (.scalar name) coerce)
    (array :
      ∀ element coerce, (∀ schema, element ≠ .nested schema) →
        motive element coerce →
          motive (.arrayOf element) coerce.listOf)
    (type : TypeExpr Schema)
    (coerce : Coercer)
    {name : String}
    (hResolve : type.resolve types = .ok (.coerced name coerce)) :
    motive type coerce := by
  fun_induction TypeExpr.resolve types type
    generalizing name coerce with
  | case1 typeName =>
      rcases exists_scalar?_of_resolve hResolve with
        ⟨found, hFound, hSame⟩
      cases hSame
      exact scalar typeName coerce hFound
  | case4 typeName =>
      rcases exists_scalar?_of_resolve_arrayOf hResolve with
        ⟨item, hItem, hSame⟩
      cases hSame
      exact array _ item nofun (scalar typeName item hItem)
  | case8 element elementName inner hElement ih =>
      cases hResolve
      exact array _ inner nofun (ih inner hElement)
  | case2 schema | case3 schema | case5 schema | case6 schema
  | case7 element e hElement ih
  | case9 element other hOther hElement ih => cases hResolve

/- Resolution keeps the reference of a declared type. -/
theorem TypeExpr.schema?_resolve
    (types : TypeTable)
    (type : TypeExpr Schema)
    {resolved : Resolved Schema}
    (hResolve : type.resolve types = .ok resolved) :
    resolved.schema? = type.schema? := by
  rcases type.resolve_cases types hResolve with
    ⟨_, hNone, rfl⟩ | ⟨_, rfl, rfl⟩ | ⟨_, rfl | rfl, rfl⟩
  · rw [hNone]
    rfl
  · rfl
  · rfl
  · rfl

------------------------------------------------------------
-- Induction on Schemas
------------------------------------------------------------

namespace Schema

/- A schema is smaller than one whose parameter refers to it. -/
theorem sizeOf_lt_of_schema?
    {schema below : Schema}
    {param : Parameter Schema}
    (hParam : param ∈ schema.params)
    (hBelow : param.resolved.schema? = some below) :
    sizeOf below < sizeOf schema := by
  have hSize := List.sizeOf_lt_of_mem hParam
  rcases schema with ⟨name, params, types, globals, policy⟩
  rcases param with ⟨_, type, resolved, _, _, _, _⟩
  cases resolved with
  | coerced typeName coerce => cases hBelow
  | nested schema =>
      cases hBelow
      simp at hSize ⊢
      omega
  | nestedList schema =>
      cases hBelow
      simp at hSize ⊢
      omega

/-
  To prove a property of every schema, it may be assumed for
  the schemas that its parameters refer to.
-/
@[elab_as_elim]
theorem induction
    {motive : Schema → Prop}
    (step :
      ∀ schema : Schema,
        (∀ param ∈ schema.params, ∀ below,
          param.resolved.schema? = some below → motive below) →
        motive schema)
    (schema : Schema) :
    motive schema :=
  step schema fun _ _ below _ => induction step below
termination_by sizeOf schema
decreasing_by exact sizeOf_lt_of_schema? ‹_› ‹_›

------------------------------------------------------------
-- Properties of Whole Trees
------------------------------------------------------------

/- A property of a schema and of every schema below it. -/
inductive Throughout (P : Schema → Prop) : Schema → Prop where
  | intro
      {schema : Schema}
      (here : P schema)
      (below :
        ∀ param ∈ schema.params, ∀ child,
          param.resolved.schema? = some child →
            Throughout P child) :
      Throughout P schema

namespace Throughout

variable {P Q : Schema → Prop}
variable {schema : Schema}

/- The property of the schema itself. -/
theorem root
    (h : schema.Throughout P) :
    P schema := by
  cases h with
  | intro here _ => exact here

/-
  The property goes down to the schemas that parameters refer
  to.
-/
theorem child
    (h : schema.Throughout P)
    {param : Parameter Schema}
    (hParam : param ∈ schema.params)
    {below : Schema}
    (hBelow : param.resolved.schema? = some below) :
    below.Throughout P := by
  cases h with
  | intro _ hChildren => exact hChildren param hParam below hBelow

end Throughout

end Schema

end Intake
