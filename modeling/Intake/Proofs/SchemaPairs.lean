import Intake.Proofs.Building
import Intake.Validation

/-
  This file compares two schemas of the same form.  Such schemas
  have the same names, declared types, sources and defaults in
  the same places of their trees.  A variation says how they may
  differ in everything else.

  Key definitions include:
    * `TypeExpr.Matches`
    * `Variation`
    * `Schema.Matches`
    * `Resolved.Matches`

  What building makes of such schemas is of the same form:
    * `TypeExpr.Matches.resolve`
    * `Parameter.Matches.resolved`
    * `Parameter.Matches.effective_eq`
-/

namespace Intake

------------------------------------------------------------
-- Schemas of the Same Form
------------------------------------------------------------

variable {S T : Type}

/- Declared types of the same form that refer to related schemas. -/
inductive TypeExpr.Matches
    (R : S → T → Prop) :
    TypeExpr S → TypeExpr T → Prop where
  | scalar (name : String) : Matches R (.scalar name) (.scalar name)
  | arrayOf
      {element : TypeExpr S}
      {other : TypeExpr T}
      (elements : Matches R element other) :
      Matches R (.arrayOf element) (.arrayOf other)
  | nested
      {schema : S}
      {other : T}
      (schemas : R schema other) :
      Matches R (.nested schema) (.nested other)
  | arrayOfNested
      {schema : S}
      {other : T}
      (schemas : R schema other) :
      Matches R (.arrayOfNested schema) (.arrayOfNested other)

/-
  How two schemas of the same form may differ: in their tables
  of types, in what their parameters have besides a name, a
  type, a source and a default, and in the checks of the whole
  schema.
-/
structure Variation where
  types : TypeTable → TypeTable → Prop
  param : Parameter Schema → Parameter Schema → Prop
  globals : List GlobalCheck → List GlobalCheck → Prop

mutual

/-
  Schemas of the same form that differ as allowed, and the
  schemas below them as well.
-/
inductive Schema.Matches
    (allowed : Variation) :
    Schema → Schema → Prop where
  | intro
      {schema other : Schema}
      (name : schema.name = other.name)
      (keyPolicy : schema.keyPolicy = other.keyPolicy)
      (types : allowed.types schema.types other.types)
      (globals : allowed.globals schema.globals other.globals)
      (params :
        List.Forall₂ (Parameter.Matches allowed)
          schema.params other.params) :
      Schema.Matches allowed schema other

/- Parameters of the same form that differ as allowed. -/
inductive Parameter.Matches
    (allowed : Variation) :
    Parameter Schema → Parameter Schema → Prop where
  | intro
      {param other : Parameter Schema}
      (name : param.name = other.name)
      (type : param.type.Matches (Schema.Matches allowed) other.type)
      (source : param.source = other.source)
      (default : param.default = other.default)
      (rules : allowed.param param other) :
      Parameter.Matches allowed param other

end

------------------------------------------------------------
-- Resolved Types of the Same Form
------------------------------------------------------------

/-
  Resolved types of the same form with related coercers, or
  with related schemas.
-/
inductive Resolved.Matches
    (C : Coercer → Coercer → Prop)
    (R : S → T → Prop) :
    Resolved S → Resolved T → Prop where
  | coerced
      {name name' : String}
      {coerce other : Coercer}
      (coercers : C coerce other) :
      Matches C R (.coerced name coerce) (.coerced name' other)
  | nested
      {schema : S}
      {other : T}
      (schemas : R schema other) :
      Matches C R (.nested schema) (.nested other)
  | nestedList
      {schema : S}
      {other : T}
      (schemas : R schema other) :
      Matches C R (.nestedList schema) (.nestedList other)

/- To weaken the relation, the schemas may be taken from the types. -/
theorem Resolved.Matches.imp
    {C : Coercer → Coercer → Prop}
    {R Q : S → T → Prop}
    {resolved : Resolved S}
    {resolved' : Resolved T}
    (hMatches : resolved.Matches C R resolved')
    (hImp :
      ∀ schema other, resolved.schema? = some schema →
        resolved'.schema? = some other → R schema other →
          Q schema other) :
    resolved.Matches C Q resolved' := by
  cases hMatches with
  | coerced coercers => exact .coerced coercers
  | nested schemas => exact .nested (hImp _ _ rfl rfl schemas)
  | nestedList schemas => exact .nestedList (hImp _ _ rfl rfl schemas)

/-
  Tables with related coercers under every name that both have,
  by a relation that passes on to the coercers of lists.
-/
structure TypeTable.Matches
    (C : Coercer → Coercer → Prop)
    (types others : TypeTable) : Prop where
  scalar :
    ∀ name coerce other, types.scalar? name = some coerce →
      others.scalar? name = some other → C coerce other
  list :
    ∀ coerce other : Coercer, C coerce other →
      C coerce.listOf other.listOf

/-
  Declared types of the same form resolve to types of the same
  form.  The cases are those of the resolution of the first
  type; arrays of arrays resolve their elements first.
-/
theorem TypeExpr.Matches.resolve
    {C : Coercer → Coercer → Prop}
    {R : Schema → Schema → Prop}
    {types others : TypeTable}
    (hTypes : types.Matches C others)
    {type type' : TypeExpr Schema}
    (hMatches : type.Matches R type')
    {resolved resolved' : Resolved Schema}
    (hResolve : type.resolve types = .ok resolved)
    (hResolve' : type'.resolve others = .ok resolved') :
    resolved.Matches C R resolved' := by
  fun_induction TypeExpr.resolve types type
    generalizing type' resolved resolved' with
  | case1 name =>
      cases hMatches
      rcases TypeExpr.exists_scalar?_of_resolve hResolve with
        ⟨coerce, hFound, rfl⟩
      rcases TypeExpr.exists_scalar?_of_resolve hResolve' with
        ⟨other, hFound', rfl⟩
      exact .coerced (hTypes.scalar name coerce other hFound hFound')
  | case2 schema =>
      cases hMatches with
      | nested schemas =>
          cases hResolve
          cases hResolve'
          exact .nested schemas
  | case3 schema =>
      cases hMatches with
      | arrayOfNested schemas =>
          cases hResolve
          cases hResolve'
          exact .nestedList schemas
  | case4 name =>
      cases hMatches with
      | arrayOf elements =>
      cases elements
      rcases TypeExpr.exists_scalar?_of_resolve_arrayOf hResolve with
        ⟨item, hItem, rfl⟩
      rcases TypeExpr.exists_scalar?_of_resolve_arrayOf hResolve' with
        ⟨item', hItem', rfl⟩
      have hItems := hTypes.scalar name item item' hItem hItem'
      exact .coerced (hTypes.list item item' hItems)
  | case5 schema =>
      cases hMatches with
      | arrayOf elements =>
      cases elements with
      | nested schemas =>
          cases hResolve
          cases hResolve'
          exact .nestedList schemas
  | case8 element name coerce hElement ih =>
      cases hResolve
      cases hMatches with
      | arrayOf elements =>
      have hInner := elements
      cases elements
      rw [TypeExpr.resolve] at hResolve'
      split at hResolve'
      · cases hResolve'
      · next other hOther =>
          cases hResolve'
          cases ih hInner hElement hOther with
          | coerced coercers =>
              exact .coerced (hTypes.list _ _ coercers)
      · cases hResolve'
  | case6 schema | case7 element e hElement ih
  | case9 element other hOther hElement ih => cases hResolve

/-
  Parameters of schemas that were built have resolved types of
  the same form.  The schemas that they refer to were built as
  well, and are related by whatever follows from this.
-/
theorem Parameter.Matches.resolved
    {C : Coercer → Coercer → Prop}
    {Q : Schema → Schema → Prop}
    {allowed : Variation}
    {schema other : Schema}
    (hBuilt : schema.Built)
    (hBuilt' : other.Built)
    (hTypes : schema.types.Matches C other.types)
    {param param' : Parameter Schema}
    (hParam : param ∈ schema.params)
    (hParam' : param' ∈ other.params)
    (hMatches : param.Matches allowed param')
    (hBelow :
      ∀ below below', param.resolved.schema? = some below →
        below.Built → below'.Built → below.Matches allowed below' →
          Q below below') :
    param.resolved.Matches C Q param'.resolved := by
  have hResolved :
      param.resolved.Matches C (Schema.Matches allowed)
        param'.resolved := by
    cases hMatches with
    | intro name type source default rules =>
        exact
          type.resolve hTypes (hBuilt.resolve_type hParam)
            (hBuilt'.resolve_type hParam')
  apply hResolved.imp
  intro below below' hFound hFound' hMatches
  exact
    hBelow below below' hFound (hBuilt.child hParam hFound)
      (hBuilt'.child hParam' hFound') hMatches

/- Parameters of the same form have the same effective data. -/
theorem Parameter.Matches.effective_eq
    {allowed : Variation}
    {param other : Parameter Schema}
    (hMatches : param.Matches allowed other)
    (input : Input) :
    param.effective input = other.effective input := by
  cases hMatches with
  | intro name type source default rules =>
      unfold Parameter.effective
      rw [name, source, default]

end Intake
