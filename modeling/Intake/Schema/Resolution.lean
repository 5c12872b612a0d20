import Intake.Schema

/-
  This file writes declared types and resolves them in a table
  of types.

  Key definitions include:
    * `TypeExpr.write`
    * `Resolved.name`
    * `TypeError`
    * `TypeExpr.resolve`

  What a scalar and an array of scalars resolve to is shown by:
    * `TypeExpr.resolve_scalar`
    * `TypeExpr.resolve_arrayOf_scalar`
-/

namespace Intake

------------------------------------------------------------
-- Names
------------------------------------------------------------

/- The text of a declared type. -/
def TypeExpr.write : TypeExpr Schema → String
  | .scalar name => name
  | .arrayOf element => "[" ++ element.write ++ "]"
  | .nested schema => "schema " ++ schema.name
  | .arrayOfNested schema => "[schema " ++ schema.name ++ "]"

/- The name of a resolved type. -/
def Resolved.name : Resolved Schema → String
  | .coerced name _ => name
  | .nested schema => "schema " ++ schema.name
  | .nestedList schema => "[schema " ++ schema.name ++ "]"

------------------------------------------------------------
-- Resolution
------------------------------------------------------------

/- Why a declared type has no meaning. -/
inductive TypeError where
  | unknown (typeName : String)
  | unsupported (typeName : String)
deriving DecidableEq

/- A meaning that a declared type may lack. -/
def TypeExpr.orUnknown
    (type : TypeExpr Schema) :
    Option (Resolved Schema) → Except TypeError (Resolved Schema)
  | some resolved => .ok resolved
  | none => .error (.unknown type.write)

/-
  The meaning of a declared type.  A scalar has the name of its
  definition.  Arrays of scalars may be nested to any depth,
  arrays of objects may not.
-/
def TypeExpr.resolve
    (types : TypeTable) :
    TypeExpr Schema → Except TypeError (Resolved Schema)
  | .scalar name =>
      (TypeExpr.scalar name).orUnknown
        ((types.lookup? name).map fun definition =>
          .coerced definition.name definition.coerce)
  | .nested schema => .ok (.nested schema)
  | .arrayOfNested schema => .ok (.nestedList schema)
  | .arrayOf (.scalar name) =>
      (TypeExpr.arrayOf (.scalar name)).orUnknown
        ((types.lookup? name).map fun definition =>
          .coerced (TypeExpr.arrayOf (.scalar name)).write
            definition.coerceList)
  | .arrayOf (.nested schema) => .ok (.nestedList schema)
  | .arrayOf (.arrayOfNested schema) =>
      .error (.unsupported (TypeExpr.arrayOf (.arrayOfNested schema)).write)
  | .arrayOf (.arrayOf element) =>
      match resolve types (.arrayOf element) with
      | .error e => .error e
      | .ok (.coerced _ coerce) =>
          .ok (.coerced (TypeExpr.arrayOf (.arrayOf element)).write
            coerce.listOf)
      | .ok _ =>
          .error (.unsupported (TypeExpr.arrayOf (.arrayOf element)).write)

namespace TypeExpr

/- A declared type has a meaning if it is not unknown. -/
theorem orUnknown_eq_ok_iff
    {type : TypeExpr Schema}
    {found : Option (Resolved Schema)}
    {resolved : Resolved Schema} :
    type.orUnknown found = .ok resolved ↔ found = some resolved := by
  cases found <;> simp [orUnknown]

section Scalars

variable {types : TypeTable}
variable {name : String}
variable {resolved : Resolved Schema}

/-
  A type of the table resolves to its coercer under the declared
  name, since it is found under its own name.
-/
theorem resolve_scalar :
    (TypeExpr.scalar name).resolve types =
      (TypeExpr.scalar name).orUnknown
        ((types.scalar? name).map (.coerced name)) := by
  rw [resolve, TypeTable.scalar?, Option.map_map]
  congr 1
  cases hFound : types.lookup? name with
  | none => rfl
  | some definition =>
      rw [Option.map_some, Option.map_some, types.name_of_lookup? hFound]
      rfl

/- An array of a type of the table resolves to its coercer of lists. -/
theorem resolve_arrayOf_scalar :
    (TypeExpr.arrayOf (.scalar name)).resolve types =
      (TypeExpr.arrayOf (.scalar name)).orUnknown
        ((types.list? name).map
          (.coerced (TypeExpr.arrayOf (.scalar name)).write)) := by
  rw [resolve, TypeTable.list?, Option.map_map]
  rfl

/- A scalar has a meaning only if the table has a coercer. -/
theorem exists_scalar?_of_resolve
    (hResolve : (TypeExpr.scalar name).resolve types = .ok resolved) :
    ∃ coerce, types.scalar? name = some coerce ∧
      resolved = .coerced name coerce := by
  rw [resolve_scalar, orUnknown_eq_ok_iff, Option.map_eq_some_iff]
    at hResolve
  rcases hResolve with ⟨coerce, hFound, rfl⟩
  exact ⟨coerce, hFound, rfl⟩

/- So has an array of a scalar, which has the coercer of lists. -/
theorem exists_scalar?_of_resolve_arrayOf
    (hResolve :
      (TypeExpr.arrayOf (.scalar name)).resolve types = .ok resolved) :
    ∃ coerce, types.scalar? name = some coerce ∧
      resolved =
        .coerced (TypeExpr.arrayOf (.scalar name)).write
          coerce.listOf := by
  rw [resolve_arrayOf_scalar, orUnknown_eq_ok_iff,
    TypeTable.list?_eq_map, Option.map_map, Option.map_eq_some_iff]
    at hResolve
  rcases hResolve with ⟨coerce, hFound, rfl⟩
  exact ⟨coerce, hFound, rfl⟩

end Scalars

end TypeExpr

end Intake
