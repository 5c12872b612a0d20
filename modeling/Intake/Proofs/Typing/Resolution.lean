import Intake.Proofs.Declarations

/-
  This file says what every declared type resolves to, by the
  number of its arrays and by what stands under them.

  Arrays of scalars resolve at any depth if the scalar is
  defined.  Of objects there is one level of arrays only,
  however it is spelled: an array of the form of its own counts
  as an array of objects.

  Key definitions include:
    * `Coercer.nestedListOf`
    * `TypeExpr.IsCore`
    * `TypeExpr.underArrays`
    * `TypeExpr.IsArrays`
    * `TypeExpr.ResolvesByCore`

  The main statements are:
    * `TypeExpr.IsArrays.cases`
    * `TypeExpr.resolve_scalar_underArrays`
    * `TypeExpr.resolvesByCore`
-/

namespace Intake

/- The coercer of lists that are nested to a depth, with a coercer of items. -/
def Coercer.nestedListOf
    (coerce : Coercer) : Nat → Coercer
  | 0 => coerce
  | n + 1 => (coerce.nestedListOf n).listOf

namespace TypeExpr

------------------------------------------------------------
-- Arrays and What They Are Around
------------------------------------------------------------

variable {S : Type}

/- A declared type that is not written as an array of another. -/
def IsCore : TypeExpr S → Prop
  | .arrayOf _ => False
  | _ => True

/- A declared type under a number of arrays. -/
def underArrays
    (core : TypeExpr S) : Nat → TypeExpr S
  | 0 => core
  | n + 1 => .arrayOf (core.underArrays n)

/-
  A declared type is a number of arrays around another.  Each
  of them may be a plain array, or be made so that an array of
  objects gets the form of its own.
-/
inductive IsArrays
    (core : TypeExpr S) : Nat → TypeExpr S → Prop where
  | none : IsArrays core 0 core
  | arrayOf
      {n : Nat}
      {element : TypeExpr S}
      (elements : IsArrays core n element) :
      IsArrays core (n + 1) (.arrayOf element)
  | array
      {n : Nat}
      {element : TypeExpr S}
      (elements : IsArrays core n element) :
      IsArrays core (n + 1) element.array

/- The innermost array may be taken as part of what the others are around. -/
theorem underArrays_arrayOf
    (core : TypeExpr S)
    (n : Nat) :
    (TypeExpr.arrayOf core).underArrays n = core.underArrays (n + 1) := by
  induction n with
  | zero => rfl
  | succ n ih => exact congrArg TypeExpr.arrayOf ih

/- Every declared type is a number of arrays around a core. -/
theorem exists_underArrays
    (type : TypeExpr S) :
    ∃ n, ∃ core : TypeExpr S, core.IsCore ∧ type = core.underArrays n := by
  induction type with
  | scalar name => exact ⟨0, .scalar name, trivial, rfl⟩
  | nested schema => exact ⟨0, .nested schema, trivial, rfl⟩
  | arrayOfNested schema => exact ⟨0, .arrayOfNested schema, trivial, rfl⟩
  | arrayOf element ih =>
      rcases ih with ⟨n, core, hCore, rfl⟩
      exact ⟨n + 1, core, hCore, rfl⟩

/- Plain arrays are arrays. -/
theorem isArrays_underArrays
    (core : TypeExpr S)
    (n : Nat) :
    IsArrays core n (core.underArrays n) := by
  induction n with
  | zero => exact .none
  | succ n ih => exact .arrayOf ih

/-
  Arrays are spelled plainly, except that the innermost array of
  objects may have the form of its own.
-/
theorem IsArrays.cases
    {core type : TypeExpr S}
    {n : Nat}
    (hArrays : IsArrays core n type) :
    type = core.underArrays n ∨
      ∃ schema m, core = .nested schema ∧ n = m + 1 ∧
        type = (arrayOfNested schema).underArrays m := by
  induction hArrays with
  | none => exact Or.inl rfl
  | @arrayOf n element _ ih =>
      rcases ih with rfl | ⟨schema, m, rfl, rfl, rfl⟩
      · exact Or.inl rfl
      · exact Or.inr ⟨schema, m + 1, rfl, rfl, rfl⟩
  | @array n element _ ih =>
      rcases ih with rfl | ⟨schema, m, rfl, rfl, rfl⟩
      · cases n with
        | succ n => exact Or.inl rfl
        | zero =>
            cases core with
            | nested schema => exact Or.inr ⟨schema, 0, rfl, rfl, rfl⟩
            | scalar | arrayOf | arrayOfNested => exact Or.inl rfl
      · refine Or.inr ⟨schema, m + 1, rfl, rfl, ?_⟩
        cases m <;> rfl

/- Objects are the core only of plain arrays or of the other form. -/
theorem IsArrays.eq_underArrays
    {core type : TypeExpr S}
    {n : Nat}
    (hArrays : IsArrays core n type)
    (hOther : ∀ schema, core ≠ .nested schema) :
    type = core.underArrays n := by
  rcases hArrays.cases with hPlain | ⟨schema, _, hNested, _⟩
  · exact hPlain
  · exact absurd hNested (hOther schema)

------------------------------------------------------------
-- Texts
------------------------------------------------------------

/- The two forms of an array of objects have one text. -/
theorem write_arrayOf_nested
    (schema : Schema) :
    (TypeExpr.arrayOf (.nested schema)).write =
      (TypeExpr.arrayOfNested schema).write := by
  show "[" ++ ("schema " ++ schema.name) ++ "]" =
    "[schema " ++ schema.name ++ "]"
  rw [← String.append_assoc]
  rfl

/- So have they under more arrays. -/
theorem write_underArrays_nested
    (schema : Schema)
    (m : Nat) :
    ((TypeExpr.arrayOfNested schema).underArrays m).write =
      ((TypeExpr.nested schema).underArrays (m + 1)).write := by
  induction m with
  | zero => exact (write_arrayOf_nested schema).symm
  | succ m ih => exact congrArg (fun text => "[" ++ text ++ "]") ih

/- The text does not depend on how arrays are spelled. -/
theorem IsArrays.write_eq
    {core type : TypeExpr Schema}
    {n : Nat}
    (hArrays : IsArrays core n type) :
    type.write = (core.underArrays n).write := by
  rcases hArrays.cases with rfl | ⟨schema, m, rfl, rfl, rfl⟩
  · rfl
  · exact write_underArrays_nested schema m

/- A resolved type has the text of the declared one as its name. -/
theorem name_of_resolve
    {types : TypeTable}
    {type : TypeExpr Schema}
    {resolved : Resolved Schema}
    (hResolve : type.resolve types = .ok resolved) :
    resolved.name = type.write := by
  rcases type.resolve_cases types hResolve with
    ⟨coerce, _, rfl⟩ | ⟨schema, rfl, rfl⟩ | ⟨schema, rfl | rfl, rfl⟩
  · rfl
  · rfl
  · rfl
  · exact (write_arrayOf_nested schema).symm

------------------------------------------------------------
-- Resolution by the Core
------------------------------------------------------------

variable (types : TypeTable)

/-
  A scalar of the table resolves under any number of arrays, to
  its coercer made one of lists as often.
-/
theorem resolve_scalar_underArrays
    {name : String}
    {coerce : Coercer}
    (hFound : types.scalar? name = some coerce)
    (n : Nat) :
    ((TypeExpr.scalar name).underArrays n).resolve types =
      .ok (.coerced ((TypeExpr.scalar name).underArrays n).write
        (coerce.nestedListOf n)) := by
  induction n with
  | zero =>
      rw [underArrays, resolve_scalar, hFound]
      rfl
  | succ n ih =>
      cases n with
      | zero =>
          rw [underArrays, underArrays, resolve_arrayOf_scalar,
            TypeTable.list?_eq_map, hFound]
          rfl
      | succ n =>
          rw [underArrays] at ih
          rw [underArrays, underArrays, resolve, ih]
          rfl

/-
  A scalar that the table lacks resolves under no arrays.  The
  error names the innermost array, or the scalar by itself.
-/
theorem resolve_scalar_underArrays_of_none
    {name : String}
    (hNone : types.scalar? name = none)
    (n : Nat) :
    ((TypeExpr.scalar name).underArrays n).resolve types =
      .error
        (.unknown ((TypeExpr.scalar name).underArrays (min n 1)).write) := by
  induction n with
  | zero =>
      rw [underArrays, resolve_scalar, hNone]
      rfl
  | succ n ih =>
      cases n with
      | zero =>
          rw [underArrays, underArrays, resolve_arrayOf_scalar,
            TypeTable.list?_eq_map, hNone]
          rfl
      | succ n =>
          have hInner : min (n + 1) 1 = min (n + 1 + 1) 1 := by omega
          rw [underArrays, hInner] at ih
          rw [underArrays, underArrays, resolve, ih]

/-
  An array that is not supported is not supported under more
  arrays, and the error is the same.
-/
theorem resolve_underArrays_unsupported
    {element : TypeExpr Schema}
    {typeName : String}
    (hArray :
      (TypeExpr.arrayOf element).resolve types =
        .error (.unsupported typeName))
    (n : Nat) :
    (element.underArrays (n + 1)).resolve types =
      .error (.unsupported typeName) := by
  induction n with
  | zero => exact hArray
  | succ n ih =>
      rw [underArrays] at ih
      rw [underArrays, underArrays, resolve, ih]

/- Arrays of arrays of objects do not resolve, in either form. -/
theorem resolve_arrayOfNested_underArrays
    (schema : Schema)
    (n : Nat) :
    ((TypeExpr.arrayOfNested schema).underArrays (n + 1)).resolve types =
      .error
        (.unsupported ((TypeExpr.arrayOfNested schema).underArrays 1).write) :=
  resolve_underArrays_unsupported types rfl n

theorem resolve_nested_underArrays
    (schema : Schema)
    (n : Nat) :
    ((TypeExpr.nested schema).underArrays (n + 2)).resolve types =
      .error
        (.unsupported ((TypeExpr.nested schema).underArrays 2).write) := by
  rw [← underArrays_arrayOf]
  exact resolve_underArrays_unsupported types rfl n

/-
  How a declared type resolves.  Every type is a number of
  plain arrays around a core, and however the arrays around a
  type are spelled, their number and the type decide the
  outcome and the text.  Under any arrays, a scalar resolves to
  a coercer exactly if it is defined.  Objects resolve under no
  array or one, and an array of objects under none.  The name
  of what a type resolves to is the text of the type.
-/
structure ResolvesByCore
    (type : TypeExpr Schema) : Prop where
  shaped :
    ∃ n, ∃ core : TypeExpr Schema,
      core.IsCore ∧ IsArrays core n type ∧ type = core.underArrays n
  scalar :
    ∀ n name, IsArrays (.scalar name) n type →
      (types.contains name = true →
        ∃ coerce,
          type.resolve types = .ok (.coerced type.write coerce)) ∧
      (types.contains name = false →
        ∃ typeName, type.resolve types = .error (.unknown typeName))
  nested :
    ∀ n schema, IsArrays (.nested schema) n type →
      (n = 0 → type.resolve types = .ok (.nested schema)) ∧
      (n = 1 → type.resolve types = .ok (.nestedList schema)) ∧
      (2 ≤ n →
        ∃ typeName, type.resolve types = .error (.unsupported typeName))
  arrayOfNested :
    ∀ n schema, IsArrays (.arrayOfNested schema) n type →
      (n = 0 → type.resolve types = .ok (.nestedList schema)) ∧
      (1 ≤ n →
        ∃ typeName, type.resolve types = .error (.unsupported typeName))
  named :
    ∀ resolved, type.resolve types = .ok resolved →
      resolved.name = type.write
  spelled :
    ∀ n core, IsArrays core n type →
      type.write = (core.underArrays n).write

/- Every declared type resolves so. -/
theorem resolvesByCore
    (type : TypeExpr Schema) :
    type.ResolvesByCore types := by
  constructor
  case shaped =>
    rcases type.exists_underArrays with ⟨n, core, hCore, rfl⟩
    exact ⟨n, core, hCore, isArrays_underArrays core n, rfl⟩
  case scalar =>
    intro n name hArrays
    rw [hArrays.eq_underArrays nofun]
    constructor
    · intro hDefined
      rcases (types.contains_iff name).mp hDefined with ⟨coerce, hFound⟩
      exact ⟨_, resolve_scalar_underArrays types hFound n⟩
    · intro hUndefined
      refine ⟨_, resolve_scalar_underArrays_of_none types ?_ n⟩
      cases hFound : types.scalar? name with
      | none => rfl
      | some coerce =>
          have hDefined := (types.contains_iff name).mpr ⟨coerce, hFound⟩
          rw [hUndefined] at hDefined
          cases hDefined
  case nested =>
    intro n schema hArrays
    refine ⟨?_, ?_, ?_⟩
    · rintro rfl
      cases hArrays
      rfl
    · rintro rfl
      rcases hArrays.cases with rfl | ⟨other, m, hSame, hOne, rfl⟩
      · rfl
      · cases hSame
        cases hOne
        rfl
    · intro hTwo
      rcases hArrays.cases with rfl | ⟨other, m, hSame, rfl, rfl⟩
      · rcases Nat.exists_eq_add_of_le' hTwo with ⟨m, rfl⟩
        exact ⟨_, resolve_nested_underArrays types schema m⟩
      · cases hSame
        rcases Nat.exists_eq_add_of_le' (Nat.le_of_succ_le_succ hTwo) with
          ⟨k, rfl⟩
        exact ⟨_, resolve_arrayOfNested_underArrays types schema k⟩
  case arrayOfNested =>
    intro n schema hArrays
    rw [hArrays.eq_underArrays nofun]
    constructor
    · rintro rfl
      rfl
    · intro hOne
      rcases Nat.exists_eq_add_of_le' hOne with ⟨m, rfl⟩
      exact ⟨_, resolve_arrayOfNested_underArrays types schema m⟩
  case named => exact fun _ hResolve => name_of_resolve hResolve
  case spelled => exact fun _ _ hArrays => hArrays.write_eq

end TypeExpr

end Intake
