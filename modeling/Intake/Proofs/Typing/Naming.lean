import Intake.Proofs.Typing.Resolution

/-
  This file says what the error of a declared type names.  It
  carries the name of the parameter, and the text of the type
  or of a part of it.

  Arrays of arrays resolve their elements first, and an error
  of these is passed on as it is.  So the error names the
  innermost array that does not resolve, and the arrays around
  this one are left out of the text.

  Key definitions include:
    * `SchemaError.IsOnlyTypeError`
    * `ParameterDraft.NamesType`
    * `SchemaDraft.NamesTypes`

  The main statements are:
    * `TypeExpr.write_underArrays_inj`
    * `ParameterDraft.isOnlyTypeError_of_resolve`
    * `ParameterDraft.namesType_of_fails`
    * `SchemaDraft.exists_namesTypes`
-/

namespace Intake

------------------------------------------------------------
-- Texts of Arrays
------------------------------------------------------------

namespace TypeExpr

/- Each array adds a pair of brackets to the text of a type. -/
theorem length_write_underArrays
    (core : TypeExpr Schema)
    (n : Nat) :
    (core.underArrays n).write.length = core.write.length + 2 * n := by
  induction n with
  | zero => rfl
  | succ n ih =>
      have hOpen : "[".length = 1 := rfl
      have hClose : "]".length = 1 := rfl
      rw [underArrays, write, String.length_append,
        String.length_append, ih, hOpen, hClose]
      omega

/- Different numbers of arrays around a type have different texts. -/
theorem write_underArrays_inj
    (core : TypeExpr Schema)
    {m n : Nat} :
    (core.underArrays m).write = (core.underArrays n).write ↔ m = n := by
  constructor
  · intro hSame
    have hLength := congrArg String.length hSame
    rw [length_write_underArrays, length_write_underArrays] at hLength
    omega
  · rintro rfl
    rfl

end TypeExpr

------------------------------------------------------------
-- Errors of One Declaration
------------------------------------------------------------

/- Of some errors, this one and no other is about a type. -/
def SchemaError.IsOnlyTypeError
    (e : SchemaError)
    (errors : List SchemaError) : Prop :=
  ∀ other, other ∈ errors ∧ other.stage = 1 ↔ other = e

/-
  What the errors of a declaration say about its type.  A type
  that resolves has no error.  The error of a scalar that is
  not defined names at most one array, and that of objects
  under too many arrays names the fewest that are too many.
  So the whole type is named exactly if there are not more
  arrays than that.
-/
structure ParameterDraft.NamesType
    (types : TypeTable)
    (declared : ParameterDraft)
    (errors : List SchemaError) : Prop where
  resolved :
    ∀ found, declared.type.resolve types = .ok found →
      ∀ e ∈ errors, e.stage ≠ 1
  scalar :
    ∀ name n, declared.type = (TypeExpr.scalar name).underArrays n →
      types.contains name = false →
        let named := ((TypeExpr.scalar name).underArrays (min n 1)).write
        (SchemaError.unresolvedType declared.name named).IsOnlyTypeError
            errors ∧
          (named = declared.type.write ↔ n ≤ 1)
  nested :
    ∀ schema n, declared.type = (TypeExpr.nested schema).underArrays n →
      2 ≤ n →
        let named := ((TypeExpr.nested schema).underArrays 2).write
        (SchemaError.unsupportedType declared.name named).IsOnlyTypeError
            errors ∧
          (named = declared.type.write ↔ n = 2)
  arrayOfNested :
    ∀ schema n,
      declared.type = (TypeExpr.arrayOfNested schema).underArrays n →
      1 ≤ n →
        let named := ((TypeExpr.arrayOfNested schema).underArrays 1).write
        (SchemaError.unsupportedType declared.name named).IsOnlyTypeError
            errors ∧
          (named = declared.type.write ↔ n = 1)

namespace ParameterDraft

variable {patterns : PatternLibrary}
variable {types : TypeTable}
variable {policy : KeyPolicy}
variable {declared : ParameterDraft}
variable {errors : List SchemaError}

/-
  Of all that is wrong with a declaration, what concerns its
  type is the error of resolving it.
-/
theorem mem_stage_type_iff
    (hErrors : ∀ e, e ∈ errors ↔ declared.Fails patterns types policy e)
    (e : SchemaError) :
    e ∈ errors ∧ e.stage = 1 ↔ declared.typeProblem? types = some e := by
  rw [hErrors, typeProblem?_eq_some_iff patterns types policy]

/- A type that does not resolve has one error, with the parameter's name. -/
theorem isOnlyTypeError_of_resolve
    (hErrors : ∀ e, e ∈ errors ↔ declared.Fails patterns types policy e)
    {e : TypeError}
    (hResolve : declared.type.resolve types = .error e) :
    (SchemaError.ofTypeError declared.name e).IsOnlyTypeError errors := by
  intro other
  rw [mem_stage_type_iff hErrors, typeProblem?, hResolve,
    Option.some.injEq, eq_comm]

/- All that is wrong with a declaration names its type so. -/
theorem namesType_of_fails
    (hErrors : ∀ e, e ∈ errors ↔ declared.Fails patterns types policy e) :
    declared.NamesType types errors := by
  constructor
  case resolved =>
    intro found hResolve e hMem hStage
    have hProblem := (mem_stage_type_iff hErrors e).mp ⟨hMem, hStage⟩
    rw [typeProblem?, hResolve] at hProblem
    cases hProblem
  case scalar =>
    intro name n hType hUndefined
    have hNone : types.scalar? name = none := by
      rw [← Option.not_isSome_iff_eq_none, Option.isSome_iff_exists,
        ← types.contains_iff, hUndefined]
      exact Bool.false_ne_true
    have hError :=
      TypeExpr.resolve_scalar_underArrays_of_none types hNone n
    rw [← hType] at hError
    refine ⟨isOnlyTypeError_of_resolve hErrors hError, ?_⟩
    rw [hType, TypeExpr.write_underArrays_inj]
    omega
  case nested =>
    intro schema n hType hMany
    rcases Nat.exists_eq_add_of_le' hMany with ⟨m, rfl⟩
    have hError := TypeExpr.resolve_nested_underArrays types schema m
    rw [← hType] at hError
    refine ⟨isOnlyTypeError_of_resolve hErrors hError, ?_⟩
    rw [hType, TypeExpr.write_underArrays_inj]
    omega
  case arrayOfNested =>
    intro schema n hType hMany
    rcases Nat.exists_eq_add_of_le' hMany with ⟨m, rfl⟩
    have hError :=
      TypeExpr.resolve_arrayOfNested_underArrays types schema m
    rw [← hType] at hError
    refine ⟨isOnlyTypeError_of_resolve hErrors hError, ?_⟩
    rw [hType, TypeExpr.write_underArrays_inj]
    omega

end ParameterDraft

------------------------------------------------------------
-- Errors of Drafts
------------------------------------------------------------

/-
  What building says about the types of a draft.  The errors
  are found parameter by parameter, and those of a parameter
  whose name did not come before name its type.  The first
  error of all is the one that is reported.
-/
structure SchemaDraft.NamesTypes
    (patterns : PatternLibrary)
    (draft : SchemaDraft)
    (found : List (List SchemaError)) : Prop where
  errors : found.flatten = draft.errors patterns
  each : found.length = draft.params.length
  named :
    ∀ before declared after,
      draft.params = before ++ declared :: after →
        declared.name ∉ before.map ParameterDraft.name →
          ∃ errors, found[before.length]? = some errors ∧
            declared.NamesType draft.types errors
  reported :
    ∀ e, draft.build patterns = .error e ↔ found.flatten.head? = some e

namespace SchemaDraft

/- Building names the types of every draft so. -/
theorem exists_namesTypes
    (patterns : PatternLibrary)
    (draft : SchemaDraft) :
    ∃ found, draft.NamesTypes patterns found := by
  rcases draft.finds_problems patterns with ⟨hLength, hFound⟩
  refine
    ⟨draft.problems patterns, draft.flatten_problems patterns, hLength,
      ?_, ?_⟩
  · intro before declared after hParams hNew
    rcases hFound before declared after hParams with
      ⟨errors, hThere, hErrors⟩
    rw [if_neg hNew] at hErrors
    exact ⟨errors, hThere, ParameterDraft.namesType_of_fails hErrors.2⟩
  · intro e
    rw [flatten_problems]
    exact draft.build_eq_error_iff patterns e

/- A parameter that is a list of lists of a type that is not defined. -/
def idsDraft : SchemaDraft :=
  { SchemaDraft.ofName "batch" with
    params :=
      [ParameterDraft.ofType "ids" (.arrayOf (.arrayOf (.scalar "uuid")))] }

/-
  Its error names a list of the type, and not the list of lists
  that was declared.
-/
theorem inner_list_named :
    ∃ declared ∈ idsDraft.params,
      declared.name = "ids" ∧
      declared.type.write = "[[uuid]]" ∧
      idsDraft.build .empty =
        .error (.unresolvedType "ids" "[uuid]") ∧
      "[uuid]" ≠ declared.type.write :=
  ⟨_, List.mem_singleton_self _, rfl, rfl, rfl, by decide⟩

end SchemaDraft

end Intake
