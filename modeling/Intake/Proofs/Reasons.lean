import Intake.Proofs.Coercion
import Intake.Proofs.SchemaTree
import Intake.Validation

/-
  This file says what the reasons of builtin types and checks
  look like.  All of them consist of several words, and so none
  of them is the reason that is given for a missing value,
  which is a single word.

  Key definitions include:
    * `HasBlank`
    * `Coercer.Explains`
    * `Parameter.hasCustomCheck`

  The main statements are:
    * `ne_requiredReason_of_hasBlank`
    * `Coercer.explains_of_resolve_builtins`
    * `Check.hasBlank_of_run`
-/

namespace Intake

------------------------------------------------------------
-- Reasons of Several Words
------------------------------------------------------------

/- A reason of several words has a blank between them. -/
def HasBlank
    (reason : String) : Prop :=
  ' ' ∈ reason.toList

instance
    (reason : String) :
    Decidable (HasBlank reason) := by
  unfold HasBlank
  infer_instance

/- A reason of several words does not say that a value is missing. -/
theorem ne_requiredReason_of_hasBlank
    {reason : String}
    (hBlank : HasBlank reason) :
    reason ≠ requiredReason := by
  rintro rfl
  revert hBlank
  decide

/- Text in front of several words, or after them, adds to them. -/
theorem hasBlank_append_iff
    (front rest : String) :
    HasBlank (front ++ rest) ↔ HasBlank front ∨ HasBlank rest := by
  unfold HasBlank
  rw [String.toList_append, List.mem_append]

/- The place of an element is said in several words. -/
theorem hasBlank_elementReason
    (index : Nat)
    (reason : String) :
    HasBlank (elementReason index reason) := by
  unfold elementReason
  simp only [hasBlank_append_iff]
  exact Or.inl (Or.inl (Or.inl (by decide)))

------------------------------------------------------------
-- Builtin Types
------------------------------------------------------------

namespace Coercer

/- A coercer gives its reasons in several words. -/
def Explains
    (coerce : Coercer) : Prop :=
  ∀ raw reason, coerce raw = .error reason → HasBlank reason

theorem explains_string :
    string.Explains := by
  intro raw reason hCoerce
  cases raw with
  | string s => cases hCoerce
  | null | bool | number | array | object =>
      cases hCoerce
      decide

theorem explains_boolean :
    boolean.Explains := by
  intro raw reason hCoerce
  cases raw with
  | bool b => cases hCoerce
  | string s =>
      simp only [boolean] at hCoerce
      split at hCoerce
      · cases hCoerce
      · split at hCoerce
        · cases hCoerce
        · cases hCoerce
          decide
  | null | number | array | object =>
      cases hCoerce
      decide

theorem explains_integer :
    Explains integer := by
  intro raw reason hCoerce
  rw [reason_of_orReason hCoerce]
  decide

theorem explains_float :
    float.Explains := by
  intro raw reason hCoerce
  cases raw with
  | number n => cases hCoerce
  | string s =>
      simp only [float] at hCoerce
      split at hCoerce
      · split at hCoerce
        · cases hCoerce
        · cases hCoerce
          decide
      · cases hCoerce
        decide
  | null | bool | array | object =>
      cases hCoerce
      decide

theorem explains_decimal :
    decimal.Explains := by
  intro raw reason hCoerce
  cases raw with
  | number n =>
      rw [reason_of_orReason hCoerce]
      decide
  | string s =>
      rw [reason_of_orReason hCoerce]
      decide
  | null | bool | array | object =>
      cases hCoerce
      decide

theorem explains_date :
    date.Explains := by
  intro raw reason hCoerce
  cases raw with
  | string s =>
      rw [reason_of_orReason hCoerce]
      decide
  | null | bool | number | array | object =>
      cases hCoerce
      decide

theorem explains_timestamp :
    timestamp.Explains := by
  intro raw reason hCoerce
  cases raw with
  | string s =>
      rw [reason_of_orReason hCoerce]
      decide
  | null | bool | number | array | object =>
      cases hCoerce
      decide

/- The reason of an item that fails is that of its place. -/
theorem hasBlank_of_items
    (coerce : Coercer)
    (index : Nat)
    (raws : List Raw)
    {reason : String}
    (hItems : items coerce index raws = .error reason) :
    HasBlank reason := by
  induction raws generalizing index with
  | nil => cases hItems
  | cons raw rest ih =>
      rw [items] at hItems
      split at hItems
      · cases hItems
        exact hasBlank_elementReason index _
      · split at hItems
        · next found hRest =>
            cases hItems
            exact ih (index + 1) hRest
        · cases hItems

/- A coercer of lists gives its reasons in several words. -/
theorem explains_listOf
    (coerce : Coercer) :
    coerce.listOf.Explains := by
  intro raw reason hCoerce
  cases raw with
  | null => cases hCoerce
  | array raws =>
      rw [listOf] at hCoerce
      split at hCoerce
      · next found hItems =>
          cases hCoerce
          exact hasBlank_of_items coerce 0 raws hItems
      · cases hCoerce
  | bool | number | string | object =>
      cases hCoerce
      decide

/- The builtin types give their reasons in several words. -/
theorem explains_of_scalar?_builtins
    {name : String}
    {coerce : Coercer}
    (hFound : TypeTable.builtins.scalar? name = some coerce) :
    coerce.Explains := by
  have hMem := TypeTable.mem_of_scalar?_builtins hFound
  simp only [TypeTable.builtinCoercers, List.mem_cons, Prod.mk.injEq,
    List.not_mem_nil, or_false] at hMem
  rcases hMem with ⟨_, rfl⟩ | ⟨_, rfl⟩ | ⟨_, rfl⟩ | ⟨_, rfl⟩ |
    ⟨_, rfl⟩ | ⟨_, rfl⟩ | ⟨_, rfl⟩
  · exact explains_string
  · exact explains_integer
  · exact explains_float
  · exact explains_decimal
  · exact explains_boolean
  · exact explains_date
  · exact explains_timestamp

/- So do the types that are resolved in the builtin table. -/
theorem explains_of_resolve_builtins
    (type : TypeExpr Schema)
    {name : String}
    {coerce : Coercer}
    (hResolve :
      type.resolve .builtins = .ok (.coerced name coerce)) :
    coerce.Explains := by
  refine TypeExpr.coercer_induction ?_ ?_ type coerce hResolve
  · intro typeName coerce hFound
    exact explains_of_scalar?_builtins hFound
  · intro element coerce _ _
    exact explains_listOf coerce

end Coercer

------------------------------------------------------------
-- Builtin Checks
------------------------------------------------------------

/- The check of a parameter is a function and no constraint. -/
def Parameter.hasCustomCheck
    (param : Parameter S) : Bool :=
  match param.check with
  | some (.custom _) => true
  | _ => false

/- A bound that does not hold is told in several words. -/
theorem Rejection.hasBlank_ofViolation
    (subject : String)
    (violation : Bounds.Violation) :
    HasBlank (ofViolation subject violation).message := by
  cases violation with
  | incomparable =>
      show HasBlank "not a number"
      decide
  | bound relation limit =>
      show
        HasBlank
          (subject ++ "must be " ++ relation.symbol ++ " " ++
            limit.write)
      simp only [hasBlank_append_iff]
      exact Or.inl (Or.inl (Or.inl (Or.inr (by decide))))

/- A constraint gives its reasons in several words. -/
theorem Check.hasBlank_of_rejection?
    (check : Check Pattern)
    (hBuiltin : ∀ test, check ≠ .custom test)
    (v : Value)
    {rejection : Rejection}
    (hRejection : check.rejection? v = some rejection) :
    HasBlank rejection.message := by
  cases check with
  | custom test => exact absurd rfl (hBuiltin test)
  | numericality bounds =>
      simp only [rejection?] at hRejection
      split at hRejection
      · cases hRejection
        decide
      · rcases Option.map_eq_some_iff.mp hRejection with
          ⟨violation, _, rfl⟩
        exact Rejection.hasBlank_ofViolation _ violation
  | length bounds =>
      simp only [rejection?] at hRejection
      split at hRejection
      · rcases Option.map_eq_some_iff.mp hRejection with
          ⟨violation, _, rfl⟩
        exact Rejection.hasBlank_ofViolation _ violation
      · cases hRejection
        decide
  | size bounds =>
      simp only [rejection?] at hRejection
      split at hRejection
      · cases hRejection
        decide
      · rcases Option.map_eq_some_iff.mp hRejection with
          ⟨violation, _, rfl⟩
        exact Rejection.hasBlank_ofViolation _ violation
  | among allowed =>
      simp only [rejection?] at hRejection
      split at hRejection
      · cases hRejection
      · cases hRejection
        show
          HasBlank
            ("must be one of: " ++
              ", ".intercalate (allowed.map Value.write))
        rw [hasBlank_append_iff]
        exact Or.inl (by decide)
  | format pattern =>
      simp only [rejection?] at hRejection
      split at hRejection
      · split at hRejection
        · cases hRejection
        · cases hRejection
          decide
      · cases hRejection
        decide

/- A value that a constraint rejects is told so in several words. -/
theorem Check.hasBlank_of_run
    (check : Check Pattern)
    (hBuiltin : ∀ test, check ≠ .custom test)
    (v : Value)
    {reason : String}
    (hRun : check.run v = .error reason) :
    HasBlank reason := by
  rw [Check.run] at hRun
  split at hRun
  · cases hRun
  · next rejection hRejection =>
      cases hRun
      exact check.hasBlank_of_rejection? hBuiltin v hRejection

/-
  A parameter without a function as check rejects its values in
  several words.
-/
theorem Parameter.hasBlank_of_rejected
    (param : Parameter Schema)
    (hBuiltin : param.hasCustomCheck = false)
    (v : Value)
    {reason : String}
    (hAdmit : param.admit v = .error (.validation reason)) :
    HasBlank reason := by
  unfold Parameter.admit at hAdmit
  split at hAdmit
  · cases hAdmit
  · next check hCheck =>
      have hConstraint : ∀ test, check ≠ .custom test := by
        rintro test rfl
        rw [hasCustomCheck, hCheck] at hBuiltin
        cases hBuiltin
      split at hAdmit
      · cases hAdmit
      · split at hAdmit
        · cases hAdmit
        · next found hRun =>
            cases hAdmit
            exact check.hasBlank_of_run hConstraint v hRun

end Intake
