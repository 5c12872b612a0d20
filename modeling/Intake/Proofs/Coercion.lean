import Intake.Proofs.Binary64.Range
import Intake.Proofs.Lists
import Intake.Proofs.Typing.Definitions
import Intake.Schema.Resolution

/-
  This file says what the coercers of lists give, and which
  coercers the types of the builtin table resolve to.

  Key definitions include:
    * `Value.IsListOf`
    * `Coercer.Gives`

  The main statements are:
    * `Coercer.listOf_eq_ok_iff`
    * `TypeTable.mem_of_scalar?_builtins`
-/

namespace Intake

/- A list whose items all have a property. -/
def Value.IsListOf
    (P : Value → Prop)
    (v : Value) : Prop :=
  ∃ items, v = .list items ∧ ∀ item ∈ items, P item

------------------------------------------------------------
-- Lists
------------------------------------------------------------

namespace Coercer

/- An item is coerced to a value, but null stays null. -/
theorem item_eq_ok_iff
    (coerce : Coercer)
    (raw : Raw)
    (v : Value) :
    item coerce raw = .ok v ↔
      (raw = .null ∧ v = .null) ∨
        (raw.isNull = false ∧ coerce raw = .ok v) := by
  cases raw <;> simp [item, Raw.isNull, @eq_comm _ v]

/-
  Items are coerced exactly if each one is, to the values in
  order.
-/
theorem items_eq_ok_iff
    (coerce : Coercer)
    (index : Nat)
    (raws : List Raw)
    (vs : List Value) :
    items coerce index raws = .ok vs ↔
      List.Forall₂ (fun raw v => item coerce raw = .ok v) raws vs := by
  induction raws generalizing index vs with
  | nil => cases vs <;> simp [items]
  | cons raw rest ih =>
      cases hItem : item coerce raw with
      | error reason => cases vs <;> simp [items, hItem]
      | ok v =>
          cases hRest : items coerce (index + 1) rest with
          | error reason =>
              cases vs <;>
                simp [items, hItem, hRest, ← ih (index + 1)]
          | ok others =>
              cases vs <;>
                simp [items, hItem, hRest, ← ih (index + 1)]

/-
  A coercer of lists gives a value for data other than null
  exactly if this is an array whose items are coerced.
-/
theorem listOf_eq_ok_iff
    (coerce : Coercer)
    (raw : Raw)
    (v : Value)
    (hRaw : raw.isNull = false) :
    coerce.listOf raw = .ok v ↔
      ∃ raws vs, raw = .array raws ∧
        List.Forall₂ (fun raw v => item coerce raw = .ok v) raws vs ∧
        v = .list vs := by
  cases raw with
  | null => cases hRaw
  | array raws =>
      simp only [← items_eq_ok_iff coerce 0]
      cases hItems : items coerce 0 raws <;>
        simp [listOf, hItems, @eq_comm _ v]
  | bool | number | string | object => simp [listOf]

/-
  For data other than null a coercer gives values other than
  null, and these have a property.
-/
def Gives
    (coerce : Coercer)
    (P : Value → Prop) : Prop :=
  ∀ raw v, raw.isNull = false → coerce raw = .ok v →
    v.isNull = false ∧ P v

/-
  A coercer of lists gives lists whose items are null or have
  the property of the items.
-/
theorem Gives.listOf
    {coerce : Coercer}
    {P : Value → Prop}
    (hGives : coerce.Gives P) :
    coerce.listOf.Gives
      (Value.IsListOf fun item => item = .null ∨ P item) := by
  intro raw v hRaw hCoerce
  rcases (listOf_eq_ok_iff coerce raw v hRaw).mp hCoerce with
    ⟨raws, vs, rfl, hItems, rfl⟩
  refine ⟨rfl, vs, rfl, ?_⟩
  intro w hMem
  rcases exists_of_forall₂_of_mem hItems hMem with
    ⟨source, _, hItem⟩
  rcases (item_eq_ok_iff coerce source w).mp hItem with
    ⟨_, hNull⟩ | ⟨hSource, hValue⟩
  · exact Or.inl hNull
  · exact Or.inr (hGives source w hSource hValue).2

------------------------------------------------------------
-- Scalars
------------------------------------------------------------

/- A reason takes the place of an absent value only. -/
theorem orReason_eq_ok_iff
    (reason : String)
    (found : Option Value)
    (v : Value) :
    orReason reason found = .ok v ↔ found = some v := by
  cases found <;> simp [orReason]

/- An absent value has the reason that is given for it. -/
theorem reason_of_orReason
    {reason found : String}
    {v : Option Value}
    (hReason : orReason reason v = .error found) :
    found = reason := by
  cases v with
  | none =>
      cases hReason
      rfl
  | some v => cases hReason

/- With one reason only, it is given exactly if there is no value. -/
theorem eq_error_iff_of_reason
    {result : Except String Value}
    {reason : String}
    (hReason : ∀ other, result = .error other → other = reason)
    (other : String) :
    result = .error other ↔
      other = reason ∧ ¬ ∃ v, result = .ok v := by
  cases result with
  | error given =>
      have hGiven := hReason given rfl
      simp [hGiven, @eq_comm _ other]
  | ok v => simp

variable {raw : Raw} {v : Value}

theorem eq_of_string_eq_ok
    (hCoerce : string raw = .ok v) :
    ∃ s, raw = .string s ∧ v = .string s := by
  cases raw with
  | string s =>
      cases hCoerce
      exact ⟨s, rfl, rfl⟩
  | null | bool | number | array | object => cases hCoerce

theorem eq_of_boolean_eq_ok
    (hCoerce : boolean raw = .ok v) :
    ∃ b, v = .bool b := by
  cases raw with
  | bool b =>
      cases hCoerce
      exact ⟨b, rfl⟩
  | string s =>
      simp only [boolean] at hCoerce
      split at hCoerce
      · cases hCoerce
        exact ⟨true, rfl⟩
      · split at hCoerce
        · cases hCoerce
          exact ⟨false, rfl⟩
        · cases hCoerce
  | null | number | array | object => cases hCoerce

theorem eq_of_integer_eq_ok
    (hCoerce : integer raw = .ok v) :
    ∃ k, ∃ inRange : FitsSigned k,
      wholeNumber? raw = some k ∧ v = .integer k inRange := by
  rcases Option.bind_eq_some_iff.mp
      ((orReason_eq_ok_iff _ _ v).mp hCoerce) with
    ⟨k, hWhole, hValue⟩
  unfold Value.ofInt? at hValue
  split at hValue
  · next inRange =>
      cases hValue
      exact ⟨k, inRange, hWhole, rfl⟩
  · cases hValue

theorem eq_of_float_eq_ok
    (hCoerce : float raw = .ok v) :
    ∃ x : Binary64, x.isFinite = true ∧ v = .float x := by
  cases raw with
  | number n =>
      cases hCoerce
      exact ⟨n.toBinary64, n.isFinite_toBinary64, rfl⟩
  | string s =>
      simp only [float] at hCoerce
      split at hCoerce
      · next x hRead =>
          split at hCoerce
          · next finite =>
              cases hCoerce
              exact ⟨x, finite, rfl⟩
          · cases hCoerce
      · cases hCoerce
  | null | bool | array | object => cases hCoerce

theorem eq_of_decimal_eq_ok
    (hCoerce : decimal raw = .ok v) :
    ∃ d, v = .decimal d := by
  cases raw with
  | number n =>
      rcases Option.map_eq_some_iff.mp
          ((orReason_eq_ok_iff _ _ v).mp hCoerce) with
        ⟨d, _, rfl⟩
      exact ⟨d, rfl⟩
  | string s =>
      rcases Option.map_eq_some_iff.mp
          ((orReason_eq_ok_iff _ _ v).mp hCoerce) with
        ⟨d, _, rfl⟩
      exact ⟨d, rfl⟩
  | null | bool | array | object => cases hCoerce

theorem eq_of_date_eq_ok
    (hCoerce : date raw = .ok v) :
    ∃ s d, raw = .string s ∧ Date.read? s = some d ∧
      v = .date d := by
  cases raw with
  | string s =>
      rcases Option.map_eq_some_iff.mp
          ((orReason_eq_ok_iff _ _ v).mp hCoerce) with
        ⟨d, hRead, rfl⟩
      exact ⟨s, d, rfl, hRead, rfl⟩
  | null | bool | number | array | object => cases hCoerce

theorem eq_of_timestamp_eq_ok
    (hCoerce : timestamp raw = .ok v) :
    ∃ s t, raw = .string s ∧ Timestamp.read? s = some t ∧
      v = .timestamp t := by
  cases raw with
  | string s =>
      rcases Option.map_eq_some_iff.mp
          ((orReason_eq_ok_iff _ _ v).mp hCoerce) with
        ⟨t, hRead, rfl⟩
      exact ⟨s, t, rfl, hRead, rfl⟩
  | null | bool | number | array | object => cases hCoerce

end Coercer

------------------------------------------------------------
-- Builtin Types
------------------------------------------------------------

/- A type that the builtin table has is one of its seven types. -/
theorem TypeTable.mem_of_scalar?_builtins
    {name : String}
    {coerce : Coercer}
    (hFound : TypeTable.builtins.scalar? name = some coerce) :
    (name, coerce) ∈ TypeTable.builtinCoercers :=
  mem_of_scalar?_defineAll hFound

end Intake
