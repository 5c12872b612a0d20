import Intake.Proofs.Lists
import Intake.Value.Conversion

/-
  This file shows what becomes of raw data that is taken for a
  value and written as raw data again.  Only numbers can change:
  a whole number that 64 bits with sign cannot hold becomes a
  double.  All else is as it was, and nothing is taken for a
  decimal, a day or a timestamp.

  Key definitions include:
    * `Raw.numbers`
    * `Raw.Number.IsSigned`
    * `Value.parts`
    * `Value.IsNative`
    * `Raw.IsTakenAsIs`

  The main statements are:
    * `Raw.induction`
    * `Value.toRaw_ofRaw_iff`
    * `Value.isNative_of_mem_parts_ofRaw`
    * `Raw.isTakenAsIs`
-/

namespace Intake

------------------------------------------------------------
-- Induction on Raw Data
------------------------------------------------------------

/-
  What holds of null, truth values, numbers and strings, and is
  kept by arrays and objects, holds of all raw data.
-/
@[elab_as_elim]
theorem Raw.induction
    {motive : Raw → Prop}
    (null : motive .null)
    (bool : ∀ b, motive (.bool b))
    (number : ∀ n, motive (.number n))
    (string : ∀ s, motive (.string s))
    (array :
      ∀ items : List Raw, (∀ item ∈ items, motive item) →
        motive (.array items))
    (object :
      ∀ fields : List (String × Raw),
        (∀ field ∈ fields, motive field.2) → motive (.object fields))
    (raw : Raw) :
    motive raw := by
  refine
    @Raw.rec motive (fun items => ∀ item ∈ items, motive item)
      (fun fields => ∀ field ∈ fields, motive field.2)
      (fun field => motive field.2)
      null bool number string array object
      (List.forall_mem_nil _) ?_ (List.forall_mem_nil _) ?_ ?_ raw
  · intro item rest hItem hRest
    exact List.forall_mem_cons.mpr ⟨hItem, hRest⟩
  · intro field rest hField hRest
    exact List.forall_mem_cons.mpr ⟨hField, hRest⟩
  · intro key value hValue
    exact hValue

------------------------------------------------------------
-- Numbers inside of Raw Data
------------------------------------------------------------

namespace Raw

mutual

/- The numbers inside of raw data, in order. -/
def numbers : Raw → List Number
  | .number n => [n]
  | .array items => numbersOfItems items
  | .object fields => numbersOfFields fields
  | _ => []

/- The numbers inside of the items of an array. -/
def numbersOfItems : List Raw → List Number
  | [] => []
  | item :: rest => numbers item ++ numbersOfItems rest

/- The numbers inside of the fields of an object. -/
def numbersOfFields : List (String × Raw) → List Number
  | [] => []
  | (_, value) :: rest => numbers value ++ numbersOfFields rest

end

/- A double, or a whole number that 64 bits with sign can hold. -/
def Number.IsSigned : Number → Prop
  | .whole k _ => FitsSigned k
  | .real _ _ => True

/- The numbers inside of an array are those inside of its items. -/
theorem forall_mem_numbers_array
    {P : Number → Prop}
    (items : List Raw) :
    (∀ n ∈ (array items).numbers, P n) ↔
      ∀ item ∈ items, ∀ n ∈ item.numbers, P n := by
  rw [numbers]
  induction items with
  | nil => simp [numbersOfItems]
  | cons item rest ih =>
      rw [numbersOfItems, List.forall_mem_append, ih,
        List.forall_mem_cons]

/- The numbers inside of an object are those inside of its fields. -/
theorem forall_mem_numbers_object
    {P : Number → Prop}
    (fields : List (String × Raw)) :
    (∀ n ∈ (object fields).numbers, P n) ↔
      ∀ field ∈ fields, ∀ n ∈ field.2.numbers, P n := by
  rw [numbers]
  induction fields with
  | nil => simp [numbersOfFields]
  | cons field rest ih =>
      rw [numbersOfFields, List.forall_mem_append, ih,
        List.forall_mem_cons]

end Raw

------------------------------------------------------------
-- Conversion Part by Part
------------------------------------------------------------

namespace Value

/- Items become values one by one. -/
theorem ofRawItems_eq_map
    (items : List Raw) :
    ofRawItems items = items.map ofRaw := by
  induction items with
  | nil => rfl
  | cons item rest ih => rw [ofRawItems, ih, List.map_cons]

/- Fields become values one by one. -/
theorem ofRawFields_eq_map
    (fields : List (String × Raw)) :
    ofRawFields fields =
      fields.map fun field => (field.1, ofRaw field.2) := by
  induction fields with
  | nil => rfl
  | cons field rest ih => rw [ofRawFields, ih, List.map_cons]

/- Items become raw data one by one. -/
theorem itemsToRaw_eq_map
    (items : List Value) :
    itemsToRaw items = items.map toRaw := by
  induction items with
  | nil => rfl
  | cons item rest ih => rw [itemsToRaw, ih, List.map_cons]

/- Fields become raw data one by one. -/
theorem fieldsToRaw_eq_map
    (fields : Params) :
    fieldsToRaw fields =
      fields.map fun field => (field.1, field.2.toRaw) := by
  induction fields with
  | nil => rfl
  | cons field rest ih => rw [fieldsToRaw, ih, List.map_cons]

/- A list becomes an array of the raw data of its items. -/
theorem toRaw_list
    (items : List Value) :
    (list items).toRaw = .array (items.map toRaw) :=
  congrArg Raw.array (itemsToRaw_eq_map items)

/- A map becomes an object with the raw data of its fields. -/
theorem toRaw_map
    (fields : Params) :
    (map fields).toRaw =
      .object (fields.map fun field => (field.1, field.2.toRaw)) :=
  congrArg Raw.object (fieldsToRaw_eq_map fields)

/- A finite double becomes a number. -/
theorem toRaw_float
    {x : Binary64}
    (hFinite : x.isFinite = true) :
    (float x).toRaw = .number (.real x hFinite) := by
  have hNumber :
      Raw.Number.ofBinary64? x = some (.real x hFinite) :=
    dif_pos hFinite
  show floatToRaw x = .number (.real x hFinite)
  rw [floatToRaw, hNumber]

------------------------------------------------------------
-- There and Back
------------------------------------------------------------

/- A whole number that 64 bits with sign can hold is an integer. -/
theorem ofNumber_of_fits
    {k : Int}
    (inRange : FitsNumber k)
    (hFits : FitsSigned k) :
    ofNumber (.whole k inRange) = .integer k hFits :=
  dif_pos hFits

/- All other whole numbers are doubles. -/
theorem ofNumber_of_not_fits
    {k : Int}
    (inRange : FitsNumber k)
    (hFits : ¬ FitsSigned k) :
    ofNumber (.whole k inRange) = .float (Binary64.ofInt k) :=
  dif_neg hFits

/- A double is no whole number, even if its value is whole. -/
theorem floatToRaw_ne_whole
    (x : Binary64)
    (k : Int)
    (inRange : FitsNumber k) :
    floatToRaw x ≠ .number (.whole k inRange) := by
  unfold floatToRaw Raw.Number.ofBinary64?
  by_cases hFinite : x.isFinite = true
  · rw [dif_pos hFinite]
    intro hSame
    cases hSame
  · rw [dif_neg hFinite]
    intro hSame
    cases hSame

/-
  A number comes back as it was exactly if it is a double or
  fits into 64 bits with sign.
-/
theorem toRaw_ofNumber_iff
    (n : Raw.Number) :
    (ofNumber n).toRaw = .number n ↔ n.IsSigned := by
  cases n with
  | real x finite => exact iff_of_true (toRaw_float finite) trivial
  | whole k inRange =>
      by_cases hFits : FitsSigned k
      · rw [ofNumber_of_fits inRange hFits]
        exact iff_of_true rfl hFits
      · rw [ofNumber_of_not_fits inRange hFits]
        exact iff_of_false (floatToRaw_ne_whole _ k inRange) hFits

/-
  Raw data comes back as it was exactly if all its numbers do.
  Items and fields come back one by one, so the induction is on
  the data.
-/
theorem toRaw_ofRaw_iff
    (raw : Raw) :
    (ofRaw raw).toRaw = raw ↔ ∀ n ∈ raw.numbers, n.IsSigned := by
  induction raw using Raw.induction with
  | null | bool | string =>
      exact iff_of_true rfl (List.forall_mem_nil _)
  | number n =>
      rw [ofRaw, toRaw_ofNumber_iff]
      simp [Raw.numbers]
  | array items ih =>
      rw [ofRaw, toRaw_list, ofRawItems_eq_map, List.map_map,
        Raw.array.injEq, map_eq_self_iff, Raw.forall_mem_numbers_array]
      exact forall₂_congr ih
  | object fields ih =>
      rw [ofRaw, toRaw_map, ofRawFields_eq_map, List.map_map,
        Raw.object.injEq, map_eq_self_iff,
        Raw.forall_mem_numbers_object]
      apply forall₂_congr
      intro field hField
      rw [← ih field hField, Function.comp_apply, Prod.ext_iff]
      exact and_iff_right rfl

------------------------------------------------------------
-- Kinds of Values
------------------------------------------------------------

mutual

/- A value with all values inside of it. -/
def parts : Value → List Value
  | .list items => .list items :: partsOfItems items
  | .map fields => .map fields :: partsOfFields fields
  | v => [v]

/- The parts of the items of a list. -/
def partsOfItems : List Value → List Value
  | [] => []
  | item :: rest => parts item ++ partsOfItems rest

/- The parts of the fields of a map. -/
def partsOfFields : List (String × Value) → List Value
  | [] => []
  | (_, value) :: rest => parts value ++ partsOfFields rest

end

/- A value of a kind that raw data has as well. -/
def IsNative : Value → Prop
  | .decimal _ | .date _ | .timestamp _ => False
  | _ => True

/- The parts of a list are the list and the parts of its items. -/
theorem forall_mem_parts_list
    {P : Value → Prop}
    (items : List Value) :
    (∀ part ∈ (list items).parts, P part) ↔
      P (.list items) ∧ ∀ item ∈ items, ∀ part ∈ item.parts, P part := by
  rw [parts, List.forall_mem_cons]
  apply and_congr_right'
  induction items with
  | nil => simp [partsOfItems]
  | cons item rest ih =>
      rw [partsOfItems, List.forall_mem_append, ih,
        List.forall_mem_cons]

/- The parts of a map are the map and the parts of its fields. -/
theorem forall_mem_parts_map
    {P : Value → Prop}
    (fields : Params) :
    (∀ part ∈ (map fields).parts, P part) ↔
      P (.map fields) ∧
        ∀ field ∈ fields, ∀ part ∈ field.2.parts, P part := by
  rw [parts, List.forall_mem_cons]
  apply and_congr_right'
  induction fields with
  | nil => simp [partsOfFields]
  | cons field rest ih =>
      rw [partsOfFields, List.forall_mem_append, ih,
        List.forall_mem_cons]

/- Nothing in raw data is taken for a value of another kind. -/
theorem isNative_of_mem_parts_ofRaw
    (raw : Raw) :
    ∀ part ∈ (ofRaw raw).parts, part.IsNative := by
  induction raw using Raw.induction with
  | null | bool | string => simp [ofRaw, parts, IsNative]
  | number n =>
      rw [ofRaw]
      cases n with
      | real x finite => simp [ofNumber, parts, IsNative]
      | whole k inRange =>
          by_cases hFits : FitsSigned k
          · rw [ofNumber_of_fits inRange hFits]
            simp [parts, IsNative]
          · rw [ofNumber_of_not_fits inRange hFits]
            simp [parts, IsNative]
  | array items ih =>
      rw [ofRaw, ofRawItems_eq_map, forall_mem_parts_list,
        List.forall_mem_map]
      exact ⟨trivial, ih⟩
  | object fields ih =>
      rw [ofRaw, ofRawFields_eq_map, forall_mem_parts_map,
        List.forall_mem_map]
      exact ⟨trivial, ih⟩

end Value

/-
  Raw data is taken for a value as it is.  Written again, it is
  the same tree, key by key and number by number, exactly if
  its whole numbers fit into 64 bits with sign.  Its strings
  stay strings, whatever they say.
-/
structure Raw.IsTakenAsIs
    (raw : Raw) : Prop where
  restored :
    (Value.ofRaw raw).toRaw = raw ↔ ∀ n ∈ raw.numbers, n.IsSigned
  native : ∀ part ∈ (Value.ofRaw raw).parts, part.IsNative

/- All raw data is taken as it is. -/
theorem Raw.isTakenAsIs
    (raw : Raw) :
    raw.IsTakenAsIs :=
  ⟨Value.toRaw_ofRaw_iff raw, Value.isNative_of_mem_parts_ofRaw raw⟩

end Intake
