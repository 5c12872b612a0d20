import Intake.Proofs.Comparison
import Intake.Proofs.Declarations

/-
  This file shows how constraints with bounds judge values.

  A constraint measures a value exactly, as a rational number,
  and looks for the first bound that the measure breaks.  How
  many fraction digits the two are written with plays no part.

  Key definitions include:
    * `Relation.Between`
    * `Measure`
    * `Measure.Of`
    * `Bounds.Satisfied`
    * `Bounds.FirstBroken`
    * `Bounds.Judges`

  The main statements are:
    * `Measure.rejection?_check`
    * `Bounds.firstViolation_eq_none_iff`
    * `Bounds.firstViolation_eq_some_iff`
    * `Bounds.judges`
-/

namespace Intake

------------------------------------------------------------
-- Relations
------------------------------------------------------------

/- A number stands in a relation to its bound. -/
def Relation.Between : Relation → ℚ → ℚ → Prop
  | .gt, x, bound => bound < x
  | .gte, x, bound => bound ≤ x
  | .lt, x, bound => x < bound
  | .lte, x, bound => x ≤ bound
  | .eq, x, bound => x = bound

/- The order of two numbers decides each relation. -/
theorem Relation.holds_compare_iff
    (relation : Relation)
    (x bound : ℚ) :
    relation.holds (compare x bound) = true ↔
      relation.Between x bound := by
  rcases lt_trichotomy x bound with hLess | rfl | hGreater
  · rw [compare_lt_iff_lt.mpr hLess]
    cases relation <;>
      simp [holds, Between, hLess, hLess.le, hLess.ne, hLess.not_gt]
  · rw [compare_eq_iff_eq.mpr rfl]
    cases relation <;> simp [holds, Between]
  · rw [compare_gt_iff_gt.mpr hGreater]
    cases relation <;>
      simp [holds, Between, hGreater, hGreater.le, hGreater.ne',
        hGreater.not_gt]

------------------------------------------------------------
-- Measures
------------------------------------------------------------

/-
  What bounds are about: the amount of a number, the length of
  a text, or the size of a collection.
-/
inductive Measure where
  | amount
  | length
  | size

namespace Measure

/- The constraint that puts bounds on a measure. -/
def check : Measure → Bounds → Check Pattern
  | .amount => .numericality
  | .length => .length
  | .size => .size

/- The name of a measure in front of a reason. -/
def subject : Measure → String
  | .amount => ""
  | .length => "length "
  | .size => "size "

/- The reason for values of another kind. -/
def mismatch : Measure → String
  | .amount => "not a number"
  | .length => "not a string"
  | .size => "not a collection"

/-
  The exact measure of a value.  Characters are counted as
  code points, and collections by their items or fields.
-/
inductive Of : Measure → Value → ℚ → Prop where
  | integer
      (k : Int)
      (inRange : FitsSigned k) :
      Of .amount (.integer k inRange) k
  | decimal
      (d : Decimal) :
      Of .amount (.decimal d) d.value
  | string
      (s : String) :
      Of .length (.string s) s.toList.length
  | list
      (items : List Value) :
      Of .size (.list items) items.length
  | map
      (fields : Params) :
      Of .size (.map fields) fields.length

/- A measure is about numbers, about texts, or about collections. -/
def Applies : Measure → Value → Prop
  | .amount, v => v.isNumber = true
  | .length, v => ∃ s, v = .string s
  | .size, v => (∃ items, v = .list items) ∨ ∃ fields, v = .map fields

/- A count is ordered to a bound by value. -/
theorem compareCount_eq
    (count : Nat)
    (bound : Decimal) :
    compareCount count bound =
      some (compare (count : ℚ) bound.value) := by
  have hUnit : (0 : ℚ) < 10 ^ bound.scale := by positivity
  have hMono : StrictMono fun x : ℚ => x * 10 ^ bound.scale :=
    fun a b hLess => mul_lt_mul_of_pos_right hLess hUnit
  have hScaled :
      compare ((count : ℚ) * 10 ^ bound.scale) bound.coefficient =
        compare (count : ℚ) bound.value := by
    have hBound : bound.value * 10 ^ bound.scale = bound.coefficient :=
      div_mul_cancel₀ _ hUnit.ne'
    rw [← hBound, ← cmp_eq_compare, ← cmp_eq_compare]
    exact hMono.cmp_map_eq (count : ℚ) bound.value
  have hCast :
      compare ((count : Int) * tenTo bound.scale) bound.coefficient =
        compare ((count : ℚ) * 10 ^ bound.scale) bound.coefficient := by
    have hCount :
        (count : ℚ) * 10 ^ bound.scale =
          (((count : Int) * tenTo bound.scale : Int) : ℚ) := by
      rw [Int.cast_mul, Int.cast_natCast, Int.cast_natCast, cast_tenTo]
    rw [hCount, ← cmp_eq_compare, ← cmp_eq_compare]
    exact (Int.cast_strictMono.cmp_map_eq _ _).symm
  rw [compareCount, hCast, hScaled]

variable {m : Measure}
variable {v : Value}
variable {x : ℚ}

/- A constraint looks for the first bound that the measure breaks. -/
theorem rejection?_check
    (bounds : Bounds)
    (hOf : m.Of v x) :
    (m.check bounds).rejection? v =
      (bounds.firstViolation fun bound => some (compare x bound.value)).map
        (.ofViolation m.subject) := by
  cases hOf with
  | integer k inRange =>
      have hValue :
          (Decimal.ofWhole k ⟨inRange.1, by omega⟩).value = k := by
        unfold Decimal.value Decimal.ofWhole
        rw [pow_zero, div_one]
      simp only [check, Check.rejection?, Quantity.ofValue?,
        Quantity.compare?, Decimal.compare_eq, hValue]
      rfl
  | decimal d =>
      simp only [check, Check.rejection?, Quantity.ofValue?,
        Quantity.compare?, Decimal.compare_eq]
      rfl
  | string s =>
      simp only [check, Check.rejection?, funext (compareCount_eq _)]
      rfl
  | list items =>
      simp only [check, Check.rejection?, Value.size?,
        funext (compareCount_eq _)]
      rfl
  | map fields =>
      simp only [check, Check.rejection?, Value.size?,
        funext (compareCount_eq _)]
      rfl

/- Values that a measure is not about are rejected for their kind. -/
theorem run_check_of_not_applies
    (bounds : Bounds)
    (hOther : ¬ m.Applies v) :
    (m.check bounds).run v = .error m.mismatch := by
  cases m with
  | amount =>
      cases v with
      | integer | float | decimal => exact absurd rfl hOther
      | _ => rfl
  | length =>
      cases v with
      | string s => exact absurd ⟨s, rfl⟩ hOther
      | _ => rfl
  | size =>
      cases v with
      | list items => exact absurd (Or.inl ⟨items, rfl⟩) hOther
      | map fields => exact absurd (Or.inr ⟨fields, rfl⟩) hOther
      | _ => rfl

end Measure

------------------------------------------------------------
-- The First Broken Bound
------------------------------------------------------------

namespace Bounds

/- Every bound that is set holds for a number. -/
def Satisfied
    (bounds : Bounds)
    (x : ℚ) : Prop :=
  ∀ relation bound, bounds.get? relation = some bound →
    relation.Between x bound.value

/-
  A bound that does not hold for a number, while those in
  front of it in the fixed order do.
-/
structure FirstBroken
    (bounds : Bounds)
    (x : ℚ)
    (relation : Relation)
    (bound : Decimal) : Prop where
  given : bounds.get? relation = some bound
  broken : ¬ relation.Between x bound.value
  first :
    ∃ before after,
      [.gt, .gte, .lt, .lte, .eq] = before ++ relation :: after ∧
        ∀ earlier ∈ before, ∀ limit, bounds.get? earlier = some limit →
          earlier.Between x limit.value

variable (bounds : Bounds)
variable (x : ℚ)

/- The violation at one relation. -/
def violationAt?
    (relation : Relation) : Option Violation :=
  (bounds.get? relation).bind fun bound =>
    if relation.holds (compare x bound.value) then .none
    else some (.bound relation bound)

/- The relations are gone through one by one. -/
theorem firstViolation_eq_findSome?_order :
    (bounds.firstViolation fun bound => some (compare x bound.value)) =
      order.findSome? (bounds.violationAt? x) := by
  unfold firstViolation entries
  generalize order = relations
  induction relations with
  | nil => rfl
  | cons relation rest ih =>
      rw [List.filterMap_cons, List.findSome?_cons, ← ih, violationAt?]
      cases bounds.get? relation with
      | none => rfl
      | some bound => rfl

theorem violationAt?_eq_none_iff
    (relation : Relation) :
    bounds.violationAt? x relation = .none ↔
      ∀ bound, bounds.get? relation = some bound →
        relation.Between x bound.value := by
  unfold violationAt?
  cases bounds.get? relation with
  | none => simp
  | some bound => simp [Relation.holds_compare_iff]

theorem violationAt?_eq_some_iff
    (relation : Relation)
    (violation : Violation) :
    bounds.violationAt? x relation = some violation ↔
      ∃ bound, bounds.get? relation = some bound ∧
        ¬ relation.Between x bound.value ∧
        violation = .bound relation bound := by
  unfold violationAt?
  cases bounds.get? relation with
  | none => simp
  | some bound =>
      simp [Relation.holds_compare_iff, @eq_comm _ violation]

/- Nothing is violated exactly if every bound holds. -/
theorem firstViolation_eq_none_iff :
    (bounds.firstViolation fun bound => some (compare x bound.value)) =
        .none ↔
      bounds.Satisfied x := by
  simp only [firstViolation_eq_findSome?_order, List.findSome?_eq_none_iff,
    violationAt?_eq_none_iff]
  exact
    ⟨fun hAll relation => hAll relation (mem_order relation),
      fun hAll relation _ => hAll relation⟩

/- What is violated is the first bound that does not hold. -/
theorem firstViolation_eq_some_iff
    (violation : Violation) :
    (bounds.firstViolation fun bound => some (compare x bound.value)) =
        some violation ↔
      ∃ relation bound, bounds.FirstBroken x relation bound ∧
        violation = .bound relation bound := by
  simp only [firstViolation_eq_findSome?_order, List.findSome?_eq_some_iff,
    violationAt?_eq_none_iff, violationAt?_eq_some_iff]
  constructor
  · rintro ⟨before, relation, after, hOrder, ⟨bound, hGiven, hBroken, rfl⟩,
      hBefore⟩
    exact
      ⟨relation, bound, ⟨hGiven, hBroken, before, after, hOrder, hBefore⟩,
        rfl⟩
  · rintro ⟨relation, bound, hFirst, rfl⟩
    rcases hFirst.first with ⟨before, after, hOrder, hBefore⟩
    exact
      ⟨before, relation, after, hOrder,
        ⟨bound, hFirst.given, hFirst.broken, rfl⟩, hBefore⟩

------------------------------------------------------------
-- Verdicts
------------------------------------------------------------

/-
  How the constraint with some bounds on a measure judges
  values: by the exact measure alone, with the first broken
  bound as the reason, and without regard to the bounds if
  the measure is not about the value.
-/
structure Judges
    (bounds : Bounds)
    (m : Measure) : Prop where
  accepts :
    ∀ v x, m.Of v x →
      ((m.check bounds).run v = .ok () ↔ bounds.Satisfied x)
  names :
    ∀ v x, m.Of v x → ∀ reason,
      (m.check bounds).run v = .error reason ↔
        ∃ relation bound, bounds.FirstBroken x relation bound ∧
          reason =
            m.subject ++ "must be " ++ relation.symbol ++ " " ++ bound.write
  unscaled :
    ∀ v w x, m.Of v x → m.Of w x →
      (m.check bounds).run v = (m.check bounds).run w
  foreign :
    ∀ v, ¬ m.Applies v → (m.check bounds).run v = .error m.mismatch

/- The constraints with bounds judge so. -/
theorem judges
    (m : Measure) :
    bounds.Judges m := by
  constructor
  case accepts =>
    intro v x hOf
    rw [← bounds.firstViolation_eq_none_iff x, Check.run,
      Measure.rejection?_check bounds hOf]
    cases bounds.firstViolation fun bound =>
        some (compare x bound.value) with
    | none => simp
    | some violation => simp
  case names =>
    intro v x hOf reason
    rw [Check.run, Measure.rejection?_check bounds hOf]
    cases hFirst : bounds.firstViolation fun bound =>
        some (compare x bound.value) with
    | none =>
        have hNone :
            ¬ ∃ relation bound, bounds.FirstBroken x relation bound := by
          rintro ⟨relation, bound, hBroken⟩
          have hSome :=
            (bounds.firstViolation_eq_some_iff x _).mpr
              ⟨relation, bound, hBroken, rfl⟩
          rw [hFirst] at hSome
          cases hSome
        constructor
        · intro hError
          cases hError
        · rintro ⟨relation, bound, hBroken, _⟩
          exact absurd ⟨relation, bound, hBroken⟩ hNone
    | some violation =>
        rcases (bounds.firstViolation_eq_some_iff x violation).mp hFirst with
          ⟨relation, bound, hBroken, rfl⟩
        constructor
        · intro hError
          exact ⟨relation, bound, hBroken, (Except.error.inj hError).symm⟩
        · rintro ⟨other, limit, hOther, rfl⟩
          have hSame :=
            (bounds.firstViolation_eq_some_iff x _).mpr
              ⟨other, limit, hOther, rfl⟩
          rw [hFirst, Option.some.injEq] at hSame
          cases hSame
          rfl
  case unscaled =>
    intro v w x hFirst hSecond
    rw [Check.run, Check.run, Measure.rejection?_check bounds hFirst,
      Measure.rejection?_check bounds hSecond]
  case foreign =>
    intro v hOther
    exact Measure.run_check_of_not_applies bounds hOther

/- Of two bounds that no length meets, the first is named. -/
example :
    (Measure.length.check
      ((none.set .lt (.ofWhole 5 (by omega))).set .gt
        (.ofWhole 10 (by omega)))).run (.string "seven") =
      .error "length must be > 10" := by
  decide +kernel

/- The double that is written `2.5`. -/
def twoAndAHalf : Binary64 :=
  ⟨0x4004000000000000⟩

/-
  A double is neither an integer nor a decimal, and it is
  compared all the same.
-/
theorem double_compared :
    (∀ x, ¬ Measure.amount.Of (.float twoAndAHalf) x) ∧
      (Measure.amount.check (none.set .gt .zero)).run
        (.float twoAndAHalf) = .ok () ∧
      (Measure.amount.check (none.set .gt .zero)).run
        (.float twoAndAHalf) ≠ .error Measure.amount.mismatch := by
  have hAccepted :
      (Measure.amount.check (none.set .gt .zero)).run
        (.float twoAndAHalf) = .ok () := by
    decide +kernel
  refine ⟨?_, hAccepted, ?_⟩
  · intro x hOf
    cases hOf
  · rw [hAccepted]
    intro hError
    cases hError

end Bounds

end Intake
