import Intake.Decimal

/-
  This file defines bounds on quantities: up to five decimals
  that a quantity has to be greater than, less than or equal
  to.  The bounds are checked in a fixed order, and the first
  one that does not hold is the one reported.

  Key definitions include:
    * `Relation`
    * `Bounds`
    * `Bounds.entries`
    * `Bounds.firstViolation`
-/

namespace Intake

------------------------------------------------------------
-- Relations
------------------------------------------------------------

/- How a quantity has to stand to a bound. -/
inductive Relation where
  | gt
  | gte
  | lt
  | lte
  | eq
deriving DecidableEq, Inhabited

namespace Relation

/- The symbol of a relation. -/
def symbol : Relation → String
  | .gt => ">"
  | .gte => ">="
  | .lt => "<"
  | .lte => "<="
  | .eq => "=="

/- The relation holds for a quantity that is so ordered to its bound. -/
def holds : Relation → Ordering → Bool
  | .gt, order => order == .gt
  | .gte, order => order != .lt
  | .lt, order => order == .lt
  | .lte, order => order != .gt
  | .eq, order => order == .eq

end Relation

------------------------------------------------------------
-- Bounds
------------------------------------------------------------

/- At most one bound of each relation. -/
structure Bounds where
  gt : Option Decimal
  gte : Option Decimal
  lt : Option Decimal
  lte : Option Decimal
  eq : Option Decimal
deriving DecidableEq

namespace Bounds

/- No bounds at all. -/
def none : Bounds :=
  ⟨.none, .none, .none, .none, .none⟩

/- The bound of a relation. -/
def get?
    (bounds : Bounds) : Relation → Option Decimal
  | .gt => bounds.gt
  | .gte => bounds.gte
  | .lt => bounds.lt
  | .lte => bounds.lte
  | .eq => bounds.eq

/- Set the bound of a relation. -/
def set
    (bounds : Bounds)
    (relation : Relation)
    (bound : Decimal) : Bounds :=
  match relation with
  | .gt => { bounds with gt := some bound }
  | .gte => { bounds with gte := some bound }
  | .lt => { bounds with lt := some bound }
  | .lte => { bounds with lte := some bound }
  | .eq => { bounds with eq := some bound }

/- The relations in the order in which bounds are checked. -/
def order : List Relation :=
  [.gt, .gte, .lt, .lte, .eq]

/- The bounds that are set, in the order in which they are checked. -/
def entries
    (bounds : Bounds) : List (Relation × Decimal) :=
  order.filterMap fun relation =>
    (bounds.get? relation).map fun bound => (relation, bound)

/- No bound is set. -/
def isEmpty
    (bounds : Bounds) : Bool :=
  bounds.entries.isEmpty

/- Equality of bounds, relation by relation and by value. -/
def same
    (a b : Bounds) : Bool :=
  order.all fun relation =>
    match a.get? relation, b.get? relation with
    | .none, .none => true
    | some x, some y => x.sameValue y
    | _, _ => false

/- Why a quantity is rejected. -/
inductive Violation where
  | incomparable
  | bound (relation : Relation) (limit : Decimal)
deriving DecidableEq

/-
  The first bound that does not hold for a quantity with an
  order to decimals.  A quantity without order to a bound is
  no number.
-/
def firstViolation
    (bounds : Bounds)
    (compareTo : Decimal → Option Ordering) : Option Violation :=
  bounds.entries.findSome? fun (relation, bound) =>
    match compareTo bound with
    | .none => some .incomparable
    | some order =>
        if relation.holds order then .none
        else some (.bound relation bound)

end Bounds

end Intake
