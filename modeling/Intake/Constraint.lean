import Intake.Constraint.Bounds
import Intake.Constraint.Quantity
import Intake.Pattern
import Intake.Report
import Intake.Value.Text

/-
  This file defines the check that a parameter may have, and
  the reasons for which a check rejects a value.

  A check is declared with a pattern as text and used with a
  compiled pattern, so the type of patterns is a parameter.
  So is the library that compiles them.

  Key definitions include:
    * `Check`
    * `Check.compile`
    * `Check.rejection?`
    * `Check.run`
    * `firstRejected`
-/

namespace Intake

------------------------------------------------------------
-- Checks
------------------------------------------------------------

/- A rule for values, given by a function or by a constraint. -/
inductive Check (P : Type) where
  | custom (test : Value → Except String Unit)
  | numericality (bounds : Bounds)
  | length (bounds : Bounds)
  | size (bounds : Bounds)
  | among (allowed : List Value)
  | format (pattern : P)

/- The name of the kind of a check. -/
def Check.kind : Check P → String
  | .custom _ => "custom"
  | .numericality _ => "numericality"
  | .length _ => "length"
  | .size _ => "size"
  | .among _ => "in"
  | .format _ => "format"

/- Why a declared check cannot be used. -/
inductive CheckError where
  | emptyConstraint (kind : String)
  | invalidPattern (pattern reason : String)
deriving DecidableEq

/-
  The usable form of a declared check.  A constraint has to
  constrain something, and a pattern has to compile.
-/
def Check.compile
    (patterns : PatternLibrary)
    (check : Check String) : Except CheckError (Check Pattern) :=
  let unlessEmpty (empty : Bool) (usable : Check Pattern) :=
    if empty then .error (.emptyConstraint check.kind) else .ok usable
  match check with
  | .custom test => .ok (.custom test)
  | .numericality bounds => unlessEmpty bounds.isEmpty (.numericality bounds)
  | .length bounds => unlessEmpty bounds.isEmpty (.length bounds)
  | .size bounds => unlessEmpty bounds.isEmpty (.size bounds)
  | .among allowed => unlessEmpty allowed.isEmpty (.among allowed)
  | .format source =>
      match patterns.pattern source with
      | .ok pattern => .ok (.format pattern)
      | .error reason => .error (.invalidPattern source reason)

------------------------------------------------------------
-- Rejections
------------------------------------------------------------

/- Why a check rejects a value. -/
inductive Rejection where
  | custom (reason : String)
  | notNumber
  | notString
  | notCollection
  | bound (subject : String) (relation : Relation) (limit : Decimal)
  | notAllowed (allowed : List Value)
  | badFormat

namespace Rejection

/- The reason in words. -/
def message : Rejection → String
  | .custom reason => reason
  | .notNumber => "not a number"
  | .notString => "not a string"
  | .notCollection => "not a collection"
  | .bound subject relation limit =>
      subject ++ "must be " ++ relation.symbol ++ " " ++ limit.write
  | .notAllowed allowed =>
      "must be one of: " ++ ", ".intercalate (allowed.map Value.write)
  | .badFormat => "invalid format"

/- The rejection of a quantity under a name. -/
def ofViolation
    (subject : String) : Bounds.Violation → Rejection
  | .incomparable => .notNumber
  | .bound relation limit => .bound subject relation limit

end Rejection

/- The order of a count to a decimal. -/
def compareCount
    (count : Nat)
    (bound : Decimal) : Option Ordering :=
  some (compare ((count : Int) * tenTo bound.scale) bound.coefficient)

/- The number of items of a list, or of fields of a map. -/
def Value.size? : Value → Option Nat
  | .list items => some items.length
  | .map fields => some fields.length
  | _ => none

namespace Check

/- Why a check rejects a value; nothing if it accepts it. -/
def rejection?
    (check : Check Pattern)
    (v : Value) : Option Rejection :=
  match check with
  | .custom test =>
      match test v with
      | .ok () => none
      | .error reason => some (.custom reason)
  | .numericality bounds =>
      match Quantity.ofValue? v with
      | none => some .notNumber
      | some quantity =>
          (bounds.firstViolation fun bound =>
            quantity.compare? (.exact bound)).map (.ofViolation "")
  | .length bounds =>
      match v with
      | .string s =>
          (bounds.firstViolation (compareCount s.length)).map
            (.ofViolation "length ")
      | _ => some .notString
  | .size bounds =>
      match v.size? with
      | none => some .notCollection
      | some count =>
          (bounds.firstViolation (compareCount count)).map
            (.ofViolation "size ")
  | .among allowed =>
      if allowed.any fun candidate => candidate.sameQuantity v then none
      else some (.notAllowed allowed)
  | .format pattern =>
      match v with
      | .string s =>
          if pattern.matchesText s then none else some .badFormat
      | _ => some .badFormat

/- Check a value; the failure is the reason in words. -/
def run
    (check : Check Pattern)
    (v : Value) : Except String Unit :=
  match check.rejection? v with
  | none => .ok ()
  | some rejection => .error rejection.message

end Check

------------------------------------------------------------
-- Items
------------------------------------------------------------

/-
  Test items in order, up to the first one that is rejected.
  The reason names its place, counted from an index.
-/
def firstRejected
    (test : Value → Except String Unit)
    (index : Nat) : List Value → Except String Unit
  | [] => .ok ()
  | v :: rest =>
      match test v with
      | .ok () => firstRejected test (index + 1) rest
      | .error reason => .error (elementReason index reason)

/- Test the items of a list one by one. -/
def checkItems
    (test : Value → Except String Unit)
    (items : List Value) : Except String Unit :=
  firstRejected test 0 items

end Intake
