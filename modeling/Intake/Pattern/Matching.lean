import Intake.Pattern.Node
import Intake.Power

/-
  This file says where in a text a compiled pattern can end,
  if it starts at given positions.

  A set of positions is a number whose bit at `i` says that
  the position before the character `i` is in the set.  Every
  pattern takes sets of starts to sets of ends, so all ways to
  match are followed at once.

  Key definitions include:
    * `Located`
    * `Node.locate`
    * `Located.ends`
    * `Node.occursIn`
-/

namespace Intake

namespace Pattern

------------------------------------------------------------
-- Sets of Positions
------------------------------------------------------------

/- The positions in front of the characters that pass a test. -/
def positionsWhere
    (test : Char → Bool)
    (text : List Char) : Nat :=
  text.foldr (fun c rest => 2 * rest + (if test c then 1 else 0)) 0

/-
  The positions at which a condition on both sides holds,
  after a character.
-/
def positionsBetween
    (holds : Option Char → Option Char → Bool)
    (before : Option Char) : List Char → Nat
  | [] => if holds before none then 1 else 0
  | c :: rest =>
      2 * positionsBetween holds (some c) rest +
        (if holds before (some c) then 1 else 0)

/-
  Apply a step a number of times.  A set that the step does
  not change will not change any more.
-/
def iterate
    (step : Nat → Nat) : Nat → Nat → Nat
  | 0, set => set
  | count + 1, set =>
      let next := step set
      if next == set then set else iterate step count next

/- Apply a step up to a number of times. -/
def iterateUpTo
    (step : Nat → Nat)
    (count set : Nat) : Nat :=
  iterate (fun set => set ||| step set) count set

------------------------------------------------------------
-- Patterns in a Text
------------------------------------------------------------

/- A pattern with the positions of one text in place of its sets. -/
inductive Located where
  | empty
  | step (before : Nat)
  | stay (here : Nat)
  | seq (first second : Located)
  | either (first second : Located)
  | repeated (inner : Located) (min : Nat) (max : Option Nat)

/- A pattern for one text. -/
def Node.locate
    (text : List Char) : Node → Located
  | .empty => .empty
  | .one set => .step (positionsWhere set.contains text)
  | .look condition =>
      .stay
        (positionsBetween
          (fun before after => condition.holds before after) none text)
  | .seq first second => .seq (first.locate text) (second.locate text)
  | .either first second => .either (first.locate text) (second.locate text)
  | .repeated inner min max => .repeated (inner.locate text) min max

/-
  The positions at which a pattern can end, from the positions
  at which it may start.  A text has so many positions that an
  unbounded repetition needs no more rounds.
-/
def Located.ends
    (positions : Nat) : Located → Nat → Nat
  | .empty, starts => starts
  | .step before, starts => (starts &&& before) <<< 1
  | .stay here, starts => starts &&& here
  | .seq first second, starts =>
      second.ends positions (first.ends positions starts)
  | .either first second, starts =>
      first.ends positions starts ||| second.ends positions starts
  | .repeated inner min max, starts =>
      let least := iterate (inner.ends positions) min starts
      let more :=
        match max with
        | some max => max - min
        | none => positions
      iterateUpTo (inner.ends positions) more least

/- The pattern matches a part of a text. -/
def Node.occursIn
    (node : Node)
    (text : List Char) : Bool :=
  let positions := text.length + 1
  (node.locate text).ends positions (twoTo positions - 1) != 0

end Pattern

end Intake
