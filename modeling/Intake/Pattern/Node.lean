import Intake.Text.Property

/-
  This file defines the trees that patterns are compiled to,
  and a measure of the room that a compiled pattern takes.

  Key definitions include:
    * `Look`
    * `Look.holds`
    * `Node`
    * `Node.weight`
-/

namespace Intake

namespace Pattern

------------------------------------------------------------
-- Assertions
------------------------------------------------------------

/-
  A condition on the characters on both sides of a position.
  The characters of words are those of Unicode or of ASCII.
-/
inductive Look where
  | textStart
  | textEnd
  | lineStart
  | lineEnd
  | lineStartAny
  | lineEndAny
  | boundary (ascii : Bool)
  | notBoundary (ascii : Bool)
  | wordStart (ascii : Bool)
  | wordEnd (ascii : Bool)
  | wordStartHalf (ascii : Bool)
  | wordEndHalf (ascii : Bool)
deriving DecidableEq

/- A character of words of ASCII. -/
def isAsciiWord
    (c : Char) : Bool :=
  c.isAlphanum || c == '_'

/- There is a character of words. -/
def isWord
    (ascii : Bool) : Option Char → Bool
  | none => false
  | some c => if ascii then isAsciiWord c else Property.word.contains c

/- The condition holds between two characters, or at the ends of a text. -/
def Look.holds
    (before after : Option Char) : Look → Bool
  | .textStart => before.isNone
  | .textEnd => after.isNone
  | .lineStart => before.isNone || before == some '\n'
  | .lineEnd => after.isNone || after == some '\n'
  | .lineStartAny =>
      before.isNone || before == some '\n' ||
        (before == some '\r' && after != some '\n')
  | .lineEndAny =>
      after.isNone || after == some '\r' ||
        (after == some '\n' && before != some '\r')
  | .boundary ascii => isWord ascii before != isWord ascii after
  | .notBoundary ascii => isWord ascii before == isWord ascii after
  | .wordStart ascii => !isWord ascii before && isWord ascii after
  | .wordEnd ascii => isWord ascii before && !isWord ascii after
  | .wordStartHalf ascii => !isWord ascii before
  | .wordEndHalf ascii => !isWord ascii after

------------------------------------------------------------
-- Trees
------------------------------------------------------------

/-
  A compiled pattern: one character of a set, a condition on a
  position, or a combination of patterns.
-/
inductive Node where
  | empty
  | one (set : CharSet)
  | look (condition : Look)
  | seq (first second : Node)
  | either (first second : Node)
  | repeated (inner : Node) (min : Nat) (max : Option Nat)

namespace Node

/- Patterns one after the other. -/
def concat : List Node → Node
  | [] => .empty
  | [node] => node
  | node :: rest => .seq node (concat rest)

/- Any one of some patterns. -/
def choice : List Node → Node
  | [] => .empty
  | [node] => node
  | node :: rest => .either node (choice rest)

------------------------------------------------------------
-- Size
------------------------------------------------------------

/- The pattern never takes a character. -/
def isZeroWidth : Node → Bool
  | .empty => true
  | .one _ => false
  | .look _ => true
  | .seq first second => first.isZeroWidth && second.isZeroWidth
  | .either first second => first.isZeroWidth && second.isZeroWidth
  | .repeated inner _ max => inner.isZeroWidth || max == some 0

/- The number of ranges that a set is made of. -/
def rangeCount : CharSet → Nat
  | .ranges set => set.ranges.length
  | .union a b => rangeCount a + rangeCount b
  | .inter a b => rangeCount a + rangeCount b
  | .complement a => rangeCount a + 1
  | .folded a => rangeCount a

/-
  The room that a pattern takes, about in bytes.  A repeated
  pattern takes its room once for every repetition that is
  counted.
-/
def weight : Node → Nat
  | .empty => 0
  | .one set => 32 + 24 * (rangeCount set - 1)
  | .look _ => 32
  | .seq first second => first.weight + second.weight
  | .either first second => 32 + first.weight + second.weight
  | .repeated inner min max =>
      if inner.isZeroWidth then 32 + inner.weight
      else
        match max with
        | some max => (32 + inner.weight) * max
        | none => 32 + inner.weight * Nat.max min 1

end Node

end Pattern

end Intake
