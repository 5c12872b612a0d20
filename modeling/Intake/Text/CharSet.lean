import Intake.Text.CodeRanges
import Intake.Text.Folding

/-
  This file defines sets of characters, built from ranges by
  the operations on sets and by case folding.

  Key definitions include:
    * `CharSet`
    * `CharSet.contains`
-/

namespace Intake

/- A set of characters. -/
inductive CharSet where
  | ranges (set : CodeRanges)
  | union (a b : CharSet)
  | inter (a b : CharSet)
  | complement (a : CharSet)
  | folded (a : CharSet)

namespace CharSet

/- The set contains a code point. -/
def containsCode : CharSet → Nat → Bool
  | .ranges set, code => set.containsCode code
  | .union a b, code => a.containsCode code || b.containsCode code
  | .inter a b, code => a.containsCode code && b.containsCode code
  | .complement a, code => !a.containsCode code
  | .folded a, code =>
      a.containsCode code ||
        (Folding.variants code).any fun variant => a.containsCode variant

/- The set contains a character. -/
def contains
    (set : CharSet)
    (c : Char) : Bool :=
  set.containsCode c.toNat

/- No characters. -/
def empty : CharSet :=
  .ranges ⟨[]⟩

/- The characters from a code point to another one. -/
def range
    (low high : Nat) : CharSet :=
  .ranges ⟨[(low, high)]⟩

/- One character. -/
def single
    (c : Char) : CharSet :=
  range c.toNat c.toNat

/- All characters. -/
def all : CharSet :=
  range 0 0x10FFFF

/- The characters of a table. -/
def ofLines
    (lines : List String) : CharSet :=
  .ranges (CodeRanges.ofLines lines)

/- The characters of any of the sets. -/
def unions : List CharSet → CharSet
  | [] => empty
  | [set] => set
  | set :: rest => .union set (unions rest)

/- The characters of the first set that are not in the second. -/
def diff
    (a b : CharSet) : CharSet :=
  .inter a (.complement b)

/- The characters that are in exactly one of two sets. -/
def symmDiff
    (a b : CharSet) : CharSet :=
  .union (diff a b) (diff b a)

/- The characters of a set, or all others. -/
def negateIf
    (negated : Bool)
    (set : CharSet) : CharSet :=
  if negated then .complement set else set

/- A set with the other cases of its letters, if case does not matter. -/
def foldIf
    (ignoreCase : Bool)
    (set : CharSet) : CharSet :=
  if ignoreCase then .folded set else set

end CharSet

end Intake
