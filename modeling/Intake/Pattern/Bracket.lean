import Intake.Pattern.Escape

/-
  This file reads classes of characters in brackets.

  A class holds characters, ranges, named classes and nested
  classes.  Classes can be combined by operators, which all
  bind alike and group to the left.

  Key definitions include:
    * `SetPart`
    * `SetOperator`
    * `readBracket`
-/

namespace Intake

namespace Pattern

------------------------------------------------------------
-- Parts of Classes
------------------------------------------------------------

/- A set with the depth of its nesting. -/
structure SetPart where
  set : CharSet
  depth : Nat

namespace SetPart

/- A set that is not nested. -/
def leaf
    (set : CharSet) : SetPart :=
  ⟨set, 0⟩

/- The union of the parts of a class, which come last one first. -/
def union : List SetPart → SetPart
  | [] => leaf .empty
  | [part] => part
  | parts =>
      ⟨.unions (parts.reverse.map SetPart.set),
        parts.foldl (fun depth part => Nat.max depth part.depth) 0 + 1⟩

end SetPart

/- An operator between classes. -/
inductive SetOperator where
  | intersection
  | difference
  | symmetricDifference

/- Combine two classes.  Without regard to case both are folded first. -/
def SetOperator.apply
    (operator : SetOperator)
    (ignoreCase : Bool)
    (a b : SetPart) : SetPart :=
  let x := CharSet.foldIf ignoreCase a.set
  let y := CharSet.foldIf ignoreCase b.set
  let set :=
    match operator with
    | .intersection => .inter x y
    | .difference => .diff x y
    | .symmetricDifference => .symmDiff x y
  ⟨set, Nat.max a.depth b.depth + 1⟩

/- An operator at the start of a text, and the rest. -/
def readSetOperator? : List Char → Option (SetOperator × List Char)
  | '&' :: '&' :: rest => some (.intersection, rest)
  | '-' :: '-' :: rest => some (.difference, rest)
  | '~' :: '~' :: rest => some (.symmetricDifference, rest)
  | _ => none

------------------------------------------------------------
-- Characters and Ranges
------------------------------------------------------------

/- An atom inside of brackets. -/
def readSetAtom
    (flags : Flags) : List Char → Option (Atom × List Char)
  | [] => none
  | '\\' :: rest => readEscape flags rest
  | c :: rest => some (.literal c false, rest)

/- The end of a range.  A pattern without Unicode knows bytes only. -/
def rangeEnd?
    (flags : Flags) : Atom → Option Nat
  | .literal c isByte =>
      if flags.unicode || isByte || decide (c.toNat < 128) then some c.toNat
      else none
  | _ => none

/- The set of an atom inside of brackets; a condition is refused. -/
def atomSet?
    (flags : Flags) : Atom → Option CharSet
  | .set set => some set
  | .look _ => none
  | atom => (rangeEnd? flags atom).map fun code => .range code code

/-
  The character after the next one, past blanks and the mark
  of a comment.  Where there is nothing else, the next
  character itself is looked at.
-/
def peekPast
    (verbose : Bool)
    (text : List Char) : Option Char :=
  let after := text.drop 1
  if !verbose then after.head?
  else
    match after.dropWhile Text.isBlank with
    | '#' :: rest => (rest.dropWhile Text.isBlank).head?.or after.head?
    | c :: _ => some c
    | [] => after.head?

/- A character, a named class, or a range of characters. -/
def readSetItem
    (flags : Flags)
    (text : List Char) : Option (SetPart × List Char) := do
  let (first, text) ← readSetAtom flags text
  let text := skip flags.verbose text
  let following := peekPast flags.verbose text
  match text with
  | [] => none
  | '-' :: rest =>
      if following == some ']' || following == some '-' then
        return (.leaf (← atomSet? flags first), text)
      else
        let (last, rest) ← readSetAtom flags (skip flags.verbose rest)
        let low ← rangeEnd? flags first
        let high ← rangeEnd? flags last
        if low ≤ high then return (.leaf (.range low high), rest) else none
  | _ => return (.leaf (← atomSet? flags first), text)

------------------------------------------------------------
-- Brackets
------------------------------------------------------------

/- A class of ASCII after its opening bracket, as in `[:alpha:]`. -/
def readAsciiClass?
    (text : List Char) : Option ((Bool × CharSet) × List Char) :=
  match text with
  | ':' :: rest =>
      let (negated, rest) :=
        match rest with
        | '^' :: rest => (true, rest)
        | rest => (false, rest)
      let name := rest.takeWhile (· != ':')
      match rest.dropWhile (· != ':') with
      | ':' :: ']' :: rest =>
          (asciiClass? (String.ofList name)).map fun set =>
            ((negated, set), rest)
      | _ => none
  | _ => none

/- Hyphens at the start of a class stand for themselves. -/
def readHyphens
    (verbose : Bool) : Nat → List Char → Nat × List Char
  | 0, text => (0, text)
  | fuel + 1, text =>
      match skip verbose text with
      | '-' :: rest =>
          let (count, rest) := readHyphens verbose fuel rest
          (count + 1, rest)
      | text => (0, text)

/-
  What may stand only at the start of a class: a caret, and
  then hyphens or else a closing bracket.  The text has to go
  on after it.
-/
def readBracketStart
    (flags : Flags)
    (text : List Char) : Option (Bool × List SetPart × List Char) :=
  let text := skip flags.verbose text
  let (negated, text) :=
    match text with
    | '^' :: rest => (true, skip flags.verbose rest)
    | _ => (false, text)
  let (hyphens, text) := readHyphens flags.verbose text.length text
  let parts := List.replicate hyphens (SetPart.leaf (.single '-'))
  match text with
  | [] => none
  | ']' :: rest =>
      if hyphens == 0 then
        some (negated, [.leaf (.single ']')], skip flags.verbose rest)
      else
        some (negated, parts, text)
  | _ => some (negated, parts, text)

/- The class so far, combined with what is in front of an operator. -/
def combineSets
    (flags : Flags)
    (pending : Option (SetOperator × SetPart))
    (parts : List SetPart) : SetPart :=
  let last := SetPart.union parts
  match pending with
  | some (operator, first) => operator.apply flags.ignoreCase first last
  | none => last

/- The parts of a class up to its closing bracket. -/
def readSetParts
    (flags : Flags)
    (pending : Option (SetOperator × SetPart))
    (parts : List SetPart) :
    Nat → List Char → Option (SetPart × List Char)
  | 0, _ => none
  | fuel + 1, text =>
      match skip flags.verbose text with
      | [] => none
      | ']' :: rest => some (combineSets flags pending parts, rest)
      | '[' :: rest =>
          match readAsciiClass? rest with
          | some ((negated, set), rest) => do
              let set ← flags.close? negated set
              readSetParts flags pending (.leaf set :: parts) fuel rest
          | none => do
              let (negated, start, rest) ← readBracketStart flags rest
              let (inner, rest) ← readSetParts flags none start fuel rest
              let set ← flags.close? negated inner.set
              readSetParts flags pending (⟨set, inner.depth + 1⟩ :: parts)
                fuel rest
      | text =>
          match readSetOperator? text with
          | some (operator, rest) =>
              readSetParts flags
                (some (operator, combineSets flags pending parts)) []
                fuel rest
          | none => do
              let (part, rest) ← readSetItem flags text
              readSetParts flags pending (part :: parts) fuel rest

/- A class after its opening bracket. -/
def readBracket
    (flags : Flags)
    (text : List Char) : Option (SetPart × List Char) := do
  let (negated, start, rest) ← readBracketStart flags text
  let (inner, rest) ← readSetParts flags none start (rest.length + 1) rest
  return (⟨← flags.close? negated inner.set, inner.depth + 1⟩, rest)

end Pattern

end Intake
