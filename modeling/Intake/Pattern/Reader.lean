import Intake.Pattern.Bracket
import Intake.Power

/-
  This file reads whole patterns: alternatives, repetitions
  and groups.

  A pattern is refused if its parts are nested too deeply or
  if its compiled form would take too much room.

  Key definitions include:
    * `Part`
    * `readBranches`
    * `Node.read?`
-/

namespace Intake

namespace Pattern

------------------------------------------------------------
-- Parts
------------------------------------------------------------

/-
  A part of a pattern with the depth of its nesting.  A
  setting of flags is a part that cannot be repeated.
-/
structure Part where
  node : Node
  depth : Nat
  isSetting : Bool

namespace Part

/- A part without parts. -/
def leaf
    (node : Node) : Part :=
  ⟨node, 0, false⟩

/- Flags that are set for what follows. -/
def setting : Part :=
  ⟨.empty, 0, true⟩

/- The greatest depth of some parts. -/
def maxDepth
    (parts : List Part) : Nat :=
  parts.foldl (fun depth part => Nat.max depth part.depth) 0

/- Parts one after the other; the last one comes first in the list. -/
def concat : List Part → Part
  | [] => leaf .empty
  | [part] => ⟨part.node, part.depth, false⟩
  | parts =>
      ⟨Node.concat (parts.reverse.map Part.node), maxDepth parts + 1, false⟩

/- Alternatives; the last one comes first in the list. -/
def choice : List Part → Part
  | [part] => part
  | parts =>
      ⟨Node.choice (parts.reverse.map Part.node), maxDepth parts + 1, false⟩

/- The part before it all, repeated. -/
def repeatLast?
    (min : Nat)
    (max : Option Nat) : List Part → Option (List Part)
  | [] => none
  | part :: parts =>
      if part.isSetting then none
      else
        some (⟨.repeated part.node min max, part.depth + 1, false⟩ :: parts)

end Part

/- The rest of a pattern, the flags that hold, and the names of groups. -/
structure Cursor where
  rest : List Char
  flags : Flags
  names : List String

------------------------------------------------------------
-- Repetitions
------------------------------------------------------------

/- A question mark after a repetition, which has no influence here. -/
def dropLazy : List Char → List Char
  | '?' :: rest => rest
  | text => text

/- Digits of a count, which blanks may separate in a verbose pattern. -/
def readCountDigits
    (verbose : Bool) : Nat → List Char → List Char × List Char
  | 0, text => ([], text)
  | _ + 1, [] => ([], [])
  | fuel + 1, c :: rest =>
      if c.isDigit then
        let (digits, rest) := readCountDigits verbose fuel (skip verbose rest)
        (c :: digits, rest)
      else
        ([], c :: rest)

/- A count of 32 bits with blanks around it. -/
def readCount
    (verbose : Bool)
    (text : List Char) : Option (Nat × List Char) :=
  let text := Text.trimStart text
  let (digits, rest) := readCountDigits verbose text.length text
  let count := Text.digitsValue digits
  if digits.isEmpty || decide (twoTo 32 ≤ count) then none
  else
    let trimmed := Text.trimStart rest
    some (count, if trimmed.length < rest.length then skip verbose trimmed
      else rest)

/- The counts of a repetition after the opening brace. -/
def readCounts
    (verbose : Bool)
    (text : List Char) : Option (Nat × Option Nat × List Char) := do
  let (min, text) ← readCount verbose (skip verbose text)
  match text with
  | '\x7d' :: rest => return (min, some min, skip verbose rest)
  | ',' :: rest =>
      match skip verbose rest with
      | '\x7d' :: rest => return (min, none, skip verbose rest)
      | text =>
          let (max, text) ← readCount verbose text
          match text with
          | '\x7d' :: rest =>
              if min ≤ max then return (min, some max, skip verbose rest)
              else none
          | _ => none
  | _ => none

------------------------------------------------------------
-- Groups
------------------------------------------------------------

/- The name of a group up to its closing angle. -/
def readGroupName
    (names : List String)
    (text : List Char) : Option (String × List Char) :=
  let name := text.takeWhile (· != '>')
  match name, text.dropWhile (· != '>') with
  | first :: others, '>' :: rest =>
      let opens := first == '_' || Property.alphabetic.contains first
      let continues := others.all fun c =>
        c == '_' || c == '.' || c == '[' || c == ']' ||
          Property.alphanumeric.contains c
      let name := String.ofList name
      if opens && continues && !names.contains name then some (name, rest)
      else none
  | _, _ => none

/- Set a flag by its letter. -/
def Flags.set?
    (flags : Flags)
    (letter : Char)
    (on : Bool) : Option Flags :=
  match letter with
  | 'i' => some { flags with ignoreCase := on }
  | 'm' => some { flags with multiLine := on }
  | 's' => some { flags with dotAll := on }
  | 'U' => some { flags with swapGreed := on }
  | 'u' => some { flags with unicode := on }
  | 'R' => some { flags with carriage := on }
  | 'x' => some { flags with verbose := on }
  | _ => none

/-
  Flags up to a colon or a closing parenthesis.  Each letter
  and the minus sign stand once at most, and a letter follows
  the minus sign.
-/
def readFlags
    (flags : Flags)
    (seen : List Char) : List Char → Option (Flags × List Char × List Char)
  | [] => none
  | c :: rest =>
      if c == ':' || c == ')' then
        if seen.head? == some '-' then none else some (flags, seen, c :: rest)
      else if seen.contains c then none
      else if c == '-' then readFlags flags (c :: seen) rest
      else
        (flags.set? c (!seen.contains '-')).bind fun flags =>
          readFlags flags (c :: seen) rest

/- What an opening parenthesis can begin. -/
inductive Opening where
  | setting (cursor : Cursor)
  | group (cursor : Cursor)

/- A text after a word that it starts with. -/
def after?
    (word : String)
    (text : List Char) : Option (List Char) :=
  JsonSyntax.expect word.toList text

/- What follows an opening parenthesis, up to the contents of a group. -/
def readOpening
    (cursor : Cursor) : Option Opening :=
  let text := skip cursor.flags.verbose cursor.rest
  let around := ["?=", "?!", "?<=", "?<!"]
  if around.any fun word => (after? word text).isSome then none
  else
    match (after? "?P<" text).or (after? "?<" text) with
    | some text =>
        (readGroupName cursor.names text).map fun (name, rest) =>
          .group { cursor with rest := rest, names := name :: cursor.names }
    | none =>
        match text with
        | '?' :: rest => do
            let (flags, seen, rest) ← readFlags cursor.flags [] rest
            match rest with
            | ')' :: rest =>
                if seen.isEmpty then none
                else return .setting { cursor with rest := rest, flags := flags }
            | ':' :: rest =>
                return .group { cursor with rest := rest, flags := flags }
            | _ => none
        | _ => some (.group { cursor with rest := text })

------------------------------------------------------------
-- Patterns
------------------------------------------------------------

/-
  The alternatives up to the end of a group or of the pattern.
  Flags that are set inside hold up to there.
-/
def readBranches
    (branches parts : List Part) : Nat → Cursor → Option (Part × Cursor)
  | 0, _ => none
  | fuel + 1, cursor =>
      let text := skip cursor.flags.verbose cursor.rest
      let finish : Part := Part.choice (Part.concat parts :: branches)
      let repeated (min : Nat) (max : Option Nat) (rest : List Char) := do
        let parts ← Part.repeatLast? min max parts
        readBranches branches parts fuel { cursor with rest := rest }
      match text with
      | [] => some (finish, { cursor with rest := [] })
      | ')' :: _ => some (finish, { cursor with rest := text })
      | '|' :: rest =>
          readBranches (Part.concat parts :: branches) [] fuel
            { cursor with rest := rest }
      | '?' :: rest => repeated 0 (some 1) (dropLazy rest)
      | '*' :: rest => repeated 0 none (dropLazy rest)
      | '+' :: rest => repeated 1 none (dropLazy rest)
      | '\x7b' :: rest => do
          let (min, max, rest) ← readCounts cursor.flags.verbose rest
          repeated min max (dropLazy rest)
      | '[' :: rest => do
          let (part, rest) ← readBracket cursor.flags rest
          readBranches branches (⟨.one part.set, part.depth, false⟩ :: parts)
            fuel { cursor with rest := rest }
      | '(' :: rest => do
          match ← readOpening { cursor with rest := rest } with
          | .setting cursor =>
              readBranches branches (.setting :: parts) fuel cursor
          | .group inside =>
              let (part, inside) ← readBranches [] [] fuel inside
              match inside.rest with
              | ')' :: rest =>
                  readBranches branches
                    (⟨part.node, part.depth + 1, false⟩ :: parts) fuel
                    ⟨rest, cursor.flags, inside.names⟩
              | _ => none
      | text => do
          let (node, rest) ← readAtom cursor.flags text
          readBranches branches (.leaf node :: parts) fuel
            { cursor with rest := rest }

/- The deepest nesting of parts. -/
def maxNesting : Nat :=
  250

/- The most room that a compiled pattern may take. -/
def maxWeight : Nat :=
  10 * twoTo 20

/- The tree of a pattern. -/
def Node.read?
    (source : String) : Option Node := do
  let text := source.toList
  let (part, cursor) ←
    readBranches [] [] (text.length + 1) ⟨text, .initial, []⟩
  if cursor.rest.isEmpty && decide (part.depth ≤ maxNesting) &&
      decide (part.node.weight ≤ maxWeight) then
    return part.node
  else
    none

end Pattern

end Intake
