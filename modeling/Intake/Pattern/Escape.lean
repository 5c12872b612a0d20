import Intake.Pattern.Node
import Intake.Pattern.Property
import Intake.Raw.Syntax

/-
  This file reads the smallest parts of patterns: single
  characters, and what follows a backslash.

  Key definitions include:
    * `Flags`
    * `Atom`
    * `readEscape`
    * `readAtom`
-/

namespace Intake

namespace Pattern

------------------------------------------------------------
-- Flags
------------------------------------------------------------

/- How the parts of a pattern are understood. -/
structure Flags where
  ignoreCase : Bool
  multiLine : Bool
  dotAll : Bool
  swapGreed : Bool
  unicode : Bool
  carriage : Bool
  verbose : Bool
deriving DecidableEq

/- What holds at the start of a pattern. -/
def Flags.initial : Flags where
  ignoreCase := false
  multiLine := false
  dotAll := false
  swapGreed := false
  unicode := true
  carriage := false
  verbose := false

------------------------------------------------------------
-- Blanks and Comments
------------------------------------------------------------

/- The text after blanks and comments, which end with their line. -/
def dropComments
    (inComment : Bool) : List Char → List Char
  | [] => []
  | c :: rest =>
      if inComment then dropComments (c != '\n') rest
      else if Text.isBlank c then dropComments false rest
      else if c == '#' then dropComments true rest
      else c :: rest

/- The text after what a verbose pattern passes over. -/
def skip
    (verbose : Bool)
    (text : List Char) : List Char :=
  if verbose then dropComments false text else text

------------------------------------------------------------
-- Atoms
------------------------------------------------------------

/- The smallest parts of patterns. -/
inductive Atom where
  | literal (c : Char) (isByte : Bool)
  | set (set : CharSet)
  | look (condition : Look)

/- Characters with a meaning of their own in patterns. -/
def metaCharacters : List Char :=
  ['\\', '.', '+', '*', '?', '(', ')', '|', '[', ']', '\x7b', '\x7d',
    '^', '$', '#', '&', '-', '~']

/- A character that stands for itself after a backslash. -/
def isEscapable
    (c : Char) : Bool :=
  metaCharacters.contains c ||
    (decide (c.toNat < 128) && !c.isAlphanum && c != '<' && c != '>')

/- The characters of a set that a pattern without Unicode may use. -/
def asciiSet?
    (set : CharSet) : Option CharSet :=
  if (List.range 128).any fun i => set.containsCode (128 + i) then none
  else some (.inter set asciiOnly)

/- A set that is folded and negated as the flags and the pattern say. -/
def Flags.close?
    (flags : Flags)
    (negated : Bool)
    (set : CharSet) : Option CharSet :=
  let made := CharSet.negateIf negated (CharSet.foldIf flags.ignoreCase set)
  if flags.unicode then some made else asciiSet? made

/- The set of characters that a literal stands for. -/
def Flags.literal?
    (flags : Flags)
    (c : Char)
    (isByte : Bool) : Option CharSet :=
  if flags.unicode then
    some (CharSet.foldIf flags.ignoreCase (.single c))
  else if c.toNat < 128 then
    some (.inter (CharSet.foldIf flags.ignoreCase (.single c)) asciiOnly)
  else if isByte then none
  else some (.single c)

/- The set of characters that a point stands for. -/
def Flags.dot?
    (flags : Flags) : Option CharSet :=
  if !flags.unicode then none
  else if flags.dotAll then some .all
  else if flags.carriage then
    some (.complement (.union (.single '\n') (.single '\r')))
  else some (.complement (.single '\n'))

/- The condition of a caret. -/
def Flags.caret
    (flags : Flags) : Look :=
  if !flags.multiLine then .textStart
  else if flags.carriage then .lineStartAny
  else .lineStart

/- The condition of a dollar sign. -/
def Flags.dollar
    (flags : Flags) : Look :=
  if !flags.multiLine then .textEnd
  else if flags.carriage then .lineEndAny
  else .lineEnd

------------------------------------------------------------
-- Code Points
------------------------------------------------------------

/- The character with a code point. -/
def charOf?
    (code : Nat) : Option Char :=
  if code < 0xD800 ∨ (0xDFFF < code ∧ code < 0x110000) then
    some (Char.ofNat code)
  else
    none

/- A number of hexadecimal digits, which blanks may separate. -/
def readHexDigits
    (verbose : Bool) : Nat → Nat → List Char → Option (Nat × List Char)
  | 0, code, text => some (code, text)
  | _ + 1, _, [] => none
  | count + 1, code, c :: rest => do
      let digit ← JsonSyntax.hexValue? c
      readHexDigits verbose count (code * 16 + digit) (skip verbose rest)

/- Hexadecimal digits up to a closing brace. -/
def readBracedHex
    (verbose : Bool)
    (fuel : Nat)
    (code : Option Nat)
    (text : List Char) : Option (Nat × List Char) :=
  match fuel, skip verbose text with
  | 0, _ => none
  | _ + 1, [] => none
  | fuel + 1, c :: rest =>
      if c == '\x7d' then code.map fun code => (code, skip verbose rest)
      else do
        let digit ← JsonSyntax.hexValue? c
        readBracedHex verbose fuel (some (code.getD 0 * 16 + digit)) rest

/- A code point after its letter, which gives the number of digits. -/
def readCodePoint
    (verbose : Bool)
    (letter : Char)
    (text : List Char) : Option (Atom × List Char) := do
  match skip verbose text with
  | '\x7b' :: rest =>
      let (code, rest) ← readBracedHex verbose (rest.length + 1) none rest
      return (.literal (← charOf? code) false, rest)
  | text =>
      let count := if letter == 'x' then 2 else if letter == 'u' then 4 else 8
      let (code, rest) ← readHexDigits verbose count 0 text
      return (.literal (← charOf? code) (letter == 'x'), rest)

------------------------------------------------------------
-- Named Classes
------------------------------------------------------------

/- The characters of a name up to a closing brace. -/
def readBracedName
    (verbose : Bool)
    (fuel : Nat)
    (text : List Char) : Option (List Char × List Char) :=
  match fuel, skip verbose text with
  | 0, _ => none
  | _ + 1, [] => none
  | fuel + 1, c :: rest =>
      if c == '\x7d' then some ([], rest)
      else (readBracedName verbose fuel rest).map
        fun (name, rest) => (c :: name, rest)

/- A text before and after the first place of a separator. -/
def splitAtFirst?
    (separator : List Char) :
    List Char → Option (List Char × List Char)
  | [] => none
  | c :: rest =>
      if separator.isPrefixOf (c :: rest) then
        some ([], (c :: rest).drop separator.length)
      else
        (splitAtFirst? separator rest).map fun (a, b) => (c :: a, b)

/-
  The characters that a name in braces stands for, and whether
  the name asks for all others.
-/
def bracedClass?
    (name : List Char) : Option (CharSet × Bool) :=
  match splitAtFirst? ['!', '='] name with
  | some (property, value) => (classOfValue? property value).map ((·, true))
  | none =>
      match splitAtFirst? [':'] name with
      | some (property, value) =>
          (classOfValue? property value).map ((·, false))
      | none =>
          match splitAtFirst? ['='] name with
          | some (property, value) =>
              (classOfValue? property value).map ((·, false))
          | none => (classNamed? name).map ((·, false))

/- A named class after its letter. -/
def readNamedClass
    (flags : Flags)
    (negated : Bool)
    (text : List Char) : Option (Atom × List Char) := do
  let ((set, others), rest) ←
    match skip flags.verbose text with
    | [] => none
    | '\x7b' :: rest =>
        (readBracedName flags.verbose (rest.length + 1) rest).bind
          fun (name, rest) => (bracedClass? name).map ((·, rest))
    | c :: rest =>
        if c == '\\' then none
        else
          (classNamed? [c]).map fun set =>
            ((set, false), skip flags.verbose rest)
  if flags.unicode then
    let folded := CharSet.foldIf flags.ignoreCase set
    return (.set (CharSet.negateIf (negated != others) folded), rest)
  else
    none

------------------------------------------------------------
-- Escapes
------------------------------------------------------------

/- A character inside the name of a boundary. -/
def isBoundaryChar
    (c : Char) : Bool :=
  c.isAlpha || c == '-'

/- The characters of the name of a boundary. -/
def readBoundaryName
    (verbose : Bool) : Nat → List Char → List Char × List Char
  | 0, text => ([], text)
  | _ + 1, [] => ([], [])
  | fuel + 1, c :: rest =>
      if isBoundaryChar c then
        let (name, rest) := readBoundaryName verbose fuel (skip verbose rest)
        (c :: name, rest)
      else
        ([], c :: rest)

/-
  A boundary of words after its letter.  Braces may say which
  kind of boundary it is; braces with digits are left alone.
-/
def readBoundary
    (flags : Flags)
    (text : List Char) : Option (Atom × List Char) :=
  let ascii := !flags.unicode
  match text with
  | '\x7b' :: rest =>
      match skip flags.verbose rest with
      | [] => none
      | c :: inside =>
          if !isBoundaryChar c then some (.look (.boundary ascii), text)
          else
            let (name, rest) :=
              readBoundaryName flags.verbose (inside.length + 1) (c :: inside)
            match rest with
            | '\x7d' :: rest =>
                let name := String.ofList name
                if name == "start" then some (.look (.wordStart ascii), rest)
                else if name == "end" then
                  some (.look (.wordEnd ascii), rest)
                else if name == "start-half" then
                  some (.look (.wordStartHalf ascii), rest)
                else if name == "end-half" then
                  some (.look (.wordEndHalf ascii), rest)
                else none
            | _ => none
  | _ => some (.look (.boundary ascii), text)

/- The character of an escape of one letter. -/
def controlLetter? : Char → Option Char
  | 'a' => some '\x07'
  | 'f' => some '\x0c'
  | 't' => some '\t'
  | 'n' => some '\n'
  | 'r' => some '\r'
  | 'v' => some '\x0b'
  | _ => none

/- The condition of an escape of one letter. -/
def lookLetter?
    (ascii : Bool) : Char → Option Look
  | 'A' => some .textStart
  | 'z' => some .textEnd
  | 'B' => some (.notBoundary ascii)
  | '<' => some (.wordStart ascii)
  | '>' => some (.wordEnd ascii)
  | _ => none

/- What stands after a backslash. -/
def readEscape
    (flags : Flags) : List Char → Option (Atom × List Char)
  | [] => none
  | c :: rest =>
      if c == 'x' || c == 'u' || c == 'U' then
        readCodePoint flags.verbose c rest
      else if c == 'p' || c == 'P' then readNamedClass flags (c == 'P') rest
      else if c == 'b' then readBoundary flags rest
      else
        match letterClass? flags.unicode c.toLower with
        | some set =>
            let negated := c.isUpper
            if negated && !flags.unicode then none
            else some (.set (CharSet.negateIf negated set), rest)
        | none =>
            if isEscapable c then some (.literal c false, rest)
            else
              match controlLetter? c, lookLetter? (!flags.unicode) c with
              | some c, _ => some (.literal c false, rest)
              | none, some look => some (.look look, rest)
              | none, none => none

/- An atom outside of brackets. -/
def readAtom
    (flags : Flags) : List Char → Option (Node × List Char)
  | [] => none
  | '\\' :: rest => do
      let (atom, rest) ← readEscape flags rest
      match atom with
      | .literal c isByte => return (.one (← flags.literal? c isByte), rest)
      | .set set => return (.one set, rest)
      | .look look => return (.look look, rest)
  | '.' :: rest => (flags.dot?).map fun set => (.one set, rest)
  | '^' :: rest => some (.look flags.caret, rest)
  | '$' :: rest => some (.look flags.dollar, rest)
  | c :: rest => (flags.literal? c false).map fun set => (.one set, rest)

end Pattern

end Intake
