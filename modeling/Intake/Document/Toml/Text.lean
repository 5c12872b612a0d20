import Intake.Raw.Syntax

/-
  This file reads the words of a TOML text: blanks, comments,
  ends of lines, strings and keys.

  Key definitions include:
    * `Toml.Reader`
    * `Toml.skipBlanks`
    * `Toml.lineEnd`
    * `Toml.string`
    * `Toml.key`
-/

namespace Intake

namespace Toml

/- The result of reading a part of a text, and the rest of the text. -/
abbrev Reader (α : Type) :=
  List Char → Option (α × List Char)

------------------------------------------------------------
-- Blanks and Lines
------------------------------------------------------------

/- A blank inside a line. -/
def isBlank
    (c : Char) : Bool :=
  c == ' ' || c == '\t'

/- The text after its leading blanks. -/
def skipBlanks
    (text : List Char) : List Char :=
  text.dropWhile isBlank

/- The text after a line break. -/
def newline? : List Char → Option (List Char)
  | '\n' :: rest => some rest
  | '\r' :: '\n' :: rest => some rest
  | _ => none

/- A character that may stand in a line: no control character but the tab. -/
def isPlain
    (c : Char) : Bool :=
  c == '\t' || decide (32 ≤ c.toNat) && c.toNat != 127

/- The text after a comment, if one stands there. -/
def skipComment : List Char → List Char
  | '#' :: rest => rest.dropWhile isPlain
  | text => text

/-
  The text after the end of a line, which may have blanks and
  a comment before it.  The end of the text ends its last line.
-/
def lineEnd
    (text : List Char) : Option (List Char) :=
  match skipComment (skipBlanks text) with
  | [] => some []
  | rest => newline? rest

/-
  The text after blanks, comments and line breaks, as they may
  stand between the items of a list.  A comment has to end
  with its line.  The fuel bounds the number of lines.
-/
def skipLines : Nat → List Char → Option (List Char)
  | 0, _ => none
  | fuel + 1, text =>
      match skipBlanks text with
      | '#' :: rest => (lineEnd ('#' :: rest)).bind (skipLines fuel)
      | '\n' :: rest => skipLines fuel rest
      | '\r' :: rest => (newline? ('\r' :: rest)).bind (skipLines fuel)
      | rest => some rest

------------------------------------------------------------
-- Escapes
------------------------------------------------------------

/- The character with a code point, if there is one. -/
def charOfCode?
    (code : Nat) : Option Char :=
  if code.isValidChar then some (Char.ofNat code) else none

/- A character that is written by a fixed number of hexadecimal digits. -/
def codeEscape
    (width : Nat)
    (text : List Char) : Option (Char × List Char) := do
  let digits ← (text.take width).mapM JsonSyntax.hexValue?
  if digits.length = width then
    let c ← charOfCode? (digits.foldl (fun n d => 16 * n + d) 0)
    return (c, text.drop width)
  else none

/- The character of an escape of one letter. -/
def escapeLetter? : Char → Option Char
  | 'b' => some '\x08'
  | 'f' => some '\x0c'
  | 'n' => some '\n'
  | 'r' => some '\r'
  | 't' => some '\t'
  | '\\' => some '\\'
  | '"' => some '"'
  | _ => none

/- An escaped character after its backslash. -/
def escape : Reader Char
  | 'u' :: rest => codeEscape 4 rest
  | 'U' :: rest => codeEscape 8 rest
  | c :: rest => (escapeLetter? c).map fun c => (c, rest)
  | [] => none

------------------------------------------------------------
-- Strings
------------------------------------------------------------

/-
  The rest of a string in one line, up to its closing quote.
  Escapes count only where the string has them.
-/
def lineString (quote : Char) (escapes : Bool) : Nat → Reader (List Char)
  | 0, _ => none
  | _ + 1, [] => none
  | fuel + 1, c :: rest =>
      if c == quote then some ([], rest)
      else if escapes && c == '\\' then do
        let (c, rest) ← escape rest
        let (others, rest) ← lineString quote escapes fuel rest
        return (c :: others, rest)
      else if isPlain c then do
        let (others, rest) ← lineString quote escapes fuel rest
        return (c :: others, rest)
      else none

/- The text after blanks and line breaks.  The fuel bounds the breaks. -/
def skipBreaks : Nat → List Char → List Char
  | 0, text => skipBlanks text
  | fuel + 1, text =>
      match newline? (skipBlanks text) with
      | some rest => skipBreaks fuel rest
      | none => skipBlanks text

/-
  The text after a line break that a backslash hides, and
  after all blanks and line breaks that follow.
-/
def hiddenBreak?
    (text : List Char) : Option (List Char) :=
  (newline? (skipBlanks text)).map fun rest => skipBreaks rest.length rest

/-
  The rest of a string of several lines, up to the three
  quotes that close it.  One or two quotes more than the three
  belong to the string.
-/
def blockString (quote : Char) (escapes : Bool) : Nat → Reader (List Char)
  | 0, _ => none
  | _ + 1, [] => none
  | fuel + 1, c :: rest =>
      if c == quote then
        let quotes := (c :: rest).takeWhile (· == quote)
        let rest := (c :: rest).dropWhile (· == quote)
        if quotes.length < 3 then do
          let (others, rest) ← blockString quote escapes fuel rest
          return (quotes ++ others, rest)
        else if quotes.length ≤ 5 then some (quotes.drop 3, rest)
        else none
      else if escapes && c == '\\' then
        match hiddenBreak? rest with
        | some rest => blockString quote escapes fuel rest
        | none => do
            let (c, rest) ← escape rest
            let (others, rest) ← blockString quote escapes fuel rest
            return (c :: others, rest)
      else
        match newline? (c :: rest) with
        | some rest => do
            let (others, rest) ← blockString quote escapes fuel rest
            return ('\n' :: others, rest)
        | none =>
            if isPlain c then do
              let (others, rest) ← blockString quote escapes fuel rest
              return (c :: others, rest)
            else none

/-
  A string: between quotes or three quotes, with escapes, or
  between apostrophes or three of them, without.  A line break
  right after the three is no part of the string.
-/
def string
    (text : List Char) : Option (String × List Char) :=
  let fuel := text.length + 1
  let block (quote : Char) (escapes : Bool) (rest : List Char) :=
    blockString quote escapes fuel ((newline? rest).getD rest)
  let chars :=
    match text with
    | '"' :: '"' :: '"' :: rest => block '"' true rest
    | '"' :: rest => lineString '"' true fuel rest
    | '\'' :: '\'' :: '\'' :: rest => block '\'' false rest
    | '\'' :: rest => lineString '\'' false fuel rest
    | _ => none
  chars.map fun (chars, rest) => (String.ofList chars, rest)

------------------------------------------------------------
-- Keys
------------------------------------------------------------

/- A character of a key without quotes. -/
def isBare
    (c : Char) : Bool :=
  c.isAlphanum || c == '-' || c == '_'

/- A part of a key: a string in one line, or a word. -/
def keyPart
    (text : List Char) : Option (String × List Char) :=
  match text with
  | '"' :: rest =>
      (lineString '"' true (text.length + 1) rest).map fun (chars, rest) =>
        (String.ofList chars, rest)
  | '\'' :: rest =>
      (lineString '\'' false (text.length + 1) rest).map fun (chars, rest) =>
        (String.ofList chars, rest)
  | _ =>
      let word := text.takeWhile isBare
      if word.isEmpty then none
      else some (String.ofList word, text.dropWhile isBare)

/- Parts of a key with points between them.  The fuel bounds their number. -/
def keyParts : Nat → Reader (List String)
  | 0, _ => none
  | fuel + 1, text => do
      let (first, rest) ← keyPart (skipBlanks text)
      match skipBlanks rest with
      | '.' :: rest =>
          let (others, rest) ← keyParts fuel rest
          return (first :: others, rest)
      | rest => return ([first], rest)

/- A key, with blanks around each of its parts. -/
def key
    (text : List Char) : Option (List String × List Char) :=
  keyParts (text.length + 1) text

end Toml

end Intake
