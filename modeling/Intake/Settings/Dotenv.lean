import Intake.Settings.Variables
import Intake.Text.Blank

/-
  This file reads files of environment variables.

  A line gives a name a value.  In double quotes, a backslash
  escapes the next character; in single quotes, all stand for
  themselves.  A dollar sign outside of single quotes puts in
  the value of a variable.  A quoted value may go over several
  lines.

  Key definitions include:
    * `Dotenv.splitLines`
    * `Dotenv.joinLines`
    * `Dotenv.readValue?`
    * `Dotenv.readLine?`
    * `Environment.withDotenv`
-/

namespace Intake

namespace Dotenv

------------------------------------------------------------
-- Lines
------------------------------------------------------------

/- The lines of a file as bytes, each with its line break. -/
def splitLines : List UInt8 → List (List UInt8)
  | [] => []
  | byte :: rest =>
      if byte == 10 then [byte] :: splitLines rest
      else
        match splitLines rest with
        | [] => [[byte]]
        | first :: others => (byte :: first) :: others

/- The characters of bytes, if they are encoded text. -/
def decode?
    (bytes : List UInt8) : Option (List Char) :=
  (String.fromUTF8? (ByteArray.mk bytes.toArray)).map String.toList

/- What the quotes and backslashes before a place in a line mean for it. -/
inductive Quoting where
  | complete
  | blank
  | escaped
  | single
  | singleEscaped
  | double
  | doubleEscaped
deriving DecidableEq

namespace Quoting

/- What a character means for the next one, outside of quotes. -/
def opened : Char → Quoting
  | '\\' => .escaped
  | '"' => .double
  | '\'' => .single
  | _ => .complete

/- What a character means for the next one. -/
def after
    (c : Char) : Quoting → Quoting
  | .complete =>
      if Text.isBlank c && c != '\n' && c != '\r' then .blank else opened c
  | .blank => opened c
  | .escaped => .complete
  | .single =>
      if c == '\\' then .singleEscaped
      else if c == '\'' then .complete
      else .single
  | .singleEscaped => .single
  | .double =>
      if c == '\\' then .doubleEscaped
      else if c == '"' then .complete
      else .double
  | .doubleEscaped => .double

end Quoting

/-
  What a line means for the next one, or the part of the line
  before a comment.  A comment follows a blank.
-/
def scan (quoting : Quoting) (before : List Char) :
    List Char → Quoting ⊕ List Char
  | [] => .inl quoting
  | c :: rest =>
      if quoting == .blank && c == '#' then .inr before.reverse
      else scan (quoting.after c) (c :: before) rest

/- A line without its line break. -/
def dropBreak
    (line : List Char) : List Char :=
  match line.reverse with
  | '\n' :: '\r' :: rest => rest.reverse
  | '\n' :: rest => rest.reverse
  | _ => line

/-
  Join lines whose quotes are open to the next one.  A line
  that cannot be read, or is open at the end, is `none`, and
  nothing follows it.
-/
def joinLines (quoting : Quoting) (before : List Char) :
    List (List UInt8) → List (Option (List Char))
  | [] => if quoting == .complete then [] else [none]
  | line :: rest =>
      match decode? line with
      | none => [none]
      | some line =>
          let whole := before ++ line
          if (Text.trimStart whole).head? == some '#' then
            joinLines .complete [] rest
          else
            match scan quoting [] line with
            | .inr part =>
                some (before ++ part) :: joinLines .complete [] rest
            | .inl .complete =>
                some (dropBreak whole) :: joinLines .complete [] rest
            | .inl quoting => joinLines quoting whole rest

------------------------------------------------------------
-- Values
------------------------------------------------------------

/-
  How the next character of a value is read.  The name of a
  variable keeps its characters in reverse.
-/
inductive Mode where
  | plain
  | escaped
  | single
  | name (braced : Bool) (soFar : List Char)
  | ended
deriving DecidableEq

/- A value that is being read: its characters so far, in reverse. -/
structure Cursor where
  chars : List Char
  double : Bool
  mode : Mode

namespace Cursor

/- The cursor before a value. -/
def start : Cursor :=
  ⟨[], false, .plain⟩

/- Add a character, and go on with plain text. -/
def push
    (cursor : Cursor)
    (c : Char) : Cursor :=
  { cursor with chars := c :: cursor.chars, mode := .plain }

/- Add the value of a variable, and go on with plain text. -/
def pushValue
    (value : String → String)
    (cursor : Cursor)
    (soFar : List Char) : Cursor :=
  let content := value (String.ofList soFar.reverse)
  { cursor with
    chars := content.toList.reverse ++ cursor.chars
    mode := .plain }

/- The cursor after a character of plain text. -/
def plain
    (cursor : Cursor)
    (c : Char) : Cursor :=
  if c == '$' then { cursor with mode := .name false [] }
  else if c == '\\' then { cursor with mode := .escaped }
  else if c == '"' then { cursor with double := !cursor.double }
  else if cursor.double then cursor.push c
  else if c == '\'' then { cursor with mode := .single }
  else if c == ' ' || c == '\t' then { cursor with mode := .ended }
  else cursor.push c

/-
  The cursor after a character.  A name ends before the first
  character that is no letter or digit, which stands for
  itself, unless the name is in braces.
-/
def step?
    (value : String → String)
    (cursor : Cursor)
    (c : Char) : Option Cursor :=
  match cursor.mode with
  | .ended => if c == ' ' || c == '\t' then some cursor else none
  | .escaped =>
      if c == 'n' then some (cursor.push '\n')
      else if ['\\', '\'', '"', '$', ' '].contains c then some (cursor.push c)
      else none
  | .single =>
      if c == '\'' then some { cursor with mode := .plain }
      else some { cursor with chars := c :: cursor.chars }
  | .name braced soFar =>
      if Property.alphanumeric.contains c then
        some { cursor with mode := .name braced (c :: soFar) }
      else if braced then
        if c == '\x7d' then some (cursor.pushValue value soFar)
        else some { cursor with mode := .name braced (c :: soFar) }
      else if c == '\x7b' && soFar.isEmpty then
        some { cursor with mode := .name true [] }
      else
        let cursor := cursor.pushValue value soFar
        if c == '$' then some { cursor with mode := .name false [] }
        else some (cursor.push c)
  | .plain => some (cursor.plain c)

/- The characters at the end of a value, in which nothing may be open. -/
def finish?
    (value : String → String)
    (cursor : Cursor) : Option String :=
  let cursor? :=
    match cursor.mode with
    | .name true _ => none
    | .single => none
    | .name false soFar => some (cursor.pushValue value soFar)
    | _ => some cursor
  if cursor.double then none
  else cursor?.map fun cursor => String.ofList cursor.chars.reverse

end Cursor

/- The value that a text writes, with the values of other variables. -/
def readValue?
    (value : String → String) (cursor : Cursor) :
    List Char → Option String
  | [] => cursor.finish? value
  | c :: rest =>
      if cursor.mode == .ended && c == '#' then cursor.finish? value
      else
        match cursor.step? value c with
        | some cursor => readValue? value cursor rest
        | none => none

------------------------------------------------------------
-- Variables
------------------------------------------------------------

/- A character that may open a name. -/
def opensName
    (c : Char) : Bool :=
  c.isAlpha || c == '_'

/- A character inside a name. -/
def continuesName
    (c : Char) : Bool :=
  c.isAlphanum || c == '_' || c == '.'

/- A name, and the text after it and after blanks. -/
def readName?
    (text : List Char) : Option (List Char × List Char) :=
  match text with
  | c :: _ =>
      if opensName c then
        some (text.takeWhile continuesName,
          Text.trimStart (text.dropWhile continuesName))
      else none
  | [] => none

/-
  A name before an equals sign, and the text after it.  The
  word `export` may stand in front of the name.
-/
def readTarget?
    (text : List Char) : Option (List Char × List Char) := do
  let (name, rest) ← readName? text
  match rest with
  | '=' :: rest => return (name, Text.trimStart rest)
  | rest =>
      if name == "export".toList then
        let (name, rest) ← readName? rest
        match rest with
        | '=' :: rest => return (name, Text.trimStart rest)
        | _ => none
      else none

/- The name and the value that a line gives, if it gives one. -/
def readLine?
    (value : String → String)
    (line : List Char) : Option (Option (String × String)) :=
  let text := Text.trimStart (Text.trimEnd line)
  if text.isEmpty || text.head? == some '#' then some none
  else do
    let (name, rest) ← readTarget? text
    let content ←
      if rest.isEmpty || rest.head? == some '#' then some ""
      else readValue? value .start rest
    return some (String.ofList name, content)

/-
  The environment, and the values that a file has given so
  far.
-/
structure Progress where
  env : Environment
  given : Environment

namespace Progress

/- The value of a variable: the environment's, else the file's, else none. -/
def value
    (progress : Progress)
    (name : String) : String :=
  match Fields.lookup? progress.env name with
  | some content => content
  | none => (Fields.lookup? progress.given name).getD ""

/- Give a variable a value, which counts if the environment has none. -/
def give
    (progress : Progress)
    (name content : String) : Progress where
  env :=
    if Fields.contains progress.env name then progress.env
    else Fields.insert progress.env name content
  given := Fields.insert progress.given name content

/- The environment after lines, up to the first that cannot be read. -/
def run
    (progress : Progress) : List (Option (List Char)) → Environment
  | some line :: rest =>
      match readLine? progress.value line with
      | some (some (name, content)) => (progress.give name content).run rest
      | some none => progress.run rest
      | none => progress.env
  | _ => progress.env

end Progress

/- The bytes that mark the order of bytes in encoded text. -/
def orderMark : List UInt8 :=
  [0xEF, 0xBB, 0xBF]

/- Bytes without a mark in front. -/
def skipOrderMark
    (bytes : List UInt8) : List UInt8 :=
  if orderMark.isPrefixOf bytes then bytes.drop orderMark.length else bytes

end Dotenv

/-
  The environment with the variables of a file, as far as it
  can be read.  A variable that is there keeps its value.
-/
def Environment.withDotenv
    (env : Environment)
    (content : ByteArray) : Environment :=
  let bytes := Dotenv.skipOrderMark content.data.toList
  let lines := Dotenv.joinLines .complete [] (Dotenv.splitLines bytes)
  Dotenv.Progress.run ⟨env, []⟩ lines

end Intake
