import Intake.Document.Toml.Scalar
import Intake.Document.Toml.Table

/-
  This file reads settings documents that are written in TOML.

  Key definitions include:
    * `Toml.value`
    * `Toml.document`
    * `Document.readToml?`
-/

namespace Intake

namespace Toml

------------------------------------------------------------
-- Values
------------------------------------------------------------

/-
  The items of a list after its bracket, up to the closing
  bracket.  A comma may follow the last item.  The fuel bounds
  the number of items.
-/
def items (item : Reader Document) : Nat → Reader (List Document)
  | 0, _ => none
  | fuel + 1, text => do
      let skip := fun text => skipLines (text.length + 1) text
      match ← skip text with
      | ']' :: rest => return ([], rest)
      | text =>
          let (first, rest) ← item text
          match ← skip rest with
          | ']' :: rest => return ([first], rest)
          | ',' :: rest =>
              let (others, rest) ← items item fuel rest
              return (first :: others, rest)
          | _ => none

/- A key with its value, and blanks after it. -/
def pair
    (value : Reader Document)
    (text : List Char) :
    Option ((List String × Document) × List Char) := do
  let (key, rest) ← key text
  match rest with
  | '=' :: rest =>
      let (content, rest) ← value (skipBlanks rest)
      return ((key, content), skipBlanks rest)
  | _ => none

/-
  The pairs of a table in one line, up to its closing brace.
  The fuel bounds their number.
-/
def pairs (value : Reader Document) :
    Nat → Reader (List (List String × Document))
  | 0, _ => none
  | fuel + 1, text => do
      let (first, rest) ← pair value text
      match rest with
      | '\x7d' :: rest => return ([first], rest)
      | ',' :: rest =>
          let (others, rest) ← pairs value fuel rest
          return (first :: others, rest)
      | _ => none

/- A table in one line, after its opening brace. -/
def inlineTable
    (value : Reader Document)
    (text : List Char) : Option (Document × List Char) := do
  match skipBlanks text with
  | '\x7d' :: rest => return (.table [], rest)
  | text =>
      let (ps, rest) ← pairs value (text.length + 1) text
      let fields ← inlineFields? ps
      return (.table (Node.fieldsToDocument fields), rest)

/- A value.  The fuel bounds the depth of the document. -/
def value : Nat → Reader Document
  | 0, _ => none
  | fuel + 1, text =>
      match text with
      | '[' :: rest =>
          (items (value fuel) (rest.length + 1) rest).map
            fun (items, rest) => (.list items, rest)
      | '\x7b' :: rest => inlineTable (value fuel) rest
      | _ => scalar text

------------------------------------------------------------
-- Documents
------------------------------------------------------------

/- What a line of a document says. -/
inductive Line where
  | openTable (header : List String)
  | openItem (header : List String)
  | give (key : List String) (content : Document)

/- A header or a pair, with the end of its line. -/
def line
    (text : List Char) : Option (Line × List Char) := do
  match text with
  | '[' :: '[' :: rest =>
      let (header, rest) ← key rest
      let rest ← JsonSyntax.expect [']', ']'] rest
      return (.openItem header, ← lineEnd rest)
  | '[' :: rest =>
      let (header, rest) ← key rest
      let rest ← JsonSyntax.expect [']'] rest
      return (.openTable header, ← lineEnd rest)
  | _ =>
      let ((key, content), rest) ← pair (value (text.length + 1)) text
      return (.give key content, ← lineEnd rest)

/- The document up to here, and the header that keys belong to. -/
structure Draft where
  header : List String
  root : Fields Node

namespace Draft

/- The draft before the first line. -/
def empty : Draft :=
  ⟨[], []⟩

/- The draft after a line. -/
def after?
    (draft : Draft) : Line → Option Draft
  | .openTable header =>
      (openTable header draft.root).map fun root => ⟨header, root⟩
  | .openItem header =>
      (openItem header draft.root).map fun root => ⟨header, root⟩
  | .give key content =>
      (assign draft.header key content draft.root).map
        fun root => ⟨draft.header, root⟩

end Draft

/- The lines of a document.  The fuel bounds their number. -/
def lines : Nat → List Char → Option (List Line)
  | 0, _ => none
  | fuel + 1, text => do
      match ← skipLines (text.length + 1) text with
      | [] => return []
      | text =>
          let (first, rest) ← line text
          let others ← lines fuel rest
          return first :: others

/- The document that lines say. -/
def ofLines?
    (lines : List Line) : Option Document :=
  (lines.foldlM Draft.after? Draft.empty).map fun draft =>
    .table (Node.fieldsToDocument draft.root)

/- The mark of the order of bytes that may open a text. -/
def orderMark : Char :=
  '\ufeff'

/- The text without a mark of the order of bytes. -/
def skipOrderMark : List Char → List Char
  | [] => []
  | c :: rest => if c == orderMark then rest else c :: rest

end Toml

/- The document that a TOML text writes. -/
def Document.readToml?
    (text : String) : Option Document :=
  let chars := Toml.skipOrderMark text.toList
  (Toml.lines (chars.length + 1) chars).bind Toml.ofLines?

end Intake
