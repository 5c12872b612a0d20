import Intake.Document.Json
import Intake.Document.Toml
import Intake.Settings
import Intake.Text.Casing

/-
  This file reads settings from documents.

  A document is a table of sections, and a section a table of
  settings; no other names are allowed.  A list is read as a
  table with its fields in their fixed order.

  Key definitions include:
    * `Document.members?`
    * `Document.choice?`
    * `Layer.ofDocument?`
    * `Settings.ofText`
-/

namespace Intake

------------------------------------------------------------
-- Parts of Documents
------------------------------------------------------------

namespace Document

/-
  The fields of a table or list that may have the given names
  only.  A list that is too long is refused in JSON; in TOML
  what is too much is ignored.
-/
def members?
    (format : DocumentFormat)
    (names : List String) : Document → Option (Fields Document)
  | .table fields =>
      if fields.all fun field => names.contains field.1 then some fields
      else none
  | .list items =>
      if format == .json && decide (names.length < items.length) then none
      else some (names.zip items)
  | _ => none

/- The value of a field, if the field is there. -/
def member?
    (read : Document → Option α)
    (fields : Fields Document)
    (name : String) : Option (Option α) :=
  match Fields.lookup? fields name with
  | none => some none
  | some content => (read content).map some

/-
  The name of a choice without contents: a text, or a table
  whose only field has that name.  The field is null in JSON
  and an empty list or table in TOML.
-/
def choice?
    (format : DocumentFormat) : Document → Option String
  | .text s => some s
  | .table [(name, content)] =>
      match format, content with
      | .json, .null => some name
      | .toml, content => if content.isEmpty then some name else none
      | _, _ => none
  | _ => none

end Document

------------------------------------------------------------
-- Layers
------------------------------------------------------------

namespace Layer

/- The values of the section for the engine. -/
def ofEngine?
    (format : DocumentFormat)
    (content : Document) : Option Layer := do
  let fields ← content.members? format
    ["key_policy", "collapse_single_error", "max_depth"]
  let policy (content : Document) :=
    (content.choice? format).bind KeyPolicy.ofName?
  return {
    keyPolicy := ← Document.member? policy fields "key_policy"
    collapse := ←
      Document.member? Document.flag? fields "collapse_single_error"
    maxDepth := ← Document.member? Document.whole? fields "max_depth" }

/- A layer with also the values of the section for the logger. -/
def withLogging?
    (format : DocumentFormat)
    (layer : Layer)
    (content : Document) : Option Layer := do
  let fields ← content.members? format
    ["enabled", "level", "format", "include_location"]
  let choice (content : Document) :=
    (content.choice? format).bind LogFormat.ofName?
  return { layer with
    enabled := ← Document.member? Document.flag? fields "enabled"
    level := ← Document.member? Document.text? fields "level"
    format := ← Document.member? choice fields "format"
    location := ←
      Document.member? Document.flag? fields "include_location" }

/- The values of a document. -/
def ofDocument?
    (format : DocumentFormat)
    (content : Document) : Option Layer := do
  let fields ← content.members? format ["engine", "logging"]
  let engine ← Document.member? (ofEngine? format) fields "engine"
  let layer := engine.getD empty
  let both ← Document.member? (withLogging? format layer) fields "logging"
  return both.getD layer

end Layer

------------------------------------------------------------
-- Settings
------------------------------------------------------------

namespace Document

/- The document that a text writes in a format. -/
def read?
    (format : DocumentFormat)
    (text : String) : Option Document :=
  match format with
  | .toml => readToml? text
  | .json => readJson? text

end Document

namespace Settings

/- The settings of a document; what it leaves out is standard. -/
def ofDocument
    (format : DocumentFormat)
    (content : Document) : Except SettingsError Settings :=
  match Layer.ofDocument? format content with
  | some layer => .ok (layer.applyTo .standard)
  | none => .error (.malformed format)

/- The settings of a text in a format, whose name may have any case. -/
def ofText
    (text name : String) : Except SettingsError Settings :=
  let name := Casing.lower name
  match DocumentFormat.ofName? name with
  | none => .error (.unsupportedFormat name)
  | some format =>
      match Document.read? format text with
      | none => .error (.malformed format)
      | some content => ofDocument format content

end Settings

end Intake
