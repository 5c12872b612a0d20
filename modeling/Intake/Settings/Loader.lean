import Intake.Settings.Directory
import Intake.Settings.Dotenv
import Intake.Settings.Reading

/-
  This file loads settings step by step: presets, documents,
  files, and last of all environment variables.

  A preset or a document replaces all settings, since what a
  document leaves out is standard.  Variables count at the end
  only, wherever their prefix is given.

  Key definitions include:
    * `Loader`
    * `Loader.withText`
    * `Loader.withFile`
    * `Loader.withOptionalFile`
    * `Loader.withLead`
    * `Loader.load`
-/

namespace Intake

/- Settings so far, and the prefix of the variables that count. -/
structure Loader where
  settings : Settings
  lead : Option String
deriving DecidableEq, Inhabited

namespace Loader

/- The loader with the standard settings and no variables. -/
def start : Loader :=
  ⟨.standard, none⟩

/- Replace all settings. -/
def withSettings
    (settings : Settings)
    (loader : Loader) : Loader :=
  { loader with settings := settings }

/- Replace all settings by those of a text in a format. -/
def withText
    (text format : String)
    (loader : Loader) : Except SettingsError Loader :=
  (Settings.ofText text format).map fun settings =>
    loader.withSettings settings

/- The text of an entry; a folder has none. -/
def textOf? : Directory.Entry → Option String
  | .file content => String.fromUTF8? content
  | .folder => none

/-
  Replace all settings by those of an entry.  The extension of
  its path says the format.
-/
def withEntry
    (path : String)
    (entry : Directory.Entry)
    (loader : Loader) : Except SettingsError Loader :=
  match textOf? entry with
  | none => .error (.unreadable path)
  | some text =>
      match Path.extension? path with
      | none => .error (.unsupportedFormat path)
      | some format => loader.withText text format

/- Replace all settings by those of a file, which has to exist. -/
def withFile
    (dir : Directory)
    (path : String)
    (loader : Loader) : Except SettingsError Loader :=
  match dir.entry? path with
  | none => .error (.fileNotFound path)
  | some entry => loader.withEntry path entry

/- Replace all settings by those of a file, if it exists. -/
def withOptionalFile
    (dir : Directory)
    (path : String)
    (loader : Loader) : Except SettingsError Loader :=
  match dir.entry? path with
  | none => .ok loader
  | some entry => loader.withEntry path entry

/- Let the variables with a prefix count, which is put in upper case. -/
def withLead
    (lead : String)
    (loader : Loader) : Loader :=
  { loader with lead := some (Casing.upper lead) }

/- The settings with the variables that count. -/
def overridden
    (env : Environment)
    (loader : Loader) : Except SettingsError Settings :=
  match loader.lead with
  | none => .ok loader.settings
  | some lead => loader.settings.override lead env

/- The valid settings with the variables that count. -/
def load
    (filters : FilterLibrary)
    (env : Environment)
    (loader : Loader) : Except SettingsError Settings := do
  let settings ← loader.overridden env
  settings.validate filters
  return settings

end Loader

/- The environment with the variables of the file `.env`, if there is one. -/
def Environment.withDotenvOf
    (env : Environment)
    (dir : Directory) : Environment :=
  match dir.named? ".env" with
  | some (.file content) => env.withDotenv content
  | _ => env

end Intake
