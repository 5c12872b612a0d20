import Intake.Settings
import Intake.Text.Casing
import Intake.Text.Digits

/-
  This file overrides settings by environment variables.

  A variable is named by a prefix, a section and a key with
  two underscores between them.  All others are ignored.

  Key definitions include:
    * `Environment`
    * `Setting.variableName`
    * `Setting.ofVariable?`
    * `Setting.layer?`
    * `Settings.override`
-/

namespace Intake

/- Environment variables with their values, each name once. -/
abbrev Environment :=
  Fields String

------------------------------------------------------------
-- Names
------------------------------------------------------------

namespace Setting

/- The section of a setting in the name of a variable. -/
def sectionName : Setting → String
  | .keyPolicy => "ENGINE"
  | .collapse => "ENGINE"
  | .maxDepth => "ENGINE"
  | .enabled => "LOGGING"
  | .level => "LOGGING"
  | .format => "LOGGING"
  | .location => "LOGGING"

/- The key of a setting in the name of a variable. -/
def keyName : Setting → String
  | .keyPolicy => "KEY_POLICY"
  | .collapse => "COLLAPSE_SINGLE_ERROR"
  | .maxDepth => "MAX_DEPTH"
  | .enabled => "ENABLED"
  | .level => "LEVEL"
  | .format => "FORMAT"
  | .location => "INCLUDE_LOCATION"

/- The variable of a setting under a prefix. -/
def variableName
    (lead : String)
    (setting : Setting) : String :=
  lead ++ "__" ++ setting.sectionName ++ "__" ++ setting.keyName

/-
  The parts of a text between double underscores.  Of three
  underscores in a row the first two count.
-/
def splitMarks : List Char → List (List Char)
  | [] => [[]]
  | '_' :: '_' :: rest => [] :: splitMarks rest
  | c :: rest =>
      match splitMarks rest with
      | [] => [[c]]
      | first :: others => (c :: first) :: others

/- The setting with a section and a key. -/
def ofParts?
    (parts : List (List Char)) : Option Setting :=
  all.find? fun setting =>
    [setting.sectionName.toList, setting.keyName.toList] == parts

/- The setting that a variable is for. -/
def ofVariable?
    (lead name : String) : Option Setting :=
  let front := (lead ++ "__").toList
  if front.isPrefixOf name.toList then
    ofParts? (splitMarks (name.toList.drop front.length))
  else none

------------------------------------------------------------
-- Values
------------------------------------------------------------

/- A truth value in words, in any case. -/
def readFlag?
    (text : String) : Option Bool :=
  let word := Casing.lower text
  if ["true", "1", "yes", "on"].contains word then some true
  else if ["false", "0", "no", "off"].contains word then some false
  else none

/- A natural number that a setting can have. -/
def readWhole?
    (text : String) : Option Nat :=
  (Text.readNatural? text).filter fun n => decide (n ≤ Document.maxWhole)

/- The layer of a variable's value, if the setting accepts it. -/
def layer?
    (text : String) : Setting → Option Layer
  | .keyPolicy =>
      (KeyPolicy.ofName? (Casing.lower text)).map fun policy =>
        { keyPolicy := some policy }
  | .collapse => (readFlag? text).map fun flag => { collapse := some flag }
  | .maxDepth => (readWhole? text).map fun depth => { maxDepth := some depth }
  | .enabled => (readFlag? text).map fun flag => { enabled := some flag }
  | .level => some { level := some text }
  | .format =>
      (LogFormat.ofName? (Casing.lower text)).map fun format =>
        { format := some format }
  | .location => (readFlag? text).map fun flag => { location := some flag }

end Setting

------------------------------------------------------------
-- Overrides
------------------------------------------------------------

namespace Settings

/- Settings after one variable. -/
def overrideBy
    (lead : String)
    (settings : Settings)
    (entry : String × String) : Except SettingsError Settings :=
  match Setting.ofVariable? lead entry.1 with
  | none => .ok settings
  | some setting =>
      match setting.layer? entry.2 with
      | some layer => .ok (layer.applyTo settings)
      | none => .error (.badVariable entry.1 setting)

/- Settings after all variables, one after the other. -/
def override
    (lead : String)
    (settings : Settings)
    (env : Environment) : Except SettingsError Settings :=
  env.foldlM (overrideBy lead) settings

end Settings

end Intake
