import Intake.Document
import Intake.KeyPolicy
import Intake.Logging
import Intake.Raw
import Intake.Validation.Outcome

/-
  This file defines the settings of a service, the layers that
  change some of them, and what makes settings valid.  Which
  levels are filters is up to the library of filters.

  Key definitions include:
    * `Settings`
    * `Settings.standard`
    * `Layer`
    * `Layer.applyTo`
    * `SettingsError`
    * `Settings.validate`
-/

namespace Intake

------------------------------------------------------------
-- Settings
------------------------------------------------------------

/- The settings of the engine and of the schemas that a service builds. -/
structure EngineSettings where
  keyPolicy : KeyPolicy
  collapse : Bool
  maxDepth : Nat
deriving DecidableEq, Inhabited

/- The settings of the logger. -/
structure LoggingSettings where
  enabled : Bool
  level : String
  format : LogFormat
  location : Bool
deriving DecidableEq, Inhabited

/- All settings of a service. -/
structure Settings where
  engine : EngineSettings
  logging : LoggingSettings
deriving DecidableEq, Inhabited

namespace EngineSettings

/- The settings of the engine where nothing is said. -/
def standard : EngineSettings where
  keyPolicy := .string
  collapse := Engine.standard.collapse
  maxDepth := Engine.standard.maxDepth

/- The engine with these settings. -/
def toEngine
    (settings : EngineSettings) : Engine where
  maxDepth := settings.maxDepth
  collapse := settings.collapse

end EngineSettings

namespace LoggingSettings

/- The part of a logger's settings that a service lets one choose. -/
def ofLogSettings
    (settings : LogSettings) : LoggingSettings where
  enabled := settings.enabled
  level := settings.level
  format := settings.format
  location := settings.location

/- The settings of the logger; lines always name their target. -/
def toLogSettings
    (settings : LoggingSettings) : LogSettings where
  enabled := settings.enabled
  level := settings.level
  format := settings.format
  location := settings.location
  target := LogSettings.standard.target

end LoggingSettings

namespace Settings

/- The settings where nothing is said. -/
def standard : Settings where
  engine := .standard
  logging := .ofLogSettings .standard

/- The settings for a developer. -/
def development : Settings where
  engine := .standard
  logging := .ofLogSettings .development

/- The settings for a running system. -/
def production : Settings :=
  standard

/- Settings as raw data. -/
def toRaw
    (settings : Settings) : Raw :=
  let engine := settings.engine
  let logging := settings.logging
  let depth :=
    match Raw.Number.ofInt? engine.maxDepth with
    | some n => .number n
    | none => .null
  .object
    [("engine", .object
        [("key_policy", .string engine.keyPolicy.name),
          ("collapse_single_error", .bool engine.collapse),
          ("max_depth", depth)]),
      ("logging", .object
        [("enabled", .bool logging.enabled),
          ("level", .string logging.level),
          ("format", .string logging.format.name),
          ("include_location", .bool logging.location)])]

end Settings

------------------------------------------------------------
-- Layers
------------------------------------------------------------

/- A value for some of the settings. -/
structure Layer where
  keyPolicy : Option KeyPolicy := none
  collapse : Option Bool := none
  maxDepth : Option Nat := none
  enabled : Option Bool := none
  level : Option String := none
  format : Option LogFormat := none
  location : Option Bool := none
deriving DecidableEq, Inhabited

namespace Layer

/- The layer without a value. -/
def empty : Layer :=
  {}

/- Settings with the values of a layer, where it has one. -/
def applyTo
    (layer : Layer)
    (settings : Settings) : Settings where
  engine :=
    { keyPolicy := layer.keyPolicy.getD settings.engine.keyPolicy
      collapse := layer.collapse.getD settings.engine.collapse
      maxDepth := layer.maxDepth.getD settings.engine.maxDepth }
  logging :=
    { enabled := layer.enabled.getD settings.logging.enabled
      level := layer.level.getD settings.logging.level
      format := layer.format.getD settings.logging.format
      location := layer.location.getD settings.logging.location }

end Layer

------------------------------------------------------------
-- Single Settings
------------------------------------------------------------

/- A setting by its place. -/
inductive Setting where
  | keyPolicy
  | collapse
  | maxDepth
  | enabled
  | level
  | format
  | location
deriving DecidableEq

namespace Setting

/- All settings. -/
def all : List Setting :=
  [.keyPolicy, .collapse, .maxDepth, .enabled, .level, .format, .location]

/- Every setting is listed. -/
theorem mem_all
    (setting : Setting) :
    setting ∈ all := by
  cases setting <;> simp [all]

/- What a text for a setting has to be. -/
def expectation : Setting → String
  | .keyPolicy => "expected 'string' or 'atom'"
  | .collapse => "expected boolean"
  | .maxDepth => "expected integer"
  | .enabled => "expected boolean"
  | .level => "expected string"
  | .format => "expected 'json' or 'pretty'"
  | .location => "expected boolean"

end Setting

------------------------------------------------------------
-- Errors
------------------------------------------------------------

/- Why settings cannot be loaded. -/
inductive SettingsError where
  | fileNotFound (path : String)
  | unreadable (path : String)
  | malformed (format : DocumentFormat)
  | unsupportedFormat (name : String)
  | badVariable (name : String) (setting : Setting)
  | zeroDepth
  | badLevel (level reason : String)
deriving DecidableEq

namespace SettingsError

/- The message of an error. -/
def message : SettingsError → String
  | .fileNotFound path => "configuration file not found: " ++ path
  | .unreadable path => "failed to read configuration file: " ++ path
  | .malformed .toml => "failed to parse TOML configuration"
  | .malformed .json => "failed to parse JSON configuration"
  | .unsupportedFormat name => "unsupported configuration format: " ++ name
  | .badVariable name setting =>
      "failed to parse environment variable " ++ name ++ ": " ++
        setting.expectation
  | .zeroDepth =>
      "invalid configuration value for engine.max_depth: must be at least 1"
  | .badLevel level reason =>
      "invalid configuration value for logging.level: " ++
        (LogError.badFilter level reason).message

end SettingsError

namespace Settings

/-
  Valid settings allow a depth of one at least, and their
  level is a filter, also if the logger is not enabled.
-/
def validate
    (filters : FilterLibrary)
    (settings : Settings) : Except SettingsError Unit :=
  if settings.engine.maxDepth = 0 then .error .zeroDepth
  else
    match filters.check settings.logging.level with
    | .ok () => .ok ()
    | .error reason => .error (.badLevel settings.logging.level reason)

end Settings

end Intake
