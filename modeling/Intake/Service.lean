import Intake.Event
import Intake.Settings.Loader

/-
  This file defines the service that validates inputs by its
  settings.

  Key definitions include:
    * `Service`
    * `Service.start`
    * `Service.fromEnvironment`
    * `Service.draft`
    * `Service.validate`
    * `Service.validateFields`
    * `Service.bind`
-/

namespace Intake

------------------------------------------------------------
-- Services
------------------------------------------------------------

/- A service by its settings. -/
structure Service where
  settings : Settings
deriving DecidableEq, Inhabited

/- Why a service does not start. -/
inductive ServiceError where
  | settings (error : SettingsError)
  | logging (error : LogError)
deriving DecidableEq

namespace ServiceError

/- The message of an error. -/
def message : ServiceError → String
  | .settings error => error.message
  | .logging error => error.message

/- The result with an error of the settings as one of the service. -/
def ofSettings : Except SettingsError α → Except ServiceError α
  | .ok a => .ok a
  | .error error => .error (.settings error)

/- The result with an error of the logger as one of the service. -/
def ofLogging : Except LogError α → Except ServiceError α
  | .ok a => .ok a
  | .error error => .error (.logging error)

end ServiceError

namespace Service

/- The service with the standard settings. -/
def standard : Service :=
  ⟨.standard⟩

/- The engine of a service. -/
def engine
    (service : Service) : Engine :=
  service.settings.engine.toEngine

/- The beginning of a schema under the policy of a service. -/
def draft
    (service : Service)
    (name : String) : SchemaDraft :=
  { SchemaDraft.ofName name with
    keyPolicy := service.settings.engine.keyPolicy }

------------------------------------------------------------
-- Starting
------------------------------------------------------------

/- What is logged when a service has started. -/
def startedEvent
    (service : Service) : Event :=
  .serviceStarted service.settings.engine.keyPolicy
    service.settings.engine.maxDepth service.settings.engine.collapse

/-
  Start a service and its logger, in a process that may have a
  logger already.
-/
def start
    (filters : FilterLibrary)
    (loggerRunning : Bool)
    (settings : Settings) : Except ServiceError Service := do
  ServiceError.ofSettings (settings.validate filters)
  ServiceError.ofLogging
    (settings.logging.toLogSettings.start filters loggerRunning)
  return ⟨settings⟩

/- The prefix of the variables that a service looks for. -/
def lead : String :=
  "VERITAS"

/-
  Start a service by a file, if one is given, the file `.env`,
  and the environment.
-/
def fromEnvironment
    (filters : FilterLibrary)
    (loggerRunning : Bool)
    (dir : Directory)
    (env : Environment)
    (path : Option String) : Except ServiceError Service := do
  let loader ←
    match path with
    | some path => ServiceError.ofSettings (Loader.start.withFile dir path)
    | none => .ok Loader.start
  let settings ← ServiceError.ofSettings
    ((loader.withLead lead).load filters (env.withDotenvOf dir))
  start filters loggerRunning settings

------------------------------------------------------------
-- Validating
------------------------------------------------------------

/- Validate an input. -/
def validate
    (service : Service)
    (schema : Schema)
    (input : Input) : Outcome :=
  service.engine.validate schema input

/- Validate fields that stand for all sources. -/
def validateFields
    (service : Service)
    (schema : Schema)
    (fields : Fields Raw) : Outcome :=
  service.validate schema (.ofAuto fields)

/- The values of an input, or what is rendered for its errors. -/
def bind
    (service : Service)
    (schema : Schema)
    (input : Input)
    (render : ErrorBody → R) : Except R Params :=
  service.engine.bind schema input render

end Service

end Intake
