/-
  This file defines how a host logs the events of the library,
  and when its logger can be started.  The library that reads
  filters of events is a parameter.

  Key definitions include:
    * `LogFormat`
    * `LogSettings`
    * `FilterLibrary`
    * `LogError`
    * `LogSettings.start`
-/

namespace Intake

------------------------------------------------------------
-- Settings
------------------------------------------------------------

/- How log lines are written. -/
inductive LogFormat where
  | json
  | pretty
deriving DecidableEq, Inhabited

namespace LogFormat

/- The name of a format. -/
def name : LogFormat → String
  | .json => "json"
  | .pretty => "pretty"

/- The format with a name. -/
def ofName?
    (name : String) : Option LogFormat :=
  if name == "json" then some .json
  else if name == "pretty" then some .pretty
  else none

end LogFormat

/- What a logger writes, and whether there is one. -/
structure LogSettings where
  enabled : Bool
  level : String
  format : LogFormat
  location : Bool
  target : Bool
deriving DecidableEq, Inhabited

------------------------------------------------------------
-- Starting
------------------------------------------------------------

/-
  A library of filters of events says of a text that is none
  why it is none.
-/
structure FilterLibrary where
  check : String → Except String Unit

/- Why a logger does not start. -/
inductive LogError where
  | badFilter (level reason : String)
  | alreadyStarted
deriving DecidableEq

namespace LogError

/- The message of an error. -/
def message : LogError → String
  | .badFilter level reason =>
      "Invalid configuration: invalid log level '" ++ level ++ "': " ++
        reason
  | .alreadyStarted =>
      "Failed to initialize logging: " ++
        "a global default trace dispatcher has already been set"

end LogError

namespace LogSettings

/- The settings where nothing is said: important events only. -/
def standard : LogSettings where
  enabled := true
  level := "info"
  format := .json
  location := false
  target := true

/- The settings for a developer: more events, to be read by people. -/
def development : LogSettings where
  enabled := true
  level := "debug"
  format := .pretty
  location := true
  target := true

/- The settings for a running system. -/
def production : LogSettings :=
  standard

/-
  Start the logger, in a process that may have one already.  A
  logger that is not enabled needs nothing.
-/
def start
    (filters : FilterLibrary)
    (settings : LogSettings)
    (running : Bool) : Except LogError Unit :=
  if !settings.enabled then .ok ()
  else
    match filters.check settings.level with
    | .error reason => .error (.badFilter settings.level reason)
    | .ok () => if running then .error .alreadyStarted else .ok ()

end LogSettings

end Intake
