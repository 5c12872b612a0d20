import Intake.Schema.Draft

/-
  This file defines the events that are logged: when a schema
  is built or refused, when a parameter is resolved, when a
  validation ends, and when a service starts.

  Key definitions include:
    * `Event`
    * `Event.level`
    * `Event.message`
    * `Event.fields`
    * `SchemaDraft.events`
-/

namespace Intake

------------------------------------------------------------
-- Events
------------------------------------------------------------

/- Something that is logged. -/
inductive Event where
  | schemaBuilt (schema : String) (params globals : Nat) (policy : KeyPolicy)
  | schemaRefused (schema : String) (error : SchemaError)
  | paramResolved (schema param : String) (depth : Nat) (valid : Bool)
  | validationFinished (schema : String) (valid : Bool) (errorCount : Nat)
  | serviceStarted (policy : KeyPolicy) (maxDepth : Nat) (collapse : Bool)
deriving DecidableEq

namespace Event

/- How important an event is. -/
inductive Level where
  | trace
  | debug
  | info
  | warn
deriving DecidableEq

/- The name of a level. -/
def Level.name : Level → String
  | .trace => "trace"
  | .debug => "debug"
  | .info => "info"
  | .warn => "warn"

/- The content of a field of an event. -/
inductive Content where
  | text (s : String)
  | number (n : Nat)
  | flag (b : Bool)
deriving DecidableEq

/- The word for a verdict. -/
def verdict
    (valid : Bool) : String :=
  if valid then "valid" else "invalid"

/- The level of an event. -/
def level : Event → Level
  | .schemaBuilt .. => .debug
  | .schemaRefused .. => .warn
  | .paramResolved .. => .trace
  | .validationFinished .. => .debug
  | .serviceStarted .. => .info

/- The message of an event. -/
def message : Event → String
  | .schemaBuilt .. => "schema built"
  | .schemaRefused .. => "invalid schema configuration"
  | .paramResolved .. => "parameter resolved"
  | .validationFinished .. => "validation finished"
  | .serviceStarted .. => "veritas initialized"

/- The fields of an event. -/
def fields : Event → Fields Content
  | .schemaBuilt schema params globals policy =>
      [("schema", .text schema),
        ("params", .number params),
        ("globals", .number globals),
        ("key_policy", .text policy.name)]
  | .schemaRefused schema error =>
      [("schema", .text schema), ("error", .text error.message)]
  | .paramResolved schema param depth valid =>
      [("schema", .text schema),
        ("param", .text param),
        ("depth", .number depth),
        ("outcome", .text (verdict valid))]
  | .validationFinished schema valid errorCount =>
      [("schema", .text schema),
        ("outcome", .text (verdict valid)),
        ("error_count", .number errorCount)]
  | .serviceStarted policy maxDepth collapse =>
      [("key_policy", .text policy.name),
        ("max_depth", .number maxDepth),
        ("collapse_single_error", .flag collapse)]

end Event

------------------------------------------------------------
-- Building
------------------------------------------------------------

/-
  The events of building a schema: one for every error, or a
  single one if there is none.
-/
def SchemaDraft.events
    (patterns : PatternLibrary)
    (draft : SchemaDraft) : List Event :=
  match draft.errors patterns with
  | [] =>
      [.schemaBuilt draft.name (draft.usableParams patterns).length
        draft.globals.length draft.keyPolicy]
  | errors => errors.map (.schemaRefused draft.name)

end Intake
