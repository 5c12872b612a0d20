import Intake.Raw

/-
  This file defines the raw input of one validation.  It has
  four buckets of raw data, and every parameter says which
  one it is read from.

  Key definitions include:
    * `Source`
    * `Input`
    * `Input.bucket`
    * `Input.fetch?`
-/

namespace Intake

------------------------------------------------------------
-- Sources
------------------------------------------------------------

/- The bucket that a parameter is read from. -/
inductive Source where
  | auto
  | path
  | body
  | query
deriving DecidableEq, Inhabited

namespace Source

/- The name of a source. -/
def name : Source → String
  | .auto => "auto"
  | .path => "path"
  | .body => "body"
  | .query => "query"

/- The source with a name. -/
def ofName?
    (name : String) : Option Source :=
  [Source.auto, .path, .body, .query].find? fun source =>
    source.name == name

end Source

------------------------------------------------------------
-- Inputs
------------------------------------------------------------

/- Raw data by name. -/
abbrev Bucket :=
  List (String × Raw)

/-
  Four buckets of raw data.  In the input of a nested schema
  the first bucket serves every source.
-/
structure Input where
  auto : Bucket
  path : Bucket
  body : Bucket
  query : Bucket
  isNested : Bool
deriving Inhabited

namespace Input

/- An input without data. -/
def empty : Input :=
  ⟨[], [], [], [], false⟩

/- An input with one bucket, which is read by the source `auto` only. -/
def ofAuto
    (fields : Bucket) : Input :=
  { empty with auto := fields }

/- The input of a nested schema. -/
def nested
    (fields : Bucket) : Input :=
  { empty with auto := fields, isNested := true }

/- Replace the bucket that stands under a source. -/
def withBucket
    (input : Input)
    (source : Source)
    (fields : Bucket) : Input :=
  match source with
  | .auto => { input with auto := fields }
  | .path => { input with path := fields }
  | .body => { input with body := fields }
  | .query => { input with query := fields }

/- The bucket that a source reads. -/
def bucket
    (input : Input)
    (source : Source) : Bucket :=
  if input.isNested then input.auto
  else
    match source with
    | .auto => input.auto
    | .path => input.path
    | .body => input.body
    | .query => input.query

/- The raw value that a source has under a name. -/
def fetch?
    (input : Input)
    (source : Source)
    (name : String) : Option Raw :=
  Fields.lookup? (input.bucket source) name

/- None of the four buckets has a field. -/
def isEmpty
    (input : Input) : Bool :=
  input.auto.isEmpty && input.path.isEmpty && input.body.isEmpty &&
    input.query.isEmpty

end Input

end Intake
