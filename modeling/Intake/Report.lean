import Intake.Raw

/-
  This file defines what a failed validation reports: records
  with a path, a message and a code, and the failures of
  single parameters that the records come from.

  Key definitions include:
    * `ErrorCode`
    * `ErrorRecord`
    * `ErrorRecord.reason`
    * `ErrorRecord.toRaw`
    * `Failure`
    * `ErrorBody`
-/

namespace Intake

------------------------------------------------------------
-- Reasons and Codes
------------------------------------------------------------

/- The reason given for a required parameter without value. -/
def requiredReason : String :=
  "required"

/- The reason given for data of the wrong outer shape. -/
def invalidReason : String :=
  "invalid"

/- The text in front of the reason of every message. -/
def messageLead : String :=
  "Validation error: "

/- The reason of an element of a list, with its place in front. -/
def elementReason
    (index : Nat)
    (reason : String) : String :=
  "element at index " ++ toString index ++ ": " ++ reason

/- A value was there but wrong, or a required one was absent. -/
inductive ErrorCode where
  | invalid
  | missing
deriving DecidableEq, Inhabited

namespace ErrorCode

/- The name of a code. -/
def name : ErrorCode → String
  | .invalid => "INVALID"
  | .missing => "MISSING"

/- The code with a name. -/
def ofName?
    (name : String) : Option ErrorCode :=
  if name == "INVALID" then some .invalid
  else if name == "MISSING" then some .missing
  else none

/- Only the reason of a required parameter means that a value is missing. -/
def ofReason
    (reason : String) : ErrorCode :=
  if reason == requiredReason then .missing else .invalid

end ErrorCode

------------------------------------------------------------
-- Records
------------------------------------------------------------

/-
  One reported error.  The path of the parameter is absent
  when the error concerns several parameters.
-/
structure ErrorRecord where
  param : Option String
  message : String
  code : ErrorCode
deriving DecidableEq, Inhabited

namespace ErrorRecord

/- The record of a reason at a parameter. -/
def atParam
    (param reason : String) : ErrorRecord :=
  ⟨some param, messageLead ++ reason, ErrorCode.ofReason reason⟩

/- The record of a reason that concerns several parameters. -/
def overall
    (reason : String) : ErrorRecord :=
  ⟨none, messageLead ++ reason, .invalid⟩

/- The record of an input that is not an object. -/
def invalidInput : ErrorRecord :=
  overall invalidReason

/- The text after a lead, if the text starts with it. -/
def stripLead? : List Char → List Char → Option (List Char)
  | [], text => some text
  | _ :: _, [] => none
  | a :: lead, b :: text => if a == b then stripLead? lead text else none

/- The message without its lead. -/
def reason
    (record : ErrorRecord) : String :=
  match stripLead? messageLead.toList record.message.toList with
  | some rest => String.ofList rest
  | none => record.message

/- The record in one line for a reader. -/
def write
    (record : ErrorRecord) : String :=
  let body := record.message ++ " (" ++ record.code.name ++ ")"
  match record.param with
  | some param => param ++ ": " ++ body
  | none => body

/- A record as raw data; a record without path has no field for it. -/
def toRaw
    (record : ErrorRecord) : Raw :=
  .object
    ((match record.param with
      | some param => [("param", .string param)]
      | none => []) ++
      [("message", .string record.message),
        ("error_code", .string record.code.name)])

end ErrorRecord

------------------------------------------------------------
-- Failures
------------------------------------------------------------

/-
  The failure of one parameter, or of the checks that concern
  several.  The paths of nested records start below the
  parameter.
-/
inductive Failure where
  | coercion (reason : String)
  | validation (reason : String)
  | overall (reasons : List String)
  | nested (records : List ErrorRecord)
deriving DecidableEq, Inhabited

namespace Failure

/- The reason of a failure that has a single one by its nature. -/
def reason? : Failure → Option String
  | .coercion reason => some reason
  | .validation reason => some reason
  | .overall _ => none
  | .nested _ => none

/- The failure says that a required value is absent. -/
def isMissing
    (failure : Failure) : Bool :=
  failure.reason? == some requiredReason

/- A failure in one line for a reader. -/
def write : Failure → String
  | .coercion reason => reason
  | .validation reason => reason
  | .overall reasons => "; ".intercalate reasons
  | .nested records => toString records.length ++ " nested error(s)"

end Failure

------------------------------------------------------------
-- Bodies
------------------------------------------------------------

/- What is sent for a failed validation: a bare record or a list. -/
inductive ErrorBody where
  | one (record : ErrorRecord)
  | many (records : List ErrorRecord)
deriving DecidableEq, Inhabited

namespace ErrorBody

/- The body of a list of records; a single record may be sent bare. -/
def ofRecords
    (collapse : Bool)
    (records : List ErrorRecord) : ErrorBody :=
  match collapse, records with
  | true, [record] => .one record
  | _, _ => .many records

/- The records of a body, bare or not. -/
def records : ErrorBody → List ErrorRecord
  | .one record => [record]
  | .many records => records

end ErrorBody

end Intake
