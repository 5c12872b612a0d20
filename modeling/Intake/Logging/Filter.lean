import Intake.Binary64.Numeral
import Intake.Logging
import Intake.Pattern.Reader
import Intake.Text.Blank
import Intake.Text.Digits
import Intake.Text.Property

/-
  This file gives the library of filters with which a program
  runs.  Nothing that is shown of settings depends on it.

  A filter is a list of directives with commas between them.
  A directive is a level, a target, or a target and a span in
  brackets, which may have conditions on its fields in braces;
  a level may follow an equals sign.  Blanks around a directive
  are passed over, but its level is cut from the text with the
  blanks, so that a blank in front of it is never harmless.

  Key definitions include:
    * `LogFilter.isLevel`
    * `LogFilter.Place`
    * `LogFilter.isDirective`
    * `LogFilter.accepts`
    * `FilterLibrary.standard`
-/

namespace Intake

namespace LogFilter

/- The names of levels. -/
def levelNames : List String :=
  ["off", "error", "warn", "info", "debug", "trace"]

/- A level: its name in any case, its number, or nothing. -/
def isLevel
    (text : List Char) : Bool :=
  text.isEmpty ||
    levelNames.contains (String.ofList (text.map Char.toLower)) ||
    match Text.readNatural? (String.ofList text) with
    | some n => decide (n ≤ 5)
    | none => false

/-
  A pattern that asks where the words of Unicode begin or end.
  The automata that run the patterns of filters cannot say.
-/
def seesWords : Pattern.Node → Bool
  | .look (.boundary false) | .look (.notBoundary false) => true
  | .look (.wordStart false) | .look (.wordEnd false) => true
  | .look (.wordStartHalf false) | .look (.wordEndHalf false) => true
  | .empty | .one _ | .look _ => false
  | .seq first second | .either first second =>
      seesWords first || seesWords second
  | .repeated inner _ _ => seesWords inner

/-
  The content that a condition asks for: a truth value, a
  number, or a regular expression.
-/
def isContent
    (text : List Char) : Bool :=
  let s := String.ofList text
  (Binary64.read? s).isSome ||
    (Pattern.Node.read? s).any fun node => !seesWords node

/-
  A condition on a field: its name, and after an equals sign
  the content.  What follows another equals sign is ignored.
-/
def isCondition
    (text : List Char) : Bool :=
  !text.isEmpty &&
    match text.dropWhile (· != '=') with
    | _ :: content => isContent (content.takeWhile (· != '='))
    | [] => true

/-
  Where in a directive a character stands.  A condition keeps
  its characters in reverse, a level how many characters stand
  before it.
-/
inductive Place where
  | start
  | levelOrTarget
  | span
  | condition (soFar : List Char)
  | afterConditions
  | afterSpan
  | level (before : Nat)
deriving DecidableEq

/- A character that may open a directive without a bracket. -/
def opensTarget
    (c : Char) : Bool :=
  c == '-' || c == ':' || c == '_' || Property.alphanumeric.contains c

/-
  The place after a character, of which `before` others stand
  in front.
-/
def step
    (before : Nat)
    (c : Char) : Place → Option Place
  | .start =>
      if c == '[' then some .span
      else if opensTarget c then some .levelOrTarget
      else none
  | .levelOrTarget =>
      if c == '=' then some (.level (before + 1))
      else if c == '[' then some .span
      else some .levelOrTarget
  | .span =>
      if c == ']' then some .afterSpan
      else if c == '\x7b' then some (.condition [])
      else some .span
  | .condition soFar =>
      if c == '\x7d' then
        if isCondition soFar.reverse then some .afterConditions else none
      else some (.condition (c :: soFar))
  | .afterConditions => if c == ']' then some .afterSpan else none
  | .afterSpan => if c == '=' then some (.level (before + 1)) else none
  | .level start => some (.level start)

/- The place at the end of a text. -/
def walk (place : Place) (before : Nat) : List Char → Option Place
  | [] => some place
  | c :: rest =>
      match step before c place with
      | some place => walk place (before + 1) rest
      | none => none

/- A text is a directive. -/
def isDirective
    (text : List Char) : Bool :=
  match walk .start 0 (Text.trim text) with
  | some .levelOrTarget => true
  | some .afterSpan => true
  | some (.level before) => isLevel (text.drop before)
  | _ => false

/- The parts of a text between commas. -/
def splitCommas : List Char → List (List Char)
  | [] => [[]]
  | c :: rest =>
      match splitCommas rest with
      | [] => [[c]]
      | first :: others =>
          if c == ',' then [] :: first :: others
          else (c :: first) :: others

/- A text is a filter; nothing between two commas is no directive. -/
def accepts
    (text : String) : Bool :=
  (splitCommas text.toList).all fun part =>
    part.isEmpty || isDirective part

end LogFilter

/-
  The filters that `LogFilter.accepts` takes.  It does not say
  why a text is none of them.
-/
def FilterLibrary.standard : FilterLibrary where
  check level :=
    if LogFilter.accepts level then .ok () else .error "not a filter"

end Intake
