import Intake.Pattern
import Intake.Pattern.Matching
import Intake.Pattern.Reader

/-
  This file gives the library of patterns with which a program
  runs.  Nothing that is shown of schemas depends on it.

  Key definitions include:
    * `PatternLibrary.standard`
-/

namespace Intake

/-
  The regular expressions that `Pattern.Node.read?` reads.  It
  does not say why a text is none of them.
-/
def PatternLibrary.standard : PatternLibrary where
  compile source :=
    match Pattern.Node.read? source with
    | some node => .ok fun text => node.occursIn text.toList
    | none => .error "not a pattern"

end Intake
