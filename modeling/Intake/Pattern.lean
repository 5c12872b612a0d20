/-
  This file defines patterns of texts.  Patterns come from a
  library of regular expressions, which is a parameter of all
  that compiles them.

  Key definitions include:
    * `Pattern`
    * `PatternLibrary`
    * `PatternLibrary.pattern`
-/

namespace Intake

/- A pattern: its text, and the texts of which it matches a part. -/
structure Pattern where
  source : String
  matchesText : String → Bool

/-
  A library of regular expressions.  A text that is a pattern
  is compiled to a test of other texts.  Of all other texts the
  library says why they are none.
-/
structure PatternLibrary where
  compile : String → Except String (String → Bool)

namespace PatternLibrary

/- The library for which no text is a pattern. -/
def empty : PatternLibrary :=
  ⟨fun _ => .error "there are no patterns"⟩

/- The pattern that a text writes, or why it writes none. -/
def pattern
    (patterns : PatternLibrary)
    (source : String) : Except String Pattern :=
  match patterns.compile source with
  | .ok matchesText => .ok ⟨source, matchesText⟩
  | .error reason => .error reason

end PatternLibrary

end Intake
