import Intake.Validation.Path
import Mathlib.Data.List.Chain

/-
  This file compares the paths of records with the places that
  they stand for.

  A place is a list of parameter names, from the outermost one
  inwards, where the name of an array of objects comes with
  the index of an element.  It is written with points between
  the names.  A path is put together from the inside out, and
  the point in front of a name is left out if the name looks
  like an index.

  Key definitions include:
    * `Place.write?`
    * `Place.path?`
    * `Place.KeepsPoints`

  The main statements are:
    * `Segment.pathBefore_some`
    * `Place.path?_eq_write?_iff`
-/

namespace Intake

------------------------------------------------------------
-- Places
------------------------------------------------------------

/-
  The name of a parameter, with the index of an element of its
  array.
-/
structure Segment where
  name : String
  index : Option Nat
deriving DecidableEq

/- Segments from the outermost schema inwards. -/
abbrev Place :=
  List Segment

namespace Segment

/- The text of a segment. -/
def write : Segment → String
  | ⟨name, none⟩ => name
  | ⟨name, some index⟩ => name ++ Path.element index

/- The path of a segment in front of the path of what is below. -/
def pathBefore
    (segment : Segment)
    (child : Option String) : String :=
  match segment.index with
  | none => Path.below segment.name child
  | some index =>
      Path.below segment.name (some (Path.belowElement index child))

/- A name that begins as an index of an element does. -/
def looksLikeIndex
    (segment : Segment) : Bool :=
  Path.startsAtElement segment.name

end Segment

namespace Place

/- The text of a place, with points between its segments. -/
def write? : Place → Option String
  | [] => none
  | segment :: rest =>
      some
        (match write? rest with
        | none => segment.write
        | some below => segment.write ++ "." ++ below)

/- The path that records get for a place. -/
def path? : Place → Option String
  | [] => none
  | segment :: rest => some (segment.pathBefore (path? rest))

/- Every segment has a name. -/
def HasNames
    (place : Place) : Prop :=
  ∀ segment ∈ place, segment.name ≠ ""

/-
  The point after a name is kept unless the name stands alone
  and the next one looks like an index.
-/
def KeepsPoints
    (place : Place) : Prop :=
  place.IsChain fun segment next =>
    segment.index = none → next.looksLikeIndex = false

instance
    (place : Place) :
    Decidable place.KeepsPoints := by
  unfold KeepsPoints
  infer_instance

end Place

------------------------------------------------------------
-- First Characters
------------------------------------------------------------

namespace Path

/- Text in front decides how a path starts, unless it is empty. -/
theorem startsAtElement_append
    {front : String}
    (rest : String)
    (hFront : front ≠ "") :
    startsAtElement (front ++ rest) = startsAtElement front := by
  have hSome : front.toList ≠ [] := by
    intro hNone
    exact hFront (String.toList_eq_nil_iff.mp hNone)
  rcases List.exists_cons_of_ne_nil hSome with ⟨c, others, hCons⟩
  simp [startsAtElement, String.toList_append, hCons]

/-
  The path below an element starts with the place of the
  element.
-/
theorem startsAtElement_belowElement
    (index : Nat)
    (child : Option String) :
    startsAtElement (belowElement index child) = true := by
  cases child <;>
    simp [startsAtElement, belowElement, element,
      String.toList_append]

/- The path below an element follows a name without a point. -/
theorem below_belowElement
    (name : String)
    (index : Nat)
    (child : Option String) :
    below name (some (belowElement index child)) =
      name ++ belowElement index child :=
  if_pos (startsAtElement_belowElement index child)

end Path

namespace Segment

/- Alone, a segment is its own path. -/
theorem pathBefore_none
    (segment : Segment) :
    segment.pathBefore none = segment.write := by
  rcases segment with ⟨name, _ | index⟩
  · rfl
  · exact Path.below_belowElement name index none

/-
  In front of another path a segment is followed by a point,
  but not if it has no index and the path looks like one.
-/
theorem pathBefore_some
    (segment : Segment)
    (child : String) :
    segment.pathBefore (some child) =
      if segment.index = none ∧ Path.startsAtElement child = true then
        segment.write ++ child
      else
        segment.write ++ "." ++ child := by
  rcases segment with ⟨name, _ | index⟩
  · simp [pathBefore, Path.below, write]
  · simp only [pathBefore, Path.below_belowElement]
    simp [Path.belowElement, write, String.append_assoc]

/- The text of a segment starts with its name. -/
theorem exists_write_eq
    (segment : Segment) :
    ∃ rest, segment.write = segment.name ++ rest := by
  rcases segment with ⟨name, _ | index⟩
  · exact ⟨"", by simp [write]⟩
  · exact ⟨Path.element index, rfl⟩

/- The path of a segment starts with its name. -/
theorem exists_pathBefore_eq
    (segment : Segment)
    (child : Option String) :
    ∃ rest, segment.pathBefore child = segment.name ++ rest := by
  rcases segment.exists_write_eq with ⟨rest, hWrite⟩
  cases child with
  | none =>
      rw [pathBefore_none]
      exact ⟨rest, hWrite⟩
  | some child =>
      rw [pathBefore_some, hWrite]
      split
      · exact ⟨rest ++ child, String.append_assoc ..⟩
      · exact ⟨rest ++ "." ++ child, by simp [String.append_assoc]⟩

/- The path of a segment with a name looks as the segment does. -/
theorem startsAtElement_pathBefore
    (segment : Segment)
    (hName : segment.name ≠ "")
    (child : Option String) :
    Path.startsAtElement (segment.pathBefore child) =
      segment.looksLikeIndex := by
  rcases segment.exists_pathBefore_eq child with ⟨rest, hPath⟩
  rw [hPath]
  exact Path.startsAtElement_append rest hName

end Segment

------------------------------------------------------------
-- Paths of Places
------------------------------------------------------------

namespace Place

/-
  A path lacks points of the text of a place, and nothing
  else.
-/
theorem length_path?_le
    (segment : Segment)
    (rest : Place) :
    ∃ path text, path? (segment :: rest) = some path ∧
      write? (segment :: rest) = some text ∧
        path.length ≤ text.length := by
  induction rest generalizing segment with
  | nil =>
      refine ⟨_, _, rfl, rfl, ?_⟩
      simp [path?, write?, Segment.pathBefore_none]
  | cons next rest ih =>
      rcases ih next with ⟨path, text, hPath, hText, hLength⟩
      refine ⟨_, _, rfl, rfl, ?_⟩
      rw [hPath, hText, Segment.pathBefore_some]
      split
      · simp only [String.length_append]
        omega
      · simp only [String.length_append]
        omega

/-
  A path is the text of its place exactly if every point is
  kept, provided that every segment has a name.
-/
theorem path?_eq_write?_iff
    (place : Place)
    (hNames : place.HasNames) :
    place.path? = place.write? ↔ place.KeepsPoints := by
  induction place with
  | nil => simp [path?, write?, KeepsPoints]
  | cons segment rest ih =>
      cases rest with
      | nil =>
          simp [path?, write?, KeepsPoints, Segment.pathBefore_none]
      | cons next rest =>
          have hNext : next.name ≠ "" := hNames next (by simp)
          have hRest : HasNames (next :: rest) :=
            fun other hOther => hNames other (by simp [hOther])
          have hIff := ih hRest
          rcases length_path?_le next rest with
            ⟨path, text, hPath, hText, hLength⟩
          have hStart :
              Path.startsAtElement path = next.looksLikeIndex := by
            rw [path?, Option.some.injEq] at hPath
            rw [← hPath]
            exact next.startsAtElement_pathBefore hNext _
          rw [hPath, hText, Option.some.injEq] at hIff
          rw [path?, write?, hPath, hText, Option.some.injEq,
            Segment.pathBefore_some, hStart, KeepsPoints,
            List.isChain_cons_cons, ← KeepsPoints, ← hIff]
          by_cases hDrop :
              segment.index = none ∧ next.looksLikeIndex = true
          · rw [if_pos hDrop]
            have hLost :
                segment.write ++ path ≠
                  segment.write ++ "." ++ text := by
              intro hSame
              have hLengths := congrArg String.length hSame
              simp only [String.length_append] at hLengths
              have hPoint : ".".length = 1 := rfl
              omega
            simp [hLost, hDrop]
          · have hKept :
                segment.index = none → next.looksLikeIndex = false := by
              intro hAlone
              simpa [hAlone] using hDrop
            rw [if_neg hDrop, String.append_right_inj]
            exact ⟨fun hSame => ⟨hKept, hSame⟩, And.right⟩

end Place

end Intake
