import Intake.KeyPolicy
import Intake.Proofs.Place
import Intake.Proofs.Text.Digits
import Mathlib.Data.List.TakeWhile

/-
  This file shows that the path of a place can be read back if
  every name is an identifier.

  An identifier has neither points nor brackets.  So a path is
  cut at its points, and each part at its bracket, and no two
  places have the same path.

  Key definitions include:
    * `Place.HasIdentifiers`
    * `Segment.read`
    * `Place.ofPath`

  The main statements are:
    * `Segment.read_write`
    * `Place.ofPath_path?`
    * `Place.path?_injective`
-/

namespace Intake

------------------------------------------------------------
-- Identifiers
------------------------------------------------------------

namespace KeyPolicy

/-
  Every character of an identifier is a letter, a digit or an
  underscore.
-/
theorem continuesIdentifier_of_mem
    {name : String}
    (hName : KeyPolicy.atom.accepts name = true)
    {c : Char}
    (hMem : c ∈ name.toList) :
    continuesIdentifier c = true := by
  rw [accepts] at hName
  cases hChars : name.toList with
  | nil => simp [hChars] at hMem
  | cons first rest =>
      rw [hChars, isIdentifier, Bool.and_eq_true] at hName
      rw [hChars] at hMem
      rcases List.mem_cons.mp hMem with rfl | hRest
      · have hOpens := hName.1
        unfold opensIdentifier at hOpens
        unfold continuesIdentifier Char.isAlphanum
        rcases Bool.or_eq_true_iff.mp hOpens with hAlpha | hLine
        · simp [hAlpha]
        · simp [hLine]
      · exact List.all_eq_true.mp hName.2 c hRest

/- An identifier is not empty. -/
theorem ne_empty_of_accepts
    {name : String}
    (hName : KeyPolicy.atom.accepts name = true) :
    name ≠ "" := by
  rintro rfl
  cases hName

/- A character that no identifier has is not in an identifier. -/
theorem not_mem_of_accepts
    {name : String}
    (hName : KeyPolicy.atom.accepts name = true)
    {c : Char}
    (hOther : continuesIdentifier c = false) :
    c ∉ name.toList := by
  intro hMem
  have hInside := continuesIdentifier_of_mem hName hMem
  rw [hOther] at hInside
  cases hInside

end KeyPolicy

------------------------------------------------------------
-- Segments
------------------------------------------------------------

namespace Segment

/- The characters of a segment with an index. -/
theorem toList_write_some
    (name : String)
    (index : Nat) :
    (write ⟨name, some index⟩).toList =
      name.toList ++ '[' :: (Nat.toDigits 10 index ++ [']']) := by
  simp [write, Path.element, String.toList_append]

/-
  The segment that a text stands for: the name up to the
  bracket, and the number after the bracket.
-/
def read
    (text : List Char) : Segment :=
  ⟨String.ofList (text.takeWhile fun c => c != '['),
    match text.dropWhile fun c => c != '[' with
    | [] => none
    | _ :: rest =>
        some (Text.digitsValue (rest.takeWhile Char.isDigit))⟩

/- A segment whose name has no bracket is read back. -/
theorem read_write
    (segment : Segment)
    (hName : '[' ∉ segment.name.toList) :
    read segment.write.toList = segment := by
  have hBefore :
      ∀ c ∈ segment.name.toList, (c != '[') = true := by
    intro c hMem
    rw [bne_iff_ne]
    rintro rfl
    exact hName hMem
  rcases segment with ⟨name, _ | index⟩
  · have hTake :
        name.toList.takeWhile (fun c => c != '[') = name.toList :=
      List.takeWhile_eq_self_iff.mpr hBefore
    have hDrop :
        name.toList.dropWhile (fun c => c != '[') = [] :=
      List.dropWhile_eq_nil_iff.mpr hBefore
    simp [read, write, hTake, hDrop]
  · have hDigits :
        (Nat.toDigits 10 index ++ [']']).takeWhile Char.isDigit =
          Nat.toDigits 10 index := by
      rw [List.takeWhile_append_of_pos
        fun c hMem => Text.isDigit_of_mem_toDigits hMem]
      simp
    rw [toList_write_some, read,
      List.takeWhile_append_of_pos hBefore,
      List.dropWhile_append_of_pos hBefore]
    simp [hDigits, Text.digitsValue_toDigits]

/- A segment whose name has no point is written without points. -/
theorem point_not_mem_write
    (segment : Segment)
    (hName : '.' ∉ segment.name.toList) :
    '.' ∉ segment.write.toList := by
  rcases segment with ⟨name, _ | index⟩
  · exact hName
  · rw [toList_write_some]
    intro hMem
    rcases List.mem_append.mp hMem with hInName | hInIndex
    · exact hName hInName
    · have hInDigits : '.' ∈ Nat.toDigits 10 index := by
        simpa using hInIndex
      have hDigit := Text.isDigit_of_mem_toDigits hInDigits
      cases hDigit

end Segment

------------------------------------------------------------
-- Places
------------------------------------------------------------

namespace Place

/- Every name is an identifier. -/
def HasIdentifiers
    (place : Place) : Prop :=
  ∀ segment ∈ place, KeyPolicy.atom.accepts segment.name = true

/- Identifiers are names. -/
theorem HasIdentifiers.hasNames
    {place : Place}
    (hNames : place.HasIdentifiers) :
    place.HasNames := by
  intro segment hMem
  exact KeyPolicy.ne_empty_of_accepts (hNames segment hMem)

/- No identifier looks like an index, so that all points are kept. -/
theorem HasIdentifiers.keepsPoints
    {place : Place}
    (hNames : place.HasIdentifiers) :
    place.KeepsPoints := by
  unfold KeepsPoints
  induction place with
  | nil => exact List.IsChain.nil
  | cons segment rest ih =>
      cases rest with
      | nil => exact List.IsChain.singleton segment
      | cons next rest =>
          rw [List.isChain_cons_cons]
          refine ⟨?_, ih fun other hMem => hNames other (by simp [hMem])⟩
          intro _
          have hNext := hNames next (by simp)
          have hNoBracket : '[' ∉ next.name.toList :=
            KeyPolicy.not_mem_of_accepts hNext (by decide)
          cases hChars : next.name.toList with
          | nil =>
              simp [Segment.looksLikeIndex, Path.startsAtElement, hChars]
          | cons first others =>
              rw [hChars] at hNoBracket
              have hFirst : first ≠ '[' := by
                rintro rfl
                exact hNoBracket List.mem_cons_self
              simp [Segment.looksLikeIndex, Path.startsAtElement, hChars,
                hFirst]

/- The text of a place is that of its segments, with points between. -/
theorem exists_write?_eq
    (segment : Segment)
    (rest : Place) :
    ∃ text, write? (segment :: rest) = some text ∧
      text.toList =
        ['.'].intercalate
          ((segment :: rest).map fun other => other.write.toList) := by
  induction rest generalizing segment with
  | nil => exact ⟨segment.write, rfl, by simp⟩
  | cons next rest ih =>
      rcases ih next with ⟨text, hText, hChars⟩
      refine ⟨segment.write ++ "." ++ text, ?_, ?_⟩
      · rw [write?, hText]
      · rw [List.map_cons] at hChars
        rw [List.map_cons, List.map_cons, List.intercalate_cons_cons,
          ← hChars]
        simp [String.toList_append]

/- The place that a path stands for. -/
def ofPath : Option String → Place
  | none => []
  | some path => (path.toList.splitOn '.').map Segment.read

/- The path of a place of identifiers stands for the place. -/
theorem ofPath_path?
    (place : Place)
    (hNames : place.HasIdentifiers) :
    ofPath place.path? = place := by
  rw [(place.path?_eq_write?_iff hNames.hasNames).mpr
    hNames.keepsPoints]
  cases place with
  | nil => rfl
  | cons segment rest =>
      rcases exists_write?_eq segment rest with ⟨text, hText, hChars⟩
      have hPoints :
          ∀ part ∈ (segment :: rest).map fun other =>
              other.write.toList, '.' ∉ part := by
        intro part hPart
        rcases List.mem_map.mp hPart with ⟨other, hOther, rfl⟩
        apply other.point_not_mem_write
        exact KeyPolicy.not_mem_of_accepts (hNames other hOther) (by decide)
      have hBrackets :
          ∀ other ∈ segment :: rest,
            Segment.read other.write.toList = other := by
        intro other hOther
        apply other.read_write
        exact KeyPolicy.not_mem_of_accepts (hNames other hOther) (by decide)
      rw [hText, ofPath, hChars,
        List.splitOn_intercalate '.' hPoints (by simp), List.map_map]
      calc
        (segment :: rest).map
            (Segment.read ∘ fun other => other.write.toList) =
            (segment :: rest).map id :=
          List.map_congr_left hBrackets
        _ = segment :: rest := List.map_id _

/- Different places of identifiers have different paths. -/
theorem path?_injective
    {place other : Place}
    (hNames : place.HasIdentifiers)
    (hOthers : other.HasIdentifiers)
    (hSame : place.path? = other.path?) :
    place = other := by
  rw [← ofPath_path? place hNames, hSame, ofPath_path? other hOthers]

end Place

end Intake
