import Intake.Input
import Mathlib.Data.List.Basic
import Mathlib.Data.List.Induction

/-
  This file shows what can be read from an input that was made
  and then had buckets replaced, in any order.

  A source reads the fields that were last set for it, and in a
  nested input those that were last set for `auto`.  So an input
  that is empty has nothing to read.  The converse holds except
  for nested inputs: fields that were set for another source
  than `auto` are never read there, but count as fields.

  Key definitions include:
    * `Input.Start`
    * `Input.Start.after`
    * `Input.Start.lastSet`
    * `Input.stored`
    * `Input.ReadsLastSet`

  The main statements are:
    * `Input.stored_withBucket`
    * `Input.stored_after`
    * `Input.bucket_after`
    * `Input.readsLastSet_after`
    * `Input.unread_body_counted`
-/

namespace Intake

namespace Input

------------------------------------------------------------
-- Histories of Inputs
------------------------------------------------------------

/- The ways to make an input. -/
inductive Start where
  | empty
  | ofAuto (fields : Bucket)
  | nested (fields : Bucket)

namespace Start

/- The input that is made. -/
def input : Start → Input
  | .empty => .empty
  | .ofAuto fields => .ofAuto fields
  | .nested fields => .nested fields

/- The input is made for a nested schema. -/
def isNested : Start → Bool
  | .nested _ => true
  | _ => false

/- The fields that an input is made with for a source. -/
def fields : Start → Source → Bucket
  | .ofAuto fields, .auto => fields
  | .nested fields, .auto => fields
  | _, _ => []

/- The source whose fields are read for a source. -/
def sourceRead
    (start : Start)
    (source : Source) : Source :=
  if start.isNested then .auto else source

/- An input after buckets of it were replaced one after the other. -/
def after
    (start : Start)
    (steps : List (Source × Bucket)) : Input :=
  steps.foldl (fun input step => input.withBucket step.1 step.2)
    start.input

/- The fields that were set last for a source. -/
def lastSet
    (start : Start)
    (steps : List (Source × Bucket))
    (source : Source) : Bucket :=
  match steps.reverse.find? fun step => step.1 = source with
  | some step => step.2
  | none => start.fields source

variable (start : Start)
variable (steps : List (Source × Bucket))

/- The last step of a history is the last replacement that is made. -/
theorem after_concat
    (step : Source × Bucket) :
    start.after (steps ++ [step]) =
      (start.after steps).withBucket step.1 step.2 :=
  List.foldl_concat _ start.input step steps

/- A new step counts for its source, and for no other one. -/
theorem lastSet_concat
    (step : Source × Bucket)
    (source : Source) :
    start.lastSet (steps ++ [step]) source =
      if step.1 = source then step.2 else start.lastSet steps source := by
  unfold lastSet
  rw [List.reverse_concat, List.find?_cons]
  by_cases hSource : step.1 = source <;> simp [hSource]

end Start

------------------------------------------------------------
-- Stored Buckets
------------------------------------------------------------

/- The bucket that stands under a source, whether it is read or not. -/
def stored
    (input : Input) : Source → Bucket
  | .auto => input.auto
  | .path => input.path
  | .body => input.body
  | .query => input.query

/- A source reads its own bucket, or the first one in a nested input. -/
theorem bucket_eq_stored
    (input : Input)
    (source : Source) :
    input.bucket source =
      input.stored (if input.isNested then .auto else source) := by
  unfold bucket
  split
  · rfl
  · cases source <;> rfl

/- An input is empty exactly if no bucket has a field, read or not. -/
theorem isEmpty_iff_stored
    (input : Input) :
    input.isEmpty = true ↔ ∀ source, input.stored source = [] := by
  simp only [isEmpty, Bool.and_eq_true, List.isEmpty_iff]
  constructor
  · rintro ⟨⟨⟨hAuto, hPath⟩, hBody⟩, hQuery⟩ source
    cases source with
    | auto => exact hAuto
    | path => exact hPath
    | body => exact hBody
    | query => exact hQuery
  · intro hNone
    exact ⟨⟨⟨hNone .auto, hNone .path⟩, hNone .body⟩, hNone .query⟩

/- To replace a bucket changes what stands under its source only. -/
theorem stored_withBucket
    (input : Input)
    (source other : Source)
    (fields : Bucket) :
    (input.withBucket source fields).stored other =
      if source = other then fields else input.stored other := by
  cases source <;> cases other <;> rfl

/- To replace a bucket does not make an input nested, or not nested. -/
theorem isNested_withBucket
    (input : Input)
    (source : Source)
    (fields : Bucket) :
    (input.withBucket source fields).isNested = input.isNested := by
  cases source <;> rfl

/- An input is made with the fields for its sources. -/
theorem Start.stored_input
    (start : Start)
    (source : Source) :
    start.input.stored source = start.fields source := by
  cases start <;> cases source <;> rfl

/- An input is nested exactly if it is made so. -/
theorem Start.isNested_input
    (start : Start) :
    start.input.isNested = start.isNested := by
  cases start <;> rfl

------------------------------------------------------------
-- Inputs after a History
------------------------------------------------------------

section Histories

variable (start : Start)
variable (steps : List (Source × Bucket))

/- What stands under a source is what was set last for it. -/
theorem stored_after
    (source : Source) :
    (start.after steps).stored source = start.lastSet steps source := by
  induction steps using List.reverseRecOn with
  | nil => exact start.stored_input source
  | append_singleton steps step ih =>
      rw [Start.after_concat, Start.lastSet_concat, stored_withBucket, ih]

/- An input stays nested, or not nested. -/
theorem isNested_after :
    (start.after steps).isNested = start.isNested := by
  induction steps using List.reverseRecOn with
  | nil => exact start.isNested_input
  | append_singleton steps step ih =>
      rw [Start.after_concat, isNested_withBucket, ih]

/- A source reads what was set last for it, or for `auto`. -/
theorem bucket_after
    (source : Source) :
    (start.after steps).bucket source =
      start.lastSet steps (start.sourceRead source) := by
  rw [bucket_eq_stored, stored_after, isNested_after]
  rfl

/- Without fields for any source, there is nothing under any name. -/
theorem forall_bucket_eq_nil_iff
    (input : Input) :
    (∀ source, input.bucket source = []) ↔
      ∀ source name, input.fetch? source name = none := by
  constructor
  · intro hNone source name
    rw [fetch?, hNone source]
    rfl
  · intro hMisses source
    cases hBucket : input.bucket source with
    | nil => rfl
    | cons field rest =>
        have hMiss := hMisses source field.1
        rw [fetch?, hBucket, Fields.lookup?_cons, if_pos rfl] at hMiss
        cases hMiss

/-
  What can be read from an input after a history.  Every source
  has under a name what the fields have there that were last set
  for it, in a nested input those for `auto`.  No source has
  fields exactly if nothing can be fetched.  An input that is
  empty is one for which no source was last given fields, so
  there is nothing to read.  An input without anything to read
  is empty, unless it is nested and another source than `auto`
  was last given fields.
-/
structure ReadsLastSet : Prop where
  nested : (start.after steps).isNested = start.isNested
  fetches :
    ∀ source name,
      (start.after steps).fetch? source name =
        Fields.lookup? (start.lastSet steps (start.sourceRead source)) name
  misses :
    (∀ source, (start.after steps).bucket source = []) ↔
      ∀ source name, (start.after steps).fetch? source name = none
  emptied :
    (start.after steps).isEmpty = true ↔
      ∀ source, start.lastSet steps source = []
  nothingRead :
    (start.after steps).isEmpty = true →
      ∀ source, (start.after steps).bucket source = []
  agrees :
    ((start.after steps).isEmpty = true ↔
        ∀ source, (start.after steps).bucket source = []) ↔
      ¬ (start.isNested = true ∧ start.lastSet steps .auto = [] ∧
        ∃ source, start.lastSet steps source ≠ [])

/- Every input reads what was set last, whatever was set before. -/
theorem readsLastSet_after :
    ReadsLastSet start steps := by
  have hEmpty :
      (start.after steps).isEmpty = true ↔
        ∀ source, start.lastSet steps source = [] := by
    rw [isEmpty_iff_stored]
    simp only [stored_after]
  constructor
  case nested => exact isNested_after start steps
  case fetches =>
    intro source name
    rw [fetch?, bucket_after]
  case misses => exact forall_bucket_eq_nil_iff (start.after steps)
  case emptied => exact hEmpty
  case nothingRead =>
    intro hNone source
    rw [bucket_after]
    exact hEmpty.mp hNone _
  case agrees =>
    rw [hEmpty]
    simp only [bucket_after]
    cases hNested : start.isNested with
    | false => simp [Start.sourceRead, hNested]
    | true =>
        -- All sources read the same fields, so the sources do not matter.
        simp only [Start.sourceRead, hNested, if_true, forall_const,
          true_and]
        constructor
        · rintro hSame ⟨hAuto, source, hSome⟩
          exact hSome (hSame.mpr hAuto source)
        · intro hAgrees
          constructor
          · intro hNone
            exact hNone .auto
          · intro hAuto source
            by_contra hSome
            exact hAgrees ⟨hAuto, source, hSome⟩

end Histories

/-
  A nested input without fields, in which a body was set, has
  nothing to read and is not empty.
-/
theorem unread_body_counted :
    let input := (Start.nested []).after [(.body, [("a", .bool true)])]
    input.isEmpty = false ∧
      (∀ source, input.bucket source = []) ∧
      ∀ source name, input.fetch? source name = none := by
  refine ⟨rfl, ?_, ?_⟩
  · intro source
    rfl
  · intro source name
    rfl

end Input

end Intake
