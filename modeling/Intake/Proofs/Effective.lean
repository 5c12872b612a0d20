import Intake.Validation

/-
  This file says which raw data is effective for a parameter:
  what its source has under its name, or else its default.

  Key definitions include:
    * `DefaultRule.readsInput`
    * `Input.everywhere`

  The main statements are:
    * `DefaultRule.provide?_eq`
    * `Parameter.effective_of_fetch?`
    * `Parameter.effective_of_fetch?_null`
-/

namespace Intake

------------------------------------------------------------
-- Inputs and Defaults
------------------------------------------------------------

/- An input whose four buckets are the same. -/
def Input.everywhere
    (fields : Bucket) : Input :=
  ⟨fields, fields, fields, fields, false⟩

/- Every source of such an input reads the same fields. -/
theorem Input.bucket_everywhere
    (fields : Bucket)
    (source : Source) :
    (everywhere fields).bucket source = fields := by
  cases source <;> rfl

/- A default that is computed from the raw input. -/
def DefaultRule.readsInput : DefaultRule → Bool
  | .unary _ => true
  | _ => false

/-
  A default that does not read the input is the same for all
  inputs.
-/
theorem DefaultRule.provide?_eq
    (rule : DefaultRule)
    (hClosed : rule.readsInput = false)
    (first second : Input) :
    rule.provide? first = rule.provide? second := by
  cases rule with
  | none => rfl
  | fixed raw => rfl
  | nullary provide => rfl
  | unary provide => cases hClosed

------------------------------------------------------------
-- Effective Data
------------------------------------------------------------

/- Raw data that is null is the null. -/
theorem Raw.eq_null_of_isNull
    {raw : Raw}
    (hNull : raw.isNull = true) :
    raw = .null := by
  cases raw <;> cases hNull
  rfl

/- The default of a parameter is null if its effective data is. -/
theorem Parameter.provide?_of_isNull_effective
    (param : Parameter Schema)
    (input : Input)
    (hNull : (param.effective input).isNull = true) :
    ((param.default.provide? input).getD .null).isNull = true := by
  unfold Parameter.effective at hNull
  split at hNull
  · exact hNull
  · split at hNull
    · exact hNull
    · next hRaw => exact absurd hNull hRaw

/- Data that is there and not null is effective. -/
theorem Parameter.effective_of_fetch?
    (param : Parameter Schema)
    (input : Input)
    {raw : Raw}
    (hFetch : input.fetch? param.source param.name = some raw)
    (hRaw : raw.isNull = false) :
    param.effective input = raw := by
  unfold Parameter.effective
  rw [hFetch]
  simp [hRaw]

/- For null that is there, the default is effective. -/
theorem Parameter.effective_of_fetch?_null
    (param : Parameter Schema)
    (input : Input)
    (hFetch : input.fetch? param.source param.name = some .null) :
    param.effective input =
      (param.default.provide? input).getD .null := by
  unfold Parameter.effective
  rw [hFetch]
  rfl

end Intake
