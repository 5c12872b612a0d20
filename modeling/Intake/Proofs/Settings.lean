import Intake.Settings

/-
  This file takes settings and layers apart into single
  settings.

  What a setting holds depends on the setting, so the contents
  of settings are given by one function of dependent type.

  Key definitions include:
    * `Setting.Content`
    * `Settings.get`
    * `Settings.ofContents`
    * `Layer.get?`

  The main statements are:
    * `Settings.ext_get`
    * `Layer.get_applyTo`
    * `Settings.validate_eq_ok_iff`
-/

namespace Intake

------------------------------------------------------------
-- Contents
------------------------------------------------------------

/- What a setting holds. -/
def Setting.Content : Setting → Type
  | .keyPolicy => KeyPolicy
  | .collapse => Bool
  | .maxDepth => Nat
  | .enabled => Bool
  | .level => String
  | .format => LogFormat
  | .location => Bool

namespace Settings

/- The content of a setting. -/
def get
    (settings : Settings) : (setting : Setting) → setting.Content
  | .keyPolicy => settings.engine.keyPolicy
  | .collapse => settings.engine.collapse
  | .maxDepth => settings.engine.maxDepth
  | .enabled => settings.logging.enabled
  | .level => settings.logging.level
  | .format => settings.logging.format
  | .location => settings.logging.location

/- Settings with the given contents. -/
def ofContents
    (content : (setting : Setting) → setting.Content) : Settings where
  engine :=
    { keyPolicy := content .keyPolicy
      collapse := content .collapse
      maxDepth := content .maxDepth }
  logging :=
    { enabled := content .enabled
      level := content .level
      format := content .format
      location := content .location }

/- Settings with given contents have them. -/
theorem get_ofContents
    (content : (setting : Setting) → setting.Content)
    (setting : Setting) :
    (ofContents content).get setting = content setting := by
  cases setting <;> rfl

/- Settings are the same if they agree on every setting. -/
theorem ext_get
    {settings other : Settings}
    (hSame : ∀ setting, settings.get setting = other.get setting) :
    settings = other := by
  have hContents : ∀ s : Settings, ofContents s.get = s := fun _ => rfl
  rw [← hContents settings, ← hContents other, funext hSame]

/- Settings are valid if their depth is not zero and their level a filter. -/
theorem validate_eq_ok_iff
    (filters : FilterLibrary)
    (settings : Settings) :
    settings.validate filters = .ok () ↔
      1 ≤ settings.engine.maxDepth ∧
      filters.check settings.logging.level = .ok () := by
  unfold validate
  by_cases hDepth : settings.engine.maxDepth = 0
  · simp [hDepth]
  · have hOne : 1 ≤ settings.engine.maxDepth := Nat.pos_of_ne_zero hDepth
    cases filters.check settings.logging.level <;> simp [hDepth, hOne]

end Settings

namespace Layer

/- The content that a layer has for a setting. -/
def get?
    (layer : Layer) : (setting : Setting) → Option setting.Content
  | .keyPolicy => layer.keyPolicy
  | .collapse => layer.collapse
  | .maxDepth => layer.maxDepth
  | .enabled => layer.enabled
  | .level => layer.level
  | .format => layer.format
  | .location => layer.location

/- The empty layer has no content. -/
theorem get?_empty
    (setting : Setting) :
    empty.get? setting = none := by
  cases setting <;> rfl

/- A layer replaces the contents that it has, and keeps the others. -/
theorem get_applyTo
    (layer : Layer)
    (settings : Settings)
    (setting : Setting) :
    (layer.applyTo settings).get setting =
      (layer.get? setting).getD (settings.get setting) := by
  cases setting <;> rfl

end Layer

end Intake
