import Intake.Proofs.Settings
import Intake.Settings.Loader
import Mathlib

/-
  This file shows what a document does to the settings of a
  loader.

  A document gives a setting if it has a field for it in its
  section; whether the fields are named or stand in a list does
  not matter.  All settings that a document does not give are
  standard after it, whatever they were before.

  Key definitions include:
    * `Document.given?`
    * `Document.value?`
    * `Loader.Takes`
    * `Loader.ReplacedBy`

  The main statements are:
    * `Layer.get?_of_ofDocument?`
    * `Loader.withText_eq_ok_iff`
    * `Loader.replacedBy_of_takes`
-/

namespace Intake

------------------------------------------------------------
-- Settings in Documents
------------------------------------------------------------

namespace Setting

/- The section of a document that a setting stands in. -/
def sectionKey : Setting → String
  | .keyPolicy => "engine"
  | .collapse => "engine"
  | .maxDepth => "engine"
  | .enabled => "logging"
  | .level => "logging"
  | .format => "logging"
  | .location => "logging"

/- The name of a setting in its section. -/
def documentKey : Setting → String
  | .keyPolicy => "key_policy"
  | .collapse => "collapse_single_error"
  | .maxDepth => "max_depth"
  | .enabled => "enabled"
  | .level => "level"
  | .format => "format"
  | .location => "include_location"

/- The names of a section, in order. -/
def namesBeside
    (setting : Setting) : List String :=
  (all.filter fun other => other.sectionKey == setting.sectionKey).map
    documentKey

/- There are two sections. -/
theorem sectionKey_eq
    (setting : Setting) :
    setting.sectionKey = "engine" ∨ setting.sectionKey = "logging" := by
  cases setting <;> simp [sectionKey]

/- The names of the section for the engine. -/
theorem namesBeside_engine
    (setting : Setting)
    (hSection : setting.sectionKey = "engine") :
    setting.namesBeside =
      ["key_policy", "collapse_single_error", "max_depth"] := by
  unfold namesBeside
  rw [hSection]
  rfl

/- The names of the section for the logger. -/
theorem namesBeside_logging
    (setting : Setting)
    (hSection : setting.sectionKey = "logging") :
    setting.namesBeside =
      ["enabled", "level", "format", "include_location"] := by
  unfold namesBeside
  rw [hSection]
  rfl

/- The content of a setting that a part of a document stands for. -/
def ofDocument?
    (format : DocumentFormat)
    (part : Document) : (setting : Setting) → Option setting.Content
  | .keyPolicy => (part.choice? format).bind KeyPolicy.ofName?
  | .collapse => part.flag?
  | .maxDepth => part.whole?
  | .enabled => part.flag?
  | .level => part.text?
  | .format => (part.choice? format).bind LogFormat.ofName?
  | .location => part.flag?

end Setting

namespace Document

/- The part of a document that is given for a setting. -/
def given?
    (format : DocumentFormat)
    (content : Document)
    (setting : Setting) : Option Document := do
  let sections ← content.members? format ["engine", "logging"]
  let part ← Fields.lookup? sections setting.sectionKey
  let members ← part.members? format setting.namesBeside
  Fields.lookup? members setting.documentKey

/- The content that a document gives a setting, if it gives one. -/
def value?
    (format : DocumentFormat)
    (content : Document)
    (setting : Setting) : Option setting.Content :=
  (content.given? format setting).bind fun part =>
    setting.ofDocument? format part

/- A field is read as nothing if it is not there. -/
theorem member?_eq_some_iff
    {α : Type}
    (read : Document → Option α)
    (fields : Fields Document)
    (name : String)
    (found : Option α) :
    member? read fields name = some found ↔
      (Fields.lookup? fields name = none ∧ found = none) ∨
      ∃ part v, Fields.lookup? fields name = some part ∧
        read part = some v ∧ found = some v := by
  unfold member?
  cases Fields.lookup? fields name with
  | none => simp [eq_comm]
  | some part => cases read part <;> simp [eq_comm]

end Document

namespace Layer

variable {format : DocumentFormat}
variable {layer other : Layer}

/-
  The section for the engine has the settings of the engine, and
  none of the logger.
-/
theorem ofEngine?_eq_some
    {part : Document}
    (hLayer : ofEngine? format part = some layer) :
    ∃ members,
      part.members? format
          ["key_policy", "collapse_single_error", "max_depth"] =
        some members ∧
      ∀ setting,
        (setting.sectionKey = "engine" →
          Document.member? (fun part => setting.ofDocument? format part)
              members setting.documentKey =
            some (layer.get? setting)) ∧
        (setting.sectionKey = "logging" → layer.get? setting = none) := by
  simp only [ofEngine?, Option.bind_eq_bind, Option.bind_eq_some_iff,
    Option.pure_def, Option.some.injEq] at hLayer
  rcases hLayer with
    ⟨members, hMembers, policy, hPolicy, collapse, hCollapse, depth,
      hDepth, rfl⟩
  refine ⟨members, hMembers, ?_⟩
  intro setting
  constructor
  · intro hSection
    cases setting with
    | keyPolicy => exact hPolicy
    | collapse => exact hCollapse
    | maxDepth => exact hDepth
    | enabled | level | format | location =>
        exact absurd hSection (by decide)
  · intro hSection
    cases setting with
    | keyPolicy | collapse | maxDepth =>
        exact absurd hSection (by decide)
    | enabled | level | format | location => rfl

/-
  The section for the logger has the settings of the logger, and
  keeps those of the engine.
-/
theorem withLogging?_eq_some
    {part : Document}
    (hLayer : withLogging? format layer part = some other) :
    ∃ members,
      part.members? format
          ["enabled", "level", "format", "include_location"] =
        some members ∧
      ∀ setting,
        (setting.sectionKey = "logging" →
          Document.member? (fun part => setting.ofDocument? format part)
              members setting.documentKey =
            some (other.get? setting)) ∧
        (setting.sectionKey = "engine" →
          other.get? setting = layer.get? setting) := by
  simp only [withLogging?, Option.bind_eq_bind, Option.bind_eq_some_iff,
    Option.pure_def, Option.some.injEq] at hLayer
  rcases hLayer with
    ⟨members, hMembers, enabled, hEnabled, level, hLevel, choice,
      hChoice, location, hLocation, rfl⟩
  refine ⟨members, hMembers, ?_⟩
  intro setting
  constructor
  · intro hSection
    cases setting with
    | enabled => exact hEnabled
    | level => exact hLevel
    | format => exact hChoice
    | location => exact hLocation
    | keyPolicy | collapse | maxDepth =>
        exact absurd hSection (by decide)
  · intro hSection
    cases setting with
    | keyPolicy | collapse | maxDepth => rfl
    | enabled | level | format | location =>
        exact absurd hSection (by decide)

/-
  What a layer has for a setting after a document was read: a
  content exactly if the document gives one, and the one that
  is given.
-/
def ReadsAs
    (format : DocumentFormat)
    (content : Document)
    (setting : Setting)
    (found : Option setting.Content) : Prop :=
  (content.given? format setting = none ∧ found = none) ∨
  ∃ part v, content.given? format setting = some part ∧
    setting.ofDocument? format part = some v ∧ found = some v

/- Nothing is read if the section of a setting is not there. -/
theorem readsAs_none
    {content : Document}
    {sections : Fields Document}
    {setting : Setting}
    (hSections :
      content.members? format ["engine", "logging"] = some sections)
    (hAbsent : Fields.lookup? sections setting.sectionKey = none) :
    ReadsAs format content setting none := by
  refine Or.inl ⟨?_, rfl⟩
  simp [Document.given?, hSections, hAbsent]

/- What is read from the section of a setting. -/
theorem readsAs_of_member?
    {content part : Document}
    {sections members : Fields Document}
    {setting : Setting}
    {found : Option setting.Content}
    (hSections :
      content.members? format ["engine", "logging"] = some sections)
    (hPart : Fields.lookup? sections setting.sectionKey = some part)
    (hMembers :
      part.members? format setting.namesBeside = some members)
    (hFound :
      Document.member? (fun part => setting.ofDocument? format part)
          members setting.documentKey =
        some found) :
    ReadsAs format content setting found := by
  have hGiven :
      content.given? format setting =
        Fields.lookup? members setting.documentKey := by
    simp [Document.given?, hSections, hPart, hMembers]
  unfold ReadsAs
  rw [hGiven]
  exact (Document.member?_eq_some_iff _ _ _ _).mp hFound

/- A layer has what its document gives. -/
theorem readsAs_of_ofDocument?
    {content : Document}
    (hLayer : ofDocument? format content = some layer)
    (setting : Setting) :
    ReadsAs format content setting (layer.get? setting) := by
  simp only [ofDocument?, Option.bind_eq_bind, Option.bind_eq_some_iff,
    Option.pure_def, Option.some.injEq] at hLayer
  rcases hLayer with ⟨sections, hSections, engine, hEngine, both, hBoth, rfl⟩
  rw [Document.member?_eq_some_iff] at hEngine hBoth
  rcases setting.sectionKey_eq with hSection | hSection
  · -- The section for the logger keeps what the other one says.
    have hKept :
        (both.getD (engine.getD empty)).get? setting =
          (engine.getD empty).get? setting := by
      rcases hBoth with ⟨_, rfl⟩ | ⟨_, _, _, hRead, rfl⟩
      · rfl
      · rcases withLogging?_eq_some hRead with ⟨_, _, hOther⟩
        exact (hOther setting).2 hSection
    rw [hKept]
    rcases hEngine with ⟨hAbsent, rfl⟩ | ⟨part, own, hPart, hRead, rfl⟩
    · rw [Option.getD_none, get?_empty]
      exact readsAs_none hSections (hSection ▸ hAbsent)
    · rcases ofEngine?_eq_some hRead with ⟨members, hMembers, hOwn⟩
      rw [← setting.namesBeside_engine hSection] at hMembers
      exact
        readsAs_of_member? hSections (hSection ▸ hPart) hMembers
          ((hOwn setting).1 hSection)
  · have hNone : (engine.getD empty).get? setting = none := by
      rcases hEngine with ⟨_, rfl⟩ | ⟨_, _, _, hRead, rfl⟩
      · exact get?_empty setting
      · rcases ofEngine?_eq_some hRead with ⟨_, _, hOwn⟩
        exact (hOwn setting).2 hSection
    rcases hBoth with ⟨hAbsent, rfl⟩ | ⟨part, other, hPart, hRead, rfl⟩
    · rw [Option.getD_none, hNone]
      exact readsAs_none hSections (hSection ▸ hAbsent)
    · rcases withLogging?_eq_some hRead with ⟨members, hMembers, hOther⟩
      rw [← setting.namesBeside_logging hSection] at hMembers
      exact
        readsAs_of_member? hSections (hSection ▸ hPart) hMembers
          ((hOther setting).1 hSection)

/-
  A layer has what its document gives, and nothing that is
  given goes unread.
-/
theorem get?_of_ofDocument?
    {content : Document}
    (hLayer : ofDocument? format content = some layer)
    (setting : Setting) :
    layer.get? setting = content.value? format setting ∧
      (content.given? format setting).isSome =
        (content.value? format setting).isSome := by
  unfold Document.value?
  rcases readsAs_of_ofDocument? hLayer setting with
    ⟨hNone, hFound⟩ | ⟨part, v, hPart, hRead, hFound⟩
  · simp [hNone, hFound]
  · simp [hPart, hRead, hFound]

end Layer

------------------------------------------------------------
-- Loaders
------------------------------------------------------------

namespace Loader

variable {loader next : Loader}
variable {format : DocumentFormat}
variable {content : Document}

/- A loader takes the settings of a document. -/
def Takes
    (format : DocumentFormat)
    (content : Document)
    (loader next : Loader) : Prop :=
  ∃ settings, Settings.ofDocument format content = .ok settings ∧
    next = loader.withSettings settings

/-
  To load a text is to take the document that it writes in the
  format of the given name.
-/
theorem withText_eq_ok_iff
    {text name : String} :
    loader.withText text name = .ok next ↔
      ∃ format content,
        DocumentFormat.ofName? (Casing.lower name) = some format ∧
        Document.read? format text = some content ∧
        Takes format content loader next := by
  unfold withText Settings.ofText Takes
  simp only
  cases DocumentFormat.ofName? (Casing.lower name) with
  | none => simp [Except.map]
  | some format =>
      cases hRead : Document.read? format text with
      | none => simp [hRead, Except.map]
      | some content =>
          cases hSettings : Settings.ofDocument format content <;>
            simp [hRead, hSettings, Except.map, eq_comm]

/-
  A loader that takes a document has the content that the
  document gives a setting, and the standard one where it gives
  none.
-/
theorem Takes.get
    (hTakes : Takes format content loader next)
    (setting : Setting) :
    next.settings.get setting =
        (content.value? format setting).getD
          (Settings.standard.get setting) ∧
      (content.given? format setting).isSome =
        (content.value? format setting).isSome := by
  rcases hTakes with ⟨settings, hSettings, rfl⟩
  unfold Settings.ofDocument at hSettings
  cases hLayer : Layer.ofDocument? format content with
  | none =>
      rw [hLayer] at hSettings
      cases hSettings
  | some layer =>
      rw [hLayer] at hSettings
      cases hSettings
      rcases Layer.get?_of_ofDocument? hLayer setting with ⟨hGet, hGiven⟩
      refine ⟨?_, hGiven⟩
      rw [← hGet]
      exact layer.get_applyTo .standard setting

/- A loader that takes a document keeps the prefix. -/
theorem Takes.lead
    (hTakes : Takes format content loader next) :
    next.lead = loader.lead := by
  rcases hTakes with ⟨_, _, rfl⟩
  rfl

/-
  What taking a document does: the settings that the document
  gives have its contents, and all others are standard.
-/
structure ReplacedBy
    (format : DocumentFormat)
    (content : Document)
    (loader next : Loader) : Prop where
  given :
    ∀ setting, (content.given? format setting).isSome →
      some (next.settings.get setting) = content.value? format setting
  forgotten :
    ∀ setting, content.given? format setting = none →
      next.settings.get setting = Settings.standard.get setting
  -- Earlier contents stay only where they are standard already.
  kept_iff :
    ∀ setting, content.given? format setting = none →
      (next.settings.get setting = loader.settings.get setting ↔
        loader.settings.get setting = Settings.standard.get setting)
  regardless :
    ∀ other otherNext, Takes format content other otherNext →
      otherNext.settings = next.settings
  lead : next.lead = loader.lead

/- Every loader that takes a document is replaced by it. -/
theorem replacedBy_of_takes
    (hTakes : Takes format content loader next) :
    ReplacedBy format content loader next := by
  have hForgotten :
      ∀ setting, content.given? format setting = none →
        next.settings.get setting = Settings.standard.get setting := by
    intro setting hNone
    rcases hTakes.get setting with ⟨hGet, hGiven⟩
    rw [hNone, Option.isSome_none, eq_comm, Option.isSome_eq_false_iff,
      Option.isNone_iff_eq_none] at hGiven
    rw [hGet, hGiven, Option.getD_none]
  constructor
  case given =>
    intro setting hSome
    rcases hTakes.get setting with ⟨hGet, hGiven⟩
    rw [hGiven, Option.isSome_iff_exists] at hSome
    rcases hSome with ⟨v, hValue⟩
    rw [hGet, hValue, Option.getD_some]
  case forgotten => exact hForgotten
  case kept_iff =>
    intro setting hNone
    rw [hForgotten setting hNone, eq_comm]
  case regardless =>
    intro other otherNext hOther
    apply Settings.ext_get
    intro setting
    rw [(hTakes.get setting).1, (hOther.get setting).1]
  case lead => exact hTakes.lead

/- The text of a document with one setting. -/
def depthText : String :=
  "[engine]\nmax_depth = 8\n"

/- The document with one setting. -/
def depthDocument : Document :=
  .table [("engine", .table [("max_depth", .whole 8)])]

/- The settings that the document with one setting stands for. -/
def depthSettings : Settings :=
  ⟨⟨.string, true, 8⟩, Settings.standard.logging⟩

/-
  A loader with the preset for a developer takes the depth, and
  is replaced.
-/
theorem replacedBy_depthDocument :
    Takes .toml depthDocument (start.withSettings .development)
        (start.withSettings depthSettings) ∧
      ReplacedBy .toml depthDocument (start.withSettings .development)
        (start.withSettings depthSettings) := by
  have hTakes :
      Takes .toml depthDocument (start.withSettings .development)
        (start.withSettings depthSettings) :=
    ⟨depthSettings, rfl, rfl⟩
  exact ⟨hTakes, replacedBy_of_takes hTakes⟩

/-
  The text says nothing about the level of the logger, which is
  no longer the one for a developer once it is loaded.
-/
theorem development_level_forgotten :
    Document.read? .toml depthText = some depthDocument ∧
      depthDocument.given? .toml .level = none ∧
      (start.withSettings .development).withText depthText "toml" =
        .ok (start.withSettings depthSettings) ∧
      (start.withSettings .development).settings.get .level = "debug" ∧
      (start.withSettings depthSettings).settings.get .level = "info" := by
  have hRead : Document.read? .toml depthText = some depthDocument := by
    cbv
  have hNamed :
      DocumentFormat.ofName? (Casing.lower "toml") = some .toml := by
    decide +kernel
  have hLoaded :
      (start.withSettings .development).withText depthText "toml" =
        .ok (start.withSettings depthSettings) :=
    withText_eq_ok_iff.mpr
      ⟨.toml, depthDocument, hNamed, hRead, depthSettings, rfl, rfl⟩
  exact ⟨hRead, rfl, hLoaded, rfl, rfl⟩

end Loader

end Intake
