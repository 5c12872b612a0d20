import Intake.Proofs.Settings.Documents
import Intake.Proofs.Lists

/-
  This file shows what settings a loader gives under an
  environment.

  The variable of a setting is found by splitting its name, and
  every name is the variable of one setting at most.  So each
  variable changes its own setting only, and the order in which
  they come does not matter.  This holds for every library of
  filters.

  Key definitions include:
    * `Setting.ofText?`
    * `Environment.given?`
    * `Environment.Accepted`
    * `Loader.Prepared`
    * `Loader.resolved`
    * `Loader.ResolvesByField`

  The main statements are:
    * `Setting.ofVariable?_eq_some_iff`
    * `Settings.overrideBy_eq_ok_iff`
    * `Settings.override_eq_ok_iff`
    * `Loader.resolvesByField`
-/

namespace Intake

------------------------------------------------------------
-- Names of Variables
------------------------------------------------------------

namespace Setting

/- Every text has a first part. -/
theorem splitMarks_ne_nil
    (text : List Char) :
    splitMarks text ≠ [] := by
  fun_cases splitMarks text <;> simp

/- The parts between double underscores make up the text. -/
theorem intercalate_splitMarks
    (text : List Char) :
    ['_', '_'].intercalate (splitMarks text) = text := by
  fun_induction splitMarks text with
  | case1 => rfl
  | case2 rest ih =>
      rcases List.exists_cons_of_ne_nil (splitMarks_ne_nil rest) with
        ⟨first, others, hParts⟩
      rw [hParts] at ih ⊢
      rw [List.intercalate_cons_cons, ih]
      rfl
  | case3 c rest _ hParts _ => exact absurd hParts (splitMarks_ne_nil rest)
  | case4 c rest _ first others hParts ih =>
      rw [hParts] at ih
      rw [← ih]
      cases others with
      | nil => rfl
      | cons second others =>
          rw [List.intercalate_cons_cons, List.intercalate_cons_cons,
            List.cons_append, List.cons_append]

/- The name of a setting below the prefix. -/
def path
    (setting : Setting) : List Char :=
  setting.sectionName.toList ++ "__".toList ++ setting.keyName.toList

/- The name of a variable is the prefix and the path of its setting. -/
theorem toList_variableName
    (lead : String)
    (setting : Setting) :
    (setting.variableName lead).toList =
      (lead ++ "__").toList ++ setting.path := by
  unfold variableName path
  simp only [String.toList_append, List.append_assoc]

/- Settings are told apart by their paths. -/
theorem path_injective :
    Function.Injective path := by
  intro setting other hSame
  have hParts : splitMarks setting.path = splitMarks other.path := by
    rw [hSame]
  revert hParts
  cases setting <;> cases other <;> decide

/- A path splits into the section and the key. -/
theorem splitMarks_path
    (setting : Setting) :
    splitMarks setting.path =
      [setting.sectionName.toList, setting.keyName.toList] := by
  cases setting <;> decide

/- Only the path of a setting splits into its section and its key. -/
theorem ofParts?_splitMarks_eq_some_iff
    (text : List Char)
    (setting : Setting) :
    ofParts? (splitMarks text) = some setting ↔ text = setting.path := by
  have hParts :
      ∀ other : Setting,
        [other.sectionName.toList, other.keyName.toList] =
            splitMarks text ↔
          text = other.path := by
    intro other
    rw [← splitMarks_path]
    constructor
    · intro hSame
      rw [← intercalate_splitMarks text, ← hSame, intercalate_splitMarks]
    · intro hSame
      rw [hSame]
  unfold ofParts?
  cases hFind :
      all.find? fun other =>
        [other.sectionName.toList, other.keyName.toList] ==
          splitMarks text with
  | none =>
      rw [List.find?_eq_none] at hFind
      have hOther := hFind setting setting.mem_all
      rw [beq_iff_eq, hParts] at hOther
      exact iff_of_false (by simp) hOther
  | some found =>
      have hFound := List.find?_some hFind
      rw [beq_iff_eq, hParts] at hFound
      rw [hFound, Option.some.injEq, path_injective.eq_iff]

/-
  A variable is for a setting exactly if its name is the prefix
  and the path of the setting.
-/
theorem ofVariable?_eq_some_iff
    (lead name : String)
    (setting : Setting) :
    ofVariable? lead name = some setting ↔
      name = setting.variableName lead := by
  have hName :
      name = setting.variableName lead ↔
        name.toList = (lead ++ "__").toList ++ setting.path := by
    rw [← toList_variableName, String.toList_inj]
  rw [hName]
  unfold ofVariable?
  simp only
  split
  next hFront =>
    rcases List.isPrefixOf_iff_prefix.mp hFront with ⟨text, hText⟩
    rw [← hText, List.drop_left, ofParts?_splitMarks_eq_some_iff,
      List.append_right_inj]
  next hFront =>
    refine iff_of_false (by simp) ?_
    intro hSame
    apply hFront
    rw [List.isPrefixOf_iff_prefix, hSame]
    exact List.prefix_append _ _

/- A variable is for no setting if its name is none of theirs. -/
theorem ofVariable?_eq_none_iff
    (lead name : String) :
    ofVariable? lead name = none ↔
      ∀ setting : Setting, name ≠ setting.variableName lead := by
  rw [Option.eq_none_iff_forall_ne_some]
  exact forall_congr' fun setting =>
    not_congr (ofVariable?_eq_some_iff lead name setting)

------------------------------------------------------------
-- Values of Variables
------------------------------------------------------------

/- The content of a setting that the text of a variable stands for. -/
def ofText?
    (text : String) : (setting : Setting) → Option setting.Content
  | .keyPolicy => KeyPolicy.ofName? (Casing.lower text)
  | .collapse => readFlag? text
  | .maxDepth => readWhole? text
  | .enabled => readFlag? text
  | .level => some text
  | .format => LogFormat.ofName? (Casing.lower text)
  | .location => readFlag? text

/- A text has a layer exactly if it stands for a content. -/
theorem isSome_layer?
    (text : String)
    (setting : Setting) :
    (setting.layer? text).isSome = (setting.ofText? text).isSome := by
  cases setting with
  | level => rfl
  | keyPolicy | collapse | maxDepth | enabled | format | location =>
      exact Option.isSome_map

/-
  The layer of a text has the content that the text stands for,
  and nothing else.
-/
theorem get?_of_layer?
    {text : String}
    {setting : Setting}
    {layer : Layer}
    (hLayer : setting.layer? text = some layer)
    (other : Setting) :
    layer.get? other =
      if other = setting then other.ofText? text else none := by
  cases setting with
  | level =>
      cases hLayer
      cases other <;> rfl
  | keyPolicy | collapse | maxDepth | enabled | format | location =>
      simp only [layer?, Option.map_eq_some_iff] at hLayer
      rcases hLayer with ⟨v, hContent, rfl⟩
      cases other <;> first | rfl | exact hContent.symm

end Setting

------------------------------------------------------------
-- Environments
------------------------------------------------------------

namespace Environment

/- The content that an environment gives a setting, if it gives one. -/
def given?
    (lead : String)
    (env : Environment)
    (setting : Setting) : Option setting.Content :=
  (Fields.lookup? env (setting.variableName lead)).bind fun text =>
    setting.ofText? text

/- The settings accept the texts of all their variables. -/
def Accepted
    (lead : String)
    (env : Environment) : Prop :=
  ∀ setting text, (setting.variableName lead, text) ∈ env →
    (Setting.ofText? text setting).isSome

/- The first variable of an environment comes before the others. -/
theorem given?_cons
    (lead : String)
    (entry : String × String)
    (env : Environment)
    (setting : Setting) :
    given? lead (entry :: env) setting =
      if entry.1 = setting.variableName lead then setting.ofText? entry.2
      else given? lead env setting := by
  unfold given?
  rw [Fields.lookup?_cons]
  split <;> rfl

/- A setting whose variable is the first one has no other. -/
theorem getD_given?_cons
    (lead : String)
    {entry : String × String}
    {env : Environment}
    (hFirst : entry.1 ∉ Fields.names env)
    (setting : Setting)
    (content : setting.Content) :
    (given? lead env setting).getD
        ((given? lead [entry] setting).getD content) =
      (given? lead (entry :: env) setting).getD content := by
  rw [given?_cons, given?_cons]
  by_cases hName : entry.1 = setting.variableName lead
  · have hNone : given? lead env setting = none := by
      unfold given?
      rw [(Fields.lookup?_eq_none_iff env _).mpr (hName ▸ hFirst)]
      rfl
    simp only [hNone, if_pos hName, Option.getD_none]
  · simp only [if_neg hName]
    rfl

/- The variables of an environment are accepted one by one. -/
theorem accepted_cons_iff
    (lead : String)
    (entry : String × String)
    (env : Environment) :
    Accepted lead (entry :: env) ↔
      (∀ setting : Setting, entry.1 = setting.variableName lead →
        (setting.ofText? entry.2).isSome) ∧
      Accepted lead env := by
  unfold Accepted
  simp only [List.mem_cons, Prod.ext_iff]
  constructor
  · intro hAccepted
    refine ⟨?_, ?_⟩
    · intro setting hName
      exact hAccepted setting entry.2 (Or.inl ⟨hName.symm, rfl⟩)
    · intro setting text hMem
      exact hAccepted setting text (Or.inr hMem)
  · rintro ⟨hFirst, hRest⟩ setting text (⟨hName, hText⟩ | hMem)
    · rw [hText]
      exact hFirst setting hName.symm
    · exact hRest setting text hMem

/- Accepted variables may come in any order. -/
theorem accepted_of_perm
    {lead : String}
    (env : Environment)
    {other : Environment}
    (hPerm : env.Perm other) :
    Accepted lead env ↔ Accepted lead other := by
  unfold Accepted
  simp only [hPerm.mem_iff]

end Environment

------------------------------------------------------------
-- Overrides
------------------------------------------------------------

namespace Settings

/-
  A variable is accepted if its setting accepts the text, and
  then replaces the content of this setting only.
-/
theorem overrideBy_eq_ok_iff
    (lead : String)
    (settings next : Settings)
    (entry : String × String) :
    settings.overrideBy lead entry = .ok next ↔
      (∀ setting : Setting, entry.1 = setting.variableName lead →
        (setting.ofText? entry.2).isSome) ∧
      ∀ setting, next.get setting =
        (Environment.given? lead [entry] setting).getD
          (settings.get setting) := by
  -- What the variable does depends on the setting that it is for.
  have hGiven :
      ∀ setting, Environment.given? lead [entry] setting =
        if Setting.ofVariable? lead entry.1 = some setting then
          setting.ofText? entry.2
        else none := by
    intro setting
    rw [Environment.given?_cons]
    simp only [Setting.ofVariable?_eq_some_iff]
    rfl
  simp only [← Setting.ofVariable?_eq_some_iff, hGiven]
  unfold overrideBy
  cases hVariable : Setting.ofVariable? lead entry.1 with
  | none =>
      simp only [reduceCtorEq, false_implies, implies_true, if_false,
        Option.getD_none, true_and, Except.ok.injEq]
      constructor
      · rintro rfl _
        rfl
      · intro hSame
        exact (ext_get hSame).symm
  | some own =>
      have hOwn := Setting.isSome_layer? entry.2 own
      simp only [Option.some.injEq, forall_eq', ← hOwn]
      cases hLayer : own.layer? entry.2 with
      | none => simp
      | some layer =>
          have hGet := Setting.get?_of_layer? hLayer
          have hNext :
              ∀ setting, (layer.applyTo settings).get setting =
                (if own = setting then setting.ofText? entry.2
                  else none).getD (settings.get setting) := by
            intro setting
            rw [layer.get_applyTo, hGet]
            simp only [eq_comm]
          simp only [Option.isSome_some, true_and, Except.ok.injEq,
            ← hNext]
          constructor
          · rintro rfl _
            rfl
          · intro hSame
            exact (ext_get hSame).symm

/-
  If each name is there once, the variables are accepted all
  together or not at all, and each setting has the content of
  its own variable.
-/
theorem override_eq_ok_iff
    (lead : String)
    (settings result : Settings)
    (env : Environment)
    (hDistinct : (Fields.names env).Nodup) :
    settings.override lead env = .ok result ↔
      env.Accepted lead ∧
      ∀ setting, result.get setting =
        (env.given? lead setting).getD (settings.get setting) := by
  unfold override
  induction env generalizing settings with
  | nil =>
      have hNone :
          ∀ setting, Environment.given? lead [] setting = none :=
        fun _ => rfl
      have hAccepted : Environment.Accepted lead [] := by
        intro _ _ hMem
        cases hMem
      simp only [List.foldlM_nil, hNone, Option.getD_none, hAccepted,
        true_and]
      constructor
      · intro hSame
        cases hSame
        exact fun _ => rfl
      · intro hSame
        rw [ext_get hSame]
        rfl
  | cons entry rest ih =>
      rw [Fields.names, List.map_cons, List.nodup_cons] at hDistinct
      have hOnce := fun setting =>
        Environment.getD_given?_cons lead hDistinct.1 setting
          (settings.get setting)
      have hFirst := fun next => overrideBy_eq_ok_iff lead settings next entry
      rw [List.foldlM_cons, Environment.accepted_cons_iff]
      cases hStep : settings.overrideBy lead entry with
      | error e =>
          -- A variable that fails is one that is not accepted.
          refine iff_of_false (by intro hOk; cases hOk) ?_
          rintro ⟨⟨hAccepted, _⟩, _⟩
          have hNext :=
            get_ofContents fun setting =>
              (Environment.given? lead [entry] setting).getD
                (settings.get setting)
          have hOk := (hFirst _).mpr ⟨hAccepted, hNext⟩
          rw [hStep] at hOk
          cases hOk
      | ok next =>
          rcases (hFirst next).mp hStep with ⟨hAccepted, hNext⟩
          have hRest := ih next hDistinct.2
          simp only [hNext, hOnce] at hRest
          rw [and_iff_right hAccepted]
          exact hRest

end Settings

------------------------------------------------------------
-- Loading
------------------------------------------------------------

namespace Loader

/-
  A loader from the start that has a prefix and has taken at
  most one document, before the prefix was given or after.
-/
inductive Prepared
    (lead : String) : Option (DocumentFormat × Document) → Loader → Prop where
  | bare : Prepared lead none (start.withLead lead)
  | documentFirst
      {format : DocumentFormat}
      {content : Document}
      {next : Loader}
      (takes : Takes format content start next) :
      Prepared lead (some (format, content)) (next.withLead lead)
  | leadFirst
      {format : DocumentFormat}
      {content : Document}
      {next : Loader}
      (takes : Takes format content (start.withLead lead) next) :
      Prepared lead (some (format, content)) next

/-
  The settings under a document and an environment: each has
  the content of its own variable, else the one of the
  document, else the standard one.
-/
def resolved
    (lead : String)
    (document : Option (DocumentFormat × Document))
    (env : Environment) : Settings :=
  .ofContents fun setting =>
    let fromDocument :=
      document.bind fun (format, content) => content.value? format setting
    (env.given? lead setting).getD
      (fromDocument.getD (Settings.standard.get setting))

/- Settings are resolved in any order of the variables. -/
theorem resolved_of_perm
    (lead : String)
    (document : Option (DocumentFormat × Document))
    {env other : Environment}
    (hPerm : env.Perm other)
    (hDistinct : (Fields.names env).Nodup) :
    resolved lead document env = resolved lead document other := by
  apply Settings.ext_get
  intro setting
  simp only [resolved, Settings.get_ofContents, Environment.given?]
  rw [Fields.lookup?_of_perm hPerm hDistinct]

/-
  The settings that a loader gives are found for each setting
  by itself.
-/
structure ResolvesByField
    (filters : FilterLibrary)
    (loader : Loader)
    (lead : String)
    (document : Option (DocumentFormat × Document))
    (env : Environment) : Prop where
  succeeds :
    (∃ settings, loader.load filters env = .ok settings) ↔
      env.Accepted lead ∧
      1 ≤ (resolved lead document env).engine.maxDepth ∧
      filters.check (resolved lead document env).logging.level = .ok ()
  contents :
    ∀ settings, loader.load filters env = .ok settings →
      settings = resolved lead document env
  -- What the document has for a setting is a content of it.
  reads :
    ∀ format content, document = some (format, content) →
      ∀ setting, (content.given? format setting).isSome =
        (content.value? format setting).isSome
  unordered :
    ∀ other : Environment, env.Perm other → ∀ settings,
      loader.load filters env = .ok settings ↔
        loader.load filters other = .ok settings
  ignores :
    ∀ before name text after, env = before ++ (name, text) :: after →
      (∀ setting : Setting, name ≠ setting.variableName lead) →
      loader.load filters env = loader.load filters (before ++ after)

variable (filters : FilterLibrary)
variable {loader : Loader}
variable {lead : String}
variable {document : Option (DocumentFormat × Document)}

/-
  A prepared loader has its prefix in upper case, and the
  contents of its document where this gives one.
-/
theorem Prepared.spec
    (hPrepared : Prepared lead document loader) :
    loader.lead = some (Casing.upper lead) ∧
    ∀ setting, loader.settings.get setting =
      (document.bind fun (format, content) =>
        content.value? format setting).getD
        (Settings.standard.get setting) := by
  cases hPrepared with
  | bare => exact ⟨rfl, fun _ => rfl⟩
  | documentFirst takes => exact ⟨rfl, fun setting => (takes.get setting).1⟩
  | leadFirst takes =>
      exact ⟨takes.lead, fun setting => (takes.get setting).1⟩

/- Loading gives the overridden settings, if they are valid. -/
theorem load_eq_ok_iff
    (env : Environment)
    (settings : Settings) :
    loader.load filters env = .ok settings ↔
      loader.overridden env = .ok settings ∧
        settings.validate filters = .ok () := by
  unfold load
  cases loader.overridden env with
  | error e =>
      refine iff_of_false (by intro hOk; cases hOk) ?_
      intro hBoth
      cases hBoth.1
  | ok found =>
      rw [Except.ok.injEq]
      cases hValid : found.validate filters with
      | error e =>
          refine iff_of_false ?_ ?_
          · intro hOk
            simp [bind, Except.bind, hValid] at hOk
          · rintro ⟨rfl, hOk⟩
            rw [hValid] at hOk
            cases hOk
      | ok _ =>
          constructor
          · intro hOk
            simp only [bind, Except.bind, hValid] at hOk
            cases hOk
            exact ⟨rfl, hValid⟩
          · rintro ⟨rfl, _⟩
            simp only [bind, Except.bind, hValid]
            rfl

/- What a prepared loader loads, if each variable is there once. -/
theorem Prepared.load_eq_ok_iff
    (hPrepared : Prepared lead document loader)
    (env : Environment)
    (hDistinct : (Fields.names env).Nodup)
    (settings : Settings) :
    loader.load filters env = .ok settings ↔
      env.Accepted (Casing.upper lead) ∧
      settings = resolved (Casing.upper lead) document env ∧
      1 ≤ settings.engine.maxDepth ∧
      filters.check settings.logging.level = .ok () := by
  rcases hPrepared.spec with ⟨hLead, hGet⟩
  have hOverridden :
      loader.overridden env = .ok settings ↔
        env.Accepted (Casing.upper lead) ∧
        settings = resolved (Casing.upper lead) document env := by
    unfold overridden
    simp only [hLead]
    rw [Settings.override_eq_ok_iff _ _ _ _ hDistinct]
    refine and_congr_right fun _ => ?_
    simp only [hGet]
    constructor
    · intro hSame
      apply Settings.ext_get
      intro setting
      rw [hSame, resolved, Settings.get_ofContents]
    · rintro rfl setting
      exact Settings.get_ofContents _ setting
  rw [loader.load_eq_ok_iff filters, hOverridden,
    Settings.validate_eq_ok_iff, and_assoc]

/- A variable that is for no setting is skipped. -/
theorem load_skip
    {front : String}
    (hLead : loader.lead = some front)
    {name : String}
    (hNone : ∀ setting : Setting, name ≠ setting.variableName front)
    (before after : Environment)
    (text : String) :
    loader.load filters (before ++ (name, text) :: after) =
      loader.load filters (before ++ after) := by
  have hVariable : Setting.ofVariable? front name = none :=
    (Setting.ofVariable?_eq_none_iff front name).mpr hNone
  have hStep :
      ∀ settings : Settings,
        settings.overrideBy front (name, text) = .ok settings := by
    intro settings
    unfold Settings.overrideBy
    simp only [hVariable]
  unfold load overridden Settings.override
  simp only [hLead, List.foldlM_append, List.foldlM_cons, hStep]
  rfl

/-
  A loader with a prefix and at most one document resolves its
  settings one by one, whatever the order of the environment
  and the library of filters are.
-/
theorem resolvesByField
    (hPrepared : Prepared lead document loader)
    (env : Environment)
    (hDistinct : (Fields.names env).Nodup) :
    loader.ResolvesByField filters (Casing.upper lead) document env where
  succeeds := by
    simp only [hPrepared.load_eq_ok_iff filters env hDistinct]
    constructor
    · rintro ⟨_, hAccepted, rfl, hValid⟩
      exact ⟨hAccepted, hValid⟩
    · rintro ⟨hAccepted, hValid⟩
      exact ⟨_, hAccepted, rfl, hValid⟩
  contents := by
    intro settings hLoaded
    exact
      ((hPrepared.load_eq_ok_iff filters env hDistinct settings).mp
        hLoaded).2.1
  reads := by
    rintro format content rfl setting
    cases hPrepared with
    | documentFirst takes => exact (takes.get setting).2
    | leadFirst takes => exact (takes.get setting).2
  unordered := by
    intro other hPerm settings
    have hOther : (Fields.names other).Nodup :=
      (hPerm.map Prod.fst).nodup hDistinct
    rw [hPrepared.load_eq_ok_iff filters env hDistinct,
      hPrepared.load_eq_ok_iff filters other hOther,
      env.accepted_of_perm hPerm,
      resolved_of_perm _ _ hPerm hDistinct]
  ignores := by
    rintro before name text after rfl hNone
    exact load_skip filters hPrepared.spec.1 hNone before after text

/- A document that gives two settings of the engine. -/
def sampleDocument : Document :=
  .table
    [("engine", .table
      [("max_depth", .whole 4), ("collapse_single_error", .flag false)])]

/- Three variables, one of them with a prefix in lower case. -/
def sampleEnvironment : Environment :=
  [("VERITAS__ENGINE__MAX_DEPTH", "8"),
    ("veritas__ENGINE__KEY_POLICY", "neither"),
    ("VERITAS__LOGGING__LEVEL", "debug")]

/- A library whose filters are the names of levels. -/
def sampleFilters : FilterLibrary where
  check level :=
    if ["off", "error", "warn", "info", "debug", "trace"].contains level
    then .ok ()
    else .error "not a level"

/-
  The depth and the level are taken from their variables, and
  from the document what no variable says.
-/
theorem resolvesByField_sample :
    ∃ loader,
      Prepared "veritas" (some (.toml, sampleDocument)) loader ∧
      (Fields.names sampleEnvironment).Nodup ∧
      loader.ResolvesByField sampleFilters (Casing.upper "veritas")
        (some (.toml, sampleDocument)) sampleEnvironment ∧
      loader.load sampleFilters sampleEnvironment =
        .ok ⟨⟨.string, false, 8⟩, true, "debug", .json, false⟩ := by
  have hUpper : Casing.upper "veritas" = "VERITAS" := by decide +kernel
  have hTakes :
      Takes .toml sampleDocument (start.withLead "veritas")
        ((start.withLead "veritas").withSettings
          ⟨⟨.string, false, 4⟩, Settings.standard.logging⟩) :=
    ⟨_, rfl, rfl⟩
  have hPrepared := Prepared.leadFirst hTakes
  have hDistinct : (Fields.names sampleEnvironment).Nodup := by decide
  have hResolves :=
    resolvesByField sampleFilters hPrepared sampleEnvironment hDistinct
  refine ⟨_, hPrepared, hDistinct, hResolves, ?_⟩
  have hAccepted : sampleEnvironment.Accepted (Casing.upper "veritas") := by
    rw [hUpper]
    simp only [sampleEnvironment, Environment.accepted_cons_iff]
    refine ⟨?_, ?_, ?_, ?_⟩
    · intro setting
      cases setting <;> decide
    · intro setting
      cases setting <;> decide
    · intro setting
      cases setting <;> decide
    · intro setting text hMem
      cases hMem
  have hResolved :
      resolved (Casing.upper "veritas") (some (.toml, sampleDocument))
          sampleEnvironment =
        ⟨⟨.string, false, 8⟩, true, "debug", .json, false⟩ := by
    rw [hUpper]
    decide
  have hLevel : sampleFilters.check "debug" = .ok () := by decide
  have hDepth : 1 ≤ 8 := by decide
  rcases hResolves.succeeds.mpr
      ⟨hAccepted, hResolved ▸ hDepth, hResolved ▸ hLevel⟩ with
    ⟨settings, hLoaded⟩
  rw [hLoaded, hResolves.contents settings hLoaded, hResolved]

end Loader

end Intake
