import Intake.Proofs.Raw.Reading
import Intake.Report.Reader

/-
  This file shows which error record a JSON text stands for, and
  that the text of a record stands for this record again.

  The path of a record is the only part that may be missing: a
  record without path is written without a field for it, and is
  read from a text in which the field is absent or null.

  Key definitions include:
    * `JsonSyntax.Lacks`
    * `JsonSyntax.HasOnly`
    * `JsonSyntax.HasKey`
    * `ErrorRecord.GivesParam`
    * `ErrorRecord.GivesRest`
    * `ErrorRecord.IsCarried`

  The main statements are:
    * `JsonSyntax.field?_eq_some_some_iff`
    * `ErrorRecord.ofSyntax?_eq_some_iff`
    * `ErrorRecord.read?_write`
    * `ErrorRecord.isCarried`
-/

namespace Intake

------------------------------------------------------------
-- Fields by Name
------------------------------------------------------------

namespace JsonSyntax

/- No field has a name. -/
def Lacks
    (fields : List (Option String × JsonSyntax))
    (name : String) : Prop :=
  ∀ field ∈ fields, field.1 ≠ some name

/- One field has a name, it has this value, and no other one has the name. -/
def HasOnly
    (fields : List (Option String × JsonSyntax))
    (name : String)
    (value : JsonSyntax) : Prop :=
  ∃ before after, fields = before ++ (some name, value) :: after ∧
    Lacks before name ∧ Lacks after name

/- A tree is an object that has a field of a name. -/
def HasKey
    (tree : JsonSyntax)
    (name : String) : Prop :=
  ∃ fields, tree = .object fields ∧ ¬ Lacks fields name

section Fields

variable {fields : List (Option String × JsonSyntax)}
variable {name : String}
variable {value : JsonSyntax}

/- The fields of a name are none exactly if no field has it. -/
theorem filter_eq_nil_iff_lacks :
    (fields.filter fun field => field.1 == some name) = [] ↔
      Lacks fields name := by
  simp only [List.filter_eq_nil_iff, beq_iff_eq]
  rfl

/- The fields of a name are one exactly if the value is the only one. -/
theorem filter_eq_singleton_iff_hasOnly :
    (fields.filter fun field => field.1 == some name) =
        [(some name, value)] ↔
      HasOnly fields name value := by
  simp only [List.filter_eq_cons_iff, filter_eq_nil_iff_lacks,
    beq_iff_eq, true_and]
  rfl

/- The look-up says that a field is absent exactly if it is. -/
theorem field?_eq_some_none_iff :
    field? fields name = some none ↔ Lacks fields name := by
  rw [← filter_eq_nil_iff_lacks, field?]
  split
  · next hNone => simp [hNone]
  · next hOne => simp [hOne]
  · next hNone _ => simpa using hNone

/- The look-up gives a value exactly if it is the only one of its name. -/
theorem field?_eq_some_some_iff :
    field? fields name = some (some value) ↔
      HasOnly fields name value := by
  rw [← filter_eq_singleton_iff_hasOnly, field?]
  split
  · next hNone => simp [hNone]
  · next key found hOne =>
      have hMem :
          (key, found) ∈ fields.filter fun field =>
            field.1 == some name := by
        rw [hOne]
        exact List.mem_singleton_self _
      have hKey : key = some name := by
        simpa using (List.mem_filter.mp hMem).2
      simp [hOne, hKey]
  · next hSeveral =>
      constructor
      · intro hFound
        cases hFound
      · intro hOne
        exact absurd hOne (hSeveral _ _)

/- All keys are texts exactly if none is unreadable. -/
theorem keysValid_iff :
    keysValid fields = true ↔ ∀ field ∈ fields, field.1 ≠ none := by
  simp [keysValid, Option.isSome_iff_ne_none]

end Fields

end JsonSyntax

------------------------------------------------------------
-- Trees of Records
------------------------------------------------------------

open JsonSyntax

/- A text is the name of a code exactly if it is what the code is called. -/
theorem ErrorCode.ofName?_eq_some_iff
    {name : String}
    {code : ErrorCode} :
    ofName? name = some code ↔ name = code.name := by
  unfold ofName?
  split
  · next h =>
      cases beq_iff_eq.mp h
      cases code <;> decide
  split
  · next h =>
      cases beq_iff_eq.mp h
      cases code <;> decide
  · next hInvalid hMissing =>
      rw [beq_iff_eq] at hInvalid hMissing
      cases code <;> simpa [ErrorCode.name]

namespace ErrorRecord

/- A tree names a code, as a text or as the key of a field with null. -/
inductive NamesCode : JsonSyntax → ErrorCode → Prop where
  | text (code : ErrorCode) :
      NamesCode (.string (some code.name)) code
  | field (code : ErrorCode) :
      NamesCode (.object [(some code.name, .null)]) code

/-
  A tree gives the path of a record, or says that there is none:
  by a field, by its absence or by null.  In an array the path
  comes first.
-/
inductive GivesParam : JsonSyntax → Option String → Prop where
  | absent
      {fields : List (Option String × JsonSyntax)}
      (lacks : Lacks fields "param") :
      GivesParam (.object fields) none
  | null
      {fields : List (Option String × JsonSyntax)}
      (only : HasOnly fields "param" .null) :
      GivesParam (.object fields) none
  | path
      {fields : List (Option String × JsonSyntax)}
      {path : String}
      (only : HasOnly fields "param" (.string (some path))) :
      GivesParam (.object fields) (some path)
  | firstNull
      {rest : List JsonSyntax} :
      GivesParam (.array (.null :: rest)) none
  | firstPath
      {path : String}
      {rest : List JsonSyntax} :
      GivesParam (.array (.string (some path) :: rest)) (some path)

/-
  A tree gives the message and the code of a record.  There may
  be fields of any other names, in any order.
-/
inductive GivesRest : JsonSyntax → String → ErrorCode → Prop where
  | object
      {fields : List (Option String × JsonSyntax)}
      {message : String}
      {tree : JsonSyntax}
      {code : ErrorCode}
      (keys : ∀ field ∈ fields, field.1 ≠ none)
      (onlyMessage : HasOnly fields "message" (.string (some message)))
      (onlyCode : HasOnly fields "error_code" tree)
      (named : NamesCode tree code) :
      GivesRest (.object fields) message code
  | array
      {first tree : JsonSyntax}
      {message : String}
      {code : ErrorCode}
      (named : NamesCode tree code) :
      GivesRest (.array [first, .string (some message), tree]) message
        code

/- The code of a tree is the one that it names. -/
theorem codeOf?_eq_some_iff
    {tree : JsonSyntax}
    {code : ErrorCode} :
    codeOf? tree = some code ↔ NamesCode tree code := by
  constructor
  · intro hCode
    rcases Option.bind_eq_some_iff.mp hCode with ⟨name, hName, hNamed⟩
    rw [ErrorCode.ofName?_eq_some_iff] at hNamed
    subst hNamed
    unfold unitVariant? at hName
    split at hName
    · cases hName
      exact .text code
    · cases hName
      exact .field code
    · cases hName
  · intro hNames
    cases hNames <;>
      exact ErrorCode.ofName?_eq_some_iff.mpr rfl

/- A text or null is read as the path, or as its absence. -/
theorem optionalText?_eq_some_iff
    {tree : JsonSyntax}
    {param : Option String} :
    tree.optionalText? = some param ↔
      (tree = .null ∧ param = none) ∨
        ∃ path, tree = .string (some path) ∧ param = some path := by
  cases tree with
  | null => simp [optionalText?, @eq_comm _ none]
  | string content => cases content <;> simp [optionalText?, eq_comm]
  | bool | number | array | object => simp [optionalText?]

/- A text is read as the message. -/
theorem text?_eq_some_iff
    {tree : JsonSyntax}
    {message : String} :
    tree.text? = some message ↔ tree = .string (some message) := by
  cases tree <;> simp [text?]

/- The path of an object is what its fields say about it. -/
theorem givesParam_object_iff
    {fields : List (Option String × JsonSyntax)}
    {param : Option String} :
    GivesParam (.object fields) param ↔
      (field? fields "param" = some none ∧ param = none) ∨
        ∃ tree, field? fields "param" = some (some tree) ∧
          tree.optionalText? = some param := by
  simp only [field?_eq_some_none_iff, field?_eq_some_some_iff,
    optionalText?_eq_some_iff]
  constructor
  · intro hGives
    cases hGives with
    | absent lacks => exact Or.inl ⟨lacks, rfl⟩
    | null only => exact Or.inr ⟨_, only, Or.inl ⟨rfl, rfl⟩⟩
    | path only => exact Or.inr ⟨_, only, Or.inr ⟨_, rfl, rfl⟩⟩
  · rintro (⟨hLacks, rfl⟩ |
      ⟨_, hOnly, ⟨rfl, rfl⟩ | ⟨path, rfl, rfl⟩⟩)
    · exact .absent hLacks
    · exact .null hOnly
    · exact .path hOnly

/- The rest of an object is what its fields say about it. -/
theorem givesRest_object_iff
    {fields : List (Option String × JsonSyntax)}
    {message : String}
    {code : ErrorCode} :
    GivesRest (.object fields) message code ↔
      keysValid fields = true ∧
        (∃ tree, field? fields "message" = some (some tree) ∧
          tree.text? = some message) ∧
        ∃ tree, field? fields "error_code" = some (some tree) ∧
          codeOf? tree = some code := by
  simp only [keysValid_iff, field?_eq_some_some_iff, text?_eq_some_iff,
    codeOf?_eq_some_iff]
  constructor
  · intro hGives
    cases hGives with
    | object keys onlyMessage onlyCode named =>
        exact ⟨keys, ⟨_, onlyMessage, rfl⟩, _, onlyCode, named⟩
  · rintro ⟨hKeys, ⟨_, hMessage, rfl⟩, _, hCode, hNamed⟩
    exact .object hKeys hMessage hCode hNamed

/- With the path known, an object is read by the rest of its fields. -/
theorem ofRest_eq_some_iff
    {fields : List (Option String × JsonSyntax)}
    {found param : Option String}
    {message : String}
    {code : ErrorCode} :
    (do
        let message ← (← field? fields "message")
        let code ← (← field? fields "error_code")
        return (⟨found, ← message.text?, ← codeOf? code⟩ :
          ErrorRecord)) =
        some ⟨param, message, code⟩ ↔
      found = param ∧
        (∃ tree, field? fields "message" = some (some tree) ∧
          tree.text? = some message) ∧
        ∃ tree, field? fields "error_code" = some (some tree) ∧
          codeOf? tree = some code := by
  simp only [Option.bind_eq_bind, Option.bind_eq_some_iff,
    Option.pure_def, Option.some.injEq, mk.injEq]
  constructor
  · rintro ⟨_, hMessage, first, rfl, _, hCode, second, rfl, text, hText,
      read, hRead, rfl, rfl, rfl⟩
    exact ⟨rfl, ⟨first, hMessage, hText⟩, second, hCode, hRead⟩
  · rintro ⟨rfl, ⟨first, hMessage, hText⟩, second, hCode, hRead⟩
    exact
      ⟨_, hMessage, first, rfl, _, hCode, second, rfl, message, hText,
        code, hRead, rfl, rfl, rfl⟩

/- An object is read by its fields. -/
theorem ofSyntax?_object_eq_some_iff
    {fields : List (Option String × JsonSyntax)}
    {param : Option String}
    {message : String}
    {code : ErrorCode} :
    ofSyntax? (.object fields) = some ⟨param, message, code⟩ ↔
      GivesParam (.object fields) param ∧
        GivesRest (.object fields) message code := by
  rw [givesParam_object_iff, givesRest_object_iff, ofSyntax?]
  cases keysValid fields with
  | false => simp
  | true =>
      have hRest :=
        fun found => @ofRest_eq_some_iff fields found param message code
      simp only [Option.bind_eq_bind, Option.pure_def] at hRest
      rcases field? fields "param" with _ | _ | first
      · simp
      · simp [hRest, @eq_comm _ none param]
      · cases hFirst : first.optionalText? with
        | none => simp [hFirst]
        | some found => simp [hFirst, hRest]

/- An array is read by its three items. -/
theorem ofSyntax?_array_eq_some_iff
    {first second third : JsonSyntax}
    {param : Option String}
    {message : String}
    {code : ErrorCode} :
    ofSyntax? (.array [first, second, third]) =
        some ⟨param, message, code⟩ ↔
      GivesParam (.array [first, second, third]) param ∧
        GivesRest (.array [first, second, third]) message code := by
  have hRead :
      ofSyntax? (.array [first, second, third]) =
          some ⟨param, message, code⟩ ↔
        first.optionalText? = some param ∧
          second.text? = some message ∧ codeOf? third = some code := by
    rw [ofSyntax?]
    simp [Option.bind_eq_some_iff]
  rw [hRead, optionalText?_eq_some_iff, text?_eq_some_iff,
    codeOf?_eq_some_iff]
  constructor
  · rintro ⟨⟨rfl, rfl⟩ | ⟨path, rfl, rfl⟩, rfl, hNamed⟩
    · exact ⟨.firstNull, .array hNamed⟩
    · exact ⟨.firstPath, .array hNamed⟩
  · rintro ⟨hParam, hRest⟩
    cases hRest with
    | array named =>
        cases hParam with
        | firstNull => exact ⟨Or.inl ⟨rfl, rfl⟩, rfl, named⟩
        | firstPath => exact ⟨Or.inr ⟨_, rfl, rfl⟩, rfl, named⟩

/-
  A tree stands for a record exactly if it gives the path, or
  says that there is none, and gives the message and the code.
-/
theorem ofSyntax?_eq_some_iff
    (tree : JsonSyntax)
    (record : ErrorRecord) :
    ofSyntax? tree = some record ↔
      GivesParam tree record.param ∧
        GivesRest tree record.message record.code := by
  cases tree with
  | object fields => exact ofSyntax?_object_eq_some_iff
  | array items =>
      rcases items with
        _ | ⟨first, _ | ⟨second, _ | ⟨third, _ | ⟨fourth, rest⟩⟩⟩⟩
      case cons.cons.cons.nil => exact ofSyntax?_array_eq_some_iff
      all_goals exact ⟨nofun, fun hGives => nomatch hGives.2⟩
  | null | bool | number | string =>
      exact ⟨nofun, fun hGives => nomatch hGives.2⟩

------------------------------------------------------------
-- Texts of Records
------------------------------------------------------------

/- The fields of a record with their texts; without path, there is none. -/
def texts
    (record : ErrorRecord) : List (String × String) :=
  (record.param.map fun path => ("param", path)).toList ++
    [("message", record.message), ("error_code", record.code.name)]

section Records

variable (record : ErrorRecord)

/- A record is written as an object of texts. -/
theorem toRaw_eq_ofTexts :
    record.toRaw = Raw.ofTexts record.texts := by
  rcases record with ⟨param, message, code⟩
  cases param <;> rfl

/- The JSON text of a record has the syntax of its fields. -/
theorem tree_write :
    JsonSyntax.read? record.toRaw.write =
      some (JsonSyntax.ofTexts record.texts) := by
  rw [toRaw_eq_ofTexts, read?_write_ofTexts]

/- The fields of a record give its path. -/
theorem givesParam_ofTexts :
    GivesParam (ofTexts record.texts) record.param := by
  rcases record with ⟨param, message, code⟩
  rw [ofTexts, givesParam_object_iff]
  cases param with
  | none => exact Or.inl ⟨rfl, rfl⟩
  | some path => exact Or.inr ⟨_, rfl, rfl⟩

/- The fields of a record give its message and its code. -/
theorem givesRest_ofTexts :
    GivesRest (ofTexts record.texts) record.message record.code := by
  rcases record with ⟨param, message, code⟩
  rw [ofTexts, givesRest_object_iff]
  have hCode : codeOf? (.string (some code.name)) = some code :=
    codeOf?_eq_some_iff.mpr (.text code)
  cases param <;>
    exact ⟨rfl, ⟨_, rfl, rfl⟩, _, rfl, hCode⟩

/- The fields of a record have one for the path exactly if it has a path. -/
theorem hasKey_ofTexts_iff :
    (ofTexts record.texts).HasKey "param" ↔ record.param ≠ none := by
  have hKey :
      (ofTexts record.texts).HasKey "param" ↔
        ¬ Lacks
          (record.texts.map fun field =>
            (some field.1, .string (some field.2))) "param" := by
    simp [HasKey, ofTexts]
  rw [hKey, ← field?_eq_some_none_iff]
  rcases record with ⟨param, message, code⟩
  cases param with
  | none => exact iff_of_false (not_not_intro rfl) (not_not_intro rfl)
  | some path => exact iff_of_true nofun nofun

/-
  A text stands for a record exactly if it is JSON that gives
  the parts of the record.
-/
theorem read?_eq_some_iff
    (text : String) :
    read? text = some record ↔
      ∃ tree, JsonSyntax.read? text = some tree ∧
        GivesParam tree record.param ∧
          GivesRest tree record.message record.code := by
  simp only [read?, Option.bind_eq_some_iff, ofSyntax?_eq_some_iff]

/- A record is read back from its text. -/
theorem read?_write :
    read? record.toRaw.write = some record := by
  rw [read?_eq_some_iff]
  exact
    ⟨_, record.tree_write, record.givesParam_ofTexts,
      record.givesRest_ofTexts⟩

/-
  How JSON text carries a record.  The text of the record stands
  for the record, and has the key of the path exactly if the
  record has a path.  Other texts stand for the record exactly
  if they give its path, or say that there is none, and its
  message and code.  An object in which the path is absent or
  null stands for the record without path, and this one is
  written without the key again.
-/
structure IsCarried : Prop where
  readsBack : read? record.toRaw.write = some record
  showsParam :
    ∃ tree, JsonSyntax.read? record.toRaw.write = some tree ∧
      (tree.HasKey "param" ↔ record.param ≠ none)
  reads :
    ∀ text,
      read? text = some record ↔
        ∃ tree, JsonSyntax.read? text = some tree ∧
          GivesParam tree record.param ∧
            GivesRest tree record.message record.code
  omitsParam :
    ∀ text fields, JsonSyntax.read? text = some (.object fields) →
      Lacks fields "param" ∨ HasOnly fields "param" .null →
        GivesRest (.object fields) record.message record.code →
          read? text = some { record with param := none } ∧
            ∃ tree,
              JsonSyntax.read?
                  { record with param := none }.toRaw.write =
                some tree ∧
              ¬ tree.HasKey "param"

/- JSON text carries every record, whatever its texts consist of. -/
theorem isCarried :
    record.IsCarried := by
  constructor
  case readsBack => exact record.read?_write
  case showsParam =>
    exact ⟨_, record.tree_write, record.hasKey_ofTexts_iff⟩
  case reads => exact record.read?_eq_some_iff
  case omitsParam =>
    intro text fields hText hParam hRest
    have hGives : GivesParam (.object fields) none := by
      rcases hParam with hLacks | hNull
      · exact .absent hLacks
      · exact .null hNull
    have hRead :=
      (read?_eq_some_iff { record with param := none } text).mpr
        ⟨_, hText, hGives, hRest⟩
    refine ⟨hRead, _, tree_write _, ?_⟩
    rw [hasKey_ofTexts_iff]
    exact not_not_intro rfl

end Records

/- Null is no path, and fields of other names are passed over. -/
example :
    read?
        ("\x7b\"error_code\":\"MISSING\",\"hint\":[]," ++
          "\"param\":null,\"message\":\"late\"\x7d") =
      some ⟨none, "late", .missing⟩ := by
  cbv

end ErrorRecord

end Intake
