import Intake.Proofs.References
import Intake.Proofs.SchemaPairs
import Intake.Validation.Outcome

/-
  This file shows that null reaches no coercer and no check of a
  parameter.  Schemas whose coercers and checks agree on
  everything but null have the same outcome for every input, so
  nothing that a coercer or a check does with null can be seen.

  Null is stopped in three places: in front of the coercer of a
  parameter, in front of the coercer of an item of a list, and
  in front of a check.

  Key definitions include:
    * `Coercer.SameOffNull`
    * `Check.SameOffNull`
    * `Schema.SameOffNull`

  The main statements are:
    * `Coercer.listOf_eq_of_sameOffNull`
    * `Parameter.admit_eq_of_sameOffNull`
    * `Schema.run_eq_of_sameOffNull`
    * `Engine.validate_of_sameOffNull`
-/

namespace Intake

------------------------------------------------------------
-- Agreement off Null
------------------------------------------------------------

/- Coercers that agree on all raw data but null. -/
def Coercer.SameOffNull
    (coerce other : Coercer) : Prop :=
  ∀ raw, raw.isNull = false → coerce raw = other raw

/- Checks that agree on all values but null. -/
def Check.SameOffNull
    (check other : Check Pattern) : Prop :=
  ∀ v, v.isNull = false → check.run v = other.run v

/-
  Tables that define the same types, by coercers that agree on
  all raw data but null.
-/
def TypeTable.SameOffNull
    (types others : TypeTable) : Prop :=
  ∀ name,
    Option.Rel Coercer.SameOffNull
      (types.scalar? name) (others.scalar? name)

/-
  Coercers and the checks of parameters may differ on null, and
  nothing else may differ.
-/
def Variation.onNull : Variation where
  types := TypeTable.SameOffNull
  param first second :=
    first.required = second.required ∧
      Option.Rel Check.SameOffNull first.check second.check
  globals first second := first = second

/-
  Schemas that are the same but for what their coercers and
  checks do with null, and the schemas below them as well.
-/
def Schema.SameOffNull
    (first second : Schema) : Prop :=
  first.Matches .onNull second

------------------------------------------------------------
-- Lists and Tables
------------------------------------------------------------

/- Null is an item without being coerced. -/
theorem Coercer.item_eq_of_sameOffNull
    {coerce other : Coercer}
    (hSame : coerce.SameOffNull other) :
    item coerce = item other := by
  funext raw
  cases raw with
  | null => rfl
  | bool | number | string | array | object => exact hSame _ rfl

/-
  Coercers that agree off null have the same coercer of lists,
  even on null.
-/
theorem Coercer.listOf_eq_of_sameOffNull
    {coerce other : Coercer}
    (hSame : coerce.SameOffNull other) :
    coerce.listOf = other.listOf := by
  have hItems : items coerce = items other := by
    funext index raws
    induction raws generalizing index with
    | nil => rfl
    | cons raw rest ih =>
        rw [items, items, ih, item_eq_of_sameOffNull hSame]
  funext raw
  cases raw with
  | array raws => rw [listOf, listOf, hItems]
  | null | bool | number | string | object => rfl

/- Every coercer agrees with itself off null. -/
theorem Coercer.sameOffNull_refl
    (coerce : Coercer) :
    coerce.SameOffNull coerce :=
  fun _ _ => rfl

/- Every table is the same as itself off null. -/
theorem TypeTable.sameOffNull_refl
    (types : TypeTable) :
    types.SameOffNull types := by
  intro name
  cases types.scalar? name with
  | none => exact .none
  | some coerce => exact .some coerce.sameOffNull_refl

/-
  Tables stay the same off null when a type is defined in both
  of them by coercers that agree off null.
-/
theorem TypeTable.SameOffNull.define
    {types others : TypeTable}
    (hSame : types.SameOffNull others)
    (name : String)
    {coerce other : Coercer}
    (hCoercers : coerce.SameOffNull other) :
    (types.define name coerce).SameOffNull (others.define name other) := by
  intro wanted
  rw [TypeTable.scalar?_define, TypeTable.scalar?_define]
  by_cases hHere : name = wanted
  · rw [if_pos hHere, if_pos hHere]
    exact .some hCoercers
  · rw [if_neg hHere, if_neg hHere]
    exact hSame wanted

/-
  Agreement off null passes on to the coercers of lists, so
  tables give such coercers under every number of arrays.
-/
theorem TypeTable.SameOffNull.matches
    {types others : TypeTable}
    (hSame : types.SameOffNull others) :
    types.Matches Coercer.SameOffNull others := by
  constructor
  case scalar =>
    intro name coerce other hFound hFound'
    have hCoercers := hSame name
    rw [hFound, hFound'] at hCoercers
    cases hCoercers with
    | some hCoercers => exact hCoercers
  case list =>
    intro coerce other hCoercers raw _
    rw [Coercer.listOf_eq_of_sameOffNull hCoercers]

------------------------------------------------------------
-- Runs
------------------------------------------------------------

/- Checks that agree off null admit the same values. -/
theorem Parameter.admit_eq_of_sameOffNull
    {param other : Parameter Schema}
    (hChecks : Option.Rel Check.SameOffNull param.check other.check) :
    param.admit = other.admit := by
  funext v
  unfold Parameter.admit
  generalize param.check = check at hChecks ⊢
  generalize other.check = check' at hChecks ⊢
  cases hChecks with
  | none => rfl
  | @some first second hSame =>
      cases hNull : v.isNull with
      | true => rfl
      | false =>
          have hRun := hSame v hNull
          simp only [hRun]

/-
  Data that is not null is coerced to the same result, if the
  schemas below run in the same way.
-/
theorem Resolved.coerce_eq_of_sameOffNull
    {limit depth : Nat}
    {first second : Resolved Schema}
    (hMatches :
      first.Matches Coercer.SameOffNull
        (fun schema other =>
          schema.runBelow limit depth = other.runBelow limit depth)
        second)
    {raw : Raw}
    (hRaw : raw.isNull = false) :
    first.coerce limit depth raw = second.coerce limit depth raw := by
  cases hMatches with
  | coerced coercers =>
      rw [Resolved.coerce, Resolved.coerce, coercers raw hRaw]
  | nested schemas =>
      cases raw with
      | object fields =>
          have hRun := congrFun schemas fields
          unfold Schema.runBelow at hRun
          rw [Resolved.coerce, Resolved.coerce, hRun]
      | null | bool | number | string | array =>
          simp only [Resolved.coerce]
  | nestedList schemas =>
      cases raw with
      | array items =>
          unfold Schema.runBelow at schemas
          rw [Resolved.coerce, Resolved.coerce, schemas]
      | null | bool | number | string | object =>
          simp only [Resolved.coerce]

/-
  Schemas that are the same off null run in the same way.  The
  induction is on the tree of the first schema; the parameters
  have the same effective data, and it is coerced only if it is
  not null.
-/
theorem Schema.run_eq_of_sameOffNull
    {first second : Schema}
    (hFirst : first.Built)
    (hSecond : second.Built)
    (hSame : first.SameOffNull second)
    (limit depth : Nat)
    (input : Input) :
    first.run limit depth input = second.run limit depth input := by
  induction first using Schema.induction
    generalizing second depth input with
  | step first ih =>
      cases hSame with
      | intro name keyPolicy types globals params =>
      apply Schema.run_congr ?_ globals
      apply forall₂_imp_of_mem params
      intro param hParam other hOther hMatches
      have hResolved :
          param.resolved.Matches Coercer.SameOffNull
            (fun below below' =>
              below.runBelow limit depth = below'.runBelow limit depth)
            other.resolved := by
        apply
          hMatches.resolved hFirst hSecond types.matches hParam hOther
        intro below below' hBelow hBuilt hBuilt' hSame
        funext bucket
        exact
          ih param hParam below hBelow hBuilt hBuilt' hSame (depth + 1)
            (.nested bucket)
      have hEffective := hMatches.effective_eq input
      cases hMatches with
      | intro name type source default rules =>
      rcases rules with ⟨hRequired, hChecks⟩
      refine ⟨name, ?_⟩
      rw [Parameter.resolve_eq, Parameter.resolve_eq, ← hEffective,
        hRequired, Parameter.admit_eq_of_sameOffNull hChecks]
      cases hNull : (param.effective input).isNull with
      | true => rfl
      | false =>
          have hCoerce :=
            Resolved.coerce_eq_of_sameOffNull hResolved hNull
          rw [hCoerce]

------------------------------------------------------------
-- Outcomes
------------------------------------------------------------

/-
  Schemas that are the same but for what their coercers and
  checks do with null have the same outcome for every input.
-/
theorem Engine.validate_of_sameOffNull
    (engine : Engine)
    (first second : Schema)
    (hFirst : first.Built)
    (hSecond : second.Built)
    (hSame : first.SameOffNull second)
    (input : Input) :
    engine.validate first input = engine.validate second input := by
  have hRun :=
    Schema.run_eq_of_sameOffNull hFirst hSecond hSame engine.maxDepth 0
      input
  unfold validate
  rw [hRun]

namespace Samples

/-
  Texts as tags, where the empty text is no tag, and a reply to
  null.
-/
def tagCoercer
    (reply : Except String Value) : Coercer
  | .null => reply
  | .string s => .ok (if s == "" then .null else .string s)
  | _ => .error "not a tag"

/- Tags that are not reserved pass, and there is a reply to null. -/
def tagTest
    (verdict : Except String Unit) : Value → Except String Unit
  | .null => verdict
  | .string s => if s == "reserved" then .error s else .ok ()
  | _ => .ok ()

/- A page with a topic, lists of tags, and maybe a color. -/
def pageDraft
    (reply : Except String Value)
    (verdict : Except String Unit) : SchemaDraft :=
  { SchemaDraft.ofName "page" with
    types := TypeTable.builtins.define "tag" (tagCoercer reply)
    params :=
      [{ ParameterDraft.ofType "topic" (.scalar "tag") with
          required := true
          checks := [.custom (tagTest verdict)] },
        ParameterDraft.ofType "tags" (.arrayOf (.arrayOf (.scalar "tag"))),
        { ParameterDraft.ofType "color" (.scalar "tag") with
          default := .fixed .null
          checks := [.custom (tagTest verdict)] }] }

/- A book of pages. -/
def bookDraft
    (reply : Except String Value)
    (verdict : Except String Unit) : SchemaDraft :=
  { SchemaDraft.ofName "book" with
    params :=
      [ParameterDraft.ofType "pages"
        (.arrayOfNested (pageDraft reply verdict).assembled)] }

/- Pages are built, whatever the replies to null are. -/
theorem page_built
    (reply : Except String Value)
    (verdict : Except String Unit) :
    (pageDraft reply verdict).assembled.Built := by
  have hBuild :
      (pageDraft reply verdict).build .empty =
        .ok (pageDraft reply verdict).assembled := by
    apply SchemaDraft.build_of_errors_eq_nil
    rfl
  apply Schema.Built.of_leaf hBuild
  simp [pageDraft, ParameterDraft.ofType, TypeExpr.schema?]

/- Books are built, whatever the replies to null are. -/
theorem book_built
    (reply : Except String Value)
    (verdict : Except String Unit) :
    (bookDraft reply verdict).assembled.Built := by
  have hBuild :
      (bookDraft reply verdict).build .empty =
        .ok (bookDraft reply verdict).assembled := by
    apply SchemaDraft.build_of_errors_eq_nil
    rfl
  have hRefers :
      ∀ declared ∈ (bookDraft reply verdict).params, ∀ child,
        declared.type.schema? = some child →
          child = (pageDraft reply verdict).assembled := by
    simp [bookDraft, ParameterDraft.ofType, TypeExpr.schema?,
      @eq_comm _ (pageDraft reply verdict).assembled]
  apply Schema.Built.intro hBuild
  intro declared hDeclared child hChild
  rw [hRefers declared hDeclared child hChild]
  exact page_built reply verdict

/- Coercers of tags agree off null. -/
theorem tagCoercer_sameOffNull
    (reply other : Except String Value) :
    (tagCoercer reply).SameOffNull (tagCoercer other) := by
  intro raw hRaw
  cases raw with
  | null => cases hRaw
  | bool | number | string | array | object => rfl

/- Checks of tags agree off null. -/
theorem tagTest_sameOffNull
    (verdict other : Except String Unit) :
    (Check.custom (tagTest verdict)).SameOffNull
      (.custom (tagTest other)) := by
  intro v hValue
  cases v with
  | null => cases hValue
  | string | bool | integer | float | decimal | date | timestamp
  | list | map => rfl

/- Books are the same off null, whatever the replies to null are. -/
theorem book_sameOffNull
    (reply reply' : Except String Value)
    (verdict verdict' : Except String Unit) :
    (bookDraft reply verdict).assembled.SameOffNull
      (bookDraft reply' verdict').assembled := by
  have hTests := tagTest_sameOffNull verdict verdict'
  have hTypes :
      (pageDraft reply verdict).types.SameOffNull
        (pageDraft reply' verdict').types :=
    TypeTable.builtins.sameOffNull_refl.define "tag"
      (tagCoercer_sameOffNull reply reply')
  have hPage :
      (pageDraft reply verdict).assembled.SameOffNull
        (pageDraft reply' verdict').assembled := by
    unfold Schema.SameOffNull
    refine .intro rfl rfl hTypes rfl (.cons ?_ (.cons ?_ (.cons ?_ .nil)))
    · exact .intro rfl (.scalar "tag") rfl rfl ⟨rfl, .some hTests⟩
    · exact
        .intro rfl (.arrayOf (.arrayOf (.scalar "tag"))) rfl rfl
          ⟨rfl, .none⟩
    · exact .intro rfl (.scalar "tag") rfl rfl ⟨rfl, .some hTests⟩
  unfold Schema.SameOffNull
  refine
    .intro rfl rfl TypeTable.builtins.sameOffNull_refl rfl
      (.cons ?_ .nil)
  exact .intro rfl (.arrayOfNested hPage) rfl rfl ⟨rfl, .none⟩

/- A book in which null as a tag is a tag as well. -/
def mildBook : Schema :=
  (bookDraft (.ok (.string "none")) (.ok ())).assembled

/- A book in which null as a tag is an error. -/
def harshBook : Schema :=
  (bookDraft (.error "null") (.error "null")).assembled

/-
  Two pages.  The topic of the second one is coerced to null,
  and so is one of its tags; two more are null at once.
-/
def taggedBook : Input :=
  .ofAuto
    [("pages",
        .array
          [.object [("topic", .string "a")],
            .object
              [("topic", .string ""),
                ("tags",
                  .array
                    [.array [.null, .string "b", .string ""], .null])]])]

/- The values of the tagged book. -/
def bookFields : Params :=
  [("pages",
      .list
        [.map [("topic", .string "a"), ("tags", .null), ("color", .null)],
          .map
            [("topic", .null),
              ("tags",
                .list [.list [.null, .string "b", .null], .null]),
              ("color", .null)]])]

end Samples

/-
  The tagged book is valid even if null as a tag is an error,
  and has the same values as if it were none.
-/
theorem Engine.validate_harshBook :
    Samples.mildBook.Built ∧
      Samples.harshBook.Built ∧
      Samples.mildBook.SameOffNull Samples.harshBook ∧
      Engine.standard.validate Samples.harshBook Samples.taggedBook =
        .valid Samples.bookFields ∧
      Engine.standard.validate Samples.mildBook Samples.taggedBook =
        Engine.standard.validate Samples.harshBook Samples.taggedBook :=
  ⟨Samples.book_built _ _, Samples.book_built _ _,
    Samples.book_sameOffNull _ _ _ _, rfl,
    Engine.validate_of_sameOffNull .standard _ _
      (Samples.book_built _ _) (Samples.book_built _ _)
      (Samples.book_sameOffNull _ _ _ _) _⟩

end Intake
