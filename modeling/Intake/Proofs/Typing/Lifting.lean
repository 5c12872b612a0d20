import Intake.Proofs.Coercion
import Intake.Proofs.Typing.Resolution

/-
  This file shows how the coercer of nested lists follows from
  that of their items.

  Data is looked at along paths of indices.  At a level above
  the items there may be arrays and null, at the level of the
  items whatever the coercer of items takes, and null.  The
  first path at which data is of another kind, in the order of
  dictionaries, is the one that is reported, index by index.

  Key definitions include:
    * `Raw.at?`
    * `Value.at?`
    * `Coercer.FailsAt`
    * `Coercer.FirstFailsAt`
    * `Coercer.LiftedTo`
    * `Coercer.Lifts`

  The main statements are:
    * `Coercer.items_eq_error_iff`
    * `Coercer.liftedTo_of_item`
    * `Coercer.exists_firstFailsAt_of_item`
    * `Coercer.nestedListOf_lifts`
    * `Coercer.exists_lifts_of_scalar`
-/

namespace Intake

------------------------------------------------------------
-- Index Paths
------------------------------------------------------------

/- The data that a path of indices leads to through arrays. -/
def Raw.at? : List Nat → Raw → Option Raw
  | [], raw => some raw
  | index :: path, .array items => items[index]?.bind (Raw.at? path)
  | _ :: _, _ => none

/- The value that a path of indices leads to through lists. -/
def Value.at? : List Nat → Value → Option Value
  | [], v => some v
  | index :: path, .list items => items[index]?.bind (Value.at? path)
  | _ :: _, _ => none

/- The reason of an item, with the indices of its path in front. -/
def elementReasons
    (path : List Nat)
    (reason : String) : String :=
  path.foldr elementReason reason

/- Only the empty path leads through data that is no array. -/
theorem Raw.at?_eq_some_of_not_array
    {raw found : Raw}
    {path : List Nat}
    (hOther : ∀ items, raw ≠ .array items)
    (hFound : Raw.at? path raw = some found) :
    path = [] ∧ found = raw := by
  cases path with
  | nil =>
      cases hFound
      exact ⟨rfl, rfl⟩
  | cons index path =>
      cases raw with
      | array items => exact absurd rfl (hOther items)
      | null | bool | number | string | object => cases hFound

/- A path leads through an array by way of the item at its first index. -/
theorem Raw.at?_cons_eq_some_iff
    (items : List Raw)
    (index : Nat)
    (path : List Nat)
    (found : Raw) :
    Raw.at? (index :: path) (.array items) = some found ↔
      ∃ item, items[index]? = some item ∧ Raw.at? path item = some found := by
  rw [Raw.at?, Option.bind_eq_some_iff]

namespace Coercer

variable {coerce : Coercer}
variable {n : Nat}
variable {raw : Raw}
variable {path : List Nat}
variable {reason : String}

------------------------------------------------------------
-- Failures
------------------------------------------------------------

/-
  Data under nested lists fails at a path: there is something
  else than an array above the level of the items, or an item
  that its coercer refuses.  Null does not fail.
-/
inductive FailsAt
    (coerce : Coercer)
    (n : Nat)
    (raw : Raw) : List Nat → String → Prop where
  | notArray
      {path : List Nat}
      {found : Raw}
      (there : Raw.at? path raw = some found)
      (above : path.length < n)
      (notNull : found.isNull = false)
      (other : ∀ items, found ≠ .array items) :
      FailsAt coerce n raw path "not an array"
  | refused
      {path : List Nat}
      {found : Raw}
      {reason : String}
      (there : Raw.at? path raw = some found)
      (level : path.length = n)
      (notNull : found.isNull = false)
      (refused : coerce found = .error reason) :
      FailsAt coerce n raw path reason

/- Of the paths at which data fails, this one is the first. -/
structure FirstFailsAt
    (coerce : Coercer)
    (n : Nat)
    (raw : Raw)
    (path : List Nat)
    (reason : String) : Prop where
  fails : coerce.FailsAt n raw path reason
  first :
    ∀ other otherReason, coerce.FailsAt n raw other otherReason →
      path = other ∨ List.Lex (· < ·) path other

/- Null fails nowhere. -/
theorem not_failsAt_null :
    ¬ coerce.FailsAt n .null path reason := by
  have hOther : ∀ items, Raw.null ≠ .array items := nofun
  intro hFails
  cases hFails with
  | notArray there _ notNull _ | refused there _ notNull _ =>
      rcases Raw.at?_eq_some_of_not_array hOther there with ⟨_, rfl⟩
      cases notNull

/- An item fails if its coercer refuses it. -/
theorem failsAt_zero_iff
    (hRaw : raw.isNull = false) :
    coerce.FailsAt 0 raw path reason ↔
      path = [] ∧ coerce raw = .error reason := by
  constructor
  · intro hFails
    cases hFails with
    | notArray _ above _ _ => cases above
    | refused there level _ refused =>
        rw [List.length_eq_zero_iff] at level
        subst level
        cases there
        exact ⟨rfl, refused⟩
  · rintro ⟨rfl, hRefused⟩
    exact .refused rfl rfl hRaw hRefused

/- What is no array fails as a whole above the level of the items. -/
theorem failsAt_of_not_array_iff
    (hRaw : raw.isNull = false)
    (hOther : ∀ items, raw ≠ .array items) :
    coerce.FailsAt (n + 1) raw path reason ↔
      path = [] ∧ reason = "not an array" := by
  constructor
  · intro hFails
    cases hFails with
    | notArray there _ _ _ =>
        exact ⟨(Raw.at?_eq_some_of_not_array hOther there).1, rfl⟩
    | refused there level _ _ =>
        rw [(Raw.at?_eq_some_of_not_array hOther there).1] at level
        cases level
  · rintro ⟨rfl, rfl⟩
    exact .notArray rfl (Nat.succ_pos n) hRaw hOther

/- An array fails where one of its items fails. -/
theorem failsAt_array_iff
    (items : List Raw) :
    coerce.FailsAt (n + 1) (.array items) path reason ↔
      ∃ index rest item, path = index :: rest ∧
        items[index]? = some item ∧ coerce.FailsAt n item rest reason := by
  constructor
  · intro hFails
    cases hFails with
    | notArray there above notNull other =>
        cases path with
        | nil =>
            cases there
            exact absurd rfl (other items)
        | cons index rest =>
            rcases (Raw.at?_cons_eq_some_iff _ _ _ _).mp there with
              ⟨item, hItem, hFound⟩
            exact
              ⟨index, rest, item, rfl, hItem,
                .notArray hFound (Nat.lt_of_succ_lt_succ above) notNull
                  other⟩
    | refused there level notNull refused =>
        cases path with
        | nil => cases level
        | cons index rest =>
            rcases (Raw.at?_cons_eq_some_iff _ _ _ _).mp there with
              ⟨item, hItem, hFound⟩
            exact
              ⟨index, rest, item, rfl, hItem,
                .refused hFound (Nat.succ.inj level) notNull refused⟩
  · rintro ⟨index, rest, item, rfl, hItem, hFails⟩
    cases hFails with
    | notArray there above notNull other =>
        exact
          .notArray
            ((Raw.at?_cons_eq_some_iff _ _ _ _).mpr ⟨item, hItem, there⟩)
            (Nat.succ_lt_succ above) notNull other
    | refused there level notNull refused =>
        exact
          .refused
            ((Raw.at?_cons_eq_some_iff _ _ _ _).mpr ⟨item, hItem, there⟩)
            (congrArg (· + 1) level) notNull refused

/- A path has one reason to fail. -/
theorem FailsAt.reason_eq
    {other : String}
    (hFails : coerce.FailsAt n raw path reason)
    (hOther : coerce.FailsAt n raw path other) :
    reason = other := by
  cases hFails with
  | notArray there above _ _ =>
      cases hOther with
      | notArray => rfl
      | refused _ level _ _ => omega
  | refused there level _ refused =>
      cases hOther with
      | notArray _ above _ _ => omega
      | refused otherThere _ _ otherRefused =>
          rw [there] at otherThere
          cases otherThere
          rw [refused] at otherRefused
          cases otherRefused
          rfl

/- There is one first path at which data fails, with one reason. -/
theorem FirstFailsAt.unique
    {otherPath : List Nat}
    {otherReason : String}
    (hFirst : coerce.FirstFailsAt n raw path reason)
    (hOther : coerce.FirstFailsAt n raw otherPath otherReason) :
    path = otherPath ∧ reason = otherReason := by
  have hSame : path = otherPath := by
    rcases hFirst.first _ _ hOther.fails with hSame | hBefore
    · exact hSame
    · rcases hOther.first _ _ hFirst.fails with hSame | hAfter
      · exact hSame.symm
      · exact absurd hAfter (List.lt_asymm hBefore)
  subst hSame
  exact ⟨rfl, hFirst.fails.reason_eq hOther.fails⟩

------------------------------------------------------------
-- Lists That Are Refused
------------------------------------------------------------

/- An item is refused if its coercer refuses it; null never is. -/
theorem item_eq_error_iff
    (coerce : Coercer)
    (raw : Raw)
    (message : String) :
    item coerce raw = .error message ↔
      raw.isNull = false ∧ coerce raw = .error message := by
  cases raw <;> simp [item, Raw.isNull]

/- A coercer of lists refuses what is no array, or an item. -/
theorem listOf_eq_error
    {message : String}
    (hRaw : raw.isNull = false)
    (hRefused : coerce.listOf raw = .error message) :
    ((∀ items, raw ≠ .array items) ∧ message = "not an array") ∨
      ∃ raws, raw = .array raws ∧ items coerce 0 raws = .error message := by
  cases raw with
  | null => cases hRaw
  | array raws =>
      refine Or.inr ⟨raws, rfl, ?_⟩
      rw [listOf] at hRefused
      cases hItems : items coerce 0 raws with
      | error reason =>
          rw [hItems] at hRefused
          cases hRefused
          rfl
      | ok vs =>
          rw [hItems] at hRefused
          cases hRefused
  | bool | number | string | object =>
      cases hRefused
      refine Or.inl ⟨?_, rfl⟩
      intro items hSame
      cases hSame

/-
  Items are refused exactly if one of them is and all before it
  are coerced.
-/
theorem items_eq_error_iff
    (coerce : Coercer)
    (index : Nat)
    (raws : List Raw)
    (message : String) :
    items coerce index raws = .error message ↔
      ∃ before raw after, raws = before ++ raw :: after ∧
        (∀ other ∈ before, ∃ v, item coerce other = .ok v) ∧
          ∃ reason, item coerce raw = .error reason ∧
            message = elementReason (index + before.length) reason := by
  induction raws generalizing index with
  | nil => simp [items]
  | cons raw rest ih =>
      rw [exists_append_cons_iff _ fun place found =>
        ∃ reason, item coerce found = .error reason ∧
          message = elementReason (index + place) reason]
      cases hItem : item coerce raw with
      | error reason => simp [items, hItem, @eq_comm _ message]
      | ok v =>
          have hRest :
              items coerce index (raw :: rest) = .error message ↔
                items coerce (index + 1) rest = .error message := by
            rw [items, hItem]
            cases items coerce (index + 1) rest <;> simp
          rw [hRest, ih]
          simp [Nat.add_assoc, Nat.add_comm 1]

------------------------------------------------------------
-- Lifting through Every Level
------------------------------------------------------------

/-
  A value is what data under nested lists is lifted to: null
  stays null at every level, an array becomes a list of the
  same length, and an item becomes what its coercer gives.
-/
structure LiftedTo
    (coerce : Coercer)
    (n : Nat)
    (raw : Raw)
    (v : Value) : Prop where
  nulls :
    ∀ path, path.length ≤ n → Raw.at? path raw = some .null →
      Value.at? path v = some .null
  arrays :
    ∀ path raws, path.length < n → Raw.at? path raw = some (.array raws) →
      ∃ vs, Value.at? path v = some (.list vs) ∧ vs.length = raws.length
  items :
    ∀ path found, path.length = n → found.isNull = false →
      Raw.at? path raw = some found →
        ∃ w, coerce found = .ok w ∧ Value.at? path v = some w

/- Null is lifted to null. -/
theorem liftedTo_null
    (coerce : Coercer)
    (n : Nat) :
    coerce.LiftedTo n .null .null := by
  have hOther : ∀ items, Raw.null ≠ .array items := nofun
  constructor
  case nulls =>
    intro path _ hNull
    rcases Raw.at?_eq_some_of_not_array hOther hNull with ⟨rfl, _⟩
    rfl
  case arrays =>
    intro path raws _ hArray
    rcases Raw.at?_eq_some_of_not_array hOther hArray with ⟨_, hSame⟩
    cases hSame
  case items =>
    intro path found _ hSome hFound
    rcases Raw.at?_eq_some_of_not_array hOther hFound with ⟨_, rfl⟩
    cases hSome

/- An item is lifted to what its coercer gives. -/
theorem liftedTo_zero
    {v : Value}
    (hRaw : raw.isNull = false)
    (hCoerce : coerce raw = .ok v) :
    coerce.LiftedTo 0 raw v := by
  constructor
  case nulls =>
    intro path hLength hNull
    rw [List.length_eq_zero_iff.mp (Nat.le_zero.mp hLength)] at hNull
    cases hNull
    cases hRaw
  case arrays =>
    intro path raws hLength
    cases hLength
  case items =>
    intro path found hLength _ hFound
    rw [List.length_eq_zero_iff.mp hLength] at hFound ⊢
    cases hFound
    exact ⟨v, hCoerce, rfl⟩

/- An array is lifted to the list of what its items are lifted to. -/
theorem liftedTo_array
    {raws : List Raw}
    {vs : List Value}
    (hItems : List.Forall₂ (coerce.LiftedTo n) raws vs) :
    coerce.LiftedTo (n + 1) (.array raws) (.list vs) := by
  have hThere :
      ∀ index path found,
        Raw.at? (index :: path) (.array raws) = some found →
          ∃ item w, Raw.at? path item = some found ∧
            coerce.LiftedTo n item w ∧
            Value.at? (index :: path) (.list vs) = Value.at? path w := by
    intro index path found hFound
    rcases (Raw.at?_cons_eq_some_iff _ _ _ _).mp hFound with
      ⟨item, hItem, hInside⟩
    rcases exists_getElem?_of_forall₂ hItems hItem with
      ⟨w, hValue, hLifted⟩
    refine ⟨item, w, hInside, hLifted, ?_⟩
    rw [Value.at?, hValue, Option.bind_some]
  constructor
  case nulls =>
    intro path hLength hNull
    cases path with
    | nil => cases hNull
    | cons index path =>
        rcases hThere index path _ hNull with
          ⟨item, w, hInside, hLifted, hValue⟩
        rw [hValue]
        exact hLifted.nulls path (Nat.le_of_succ_le_succ hLength) hInside
  case arrays =>
    intro path inner hLength hArray
    cases path with
    | nil =>
        cases hArray
        exact ⟨vs, rfl, hItems.length_eq.symm⟩
    | cons index path =>
        rcases hThere index path _ hArray with
          ⟨item, w, hInside, hLifted, hValue⟩
        rw [hValue]
        exact
          hLifted.arrays path inner (Nat.lt_of_succ_lt_succ hLength) hInside
  case items =>
    intro path found hLength hSome hFound
    cases path with
    | nil => cases hLength
    | cons index path =>
        rcases hThere index path _ hFound with
          ⟨item, w, hInside, hLifted, hValue⟩
        rw [hValue]
        exact hLifted.items path found (Nat.succ.inj hLength) hSome hInside

/-
  What the coercer of nested lists gives is what the data is
  lifted to.
-/
theorem liftedTo_of_item
    {v : Value}
    (hItem : item (coerce.nestedListOf n) raw = .ok v) :
    coerce.LiftedTo n raw v := by
  induction n generalizing raw v with
  | zero =>
      rcases (item_eq_ok_iff _ raw v).mp hItem with
        ⟨rfl, rfl⟩ | ⟨hRaw, hCoerce⟩
      · exact liftedTo_null coerce 0
      · exact liftedTo_zero hRaw hCoerce
  | succ n ih =>
      rcases (item_eq_ok_iff _ raw v).mp hItem with
        ⟨rfl, rfl⟩ | ⟨hRaw, hCoerce⟩
      · exact liftedTo_null coerce (n + 1)
      · rcases (listOf_eq_ok_iff _ raw v hRaw).mp hCoerce with
          ⟨raws, vs, rfl, hItems, rfl⟩
        exact liftedTo_array (hItems.imp fun _ _ => ih)

/- Data for which the coercer of nested lists gives a value fails nowhere. -/
theorem not_failsAt_of_item
    {v : Value}
    (hItem : item (coerce.nestedListOf n) raw = .ok v) :
    ¬ coerce.FailsAt n raw path reason := by
  induction n generalizing raw v path with
  | zero =>
      rcases (item_eq_ok_iff _ raw v).mp hItem with
        ⟨rfl, rfl⟩ | ⟨hRaw, hCoerce⟩
      · exact not_failsAt_null
      · rw [failsAt_zero_iff hRaw]
        rintro ⟨_, hRefused⟩
        have hValue : coerce raw = .ok v := hCoerce
        rw [hRefused] at hValue
        cases hValue
  | succ n ih =>
      rcases (item_eq_ok_iff _ raw v).mp hItem with
        ⟨rfl, rfl⟩ | ⟨hRaw, hCoerce⟩
      · exact not_failsAt_null
      · rcases (listOf_eq_ok_iff _ raw v hRaw).mp hCoerce with
          ⟨raws, vs, rfl, hItems, rfl⟩
        rw [failsAt_array_iff]
        rintro ⟨index, rest, found, _, hFound, hFails⟩
        rcases exists_getElem?_of_forall₂ hItems hFound with
          ⟨w, _, hInside⟩
        exact ih hInside hFails

/- The empty path is the first one of all. -/
theorem firstFailsAt_nil
    (hFails : coerce.FailsAt n raw [] reason) :
    coerce.FirstFailsAt n raw [] reason := by
  refine ⟨hFails, ?_⟩
  intro other _ _
  cases other with
  | nil => exact Or.inl rfl
  | cons index rest => exact Or.inr .nil

/-
  An array first fails at the first path of the first item that
  fails at all.
-/
theorem firstFailsAt_array
    {before after : List Raw}
    {found : Raw}
    (hBefore :
      ∀ other ∈ before, ∀ otherPath otherReason,
        ¬ coerce.FailsAt n other otherPath otherReason)
    (hFound : coerce.FirstFailsAt n found path reason) :
    coerce.FirstFailsAt (n + 1) (.array (before ++ found :: after))
      (before.length :: path) reason := by
  constructor
  case fails =>
    rw [failsAt_array_iff]
    refine ⟨before.length, path, found, rfl, ?_, hFound.fails⟩
    rw [List.getElem?_append_right (Nat.le_refl _), Nat.sub_self]
    rfl
  case first =>
    intro other otherReason hOther
    rcases (failsAt_array_iff _).mp hOther with
      ⟨index, rest, item, rfl, hItem, hFails⟩
    rcases Nat.lt_trichotomy index before.length with hLess | rfl | hMore
    · rw [List.getElem?_append_left hLess] at hItem
      exact
        absurd hFails
          (hBefore item (List.mem_of_getElem? hItem) rest otherReason)
    · rw [List.getElem?_append_right (Nat.le_refl _), Nat.sub_self]
        at hItem
      cases hItem
      rcases hFound.first rest otherReason hFails with rfl | hBefore
      · exact Or.inl rfl
      · exact Or.inr (.cons hBefore)
    · exact Or.inr (.rel hMore)

/-
  What the coercer of nested lists refuses has a first path at
  which it fails, and this is the one that is reported.
-/
theorem exists_firstFailsAt_of_item
    {message : String}
    (hItem : item (coerce.nestedListOf n) raw = .error message) :
    ∃ path reason, coerce.FirstFailsAt n raw path reason ∧
      message = elementReasons path reason := by
  induction n generalizing raw message with
  | zero =>
      rcases (item_eq_error_iff _ raw message).mp hItem with
        ⟨hRaw, hRefused⟩
      exact
        ⟨[], message,
          firstFailsAt_nil ((failsAt_zero_iff hRaw).mpr ⟨rfl, hRefused⟩),
          rfl⟩
  | succ n ih =>
      rcases (item_eq_error_iff _ raw message).mp hItem with
        ⟨hRaw, hRefused⟩
      rcases listOf_eq_error hRaw hRefused with
        ⟨hOther, rfl⟩ | ⟨raws, rfl, hItems⟩
      · exact
          ⟨[], _,
            firstFailsAt_nil
              ((failsAt_of_not_array_iff hRaw hOther).mpr ⟨rfl, rfl⟩),
            rfl⟩
      · rcases (items_eq_error_iff _ _ _ _).mp hItems with
          ⟨before, found, after, rfl, hBefore, inner, hFound, rfl⟩
        rcases ih hFound with ⟨path, reason, hFirst, rfl⟩
        refine ⟨before.length :: path, reason, ?_, ?_⟩
        · apply firstFailsAt_array _ hFirst
          intro other hMem otherPath otherReason
          rcases hBefore other hMem with ⟨w, hValue⟩
          exact not_failsAt_of_item hValue
        · rw [Nat.zero_add]
          rfl

/- Lists take null as items do. -/
theorem item_listOf
    (coerce : Coercer)
    (raw : Raw) :
    item coerce.listOf raw = coerce.listOf raw := by
  cases raw <;> rfl

/-
  A coercer lifts another through nested lists.  It gives a
  value exactly if all data above the level of the items is
  null or an array and all items are null or taken by their
  coercer, and the value is what the data is lifted to.
  Otherwise it gives the reason at the first path that fails,
  behind the indices of this path.  What is no array at all
  has this as its only reason.
-/
structure Lifts
    (lifted coerce : Coercer)
    (n : Nat) : Prop where
  accepts :
    ∀ raw, (∃ v, lifted raw = .ok v) ↔
      (∀ path found, path.length < n → Raw.at? path raw = some found →
        found.isNull = false → ∃ items, found = .array items) ∧
      (∀ path found, path.length = n → Raw.at? path raw = some found →
        found.isNull = false → ∃ w, coerce found = .ok w)
  gives :
    ∀ raw v, lifted raw = .ok v → coerce.LiftedTo n raw v
  refuses :
    ∀ raw message, lifted raw = .error message ↔
      ∃ path reason, coerce.FirstFailsAt n raw path reason ∧
        message = elementReasons path reason
  outermost :
    ∀ raw, raw.isNull = false → (∀ items, raw ≠ .array items) →
      lifted raw = .error "not an array"

/- Data fails nowhere exactly if it is right at every level. -/
theorem forall_not_failsAt_iff :
    (∀ path reason, ¬ coerce.FailsAt n raw path reason) ↔
      (∀ path found, path.length < n → Raw.at? path raw = some found →
        found.isNull = false → ∃ items, found = .array items) ∧
      (∀ path found, path.length = n → Raw.at? path raw = some found →
        found.isNull = false → ∃ w, coerce found = .ok w) := by
  constructor
  · intro hNone
    constructor
    · intro path found hAbove hThere hSome
      by_contra hOther
      exact
        hNone path _
          (.notArray hThere hAbove hSome fun items hSame =>
            hOther ⟨items, hSame⟩)
    · intro path found hLevel hThere hSome
      cases hCoerce : coerce found with
      | ok w => exact ⟨w, rfl⟩
      | error reason =>
          exact absurd (.refused hThere hLevel hSome hCoerce)
            (hNone path reason)
  · rintro ⟨hArrays, hItems⟩ path reason hFails
    cases hFails with
    | notArray there above notNull other =>
        rcases hArrays path _ above there notNull with ⟨items, rfl⟩
        exact other items rfl
    | refused there level notNull refused =>
        rcases hItems path _ level there notNull with ⟨w, hValue⟩
        rw [refused] at hValue
        cases hValue

/- The coercer of nested lists lifts that of their items. -/
theorem nestedListOf_lifts
    (coerce : Coercer)
    (n : Nat) :
    (coerce.nestedListOf (n + 1)).Lifts coerce (n + 1) := by
  have hItem :
      ∀ raw, item (coerce.nestedListOf (n + 1)) raw =
        coerce.nestedListOf (n + 1) raw :=
    item_listOf (coerce.nestedListOf n)
  have hRefuses :
      ∀ raw message, coerce.nestedListOf (n + 1) raw = .error message ↔
        ∃ path reason, coerce.FirstFailsAt (n + 1) raw path reason ∧
          message = elementReasons path reason := by
    intro raw message
    constructor
    · intro hRefused
      rw [← hItem] at hRefused
      exact exists_firstFailsAt_of_item hRefused
    · rintro ⟨path, reason, hFirst, rfl⟩
      cases hResult : coerce.nestedListOf (n + 1) raw with
      | ok v =>
          rw [← hItem] at hResult
          exact absurd hFirst.fails (not_failsAt_of_item hResult)
      | error other =>
          rw [← hItem] at hResult
          rcases exists_firstFailsAt_of_item hResult with
            ⟨otherPath, otherReason, hOther, rfl⟩
          rcases hFirst.unique hOther with ⟨rfl, rfl⟩
          rfl
  constructor
  case accepts =>
    intro raw
    rw [← forall_not_failsAt_iff]
    constructor
    · rintro ⟨v, hValue⟩ path reason
      rw [← hItem] at hValue
      exact not_failsAt_of_item hValue
    · intro hNone
      cases hResult : coerce.nestedListOf (n + 1) raw with
      | ok v => exact ⟨v, rfl⟩
      | error message =>
          rcases (hRefuses raw message).mp hResult with
            ⟨path, reason, hFirst, _⟩
          exact absurd hFirst.fails (hNone path reason)
  case gives =>
    intro raw v hValue
    rw [← hItem] at hValue
    exact liftedTo_of_item hValue
  case refuses => exact hRefuses
  case outermost =>
    intro raw hRaw hOther
    rw [hRefuses]
    exact
      ⟨[], _,
        firstFailsAt_nil
          ((failsAt_of_not_array_iff hRaw hOther).mpr ⟨rfl, rfl⟩),
        rfl⟩

/-
  A scalar type of a table resolves under arrays to a coercer
  that lifts its own, whatever that one does.
-/
theorem exists_lifts_of_scalar
    (types : TypeTable)
    {name : String}
    {coerce : Coercer}
    (hFound : types.scalar? name = some coerce)
    {n : Nat}
    (hArrays : 0 < n) :
    ∃ lifted,
      ((TypeExpr.scalar name).underArrays n).resolve types =
          .ok (.coerced ((TypeExpr.scalar name).underArrays n).write lifted) ∧
        lifted.Lifts coerce n := by
  rcases Nat.exists_eq_add_of_le' hArrays with ⟨m, rfl⟩
  exact
    ⟨coerce.nestedListOf (m + 1),
      TypeExpr.resolve_scalar_underArrays types hFound (m + 1),
      nestedListOf_lifts coerce m⟩

/-
  A grid of integers, one of which is no integer: the coercer of
  the grid reports its row and its column.
-/
theorem integer_grid_lifts :
    TypeTable.builtins.scalar? "integer" = some integer ∧ 0 < 2 ∧
      ∃ lifted,
        ((TypeExpr.scalar "integer").underArrays 2).resolve .builtins =
            .ok (.coerced "[[integer]]" lifted) ∧
          lifted.Lifts integer 2 ∧
          lifted
              (.array
                [.array [.string "1"], .array [.string "2", .string "x"]]) =
            .error
              "element at index 1: element at index 1: not an integer" := by
  have hFound :
      TypeTable.builtins.scalar? "integer" = some integer :=
    rfl
  refine ⟨hFound, by decide, ?_⟩
  rcases exists_lifts_of_scalar .builtins hFound (n := 2) (by decide) with
    ⟨lifted, hResolve, hLifts⟩
  refine ⟨lifted, hResolve, hLifts, ?_⟩
  have hGrid :
      ((TypeExpr.scalar "integer").underArrays 2).resolve .builtins =
        .ok (.coerced "[[integer]]" (nestedListOf integer 2)) :=
    rfl
  rw [hGrid] at hResolve
  cases hResolve
  rfl

end Coercer

end Intake
