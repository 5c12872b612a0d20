import Intake.Proofs.Building
import Intake.Proofs.Depth
import Mathlib.Data.List.Nodup

/-
  This file puts the parameters that a run resolves in a row.

  A run visits every declared parameter of every invocation
  that it reaches, each of them once.  The parameters of an
  invocation are visited in the order of their declarations,
  and those of the invocations that a parameter starts come
  before the parameter itself.  The events of the run follow
  the same order.

  Key definitions include:
    * `Invocation.entered`
    * `Visit`
    * `Visit.Before`
    * `Invocation.Visits`

  The main statements are:
    * `Invocation.trace_eq`
    * `Invocation.Enters.unique`
    * `Invocation.exists_visits`
-/

namespace Intake

------------------------------------------------------------
-- Objects That a Run Looks At
------------------------------------------------------------

/- Numbering items in a part of their own keeps the other part. -/
theorem map_snd_mapIdx
    {α β γ : Type}
    (number : Nat → γ)
    (change : α → β)
    (xs : List α) :
    (xs.mapIdx fun index x => (number index, change x)).map Prod.snd =
      xs.map change := by
  rw [List.mapIdx_eq_zipIdx_map, List.map_map]
  conv_rhs => rw [← List.zipIdx_map_fst 0 xs, List.map_map]
  rfl

/-
  The objects of an array that are validated: all up to the
  first element that fails or is no object.
-/
def objectsTried
    (validate : Bucket → Except (List ErrorRecord) Params) :
    List Raw → List Bucket
  | .object fields :: rest =>
      fields ::
        (if succeeded (validate fields) then objectsTried validate rest
        else [])
  | _ => []

/- The events of an array are those of the objects validated. -/
theorem traceElements_eq_flatMap
    (validate : Bucket → Except (List ErrorRecord) Params)
    (trace : Bucket → List Event)
    (items : List Raw) :
    traceElements validate trace items =
      (objectsTried validate items).flatMap trace := by
  induction items with
  | nil => rfl
  | cons item rest ih =>
      cases item with
      | object fields =>
          rw [traceElements, objectsTried, List.flatMap_cons, ih]
          split <;> rfl
      | null | bool | number | string | array => rfl

/-
  An object is validated exactly if all elements before it
  validate, and its index is that of its element.
-/
theorem getElem?_objectsTried_iff
    (validate : Bucket → Except (List ErrorRecord) Params)
    (items : List Raw)
    (index : Nat)
    (fields : Bucket) :
    (objectsTried validate items)[index]? = some fields ↔
      ∃ before item after, items = before ++ item :: after ∧
        (∀ other ∈ before, ∃ v, ElementValidates validate other v) ∧
          before.length = index ∧ item = .object fields := by
  induction items generalizing index with
  | nil => simp [objectsTried]
  | cons item rest ih =>
      rw [exists_append_cons_iff _ fun place found =>
        place = index ∧ found = Raw.object fields]
      cases index with
      | zero => cases item <;> simp [objectsTried]
      | succ index =>
          simp only [Nat.add_right_cancel_iff, ← ih index]
          cases item with
          | object first =>
              cases hValidate : validate first <;>
                simp [objectsTried, succeeded, ElementValidates,
                  hValidate]
          | null | bool | number | string | array =>
              simp [objectsTried, ElementValidates]

/- Parameters of a built schema with the same name are the same. -/
theorem Schema.Built.eq_of_name_eq
    {schema : Schema}
    (hBuilt : schema.Built)
    {param other : Parameter Schema}
    (hParam : param ∈ schema.params)
    (hOther : other ∈ schema.params)
    (hName : param.name = other.name) :
    param = other :=
  List.inj_on_of_nodup_map hBuilt.nodup_names hParam hOther hName

namespace Invocation

variable {limit : Nat}
variable {call next other : Invocation}
variable {segment : Segment}
variable {param : Parameter Schema}

------------------------------------------------------------
-- Invocations That a Parameter Starts
------------------------------------------------------------

/-
  The invocations that a parameter starts, in order, with the
  segments that lead to them.
-/
def entered
    (limit : Nat)
    (call : Invocation)
    (param : Parameter Schema) : List (Segment × Invocation) :=
  match param.resolved, param.effective call.input with
  | .nested child, .object fields =>
      if call.depth + 1 ≤ limit then
        [(⟨param.name, none⟩,
          ⟨call.depth + 1, child, .nested fields⟩)]
      else []
  | .nestedList child, .array items =>
      if call.depth + 1 ≤ limit then
        (objectsTried (child.runBelow limit call.depth) items).mapIdx
          fun index fields =>
            (⟨param.name, some index⟩,
              ⟨call.depth + 1, child, .nested fields⟩)
      else []
  | _, _ => []

/- A parameter for one object starts at most one invocation. -/
theorem mem_entered_nested_iff
    {child : Schema}
    (hRefers : param.resolved = .nested child)
    (entry : Segment × Invocation) :
    entry ∈ call.entered limit param ↔
      ∃ fields, param.effective call.input = .object fields ∧
        call.depth + 1 ≤ limit ∧
          entry =
            (⟨param.name, none⟩,
              ⟨call.depth + 1, child, .nested fields⟩) := by
  unfold entered
  rw [hRefers]
  cases param.effective call.input with
  | object fields =>
      by_cases hLevel : call.depth + 1 ≤ limit <;> simp [hLevel]
  | null | bool | number | string | array => simp

/-
  A parameter for an array starts an invocation for an element
  as long as all elements before it validate.
-/
theorem getElem?_entered_nestedList_iff
    {child : Schema}
    (hRefers : param.resolved = .nestedList child)
    (index : Nat)
    (entry : Segment × Invocation) :
    (call.entered limit param)[index]? = some entry ↔
      ∃ before fields after,
        param.effective call.input =
            .array (before ++ .object fields :: after) ∧
          call.depth + 1 ≤ limit ∧
            (∀ item ∈ before, ∃ v,
              ElementValidates (child.runBelow limit call.depth)
                item v) ∧
              before.length = index ∧
                entry =
                  (⟨param.name, some index⟩,
                    ⟨call.depth + 1, child, .nested fields⟩) := by
  unfold entered
  rw [hRefers]
  cases param.effective call.input with
  | array items =>
      by_cases hLevel : call.depth + 1 ≤ limit
      · simp only [hLevel, if_true, List.getElem?_mapIdx,
          Option.map_eq_some_iff, getElem?_objectsTried_iff, true_and,
          Raw.array.injEq]
        constructor
        · rintro
            ⟨fields, ⟨before, item, after, hItems, hFirst, hIndex, rfl⟩,
              hEntry⟩
          exact
            ⟨before, fields, after, hItems, hFirst, hIndex,
              hEntry.symm⟩
        · rintro ⟨before, fields, after, hItems, hFirst, hIndex, hEntry⟩
          exact
            ⟨fields, ⟨before, _, after, hItems, hFirst, hIndex, rfl⟩,
              hEntry.symm⟩
      · simp [hLevel]
  | null | bool | number | string | object => simp

/-
  The segment of an invocation has the name of the parameter
  that starts it, and tells its place among those that the
  parameter starts.
-/
theorem segment_of_getElem?_entered
    {index : Nat}
    {entry : Segment × Invocation}
    (hEntry : (call.entered limit param)[index]? = some entry) :
    entry.1.name = param.name ∧ entry.1.index.getD 0 = index := by
  have hMem := List.mem_of_getElem? hEntry
  cases hRefers : param.resolved with
  | coerced name coerce => simp [entered, hRefers] at hMem
  | nested child =>
      rcases (mem_entered_nested_iff hRefers entry).mp hMem with
        ⟨fields, hShape, hLevel, rfl⟩
      have hSingle :
          call.entered limit param =
            [(⟨param.name, none⟩,
              ⟨call.depth + 1, child, .nested fields⟩)] := by
        simp [entered, hRefers, hShape, hLevel]
      have hIndex := (List.getElem?_eq_some_iff.mp hEntry).1
      rw [hSingle, List.length_singleton, Nat.lt_one_iff] at hIndex
      exact ⟨rfl, hIndex.symm⟩
  | nestedList child =>
      rcases (getElem?_entered_nestedList_iff hRefers index entry).mp
          hEntry with
        ⟨_, _, _, _, _, _, _, rfl⟩
      exact ⟨rfl, rfl⟩

/-
  The invocations that a run enters are those that its
  parameters start.
-/
theorem enters_iff :
    call.Enters limit segment next ↔
      ∃ param ∈ call.schema.params,
        (segment, next) ∈ call.entered limit param := by
  constructor
  · intro hEnters
    cases hEnters with
    | object declared refers shape level =>
        exact
          ⟨_, declared,
            (mem_entered_nested_iff refers _).mpr
              ⟨_, shape, level, rfl⟩⟩
    | element declared refers shape level first =>
        exact
          ⟨_, declared,
            List.mem_of_getElem?
              ((getElem?_entered_nestedList_iff refers _ _).mpr
                ⟨_, _, _, shape, level, first, rfl, rfl⟩)⟩
  · rintro ⟨param, hParam, hEntry⟩
    cases hRefers : param.resolved with
    | coerced name coerce => simp [entered, hRefers] at hEntry
    | nested child =>
        rcases (mem_entered_nested_iff hRefers _).mp hEntry with
          ⟨fields, hShape, hLevel, hSame⟩
        cases hSame
        exact .object hParam hRefers hShape hLevel
    | nestedList child =>
        rcases List.getElem?_of_mem hEntry with ⟨index, hIndex⟩
        rcases (getElem?_entered_nestedList_iff hRefers index _).mp
            hIndex with
          ⟨before, fields, after, hShape, hLevel, hFirst, rfl, hSame⟩
        cases hSame
        exact .element hParam hRefers hShape hLevel hFirst

/- What a parameter starts are invocations of the schema it refers to. -/
theorem schema?_of_mem_entered
    {entry : Segment × Invocation}
    (hEntry : entry ∈ call.entered limit param) :
    param.resolved.schema? = some entry.2.schema := by
  cases hRefers : param.resolved with
  | coerced name coerce => simp [entered, hRefers] at hEntry
  | nested child =>
      rcases (mem_entered_nested_iff hRefers entry).mp hEntry with
        ⟨_, _, _, rfl⟩
      rfl
  | nestedList child =>
      rcases List.getElem?_of_mem hEntry with ⟨index, hIndex⟩
      rcases (getElem?_entered_nestedList_iff hRefers index entry).mp
          hIndex with
        ⟨_, _, _, _, _, _, _, rfl⟩
      rfl

/- A segment leads to one invocation only. -/
theorem Enters.unique
    (hBuilt : call.schema.Built)
    (hNext : call.Enters limit segment next)
    (hOther : call.Enters limit segment other) :
    next = other := by
  rcases enters_iff.mp hNext with ⟨param, hParam, hEntry⟩
  rcases enters_iff.mp hOther with ⟨param', hParam', hEntry'⟩
  rcases List.getElem?_of_mem hEntry with ⟨index, hIndex⟩
  rcases List.getElem?_of_mem hEntry' with ⟨index', hIndex'⟩
  have hPlace := segment_of_getElem?_entered hIndex
  have hPlace' := segment_of_getElem?_entered hIndex'
  have hSame : param = param' :=
    hBuilt.eq_of_name_eq hParam hParam' (hPlace.1.symm.trans hPlace'.1)
  subst hSame
  rw [← hPlace.2] at hIndex
  rw [← hPlace'.2, hIndex] at hIndex'
  cases hIndex'
  rfl

/-
  The events of an invocation are, for one parameter after the
  other, those of the invocations that it starts and then its
  own.
-/
theorem trace_eq
    (call : Invocation) :
    call.trace limit =
      call.schema.params.flatMap fun param =>
        ((call.entered limit param).flatMap fun entry =>
          entry.2.trace limit) ++
          [call.resolvedEvent limit param] := by
  rcases call with ⟨depth, schema, input⟩
  rcases schema with ⟨name, params, types, globals, policy⟩
  rw [trace, Schema.trace, traceParams_eq_flatMap]
  apply List.flatMap_congr
  intro param _
  refine congrArg (· ++ _) ?_
  unfold entered
  cases hRefers : param.resolved with
  | coerced typeName coerce => rfl
  | nested child =>
      cases hShape : param.effective input with
      | object fields =>
          by_cases hLevel : depth + 1 ≤ limit
          · simp [Resolved.trace, hLevel, Nat.not_lt.mpr hLevel, trace]
          · simp [Resolved.trace, hLevel, Nat.not_le.mp hLevel]
      | null | bool | number | string | array => rfl
  | nestedList child =>
      cases hShape : param.effective input with
      | array items =>
          by_cases hLevel : depth + 1 ≤ limit
          · rw [Resolved.trace, if_neg (Nat.not_lt.mpr hLevel)]
            simp only [hLevel, if_true]
            rw [← List.flatMap_map Prod.snd (trace limit),
              map_snd_mapIdx, List.flatMap_map]
            exact traceElements_eq_flatMap _ _ items
          · simp [Resolved.trace, hLevel, Nat.not_le.mp hLevel]
      | null | bool | number | string | object => rfl

/- Every schema that a built schema reaches is built. -/
theorem Reaches.built
    {place : Place}
    {last : Invocation}
    (hReaches : call.Reaches limit place last)
    (hBuilt : call.schema.Built) :
    last.schema.Built := by
  induction hReaches with
  | here call => exact hBuilt
  | step enters rest ih =>
      rcases enters.exists_declared with ⟨param, hParam, _, hChild⟩
      exact ih (hBuilt.child hParam hChild)

end Invocation

------------------------------------------------------------
-- Visits
------------------------------------------------------------

/- A parameter that is resolved, in an invocation at a place. -/
structure Visit where
  place : Place
  call : Invocation
  param : Parameter Schema

namespace Visit

/- The visit with its place below a segment. -/
def below
    (segment : Segment)
    (visit : Visit) : Visit :=
  { visit with place := segment :: visit.place }

/- The place of a visit with the name of its parameter. -/
def key
    (visit : Visit) : Place × String :=
  (visit.place, visit.param.name)

/- The event that tells whether the parameter has a value. -/
def event
    (limit : Nat)
    (visit : Visit) : Event :=
  visit.call.resolvedEvent limit visit.param

/-
  A visit may come before another one.  In one invocation, its
  parameter is declared before the other one.  And the other
  one is in no invocation that its parameter leads to.
-/
structure Before
    (visit other : Visit) : Prop where
  declared :
    visit.place = other.place →
      [visit.param, other.param].Sublist visit.call.schema.params
  outside :
    ∀ segment rest, other.place = visit.place ++ segment :: rest →
      segment.name ≠ visit.param.name

/- The order of visits is kept below a segment. -/
theorem Before.below
    {visit other : Visit}
    (hBefore : visit.Before other)
    (segment : Segment) :
    (visit.below segment).Before (other.below segment) := by
  constructor
  · intro hPlace
    exact hBefore.declared (List.cons.inj hPlace).2
  · intro inner rest hPlace
    exact hBefore.outside inner rest (List.cons.inj hPlace).2

/- Visits below different segments may come in any order. -/
theorem before_of_segment_ne
    {segment other : Segment}
    (hSegments : segment ≠ other)
    (visit visit' : Visit) :
    (visit.below segment).Before (visit'.below other) := by
  constructor
  · intro hPlace
    exact absurd (List.cons.inj hPlace).1 hSegments
  · intro inner rest hPlace
    exact absurd (List.cons.inj hPlace).1.symm hSegments

/- A visit below an invocation comes before those of the invocation. -/
theorem below_before_own
    (segment : Segment)
    (visit : Visit)
    (call : Invocation)
    (param : Parameter Schema) :
    (visit.below segment).Before ⟨[], call, param⟩ := by
  constructor
  · intro hPlace
    cases hPlace
  · intro inner rest hPlace
    cases hPlace

end Visit

namespace Invocation

/-
  The visits of a run, in order: one for each declared parameter
  of each invocation that is reached.
-/
structure Visits
    (limit : Nat)
    (call : Invocation)
    (visits : List Visit) : Prop where
  mem_iff :
    ∀ visit, visit ∈ visits ↔
      call.Reaches limit visit.place visit.call ∧
        visit.param ∈ visit.call.schema.params
  nodup : (visits.map Visit.key).Nodup
  ordered : visits.Pairwise Visit.Before

variable {limit : Nat}
variable {call : Invocation}

/-
  The visits of a run put together from those of the invocations
  that it enters.
-/
def visitsFrom
    (limit : Nat)
    (call : Invocation)
    (visitsOf : Invocation → List Visit) : List Visit :=
  call.schema.params.flatMap fun param =>
    ((call.entered limit param).flatMap fun entry =>
      (visitsOf entry.2).map (Visit.below entry.1)) ++
      [⟨[], call, param⟩]

/- A visit is one of the invocation itself or of one that it enters. -/
theorem mem_visitsFrom_iff
    (visitsOf : Invocation → List Visit)
    (visit : Visit) :
    visit ∈ call.visitsFrom limit visitsOf ↔
      (∃ param ∈ call.schema.params, visit = ⟨[], call, param⟩) ∨
      ∃ segment next inner, call.Enters limit segment next ∧
        inner ∈ visitsOf next ∧ visit = inner.below segment := by
  simp only [visitsFrom, List.mem_flatMap, List.mem_append,
    List.mem_map, List.mem_singleton, enters_iff]
  constructor
  · rintro ⟨param, hParam, ⟨entry, hEntry, inner, hInner, rfl⟩ | hOwn⟩
    · exact
        Or.inr
          ⟨entry.1, entry.2, inner, ⟨param, hParam, hEntry⟩, hInner, rfl⟩
    · exact Or.inl ⟨param, hParam, hOwn⟩
  · rintro (⟨param, hParam, hOwn⟩ |
      ⟨segment, next, inner, ⟨param, hParam, hEntry⟩, hInner, rfl⟩)
    · exact ⟨param, hParam, Or.inr hOwn⟩
    · exact
        ⟨param, hParam,
          Or.inl ⟨(segment, next), hEntry, inner, hInner, rfl⟩⟩

/-
  If all invocations entered have their visits, the visits put
  together are of all parameters of all invocations reached.
-/
theorem mem_visitsFrom_iff_reaches
    (visitsOf : Invocation → List Visit)
    (hBelow :
      ∀ segment next, call.Enters limit segment next →
        next.Visits limit (visitsOf next))
    (visit : Visit) :
    visit ∈ call.visitsFrom limit visitsOf ↔
      call.Reaches limit visit.place visit.call ∧
        visit.param ∈ visit.call.schema.params := by
  rw [mem_visitsFrom_iff]
  constructor
  · rintro (⟨param, hParam, rfl⟩ |
      ⟨segment, next, inner, hEnters, hInner, rfl⟩)
    · exact ⟨.here call, hParam⟩
    · have hVisit :=
        ((hBelow segment next hEnters).mem_iff inner).mp hInner
      exact ⟨.step hEnters hVisit.1, hVisit.2⟩
  · rcases visit with ⟨place, last, param⟩
    rintro ⟨hReaches, hParam⟩
    cases hReaches with
    | here => exact Or.inl ⟨param, hParam, rfl⟩
    | @step _ next _ segment place enters rest =>
        have hInner :=
          ((hBelow segment next enters).mem_iff ⟨place, last, param⟩).mpr
            ⟨rest, hParam⟩
        exact Or.inr ⟨segment, next, _, enters, hInner, rfl⟩

/-
  If the events of all invocations entered are those of their
  visits, so are the events of the invocation.
-/
theorem trace_eq_map_visitsFrom
    (visitsOf : Invocation → List Visit)
    (hBelow :
      ∀ segment next, call.Enters limit segment next →
        next.trace limit = (visitsOf next).map (Visit.event limit)) :
    call.trace limit =
      (call.visitsFrom limit visitsOf).map (Visit.event limit) := by
  rw [trace_eq, visitsFrom, List.map_flatMap]
  apply List.flatMap_congr
  intro param hParam
  rw [List.map_append, List.map_flatMap]
  refine congrArg (· ++ _) ?_
  apply List.flatMap_congr
  intro entry hEntry
  have hEnters : call.Enters limit entry.1 entry.2 :=
    enters_iff.mpr ⟨param, hParam, hEntry⟩
  -- Moving a visit below a segment changes its place only.
  rw [hBelow _ _ hEnters, List.map_map]
  rfl

/- The invocations that a parameter starts have different segments. -/
theorem pairwise_entered
    (call : Invocation)
    (param : Parameter Schema) :
    (call.entered limit param).Pairwise fun entry other =>
      entry.1 ≠ other.1 := by
  rw [List.pairwise_iff_getElem]
  intro i j hi hj hLess hSame
  have hFirst :=
    segment_of_getElem?_entered (List.getElem?_eq_getElem hi)
  have hSecond :=
    segment_of_getElem?_entered (List.getElem?_eq_getElem hj)
  rw [hSame, hSecond.2] at hFirst
  omega

/- What is visited on account of a parameter carries its name. -/
theorem mem_block_cases
    (visitsOf : Invocation → List Visit)
    {param : Parameter Schema}
    {visit : Visit}
    (hMem :
      visit ∈
        ((call.entered limit param).flatMap fun entry =>
          (visitsOf entry.2).map (Visit.below entry.1)) ++
          [⟨[], call, param⟩]) :
    (∃ segment inner, segment.name = param.name ∧
      visit = Visit.below segment inner) ∨
      visit = ⟨[], call, param⟩ := by
  simp only [List.mem_append, List.mem_flatMap, List.mem_map,
    List.mem_singleton] at hMem
  rcases hMem with ⟨entry, hEntry, inner, _, rfl⟩ | hOwn
  · rcases List.getElem?_of_mem hEntry with ⟨index, hIndex⟩
    exact
      Or.inl
        ⟨entry.1, inner, (segment_of_getElem?_entered hIndex).1, rfl⟩
  · exact Or.inr hOwn

/-
  What is visited on account of one parameter is in order, for
  the invocations that it starts have different segments.
-/
theorem pairwise_block
    {param : Parameter Schema}
    (hParam : param ∈ call.schema.params)
    (visitsOf : Invocation → List Visit)
    (hBelow :
      ∀ segment next, call.Enters limit segment next →
        (visitsOf next).Pairwise Visit.Before) :
    List.Pairwise Visit.Before
      (((call.entered limit param).flatMap fun entry =>
        (visitsOf entry.2).map (Visit.below entry.1)) ++
        [⟨[], call, param⟩]) := by
  rw [List.pairwise_append, List.pairwise_flatMap]
  refine ⟨⟨?_, ?_⟩, List.pairwise_singleton _ _, ?_⟩
  · intro entry hEntry
    rw [List.pairwise_map]
    have hEnters : call.Enters limit entry.1 entry.2 :=
      enters_iff.mpr ⟨param, hParam, hEntry⟩
    exact (hBelow _ _ hEnters).imp fun hBefore => hBefore.below entry.1
  · refine (call.pairwise_entered param).imp ?_
    intro entry other hSegments visit hVisit visit' hVisit'
    rcases List.mem_map.mp hVisit with ⟨inner, _, rfl⟩
    rcases List.mem_map.mp hVisit' with ⟨inner', _, rfl⟩
    exact Visit.before_of_segment_ne hSegments inner inner'
  · intro visit hVisit own hOwn
    rw [List.mem_singleton] at hOwn
    subst hOwn
    simp only [List.mem_flatMap, List.mem_map] at hVisit
    rcases hVisit with ⟨entry, _, inner, _, rfl⟩
    exact Visit.below_before_own _ _ _ _

/-
  What is visited on account of a parameter comes before what
  is on account of a later one, for their names differ.
-/
theorem before_of_blocks
    (hBuilt : call.schema.Built)
    (visitsOf : Invocation → List Visit)
    {param other : Parameter Schema}
    (hSublist : [param, other].Sublist call.schema.params)
    {visit visit' : Visit}
    (hVisit :
      visit ∈
        ((call.entered limit param).flatMap fun entry =>
          (visitsOf entry.2).map (Visit.below entry.1)) ++
          [⟨[], call, param⟩])
    (hVisit' :
      visit' ∈
        ((call.entered limit other).flatMap fun entry =>
          (visitsOf entry.2).map (Visit.below entry.1)) ++
          [⟨[], call, other⟩]) :
    visit.Before visit' := by
  have hNames : param.name ≠ other.name := by
    have hDistinct :=
      (hSublist.map Parameter.name).nodup hBuilt.nodup_names
    simpa using hDistinct
  rcases mem_block_cases visitsOf hVisit with
    ⟨segment, inner, hName, rfl⟩ | rfl
  · rcases mem_block_cases visitsOf hVisit' with
      ⟨segment', inner', hName', rfl⟩ | rfl
    · apply Visit.before_of_segment_ne
      intro hSame
      apply hNames
      rw [← hName, ← hName', hSame]
    · exact Visit.below_before_own _ _ _ _
  · rcases mem_block_cases visitsOf hVisit' with
      ⟨segment', inner', hName', rfl⟩ | rfl
    · constructor
      · intro hPlace
        cases hPlace
      · intro inside rest hPlace hInside
        rw [List.nil_append] at hPlace
        have hFirst := (List.cons.inj hPlace).1
        apply hNames
        rw [← hInside, ← hFirst, hName']
    · constructor
      · intro _
        exact hSublist
      · intro inside rest hPlace
        cases hPlace

/- The visits are in order if those of the invocations entered are. -/
theorem pairwise_visitsFrom
    (hBuilt : call.schema.Built)
    (visitsOf : Invocation → List Visit)
    (hBelow :
      ∀ segment next, call.Enters limit segment next →
        (visitsOf next).Pairwise Visit.Before) :
    (call.visitsFrom limit visitsOf).Pairwise Visit.Before := by
  rw [visitsFrom, List.pairwise_flatMap]
  constructor
  · intro param hParam
    exact pairwise_block hParam visitsOf hBelow
  · rw [List.pairwise_iff_forall_sublist]
    intro param other hSublist visit hVisit visit' hVisit'
    exact before_of_blocks hBuilt visitsOf hSublist hVisit hVisit'

/-
  Visits in order are visits of different parameters, for no
  parameter is declared before itself.
-/
theorem nodup_keys
    (hBuilt : call.schema.Built)
    {visits : List Visit}
    (hReached :
      ∀ visit ∈ visits, call.Reaches limit visit.place visit.call)
    (hOrdered : visits.Pairwise Visit.Before) :
    (visits.map Visit.key).Nodup := by
  rw [List.Nodup, List.pairwise_map]
  refine hOrdered.imp_of_mem ?_
  intro visit other hVisit _ hBefore hKeys
  have hSublist := hBefore.declared (congrArg Prod.fst hKeys)
  have hNames := ((hReached visit hVisit).built hBuilt).nodup_names
  have hDistinct := (hSublist.map Parameter.name).nodup hNames
  have hSame : visit.param.name = other.param.name :=
    congrArg Prod.snd hKeys
  simp [hSame] at hDistinct

/-
  The events of a run are those of its visits.  The induction is
  on the schema, so that the invocations entered have visits.
-/
theorem exists_visits
    (hBuilt : call.schema.Built) :
    ∃ visits, call.Visits limit visits ∧
      call.trace limit = visits.map (Visit.event limit) := by
  induction hSchema : call.schema using Schema.induction
    generalizing call with
  | step schema ih =>
      subst hSchema
      have hBelow :
          ∀ next, ∃ visits,
            ∀ segment, call.Enters limit segment next →
              next.Visits limit visits ∧
                next.trace limit =
                  visits.map (Visit.event limit) := by
        intro next
        by_cases hEntered : ∃ segment, call.Enters limit segment next
        · rcases hEntered with ⟨segment, hEnters⟩
          rcases hEnters.exists_declared with ⟨param, hParam, _, hChild⟩
          rcases ih param hParam next.schema hChild
              (hBuilt.child hParam hChild) rfl with
            ⟨visits, hVisits⟩
          exact ⟨visits, fun _ _ => hVisits⟩
        · exact
            ⟨[], fun segment hEnters => absurd ⟨segment, hEnters⟩ hEntered⟩
      choose visitsOf hVisitsOf using hBelow
      have hMem :=
        mem_visitsFrom_iff_reaches visitsOf fun segment next hEnters =>
          (hVisitsOf next segment hEnters).1
      have hOrdered :=
        pairwise_visitsFrom hBuilt visitsOf fun segment next hEnters =>
          (hVisitsOf next segment hEnters).1.ordered
      have hNodup :=
        nodup_keys hBuilt (fun visit hVisit => ((hMem visit).mp hVisit).1)
          hOrdered
      have hTrace :=
        trace_eq_map_visitsFrom visitsOf fun segment next hEnters =>
          (hVisitsOf next segment hEnters).2
      exact ⟨_, ⟨hMem, hNodup, hOrdered⟩, hTrace⟩

end Invocation

end Intake
