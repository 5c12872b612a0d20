import Intake.Proofs.Lists
import Intake.Typing.TypeTable
import Mathlib.Data.Finset.Card

/-
  This file shows what a table of types holds after types were
  defined one after the other, whatever their names and
  coercers are.

  The names are in the order in which they first came, each of
  them once.  The type of a name has the coercer that was
  defined last, and the coercer of lists that is made of this
  one.

  Key definitions include:
    * `Fields.IsLast`
    * `TypeTable.ListsInOrder`
    * `TypeTable.HoldsLatest`

  The main statements are:
    * `TypeTable.ListsInOrder.define`
    * `TypeTable.listsInOrder_defineAll`
    * `TypeTable.lookup?_defineAll`
    * `TypeTable.holdsLatest_defineAll`
-/

namespace Intake

------------------------------------------------------------
-- Histories
------------------------------------------------------------

namespace Fields

variable {α : Type}

/- A content is the last one that came with a name. -/
def IsLast
    (history : Fields α)
    (name : String)
    (content : α) : Prop :=
  ∃ before after, history = before ++ (name, content) :: after ∧
    name ∉ names after

/- The last content of a name is the newest one, or it was so before. -/
theorem isLast_concat_iff
    (history : Fields α)
    (newest : String × α)
    (name : String)
    (content : α) :
    IsLast (history ++ [newest]) name content ↔
      newest = (name, content) ∨
        (newest.1 ≠ name ∧ IsLast history name content) := by
  constructor
  · rintro ⟨before, after, hSame, hAfter⟩
    rcases List.eq_nil_or_concat after with rfl | ⟨middle, last, rfl⟩
    · exact Or.inl (List.append_singleton_inj.mp hSame).2
    · rw [List.concat_eq_append] at hSame hAfter
      rw [← List.cons_append, ← List.append_assoc] at hSame
      rcases List.append_singleton_inj.mp hSame with ⟨hHistory, rfl⟩
      rw [names, List.map_append, List.mem_append, not_or,
        List.map_singleton, List.mem_singleton] at hAfter
      exact
        Or.inr
          ⟨fun hName => hAfter.2 hName.symm,
            before, middle, hHistory, hAfter.1⟩
  · rintro (rfl | ⟨hOther, before, after, rfl, hAfter⟩)
    · exact ⟨history, [], rfl, List.not_mem_nil⟩
    · refine ⟨before, after ++ [newest], ?_, ?_⟩
      · rw [List.append_assoc, List.cons_append]
      · rw [names, List.map_append, List.mem_append, not_or,
          List.map_singleton, List.mem_singleton]
        exact ⟨hAfter, hOther.symm⟩

/- Looked up from the end, a history gives the last contents. -/
theorem lookup?_reverse_eq_some_iff
    (history : Fields α)
    (name : String)
    (content : α) :
    lookup? history.reverse name = some content ↔
      IsLast history name content := by
  induction history using List.reverseRecOn with
  | nil => simp [lookup?, IsLast]
  | append_singleton history newest ih =>
      rw [List.reverse_concat, lookup?_cons, isLast_concat_iff, ← ih]
      by_cases hName : newest.1 = name
      · simp [Prod.ext_iff, hName]
      · simp [Prod.ext_iff, hName]

/- A field is there exactly if its name is among the names. -/
theorem contains_iff
    (fields : Fields α)
    (name : String) :
    contains fields name = true ↔ name ∈ names fields := by
  simp [contains, names]

end Fields

namespace TypeTable

------------------------------------------------------------
-- Names
------------------------------------------------------------

/-
  A table lists the names of a history, in the order in which
  they first came.
-/
structure ListsInOrder
    (types : TypeTable)
    (history : Fields Coercer) : Prop where
  listed :
    ∀ name, name ∈ types.names ↔ name ∈ Fields.names history
  ordered :
    types.names.Pairwise fun first second =>
      (Fields.names history).idxOf first <
        (Fields.names history).idxOf second

/- A new name comes after the others, and a known one is not added. -/
theorem names_define
    (types : TypeTable)
    (name : String)
    (coerce : Coercer) :
    (types.define name coerce).names =
      if types.contains name then types.names
      else types.names ++ [name] :=
  Fields.names_insert types.definitions name (.ofCoercer name coerce)

/- The names stay in the order of the history with a definition. -/
theorem ListsInOrder.define
    {types : TypeTable}
    {history : Fields Coercer}
    (hLists : types.ListsInOrder history)
    (name : String)
    (coerce : Coercer) :
    (types.define name coerce).ListsInOrder
      (history ++ [(name, coerce)]) := by
  rcases hLists with ⟨listed, ordered⟩
  have hNames :
      Fields.names (history ++ [(name, coerce)]) =
        Fields.names history ++ [name] := by
    simp [Fields.names]
  have hOrdered :
      types.names.Pairwise fun first second =>
        (Fields.names history ++ [name]).idxOf first <
          (Fields.names history ++ [name]).idxOf second := by
    apply ordered.imp_of_mem
    intro first second hFirst hSecond hLess
    rw [listed] at hFirst hSecond
    rwa [List.idxOf_append_of_mem hFirst,
      List.idxOf_append_of_mem hSecond]
  have hKnown :
      types.contains name = true ↔ name ∈ Fields.names history := by
    rw [← listed]
    exact Fields.contains_iff types.definitions name
  constructor
  case listed =>
    intro other
    rw [names_define, hNames, List.mem_append, List.mem_singleton,
      ← listed]
    split
    · next hContains =>
        rw [hKnown, ← listed] at hContains
        constructor
        · exact Or.inl
        · rintro (hOther | rfl)
          · exact hOther
          · exact hContains
    · rw [List.mem_append, List.mem_singleton]
  case ordered =>
    rw [names_define, hNames]
    split
    · exact hOrdered
    · next hContains =>
        rw [hKnown] at hContains
        rw [List.pairwise_append]
        refine ⟨hOrdered, List.pairwise_singleton _ _, ?_⟩
        intro first hFirst last hLast
        rw [listed] at hFirst
        rw [List.mem_singleton.mp hLast,
          List.idxOf_append_of_mem hFirst,
          List.idxOf_append_of_notMem hContains, List.idxOf_cons_self]
        exact List.idxOf_lt_length_of_mem hFirst

------------------------------------------------------------
-- Histories of Definitions
------------------------------------------------------------

/- The last definition of a history is the last one that is made. -/
theorem defineAll_concat
    (types : TypeTable)
    (history : Fields Coercer)
    (newest : String × Coercer) :
    types.defineAll (history ++ [newest]) =
      (types.defineAll history).define newest.1 newest.2 :=
  List.foldl_concat _ types newest history

/- A history may be made in two parts. -/
theorem defineAll_append
    (types : TypeTable)
    (history later : Fields Coercer) :
    types.defineAll (history ++ later) =
      (types.defineAll history).defineAll later :=
  List.foldl_append

/- A history of definitions leaves its names in order. -/
theorem listsInOrder_defineAll
    (history : Fields Coercer) :
    (empty.defineAll history).ListsInOrder history := by
  induction history using List.reverseRecOn with
  | nil => exact ⟨fun _ => Iff.rfl, .nil⟩
  | append_singleton history newest ih =>
      rw [defineAll_concat]
      exact ih.define newest.1 newest.2

/- After a history, a name has the coercer that came last. -/
theorem lookup?_defineAll
    (history : Fields Coercer)
    (name : String) :
    (empty.defineAll history).lookup? name =
      (Fields.lookup? history.reverse name).map (.ofCoercer name) := by
  induction history using List.reverseRecOn with
  | nil => rfl
  | append_singleton history newest ih =>
      rw [defineAll_concat, lookup?_define, ih, List.reverse_concat,
        Fields.lookup?_cons]
      split
      · next hName => rw [hName, Option.map_some]
      · rfl

/- A coercer of a table that came from a history is one of the history. -/
theorem mem_of_scalar?_defineAll
    {history : Fields Coercer}
    {name : String}
    {coerce : Coercer}
    (hFound : (empty.defineAll history).scalar? name = some coerce) :
    (name, coerce) ∈ history := by
  rw [scalar?, lookup?_defineAll, Option.map_map] at hFound
  rcases Option.map_eq_some_iff.mp hFound with ⟨last, hLast, rfl⟩
  exact List.mem_reverse.mp (Fields.mem_of_lookup? _ hLast)

/-
  What a table holds after a history of definitions.  Each name
  that was defined is listed once, in the order in which the
  names first came, and they are counted.  Exactly these names
  are there, and the type of a name has this name, the coercer
  that came last, and for lists what this coercer gives.
-/
structure HoldsLatest
    (types : TypeTable)
    (history : Fields Coercer) : Prop
    extends types.ListsInOrder history where
  once : types.names.Nodup
  counted : types.size = (Fields.names history).toFinset.card
  contained :
    ∀ name, types.contains name = true ↔ name ∈ Fields.names history
  missing :
    ∀ name, types.lookup? name = none ↔ name ∉ Fields.names history
  latest :
    ∀ name coerce, Fields.IsLast history name coerce →
      ∃ type, types.lookup? name = some type ∧
        type.name = name ∧
        type.coerce = coerce ∧
        ∀ raw, type.coerceList raw = coerce.listOf raw

/- A table that came from a history holds the latest definitions. -/
theorem holdsLatest_defineAll_empty
    (history : Fields Coercer) :
    (empty.defineAll history).HoldsLatest history := by
  have hLists := listsInOrder_defineAll history
  have hOnce : (empty.defineAll history).names.Nodup := by
    apply hLists.ordered.imp
    intro first second hLess hSame
    rw [hSame] at hLess
    exact Nat.lt_irrefl _ hLess
  constructor
  case toListsInOrder => exact hLists
  case once => exact hOnce
  case counted =>
    have hSame :
        (empty.defineAll history).names.toFinset =
          (Fields.names history).toFinset := by
      ext name
      rw [List.mem_toFinset, List.mem_toFinset, hLists.listed]
    rw [← hSame, List.toFinset_card_of_nodup hOnce]
    exact (List.length_map _).symm
  case contained =>
    intro name
    rw [← hLists.listed]
    exact Fields.contains_iff _ name
  case missing =>
    intro name
    rw [← hLists.listed]
    exact Fields.lookup?_eq_none_iff _ name
  case latest =>
    intro name coerce hLast
    rw [lookup?_defineAll,
      (Fields.lookup?_reverse_eq_some_iff _ _ _).mpr hLast]
    exact ⟨.ofCoercer name coerce, rfl, rfl, rfl, fun _ => rfl⟩

/-
  Whatever types are defined one after the other, in a table
  without types or in that of the builtin types, the table
  holds the latest definitions.  The builtin types count as the
  first ones that were defined.
-/
theorem holdsLatest_defineAll
    (history : Fields Coercer) :
    (empty.defineAll history).HoldsLatest history ∧
      (builtins.defineAll history).HoldsLatest
        (builtinCoercers ++ history) := by
  refine ⟨holdsLatest_defineAll_empty history, ?_⟩
  rw [builtins, ← defineAll_append]
  exact holdsLatest_defineAll_empty (builtinCoercers ++ history)

/- A builtin type that is defined anew keeps its place. -/
example :
    (builtins.define "integer" Coercer.string).names =
      ["string", "integer", "float", "decimal", "boolean", "date",
        "datetime"] :=
  rfl

end TypeTable

end Intake
