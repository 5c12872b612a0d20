import Intake.Fields
import Mathlib.Data.List.Forall2

/-
  This file adds to the library of lists what the proofs need
  about lists that are related item by item, and about fields
  with distinct names.

  The main statements are:
    * `forall₂_imp_of_mem`
    * `forall₂_of_forall₂_of_forall₂`
    * `exists_forall₂_of_forall_mem`
    * `exists_of_forall₂_of_mem`
    * `exists_append_of_forall₂`
    * `exists_getElem?_of_forall₂`
    * `exists_append_cons_iff`
    * `exists_append_cons_iff_getElem?`
    * `mem_take_of_getElem?`
    * `map_eq_self_iff`
    * `Fields.lookup?_of_mem`
    * `Fields.lookup?_of_perm`
-/

namespace Intake

variable {α β : Type}
variable {R Q : α → β → Prop}
variable {xs : List α} {ys : List β}

/- To weaken a relation, its items may be taken from the lists. -/
theorem forall₂_imp_of_mem
    (hForall : List.Forall₂ R xs ys)
    (hImp : ∀ x ∈ xs, ∀ y ∈ ys, R x y → Q x y) :
    List.Forall₂ Q xs ys := by
  induction hForall with
  | nil => exact List.Forall₂.nil
  | @cons x y xs ys hHead _ ih =>
      refine List.Forall₂.cons ?_ (ih ?_)
      · exact hImp x (by simp) y (by simp) hHead
      · intro a ha b hb
        exact
          hImp a (List.mem_cons_of_mem _ ha) b
            (List.mem_cons_of_mem _ hb)

/-
  Two lists that are related to the same list are related to
  each other, if this holds item by item.
-/
theorem forall₂_of_forall₂_of_forall₂
    {γ : Type}
    {zs : List γ}
    {P : α → γ → Prop}
    {C : β → γ → Prop}
    (hFirst : List.Forall₂ R xs ys)
    (hSecond : List.Forall₂ P xs zs)
    (hCompose : ∀ x ∈ xs, ∀ y ∈ ys, ∀ z, R x y → P x z → C y z) :
    List.Forall₂ C ys zs := by
  induction hFirst generalizing zs with
  | nil =>
      cases hSecond
      exact List.Forall₂.nil
  | @cons x y xs ys hHead _ ih =>
      cases hSecond with
      | @cons _ z _ zs hOther hRest =>
          refine List.Forall₂.cons ?_ (ih hRest ?_)
          · exact hCompose x (by simp) y (by simp) z hHead hOther
          · intro a ha b hb
            exact
              hCompose a (List.mem_cons_of_mem _ ha) b
                (List.mem_cons_of_mem _ hb)

/- Items that are all related to some item make up related lists. -/
theorem exists_forall₂_of_forall_mem
    (hRelated : ∀ x ∈ xs, ∃ y, R x y) :
    ∃ ys, List.Forall₂ R xs ys := by
  induction xs with
  | nil => exact ⟨[], List.Forall₂.nil⟩
  | cons x rest ih =>
      rw [List.forall_mem_cons] at hRelated
      rcases hRelated with ⟨⟨y, hHead⟩, hRest⟩
      rcases ih hRest with ⟨ys, hForall⟩
      exact ⟨y :: ys, List.Forall₂.cons hHead hForall⟩

/-
  Every item of the second list is related to one of the
  first.
-/
theorem exists_of_forall₂_of_mem
    (hForall : List.Forall₂ R xs ys)
    {y : β}
    (hMem : y ∈ ys) :
    ∃ x ∈ xs, R x y := by
  induction hForall with
  | nil => cases hMem
  | @cons x other xs ys hHead _ ih =>
      rcases List.mem_cons.mp hMem with rfl | hMem
      · exact ⟨x, by simp, hHead⟩
      · rcases ih hMem with ⟨found, hFound, hRelated⟩
        exact ⟨found, List.mem_cons_of_mem _ hFound, hRelated⟩

/-
  The item of the second list at an index is related to the one
  of the first list there, and all items before that one are
  related to some item.
-/
theorem exists_append_of_forall₂
    (hForall : List.Forall₂ R xs ys)
    {index : Nat}
    {y : β}
    (hIndex : ys[index]? = some y) :
    ∃ before x after, xs = before ++ x :: after ∧
      before.length = index ∧ R x y ∧
        ∀ other ∈ before, ∃ z, R other z := by
  induction hForall generalizing index with
  | nil => simp at hIndex
  | @cons x head xs ys hHead _ ih =>
      cases index with
      | zero =>
          cases hIndex
          exact ⟨[], x, xs, rfl, rfl, hHead, List.forall_mem_nil _⟩
      | succ index =>
          rw [List.getElem?_cons_succ] at hIndex
          rcases ih hIndex with
            ⟨before, found, after, rfl, rfl, hFound, hBefore⟩
          exact
            ⟨x :: before, found, after, rfl, rfl, hFound,
              List.forall_mem_cons.mpr ⟨⟨head, hHead⟩, hBefore⟩⟩

/-
  The item of the first list at an index is related to the one
  of the second list there.
-/
theorem exists_getElem?_of_forall₂
    (hForall : List.Forall₂ R xs ys)
    {index : Nat}
    {x : α}
    (hIndex : xs[index]? = some x) :
    ∃ y, ys[index]? = some y ∧ R x y := by
  induction hForall generalizing index with
  | nil => simp at hIndex
  | @cons first second xs ys hHead _ ih =>
      cases index with
      | zero =>
          cases hIndex
          exact ⟨second, rfl, hHead⟩
      | succ index =>
          rw [List.getElem?_cons_succ] at hIndex ⊢
          exact ih hIndex

/-
  To find an item after items with a property is to find it at
  the front, or in the rest after a front with the property.
-/
theorem exists_append_cons_iff
    (P : α → Prop)
    (Q : Nat → α → Prop)
    (x : α)
    (rest : List α) :
    (∃ before y after, x :: rest = before ++ y :: after ∧
      (∀ z ∈ before, P z) ∧ Q before.length y) ↔
    Q 0 x ∨
      (P x ∧ ∃ before y after, rest = before ++ y :: after ∧
        (∀ z ∈ before, P z) ∧ Q (before.length + 1) y) := by
  constructor
  · rintro ⟨before, y, after, hSame, hBefore, hFound⟩
    cases before with
    | nil =>
        cases hSame
        exact Or.inl hFound
    | cons first before =>
        cases hSame
        rw [List.forall_mem_cons] at hBefore
        exact Or.inr
          ⟨hBefore.1, before, y, after, rfl, hBefore.2, hFound⟩
  · rintro (hFound | ⟨hFirst, before, y, after, rfl, hBefore, hFound⟩)
    · exact ⟨[], x, rest, rfl, List.forall_mem_nil _, hFound⟩
    · exact
        ⟨x :: before, y, after, rfl,
          List.forall_mem_cons.mpr ⟨hFirst, hBefore⟩, hFound⟩

/-
  An item after items with a property may be found by its index
  as well.
-/
theorem exists_append_cons_iff_getElem?
    (P : α → Prop)
    (Q : Nat → α → Prop)
    (items : List α) :
    (∃ before y after, items = before ++ y :: after ∧
      (∀ z ∈ before, P z) ∧ Q before.length y) ↔
    ∃ index y, items[index]? = some y ∧
      (∀ z ∈ items.take index, P z) ∧ Q index y := by
  constructor
  · rintro ⟨before, y, after, rfl, hBefore, hFound⟩
    refine ⟨before.length, y, ?_, ?_, hFound⟩
    · rw [List.getElem?_append_right (Nat.le_refl _), Nat.sub_self]
      rfl
    · rwa [List.take_left]
  · rintro ⟨index, y, hItem, hBefore, hFound⟩
    rcases List.getElem?_eq_some_iff.mp hItem with ⟨hIndex, rfl⟩
    have hLength : (items.take index).length = index :=
      List.length_take_of_le (Nat.le_of_lt hIndex)
    refine
      ⟨items.take index, items[index], items.drop (index + 1), ?_,
        hBefore, ?_⟩
    · rw [← List.drop_eq_getElem_cons hIndex, List.take_append_drop]
    · rwa [hLength]

/- The item at an index is one of the items up to the index. -/
theorem mem_take_of_getElem?
    {items : List α}
    {index : Nat}
    {item : α}
    (hItem : items[index]? = some item) :
    item ∈ items.take (index + 1) := by
  rw [← List.getElem?_take_of_lt (Nat.lt_succ_self index)] at hItem
  exact List.mem_of_getElem? hItem

/- A list stays the same exactly if each of its items does. -/
theorem map_eq_self_iff
    (change : α → α)
    (items : List α) :
    items.map change = items ↔ ∀ item ∈ items, change item = item := by
  rw [← List.map_inj_left, List.map_id']

/- Lists that agree item by item have the same parts. -/
theorem map_eq_map_of_forall₂
    {γ : Type}
    {f : α → γ}
    {g : β → γ}
    (hForall : List.Forall₂ R xs ys)
    (hSame : ∀ x y, R x y → f x = g y) :
    xs.map f = ys.map g := by
  rw [← List.forall₂_eq_eq_eq, List.forall₂_map_left_iff,
    List.forall₂_map_right_iff]
  exact hForall.imp hSame

/- Contents changed one by one are looked up and then changed. -/
theorem Fields.lookup?_map
    (change : α → β)
    (fields : Fields α)
    (name : String) :
    lookup? (fields.map fun field => (field.1, change field.2)) name =
      (lookup? fields name).map change := by
  induction fields with
  | nil => rfl
  | cons field rest ih =>
      rw [List.map_cons, lookup?_cons, lookup?_cons, ih]
      split <;> rfl

/- If names are distinct, the look-up finds every field. -/
theorem Fields.lookup?_of_mem
    (fields : Fields α)
    {name : String}
    {content : α}
    (hDistinct : (names fields).Nodup)
    (hMem : (name, content) ∈ fields) :
    lookup? fields name = some content := by
  induction fields with
  | nil => cases hMem
  | cons field rest ih =>
      rw [lookup?_cons]
      rw [names, List.map_cons, List.nodup_cons] at hDistinct
      rcases List.mem_cons.mp hMem with rfl | hMem
      · simp
      · have hOther : field.1 ≠ name := by
          intro hSame
          apply hDistinct.1
          rw [hSame]
          exact List.mem_map.mpr ⟨(name, content), hMem, rfl⟩
        rw [if_neg hOther]
        exact ih hDistinct.2 hMem

/- The look-up finds nothing if no field has the name. -/
theorem Fields.lookup?_eq_none_iff
    (fields : Fields α)
    (name : String) :
    lookup? fields name = none ↔ name ∉ names fields := by
  simp only [lookup?, Option.map_eq_none_iff, List.find?_eq_none,
    beq_iff_eq, names, List.mem_map, not_exists, not_and]

/- If names are distinct, the order of the fields does not matter. -/
theorem Fields.lookup?_of_perm
    {fields other : Fields α}
    (hPerm : fields.Perm other)
    (hDistinct : (names fields).Nodup)
    (name : String) :
    lookup? fields name = lookup? other name := by
  have hOther : (names other).Nodup := (hPerm.map Prod.fst).nodup hDistinct
  ext content
  constructor
  · intro hFound
    have hMem := hPerm.mem_iff.mp (mem_of_lookup? fields hFound)
    exact lookup?_of_mem other hOther hMem
  · intro hFound
    have hMem := hPerm.mem_iff.mpr (mem_of_lookup? other hFound)
    exact lookup?_of_mem fields hDistinct hMem

end Intake
