/-
  This file defines ordered mappings from names to contents,
  as objects, maps and tables use them.

  Key definitions include:
    * `Fields`
    * `Fields.lookup?`
    * `Fields.insert`
    * `Fields.merge`

  What each operation does to look-ups and names is shown by:
    * `Fields.lookup?_insert`
    * `Fields.forall_mem_insert`
    * `Fields.names_insert`
-/

namespace Intake

/- Contents by name, in the order in which the names came. -/
abbrev Fields (α : Type) :=
  List (String × α)

namespace Fields

variable {α : Type}

/- The content of the first field with a name. -/
def lookup?
    (fields : Fields α)
    (name : String) : Option α :=
  (fields.find? fun field => field.1 == name).map Prod.snd

/- There is a field with a name. -/
def contains
    (fields : Fields α)
    (name : String) : Bool :=
  fields.any fun field => field.1 == name

/- The names of the fields. -/
def names
    (fields : Fields α) : List String :=
  fields.map Prod.fst

/-
  Set a name to a content.  A name that is there keeps its
  place; a new name goes to the end.
-/
def insert
    (fields : Fields α)
    (name : String)
    (content : α) : Fields α :=
  if contains fields name then
    fields.map fun field =>
      if field.1 == name then (name, content) else field
  else
    fields ++ [(name, content)]

/- Fields with each name once: first place, last content. -/
def merge
    (fields : Fields α) : Fields α :=
  fields.foldl (fun merged field => insert merged field.1 field.2) []

------------------------------------------------------------
-- Look-ups and Names
------------------------------------------------------------

/- The look-up takes the first field if it has the name. -/
theorem lookup?_cons
    (field : String × α)
    (rest : Fields α)
    (name : String) :
    lookup? (field :: rest) name =
      if field.1 = name then some field.2 else lookup? rest name := by
  by_cases hName : field.1 = name <;> simp [lookup?, hName]

/- The look-up goes to the second part if the first has not the name. -/
theorem lookup?_append
    (first second : Fields α)
    (name : String) :
    lookup? (first ++ second) name =
      (lookup? first name).or (lookup? second name) := by
  induction first with
  | nil => simp [lookup?]
  | cons field rest ih =>
      by_cases hName : field.1 = name <;>
        simp [lookup?_cons, hName, ih]

/- What the look-up finds is the content of a field. -/
theorem mem_of_lookup?
    (fields : Fields α)
    {name : String}
    {content : α}
    (hFound : lookup? fields name = some content) :
    (name, content) ∈ fields := by
  rw [lookup?, Option.map_eq_some_iff] at hFound
  rcases hFound with ⟨⟨other, _⟩, hFind, rfl⟩
  have hName := List.find?_some hFind
  rw [beq_iff_eq] at hName
  rw [← hName]
  exact List.mem_of_find?_eq_some hFind

/- A field is there exactly if the look-up finds a content. -/
theorem contains_eq_isSome_lookup?
    (fields : Fields α)
    (name : String) :
    contains fields name = (lookup? fields name).isSome := by
  simp [contains, lookup?, List.isSome_find?]

/- A new content in place of those with a name. -/
theorem lookup?_replace
    (fields : Fields α)
    (name other : String)
    (content : α) :
    lookup?
        (fields.map fun field =>
          if field.1 == name then (name, content) else field) other =
      if name = other then (lookup? fields name).map fun _ => content
      else lookup? fields other := by
  induction fields with
  | nil => simp [lookup?]
  | cons field rest ih =>
      rw [List.map_cons, lookup?_cons, ih, lookup?_cons, lookup?_cons]
      by_cases hName : field.1 = name
      · subst hName
        by_cases hOther : field.1 = other <;> simp [hOther]
      · by_cases hOther : name = other
        · subst hOther
          simp [hName]
        · simp [hName, hOther]

/-
  After a name is set, the look-up finds its content, and for
  all other names what it found before.
-/
theorem lookup?_insert
    (fields : Fields α)
    (name other : String)
    (content : α) :
    lookup? (insert fields name content) other =
      if name = other then some content else lookup? fields other := by
  unfold insert
  split
  · next h =>
      rw [lookup?_replace]
      rw [contains_eq_isSome_lookup?, Option.isSome_iff_exists] at h
      rcases h with ⟨found, hFound⟩
      simp [hFound]
  · next h =>
      have hNone : lookup? fields name = none := by
        simpa [contains_eq_isSome_lookup?] using h
      rw [lookup?_append, lookup?_cons]
      by_cases hOther : name = other
      · subst hOther
        simp [hNone]
      · simp [hOther, lookup?]

/- What holds of all fields and of a new one holds after it is set. -/
theorem forall_mem_insert
    {fields : Fields α}
    {name : String}
    {content : α}
    {P : String × α → Prop}
    (hFields : ∀ field ∈ fields, P field)
    (hNew : P (name, content)) :
    ∀ field ∈ insert fields name content, P field := by
  intro field hField
  unfold insert at hField
  split at hField
  · rcases List.mem_map.mp hField with ⟨old, hOld, rfl⟩
    split
    · exact hNew
    · exact hFields old hOld
  · rcases List.mem_append.mp hField with hOld | hLast
    · exact hFields field hOld
    · rw [List.mem_singleton.mp hLast]
      exact hNew

/-
  Setting a name keeps the names in order and adds it at the
  end if it is new.
-/
theorem names_insert
    (fields : Fields α)
    (name : String)
    (content : α) :
    names (insert fields name content) =
      if contains fields name then names fields
      else names fields ++ [name] := by
  unfold names insert
  split
  · rw [List.map_map]
    apply List.map_congr_left
    intro field _
    by_cases hName : field.1 = name <;> simp [hName]
  · simp

end Fields

end Intake
