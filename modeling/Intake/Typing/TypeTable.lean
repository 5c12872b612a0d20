import Intake.Fields
import Intake.Typing.Coercion

/-
  This file defines the table of the scalar types that a
  schema can name.  A type is defined by a name and a coercer,
  and the coercer of lists is made of that one when the type
  is defined.

  Key definitions include:
    * `TypeDefinition`
    * `TypeTable`
    * `TypeTable.define`
    * `TypeTable.lookup?`
    * `TypeTable.builtins`

  What is found after a definition is shown by:
    * `TypeTable.name_of_lookup?`
    * `TypeTable.lookup?_define`
    * `TypeTable.scalar?_define`
    * `TypeTable.list?_eq_map`
-/

namespace Intake

------------------------------------------------------------
-- Types
------------------------------------------------------------

/-
  A type of a table: its name, the coercer of its data, and
  the coercer of lists of such data.
-/
structure TypeDefinition where
  name : String
  coerce : Coercer
  coerceList : Coercer
  derived : coerceList = coerce.listOf

/- The type with a name and a coercer. -/
def TypeDefinition.ofCoercer
    (name : String)
    (coerce : Coercer) : TypeDefinition :=
  ⟨name, coerce, coerce.listOf, rfl⟩

------------------------------------------------------------
-- Tables
------------------------------------------------------------

/-
  Types by name, in the order in which the names first came.
  Every type stands under its own name.
-/
structure TypeTable where
  definitions : Fields TypeDefinition
  named : ∀ field ∈ definitions, field.2.name = field.1

namespace TypeTable

/- The table without types. -/
def empty : TypeTable :=
  ⟨[], List.forall_mem_nil _⟩

/- Define a type.  A type of the same name is replaced in its place. -/
def define
    (types : TypeTable)
    (name : String)
    (coerce : Coercer) : TypeTable :=
  let definition := TypeDefinition.ofCoercer name coerce
  ⟨Fields.insert types.definitions definition.name definition,
    Fields.forall_mem_insert types.named rfl⟩

/- Define types one after the other. -/
def defineAll
    (types : TypeTable)
    (coercers : Fields Coercer) : TypeTable :=
  coercers.foldl (fun types field => types.define field.1 field.2) types

/- The names of the types. -/
def names
    (types : TypeTable) : List String :=
  Fields.names types.definitions

/- The number of types. -/
def size
    (types : TypeTable) : Nat :=
  types.definitions.length

/- The table has no types. -/
def isEmpty
    (types : TypeTable) : Bool :=
  types.definitions.isEmpty

/- A type is defined. -/
def contains
    (types : TypeTable)
    (name : String) : Bool :=
  Fields.contains types.definitions name

/- The type with a name. -/
def lookup?
    (types : TypeTable)
    (name : String) : Option TypeDefinition :=
  Fields.lookup? types.definitions name

/- The coercer of a type. -/
def scalar?
    (types : TypeTable)
    (name : String) : Option Coercer :=
  (types.lookup? name).map TypeDefinition.coerce

/- The coercer of lists of a type. -/
def list?
    (types : TypeTable)
    (name : String) : Option Coercer :=
  (types.lookup? name).map TypeDefinition.coerceList

/- The coercers of the builtin types. -/
def builtinCoercers : Fields Coercer :=
  [("string", Coercer.string),
    ("integer", Coercer.integer),
    ("float", Coercer.float),
    ("decimal", Coercer.decimal),
    ("boolean", Coercer.boolean),
    ("date", Coercer.date),
    ("datetime", Coercer.timestamp)]

/- The table of the builtin types. -/
def builtins : TypeTable :=
  empty.defineAll builtinCoercers

------------------------------------------------------------
-- Look-ups
------------------------------------------------------------

variable (types : TypeTable)

/- A type is found under its own name. -/
theorem name_of_lookup?
    {name : String}
    {definition : TypeDefinition}
    (hFound : types.lookup? name = some definition) :
    definition.name = name :=
  types.named _ (Fields.mem_of_lookup? types.definitions hFound)

/- A new type is found by its name, and all others as before. -/
theorem lookup?_define
    (name other : String)
    (coerce : Coercer) :
    (types.define name coerce).lookup? other =
      if name = other then some (.ofCoercer name coerce)
      else types.lookup? other :=
  Fields.lookup?_insert types.definitions name other
    (.ofCoercer name coerce)

/- So are the coercers of types. -/
theorem scalar?_define
    (name other : String)
    (coerce : Coercer) :
    (types.define name coerce).scalar? other =
      if name = other then some coerce else types.scalar? other := by
  unfold scalar?
  rw [lookup?_define]
  split <;> rfl

/- The coercer of lists of a type is the one that its coercer gives. -/
theorem list?_eq_map
    (name : String) :
    types.list? name = (types.scalar? name).map Coercer.listOf := by
  unfold list? scalar?
  rw [Option.map_map]
  congr 1
  funext definition
  exact definition.derived

end TypeTable

end Intake
