import Intake.Event

/-
  This file defines three sample schemas: an address, an item,
  and an order, which refers to the other two.

  Key definitions include:
    * `Samples.address`
    * `Samples.item`
    * `Samples.order`
-/

namespace Intake

namespace Samples

------------------------------------------------------------
-- Addresses
------------------------------------------------------------

/- One hundred, as a bound. -/
def hundred : Decimal :=
  Decimal.ofWhole 100 (by decide)

/- A postal address with a required country. -/
def addressDraft : SchemaDraft :=
  { SchemaDraft.ofName "address" with
    params :=
      [{ ParameterDraft.ofType "street" (.scalar "string") with
          checks := [.length (Bounds.none.set .lte hundred)] },
        { ParameterDraft.ofType "zip" (.scalar "string") with
          checks := [.format "^\\d\x7b5\x7d$"] },
        { ParameterDraft.ofType "country" (.scalar "string") with
          required := true }] }

/- The schema of a postal address. -/
def address
    (patterns : PatternLibrary) : Except SchemaError Schema :=
  addressDraft.build patterns

------------------------------------------------------------
-- Items
------------------------------------------------------------

/- One, as raw data. -/
def one : Raw :=
  .number (.whole 1 (by decide))

/- A line of an order, with a quantity of one if none is given. -/
def itemDraft : SchemaDraft :=
  { SchemaDraft.ofName "item" with
    params :=
      [{ ParameterDraft.ofType "x" (.scalar "string") with
          required := true },
        { ParameterDraft.ofType "quantity" (.scalar "integer") with
          default := .fixed one
          checks := [.numericality (Bounds.none.set .gt Decimal.zero)] }] }

/- The schema of a line of an order. -/
def item
    (patterns : PatternLibrary) : Except SchemaError Schema :=
  itemDraft.build patterns

------------------------------------------------------------
-- Orders
------------------------------------------------------------

/- The text of a parameter, if it has one. -/
def textOf?
    (params : Params)
    (name : String) : Option String :=
  (Fields.lookup? params name).bind Value.toText?

/- Orders with priority are shipped to one country only. -/
def expressCheck : GlobalCheck where
  test := fun params =>
    let country :=
      ((Fields.lookup? params "shipping").bind fun shipping =>
        shipping.get? "country").bind Value.toText?
    let abroad :=
      match country with
      | some country => country != "DE"
      | none => false
    if textOf? params "priority" == some "express" && abroad then
      .error "express shipping is only available in DE"
    else
      .ok ()
  halts := false

/- An order that is shipped to an address and has items. -/
def orderDraft
    (address item : Schema) : SchemaDraft :=
  { SchemaDraft.ofName "order" with
    params :=
      [{ ParameterDraft.ofType "id" (.scalar "integer") with
          required := true, source := .path },
        { ParameterDraft.ofType "shipping" (.nested address) with
          source := .body },
        { ParameterDraft.ofType "items" (.arrayOfNested item) with
          required := true, source := .body },
        { ParameterDraft.ofType "priority" (.scalar "string") with
          source := .query
          default := .fixed (.string "standard")
          checks := [.among [.string "standard", .string "express"]] }]
    globals := [expressCheck] }

/- The schema of an order. -/
def order
    (patterns : PatternLibrary) : Except SchemaError Schema :=
  match address patterns, item patterns with
  | .ok address, .ok item => (orderDraft address item).build patterns
  | .error e, _ => .error e
  | _, .error e => .error e

/- The events of building an order and the schemas that it refers to. -/
def orderEvents
    (patterns : PatternLibrary) : List Event :=
  addressDraft.events patterns ++ itemDraft.events patterns ++
    match address patterns, item patterns with
    | .ok address, .ok item => (orderDraft address item).events patterns
    | _, _ => []

end Samples

end Intake
