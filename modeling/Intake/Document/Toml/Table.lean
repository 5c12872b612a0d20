import Intake.Document

/-
  This file builds the tables of a TOML document from its
  headers and keys.

  A table may be opened by a header only once, and a key may
  be given only once.  A table that a longer header implies
  may still be opened; one that a key with points implies may
  only get more of such keys.

  Key definitions include:
    * `Toml.Node`
    * `Toml.changeAt`
    * `Toml.openTable`
    * `Toml.openItem`
    * `Toml.assign`
    * `Toml.assignInline`
-/

namespace Intake

namespace Toml

------------------------------------------------------------
-- Nodes
------------------------------------------------------------

/- How a table came to be. -/
inductive Origin where
  | header
  | longerHeader
  | pointedKey
deriving DecidableEq

/-
  A part of a document that is being read: a value, a table,
  or a list of tables of which the last is still open.
-/
inductive Node where
  | value (content : Document)
  | table (origin : Origin) (fields : List (String × Node))
  | tables (items : List (List (String × Node)))

namespace Node

mutual

/- The document of a node. -/
def toDocument : Node → Document
  | .value content => content
  | .table _ fields => .table (fieldsToDocument fields)
  | .tables items => .list (itemsToDocument items)

/- The documents of the fields of a table. -/
def fieldsToDocument :
    List (String × Node) → List (String × Document)
  | [] => []
  | (key, node) :: rest => (key, toDocument node) :: fieldsToDocument rest

/- The documents of a list of tables. -/
def itemsToDocument :
    List (List (String × Node)) → List Document
  | [] => []
  | fields :: rest => .table (fieldsToDocument fields) :: itemsToDocument rest

end

end Node

------------------------------------------------------------
-- Changes
------------------------------------------------------------

/- A change of a table, which may be refused. -/
abbrev Change :=
  Origin → Fields Node → Option (Origin × Fields Node)

/-
  A change of the table at a path.  Tables that are missing on
  the way are made.  Keys with points must not go through a
  table that a header has opened.
-/
def changeAt
    (pointed : Bool)
    (change : Change) : List String → Change
  | [], origin, fields => change origin fields
  | key :: path, origin, fields =>
      match Fields.lookup? fields key with
      | none => do
          let (made, inner) ← changeAt pointed change path
            (if pointed then .pointedKey else .longerHeader) []
          return (origin, Fields.insert fields key (.table made inner))
      | some (.value _) => none
      | some (.table found inner) =>
          if pointed && found == .header then none
          else do
            let (found, inner) ← changeAt pointed change path found inner
            return (origin, Fields.insert fields key (.table found inner))
      | some (.tables items) => do
          let last ← items.getLast?
          let (_, last) ← changeAt pointed change path .header last
          return (origin,
            Fields.insert fields key (.tables (items.dropLast ++ [last])))

/- Open the table with a key by a header. -/
def openField
    (key : String) : Change
  | origin, fields =>
      match Fields.lookup? fields key with
      | none => some (origin, Fields.insert fields key (.table .header []))
      | some (.table .longerHeader inner) =>
          some (origin, Fields.insert fields key (.table .header inner))
      | some _ => none

/- Open another table in the list of tables with a key. -/
def openItemField
    (key : String) : Change
  | origin, fields =>
      match Fields.lookup? fields key with
      | none => some (origin, Fields.insert fields key (.tables [[]]))
      | some (.tables items) =>
          some (origin, Fields.insert fields key (.tables (items ++ [[]])))
      | some _ => none

/-
  Give a field that is not there yet.  After a key with points
  the table must be one that only such keys have made.
-/
def giveField
    (pointed : Bool)
    (key : String)
    (content : Document) : Change
  | origin, fields =>
      if pointed && origin != .pointedKey then none
      else if Fields.contains fields key then none
      else some (origin, Fields.insert fields key (.value content))

------------------------------------------------------------
-- Documents
------------------------------------------------------------

/- The last part of a key and the parts before it. -/
def splitKey?
    (key : List String) : Option (List String × String) :=
  key.getLast?.map fun last => (key.dropLast, last)

/- A change of the root of a document. -/
def changeRoot
    (change : Change)
    (root : Fields Node) : Option (Fields Node) :=
  (change .header root).map Prod.snd

/- Open a table by a header. -/
def openTable
    (header : List String)
    (root : Fields Node) : Option (Fields Node) := do
  let (path, last) ← splitKey? header
  changeRoot (changeAt false (openField last) path) root

/- Open another table of a list of tables by a header. -/
def openItem
    (header : List String)
    (root : Fields Node) : Option (Fields Node) := do
  let (path, last) ← splitKey? header
  changeRoot (changeAt false (openItemField last) path) root

/- Give a key of a table a value. -/
def giveKey
    (key : List String)
    (content : Document) : Change
  | origin, fields => do
      let (path, last) ← splitKey? key
      changeAt true (giveField (!path.isEmpty) last content) path
        origin fields

/- Give a key in the table of a header a value. -/
def assign
    (header key : List String)
    (content : Document)
    (root : Fields Node) : Option (Fields Node) :=
  changeRoot (changeAt false (giveKey key content) header) root

/- The fields of a table in one line, from its keys and values in order. -/
def inlineFields?
    (pairs : List (List String × Document)) : Option (Fields Node) :=
  pairs.foldlM (fun root pair => changeRoot (giveKey pair.1 pair.2) root) []

end Toml

end Intake
