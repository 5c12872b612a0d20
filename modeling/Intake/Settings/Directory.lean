/-
  This file defines directories of files, as settings are read
  from them, and which entry a path leads to.

  Key definitions include:
    * `Directory`
    * `Directory.entry?`
    * `Path.extension?`
-/

namespace Intake

------------------------------------------------------------
-- Paths
------------------------------------------------------------

namespace Path

/- The parts of a text between slashes. -/
def splitSlashes : List Char → List (List Char)
  | [] => [[]]
  | c :: rest =>
      match splitSlashes rest with
      | [] => [[c]]
      | first :: others =>
          if c == '/' then [] :: first :: others
          else (c :: first) :: others

/-
  The extension of the file that a path names: what follows
  the last point of its name, unless the name has no point or
  only one in front.
-/
def extension?
    (path : String) : Option String :=
  let name := (splitSlashes path.toList).getLast?.getD []
  let backwards := name.reverse
  match backwards.dropWhile (· != '.') with
  | [] => none
  | [_] => none
  | _ => some (String.ofList (backwards.takeWhile (· != '.')).reverse)

end Path

------------------------------------------------------------
-- Directories
------------------------------------------------------------

namespace Directory

/- What a name in a directory stands for. -/
inductive Entry where
  | file (content : ByteArray)
  | folder

namespace Entry

/- The entry is a folder. -/
def isFolder : Entry → Bool
  | .file _ => false
  | .folder => true

end Entry

end Directory

/-
  A directory by its entries.  An entry further down is named
  by its path.
-/
structure Directory where
  entries : List (String × Directory.Entry)

namespace Directory

/- The directory without entries. -/
def empty : Directory :=
  ⟨[]⟩

/- The entry with a name; a folder may be there only by its entries. -/
def named?
    (dir : Directory)
    (name : String) : Option Entry :=
  match dir.entries.lookup name with
  | some entry => some entry
  | none =>
      if dir.entries.any fun entry => (name ++ "/").isPrefixOf entry.1 then
        some .folder
      else none

/-
  A place that a path leads to: a number of levels above the
  directory, or the folders that lead down to it, the last
  first.
-/
inductive Place where
  | above (levels : Nat)
  | below (names : List String)

/-
  The entry at a place.  Above the directory only the folders
  on the way are known.
-/
def at?
    (dir : Directory) : Place → Option Entry
  | .above _ => some .folder
  | .below [] => some .folder
  | .below names => dir.named? ("/".intercalate names.reverse)

/- The place after a part of a path, which has to lead to a folder so far. -/
def after?
    (dir : Directory)
    (place : Place)
    (part : List Char) : Option Place :=
  if (dir.at? place).any Entry.isFolder then
    if part == [] || part == ['.'] then some place
    else if part == ['.', '.'] then
      match place with
      | .above n => some (.above (n + 1))
      | .below [] => some (.above 1)
      | .below (_ :: names) => some (.below names)
    else
      match place with
      | .above _ => none
      | .below names => some (.below (String.ofList part :: names))
  else none

/- The entry that a path leads to; paths from the root lead nowhere. -/
def entry?
    (dir : Directory)
    (path : String) : Option Entry :=
  if path.isEmpty || "/".isPrefixOf path then none
  else
    ((Path.splitSlashes path.toList).foldlM dir.after? (.below [])).bind
      dir.at?

end Directory

end Intake
