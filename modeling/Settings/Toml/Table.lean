/-
Settings/Toml/Table.lean

Tables of a TOML text while they are being filled.  Every name may be given a
value once.  Beyond that, what may still be added to a table depends on how
it came about (`Origin`):

* a table with a header of its own is closed for dotted names from outside;
* a table that only the header of a table inside it has mentioned may still
  get a header;
* a table that dotted names have made grows by further dotted names only.

A value is closed: nothing is added to an array or an inline table once it is
written.
-/
import Settings.Raw

namespace Settings.Toml

/-- How a table came about. -/
inductive Origin where
  /-- By a header of its own, or as the table that a text starts with. -/
  | header
  /-- By the header of a table inside it. -/
  | implied
  /-- By dotted names. -/
  | dotted
deriving DecidableEq

/-- What stands under a name. -/
inductive Item where
  | value (raw : Raw)
  | table (origin : Origin) (entries : List (String × Item))
  /-- An array of tables, of which the last one is still open. -/
  | tables (earlier : List Raw) (last : List (String × Item))

/-- The entries of a table. -/
abbrev Entries := Fields Item

mutual

/-- The value of an item once nothing is added any more. -/
def Item.close : Item → Raw
  | .value raw => raw
  | .table _ entries => .object (closeEntries entries)
  | .tables earlier last => .array (earlier ++ [.object (closeEntries last)])

/-- The values of entries once nothing is added any more. -/
def closeEntries : List (String × Item) → List (String × Raw)
  | [] => []
  | (name, item) :: rest => (name, item.close) :: closeEntries rest

end

/-- Changes the table at the end of a path, starting at a table of the given
origin.  Tables that are missing on the way are made: by dotted names if
`dotted`, else by a header.  The way through an array of tables goes through
its last one. -/
def changeAt (dotted : Bool) (change : Origin → Entries → Option Entries) :
    (path : List String) → Origin → Entries → Option Entries
  | [], origin, entries => change origin entries
  | name :: path, _, entries =>
    match Fields.get? name entries with
    | none =>
      let origin := if dotted then .dotted else .implied
      (changeAt dotted change path origin []).map fun inner =>
        Fields.insert name (.table origin inner) entries
    | some (.value _) => none
    | some (.table origin inner) =>
      if dotted && origin = .header then none
      else
        (changeAt dotted change path origin inner).map fun inner =>
          Fields.insert name (.table origin inner) entries
    | some (.tables earlier last) =>
      (changeAt dotted change path .header last).map fun last =>
        Fields.insert name (.tables earlier last) entries

/-- A dotted name with its value. -/
structure Pair where
  path : List String
  name : String
  value : Raw

/-- Adds a pair to the table that is being filled. -/
def addPair (entries : Entries) (pair : Pair) : Option Entries :=
  let add (origin : Origin) (inner : Entries) : Option Entries :=
    if pair.path ≠ [] && origin ≠ .dotted then none
    else if Fields.contains pair.name inner then none
    else some (Fields.insert pair.name (.value pair.value) inner)
  changeAt true add pair.path .header entries

/-- A part of a text: a header and the pairs after it. -/
structure Section where
  /-- Whether the header starts one more table of an array. -/
  isArray : Bool
  path : List String
  name : String
  pairs : List Pair

/-- Adds a part to the table of the whole text. -/
def addSection (root : Entries) (part : Section) : Option Entries :=
  let add (_ : Origin) (parent : Entries) : Option Entries :=
    if part.isArray then
      match Fields.get? part.name parent with
      | none =>
        (part.pairs.foldlM addPair []).map fun entries =>
          Fields.insert part.name (.tables [] entries) parent
      | some (.tables earlier last) =>
        (part.pairs.foldlM addPair []).map fun entries =>
          let earlier := earlier ++ [.object (closeEntries last)]
          Fields.insert part.name (.tables earlier entries) parent
      | some _ => none
    else
      match Fields.get? part.name parent with
      | none =>
        (part.pairs.foldlM addPair []).map fun entries =>
          Fields.insert part.name (.table .header entries) parent
      | some (.table .implied inner) =>
        (part.pairs.foldlM addPair inner).map fun entries =>
          Fields.insert part.name (.table .header entries) parent
      | some _ => none
  changeAt false add part.path .header root

end Settings.Toml
