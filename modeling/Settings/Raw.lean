/-
Settings/Raw.lean

What a text says before anything is made of it: the tree of its values, with
the names of objects as often as they are written, whole numbers of any size,
and numbers that are not finite.

A leaf can be well formed and still stand for no value: a number that is too
large, or half a surrogate pair.  Such a leaf is `unreadable`.  It is an error
only where somebody looks at it, so that it may stand in a part of the text
that is passed over.
-/
import Settings.Json
import Settings.Value

namespace Settings

/-- A value as it is written. -/
inductive Raw where
  | null
  | boolean (value : Bool)
  | integer (value : Int)
  | decimal (value : Float)
  | string (value : String)
  | array (items : List Raw)
  | object (entries : List (String × Raw))
  /-- Well formed, but without a value. -/
  | unreadable

namespace Raw

/-- A string, unreadable if it has no text. -/
def ofText : Option String → Raw
  | some text => .string text
  | none => .unreadable

/-- An object, unreadable if one of its names is. -/
def ofEntries (entries : List (Option String × Raw)) : Raw :=
  match entries.mapM fun entry => entry.1.map (·, entry.2) with
  | some entries => .object entries
  | none => .unreadable

/-! ### Looking at a value -/

mutual

/-- Whether the whole value can be read, down to the given number of levels
of arrays and objects; to any depth if none is given. -/
def fits (levels : Option Nat) : Raw → Bool
  | .array items => levels ≠ some 0 && itemsFit (levels.map (· - 1)) items
  | .object entries => levels ≠ some 0 && entriesFit (levels.map (· - 1)) entries
  | .unreadable => false
  | _ => true

/-- Whether all items can be read. -/
def itemsFit (levels : Option Nat) : List Raw → Bool
  | [] => true
  | item :: rest => fits levels item && itemsFit levels rest

/-- Whether the values of all entries can be read. -/
def entriesFit (levels : Option Nat) : List (String × Raw) → Bool
  | [] => true
  | (_, value) :: rest => fits levels value && entriesFit levels rest

end

/-! ### The value of a document -/

mutual

/-- The value that documents make of it.  Numbers that are not finite become
`null`, and of several entries with one name the last value stands at the
first position. -/
def toJson? : Raw → Option Json
  | .null => some .null
  | .boolean value => some (.boolean value)
  | .integer value => (Value.integerOf? value).map .integer
  | .decimal value => some (if value.isFinite then .decimal value else .null)
  | .string value => some (.string value)
  | .array items => (itemsToJson? items).map .array
  | .object entries => (entriesToJson? entries).map fun entries => .object (Fields.ofList entries)
  | .unreadable => none

/-- The values of items. -/
def itemsToJson? : List Raw → Option (List Json)
  | [] => some []
  | item :: rest =>
    match toJson? item, itemsToJson? rest with
    | some item, some rest => some (item :: rest)
    | _, _ => none

/-- The values of entries, one for each time a name is written. -/
def entriesToJson? : List (String × Raw) → Option (List (String × Json))
  | [] => some []
  | (name, value) :: rest =>
    match toJson? value, entriesToJson? rest with
    | some value, some rest => some ((name, value) :: rest)
    | _, _ => none

end

end Raw

end Settings
