/-
Settings/Json.lean

The values that documents hold: JSON with whole numbers of 64 bits beside
binary floating point numbers.  An object keeps its entries in order, each
name once.
-/
import Settings.Fields

namespace Settings

/-- A value of a document. -/
inductive Json where
  | null
  | boolean (value : Bool)
  | integer (value : Int64)
  | decimal (value : Float)
  | string (value : String)
  | array (items : List Json)
  | object (entries : List (String × Json))

/-- A document is an object; these are its entries. -/
abbrev Document := Fields Json

end Settings
