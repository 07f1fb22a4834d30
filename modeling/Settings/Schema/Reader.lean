/-
Settings/Schema/Reader.lean

Schemas as they are written in definition files.  A setting is an object that
holds its field and the members of its domain side by side; unlike the other
structures it is read as a whole, so that all its values must be readable.
-/
import Settings.Definition
import Settings.Schema

namespace Settings

open Definition

/-! ### Domains -/

/-- A truth value. -/
def boolean? : Raw → Option Bool
  | .boolean value => some value
  | _ => none

/-- A whole number of 64 bits. -/
def integer? : Raw → Option Int64
  | .integer value => Value.integerOf? value
  | _ => none

/-- A number. -/
def decimal? : Raw → Option Float
  | .decimal value => some value
  | .integer value => some (Float.ofInt value)
  | _ => none

/-- A number of decimal places. -/
def places? : Raw → Option UInt32
  | .integer value =>
    if 0 ≤ value && value ≤ 0xFFFFFFFF then some (UInt32.ofNat value.toNat) else none
  | _ => none

/-- The number of decimal places where none is given. -/
def defaultPlaces : UInt32 := 2

/-- The kind of a domain, by its name or by its number. -/
def kind? (format : Format) : Raw → Option Kind
  | .string "bool" => some .boolean
  | .string "integer" => some .integer
  | .string "decimal" => some .decimal
  | .string "enum" => some .choice
  | .integer n =>
    if format.countsUnsigned && 0 ≤ n then
      [Kind.boolean, .integer, .decimal, .choice][n.toNat]?
    else none
  | _ => none

/-- The domain of a setting with the given entries. -/
def domain? (format : Format) (entries : List (String × Raw)) : Option Domain := do
  let member (name : String) := single? name entries
  match ← required? (kind? format) (← member "data_type") with
  | .boolean =>
    return .boolean (← required? boolean? (← member "default"))
  | .integer =>
    let default ← required? integer? (← member "default")
    let min ← optional? integer? (← member "min")
    let max ← optional? integer? (← member "max")
    return .integer default ⟨min, max⟩
  | .decimal =>
    let default ← required? decimal? (← member "default")
    let min ← optional? decimal? (← member "min")
    let max ← optional? decimal? (← member "max")
    let places ← orElse? defaultPlaces places? (← member "decimal_places")
    return .decimal default ⟨min, max⟩ places
  | .choice =>
    let default ← required? text? (← member "default")
    let enumKey ← required? text? (← member "enum_key")
    return .choice default enumKey

/-- A setting, at the given level of nesting. -/
def PropertySpec.ofRaw? (format : Format) (level : Nat) : Raw → Option PropertySpec
  | .object entries => do
    let room := format.levels.map (· - level)
    guard (entries.all fun entry => entry.2.fits room)
    let field ← required? text? (← single? "field" entries)
    let domain ← domain? format entries
    return ⟨field, domain⟩
  | _ => none

/-- A category. -/
def CategorySpec.ofRaw? (format : Format) (raw : Raw) : Option CategorySpec := do
  match ← members? format ["title", "image", "properties"] raw with
  | [title, image, properties] =>
    let title ← required? text? title
    let image ← optional? text? image
    let properties ← orElse? [] (list? (PropertySpec.ofRaw? format 5)) properties
    return ⟨title, image, properties⟩
  | _ => none

/-- A schema. -/
def Schema.ofRaw? (format : Format) (raw : Raw) : Option Schema := do
  match ← members? format ["categories", "enums"] raw with
  | [categories, enums] =>
    let categories ← orElse? [] (list? (CategorySpec.ofRaw? format)) categories
    let enums ← orElse? [] (table? (list? text?)) enums
    return ⟨categories, enums⟩
  | _ => none

/-- Loads a schema from a file, if nothing is wrong with it. -/
def Schema.load (tree : FileTree) (path : String) : Except Error Schema := do
  let schema ← Definition.load Schema.ofRaw? tree path
  schema.validate
  return schema

end Settings
