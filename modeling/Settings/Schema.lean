/-
Settings/Schema.lean

Schemas: which settings there are, in categories and in order, what values
each of them takes, and the lists of identifiers that choices are made from.

`Schema.fault?` finds the first thing that is wrong with a schema.  The
properties are gone through in order; one that repeats a field is at fault
for that, and any other one is checked on its own, bounds before default.
-/
import Settings.Error
import Settings.Decimal.Rounding

namespace Settings

/-! ### What a schema says -/

/-- The bounds of a number, each of which may be missing. -/
structure Bounds (α : Type) where
  min : Option α
  max : Option α
deriving DecidableEq

namespace Bounds

variable {α : Type} [LT α] [DecidableLT α]

/-- Whether a number lies beyond one of the bounds. -/
def excludes (bounds : Bounds α) (x : α) : Bool :=
  bounds.min.any (fun min => decide (x < min)) || bounds.max.any (fun max => decide (max < x))

/-- Both bounds, if the lower one is above the upper one. -/
def crossed? (bounds : Bounds α) : Option (α × α) :=
  match bounds with
  | ⟨some min, some max⟩ => if max < min then some (min, max) else none
  | _ => none

/-- Brings a number up to the lower bound, then down to the upper one. -/
def clamp (bounds : Bounds α) (x : α) : α :=
  let x := match bounds.min with
    | some min => if x < min then min else x
    | none => x
  match bounds.max with
  | some max => if max < x then max else x
  | none => x

end Bounds

/-- The values that a setting takes, and the one that it has at first. -/
inductive Domain where
  | boolean (default : Bool)
  | integer (default : Int64) (bounds : Bounds Int64)
  /-- Decimals are kept to a number of places. -/
  | decimal (default : Float) (bounds : Bounds Float) (places : UInt32)
  /-- One identifier of the list with the given name. -/
  | choice (default : String) (enumKey : String)
deriving DecidableEq

/-- A setting of a schema. -/
structure PropertySpec where
  /-- The unique name, in documents and for looking up texts. -/
  field : String
  domain : Domain
deriving DecidableEq

/-- A group of settings. -/
structure CategorySpec where
  /-- The name under which the title is looked up. -/
  title : String
  image : Option String
  properties : List PropertySpec
deriving DecidableEq

/-- A schema. -/
structure Schema where
  categories : List CategorySpec
  /-- The lists of identifiers, by name. -/
  enums : Fields (List String)
deriving DecidableEq

/-- All settings in order. -/
def Schema.properties (schema : Schema) : List PropertySpec :=
  schema.categories.flatMap (·.properties)

/-! ### What can be wrong -/

/-- What is wrong with a setting on its own. -/
def PropertySpec.fault? (spec : PropertySpec) (enums : Fields (List String)) :
    Option SchemaFault :=
  match spec.domain with
  | .boolean _ => none
  | .integer default bounds =>
    match bounds.crossed? with
    | some (min, max) => some (.boundsCrossed spec.field (.integer min) (.integer max))
    | none =>
      if bounds.excludes default then some (.defaultOutside spec.field (.integer default))
      else none
  | .decimal default bounds places =>
    match bounds.crossed? with
    | some (min, max) => some (.boundsCrossed spec.field (.decimal min) (.decimal max))
    | none =>
      if bounds.excludes default then some (.defaultOutside spec.field (.decimal default))
      else if Decimal.roundTo default places != default then
        some (.defaultTooFine spec.field default places)
      else none
  | .choice _ enumKey =>
    match Fields.get? enumKey enums with
    | some (_ :: _) => none
    | _ => some (.choicesMissing spec.field enumKey)

/-- What is wrong first in a list of settings, after the given fields. -/
def firstFault? (enums : Fields (List String)) :
    (seen : List String) → List PropertySpec → Option SchemaFault
  | _, [] => none
  | seen, spec :: rest =>
    if spec.field ∈ seen then some (.duplicateField spec.field)
    else
      match spec.fault? enums with
      | some fault => some fault
      | none => firstFault? enums (spec.field :: seen) rest

/-- What is wrong first with a schema. -/
def Schema.fault? (schema : Schema) : Option SchemaFault :=
  firstFault? schema.enums [] schema.properties

/-- Accepts a schema with which nothing is wrong. -/
def Schema.validate (schema : Schema) : Except Error Unit :=
  match schema.fault? with
  | none => .ok ()
  | some fault => .error (.schema fault)

end Settings
