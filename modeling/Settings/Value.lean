/-
Settings/Value.lean

The values of settings, in four kinds: on or off, whole numbers, decimals,
and one choice out of a list.  A value has a text that is shown (`text`), a
reader for what people type (`parse?`) and an encoding in documents
(`toJson`).

Two values are equal (`==`) if they are of one kind and equal in it; decimals
are compared as numbers, so that the two zeros are equal and what is not a
number equals nothing.
-/
import Settings.Text.Blank
import Settings.Decimal.Layout
import Settings.Decimal.Reader
import Settings.Json

namespace Settings

/-- The kinds of values. -/
inductive Kind where
  | boolean
  | integer
  | decimal
  | choice
deriving DecidableEq

/-- The name of a kind in messages. -/
def Kind.name : Kind → String
  | .boolean => "boolean"
  | .integer => "integer"
  | .decimal => "decimal"
  | .choice => "enum"

/-- The value of a setting. -/
inductive Value where
  | boolean (value : Bool)
  | integer (value : Int64)
  | decimal (value : Float)
  /-- One identifier out of a list of choices. -/
  | choice (name : String)
deriving BEq, DecidableEq

namespace Value

/-- The kind of a value. -/
def kind : Value → Kind
  | .boolean _ => .boolean
  | .integer _ => .integer
  | .decimal _ => .decimal
  | .choice _ => .choice

/-- The text that is shown for a value. -/
def text : Value → String
  | .boolean value => if value then "true" else "false"
  | .integer value => toString value.toInt
  | .decimal value => Decimal.shownText value
  | .choice name => name

/-- The encoding of a value in documents.  Decimals that are not finite become
`null`. -/
def toJson : Value → Json
  | .boolean value => .boolean value
  | .integer value => .integer value
  | .decimal value => if value.isFinite then .decimal value else .null
  | .choice name => .string name

/-! ### Reading what people type -/

/-- The words for on and off. -/
def parseBoolean? (text : List Char) : Option Bool :=
  let word := String.ofList (text.map Decimal.lowerLatin)
  if word = "true" || word = "on" || word = "yes" || word = "1" then some true
  else if word = "false" || word = "off" || word = "no" || word = "0" then some false
  else none

/-- A whole number of 64 bits, if it is one. -/
def integerOf? (n : Int) : Option Int64 :=
  if Int64.minValue.toInt ≤ n && n ≤ Int64.maxValue.toInt then some (Int64.ofInt n) else none

/-- A sign and digits, in the range of 64 bits. -/
def parseInteger? (text : List Char) : Option Int64 :=
  let (negative, digits) := Decimal.spanSign text
  if digits = [] || !digits.all Decimal.isDigit then none
  else
    let size := Decimal.natOfDigits digits
    integerOf? (if negative then -size else size)

/-- Reads a text as a value of the given kind.  White space around it does
not count. -/
def parse? (kind : Kind) (text : String) : Option Value :=
  let text := Text.trim text.toList
  match kind with
  | .boolean => (parseBoolean? text).map .boolean
  | .integer => (parseInteger? text).map .integer
  | .decimal => (Decimal.read? text).map .decimal
  | .choice => some (.choice (String.ofList text))

end Value

end Settings
