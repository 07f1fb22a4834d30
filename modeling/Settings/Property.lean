/-
Settings/Property.lean

A setting while it is being edited.  It has a value and a default, both of the
kind that its domain says, and perhaps an enforced value that takes the place
of its own.

A new value is first fitted (`Setting.fit`): it must be of the right kind,
numbers are brought within their bounds and decimals rounded, and a choice
must be in its list.  A fitted value that equals the present one leaves the
present one in place.  Every operation tells what it has changed.
-/
import Settings.Schema
import Settings.Language
import Settings.Text.Normal

namespace Settings

/-! ### Changes -/

/-- What has changed about a property. -/
inductive Aspect where
  | value
  | override
  /-- Whether the property can be edited. -/
  | enabled
deriving DecidableEq

/-- A change of a property. -/
structure Change where
  field : String
  aspect : Aspect
deriving DecidableEq

/-! ### Values and their defaults -/

/-- A value and the default that it can be reset to. -/
structure Slot (α : Type) where
  value : α
  default : α
deriving DecidableEq

/-- Puts a value into a slot.  An equal value leaves the old one in place. -/
def Slot.put {α : Type} [BEq α] (slot : Slot α) (value : α) : Slot α :=
  if slot.value == value then slot else { slot with value }

/-- Puts the default into a slot. -/
def Slot.reset {α : Type} [BEq α] (slot : Slot α) : Slot α := slot.put slot.default

/-- A value with what it is constrained by. -/
inductive Setting where
  | boolean (slot : Slot Bool)
  | integer (slot : Slot Int64) (bounds : Bounds Int64)
  | decimal (slot : Slot Float) (bounds : Bounds Float) (places : UInt32)
  | choice (slot : Slot String) (enumKey : String) (choices : List String)
deriving DecidableEq

namespace Setting

/-- A setting that has its default.  The list of choices is still empty. -/
def ofDomain : Domain → Setting
  | .boolean default => .boolean ⟨default, default⟩
  | .integer default bounds => .integer ⟨default, default⟩ bounds
  | .decimal default bounds places => .decimal ⟨default, default⟩ bounds places
  | .choice default enumKey => .choice ⟨default, default⟩ enumKey []

/-- The present value. -/
def value : Setting → Value
  | .boolean slot => .boolean slot.value
  | .integer slot _ => .integer slot.value
  | .decimal slot _ _ => .decimal slot.value
  | .choice slot _ _ => .choice slot.value

/-- The default. -/
def default : Setting → Value
  | .boolean slot => .boolean slot.default
  | .integer slot _ => .integer slot.default
  | .decimal slot _ _ => .decimal slot.default
  | .choice slot _ _ => .choice slot.default

/-- The kind of the values. -/
def kind : Setting → Kind
  | .boolean _ => .boolean
  | .integer .. => .integer
  | .decimal .. => .decimal
  | .choice .. => .choice

/-- A decimal within bounds and with a number of places.  It is not looked at
again after rounding. -/
def fitDecimal (bounds : Bounds Float) (places : UInt32) (x : Float) : Float :=
  Decimal.roundTo (bounds.clamp x) places

/-- Fits a value to the setting and puts it in. -/
def store (setting : Setting) (value : Value) : Except Mismatch Setting :=
  match setting, value with
  | .boolean slot, .boolean value => .ok (.boolean (slot.put value))
  | .integer slot bounds, .integer value =>
    .ok (.integer (slot.put (bounds.clamp value)) bounds)
  | .decimal slot bounds places, .decimal value =>
    if value.isFinite then .ok (.decimal (slot.put (fitDecimal bounds places value)) bounds places)
    else .error (.notFinite value)
  | .choice slot enumKey choices, .choice name =>
    if name ∈ choices then .ok (.choice (slot.put name) enumKey choices)
    else .error (.notAChoice choices name)
  | setting, value => .error (.wrongKind setting.kind value)

/-- The value that the setting would have after a value is put in. -/
def fit (setting : Setting) (value : Value) : Except Mismatch Value :=
  (setting.store value).map Setting.value

/-- Puts the default in. -/
def reset : Setting → Setting
  | .boolean slot => .boolean slot.reset
  | .integer slot bounds => .integer slot.reset bounds
  | .decimal slot bounds places => .decimal slot.reset bounds places
  | .choice slot enumKey choices => .choice slot.reset enumKey choices

/-- The value that an entry of a document holds for the setting. -/
def decode (setting : Setting) (entry : Json) : Except Mismatch Value :=
  match setting.kind, entry with
  | .boolean, .boolean value => .ok (.boolean value)
  | .integer, .integer value => .ok (.integer value)
  | .decimal, .integer value => .ok (.decimal (Float.ofInt value.toInt))
  | .decimal, .decimal value => .ok (.decimal value)
  | .choice, .string name => .ok (.choice name)
  | kind, entry => .error (.wrongEntry kind entry)

/-- Gives the setting its list of choices.  A default that is not in the list
gives way to the first choice. -/
def withChoices (enums : Fields (List String)) : Setting → Setting
  | .choice slot enumKey _ =>
    let choices := (Fields.get? enumKey enums).getD []
    let default :=
      if slot.default ∈ choices then slot.default else choices.head?.getD slot.default
    .choice { slot with default } enumKey choices
  | setting => setting

/-- Brings the default of a number within its constraints. -/
def fitDefault : Setting → Setting
  | .integer slot bounds =>
    let fitted := bounds.clamp slot.default
    .integer (if fitted == slot.default then slot else { slot with default := fitted }) bounds
  | .decimal slot bounds places =>
    let fitted := fitDecimal bounds places slot.default
    .decimal (if fitted == slot.default then slot else { slot with default := fitted }) bounds places
  | setting => setting

/-- Makes the setting ready for use, at its default. -/
def initialise (enums : Fields (List String)) (setting : Setting) : Setting :=
  (setting.withChoices enums).fitDefault.reset

end Setting

/-! ### Properties -/

/-- A setting with its name and texts, and the enforced value if there is
one. -/
structure Property where
  field : String
  label : Label
  setting : Setting
  override : Option Value
deriving DecidableEq

namespace Property

/-- The property of a specification, not yet ready for use. -/
def ofSpec (language : Language) (spec : PropertySpec) : Property :=
  ⟨spec.field, language.label spec.field, .ofDomain spec.domain, none⟩

/-- The text that searches look into. -/
def searchText (p : Property) : String :=
  Text.normalize (p.label.title ++ " " ++ p.label.description)

/-- The value that can be edited. -/
def value (p : Property) : Value := p.setting.value

/-- The default. -/
def default (p : Property) : Value := p.setting.default

/-- The value that counts: the enforced one if there is one. -/
def effective (p : Property) : Value := p.override.getD p.value

/-- Whether the property can be edited. -/
def isEnabled (p : Property) : Bool := p.override.isNone

/-- Whether the value equals the default. -/
def isDefault (p : Property) : Bool := p.value == p.default

/-- The entry that documents hold for the value. -/
def exported (p : Property) : Json := p.value.toJson

/-- Makes the property ready for use, at its default. -/
def initialise (enums : Fields (List String)) (p : Property) : Property :=
  { p with setting := p.setting.initialise enums }

/-- The changes between a value and the next one. -/
def valueChange (p : Property) (next : Value) : Option Change :=
  if p.value == next then none else some ⟨p.field, .value⟩

/-- Puts a value in. -/
def setValue (p : Property) (value : Value) : Except Malformed (Property × Option Change) :=
  match p.setting.store value with
  | .error mismatch => .error (mismatch.at p.field)
  | .ok setting => .ok ({ p with setting }, p.valueChange setting.value)

/-- Puts the default in. -/
def restoreDefault (p : Property) : Property × Option Change :=
  let setting := p.setting.reset
  ({ p with setting }, p.valueChange setting.value)

/-- Puts in what an entry of a document holds. -/
def load (p : Property) (entry : Json) : Except Malformed Property :=
  match (p.setting.decode entry).bind p.setting.store with
  | .error mismatch => .error (mismatch.at p.field)
  | .ok setting => .ok { p with setting }

/-- The fitted value of what an entry of a document holds. -/
def decode (p : Property) (entry : Json) : Except Malformed Value :=
  match (p.setting.decode entry).bind p.setting.fit with
  | .error mismatch => .error (mismatch.at p.field)
  | .ok value => .ok value

/-- The changes between an enforced value, or none, and the next. -/
def overrideChanges (p : Property) (next : Option Value) : List Change :=
  if p.override == next then []
  else
    ⟨p.field, .override⟩ :: if p.override.isNone = next.isNone then [] else [⟨p.field, .enabled⟩]

/-- Replaces the enforced value by a value that is fitted, or by none.  An
equal one leaves the old one in place. -/
def withOverride (p : Property) (next : Option Value) : Property × List Change :=
  (if p.override == next then p else { p with override := next }, p.overrideChanges next)

/-- Enforces a value, or none. -/
def setOverride (p : Property) (value : Option Value) :
    Except Malformed (Property × List Change) :=
  match value with
  | none => .ok (p.withOverride none)
  | some value =>
    match p.setting.fit value with
    | .error mismatch => .error (mismatch.at p.field)
    | .ok fitted => .ok (p.withOverride (some fitted))

end Property

end Settings
