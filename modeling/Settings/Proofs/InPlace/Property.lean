/-
Settings/Proofs/InPlace/Property.lean

Properties that are changed in place.  A value is compared with the one in its
slot and assigned where it differs, and the answer tells whether it has been;
from this answer the change is made that the operation reports.

All of it does what the functions on properties say, or nothing:

    outcome (setValueM v) p     =  wholly p (p.setValue v)
    outcome (setOverrideM v) p  =  wholly p (p.setOverride v)

and where no change is reported the property is the old one
(`eq_of_setValue`, `eq_of_restoreDefault`, `eq_of_setOverride`).
-/
import Settings.Proofs.Fitting
import Settings.Proofs.InPlace.Basic

namespace Settings

open InPlace

/-! ### Settings -/

namespace Setting

variable {ε : Type} {s : Setting}

/-- Puts a value into a slot of the setting, if it differs from the old one.
Tells whether it has. -/
def assignM {α : Type} [BEq α] (make : Slot α → Setting) (slot : Slot α) (value : α) :
    InPlace Setting ε Bool :=
  if slot.value == value then return false
  else do
    set (make { slot with value })
    return true

/-- Fits a value to the setting and puts it in. -/
def storeM (value : Value) : InPlace Setting Mismatch Bool := do
  match ← get, value with
  | .boolean slot, .boolean value => assignM .boolean slot value
  | .integer slot bounds, .integer value =>
    assignM (.integer · bounds) slot (bounds.clamp value)
  | .decimal slot bounds places, .decimal value =>
    if value.isFinite then
      assignM (.decimal · bounds places) slot (fitDecimal bounds places value)
    else throw (.notFinite value)
  | .choice slot enumKey choices, .choice name =>
    if name ∈ choices then assignM (.choice · enumKey choices) slot name
    else throw (.notAChoice choices name)
  | setting, value => throw (.wrongKind setting.kind value)

/-- Puts the default in. -/
def resetM : InPlace Setting ε Bool := do
  match ← get with
  | .boolean slot => assignM .boolean slot slot.default
  | .integer slot bounds => assignM (.integer · bounds) slot slot.default
  | .decimal slot bounds places => assignM (.decimal · bounds places) slot slot.default
  | .choice slot enumKey choices => assignM (.choice · enumKey choices) slot slot.default

/-- A new setting, and the answer whether its value differs from the old one. -/
def reported (s t : Setting) : Except ε Bool × Setting := (.ok (!(s.value == t.value)), t)

/-- Assigning answers whether the value differs from what it has been. -/
theorem outcome_assignM {α : Type} [BEq α] (make : Slot α → Setting) (tag : α → Value)
    (hv : ∀ slot, (make slot).value = tag slot.value) (hb : ∀ a b, (tag a == tag b) = (a == b))
    (slot : Slot α) (a : α) :
    outcome (assignM make slot a : InPlace Setting ε Bool) (make slot)
      = reported (make slot) (make (slot.put a)) := by
  unfold assignM Slot.put reported
  by_cases he : (slot.value == a) = true
  · -- what is equal to something is equal to itself
    have hself : ((make slot).value == (make slot).value) = true := by
      rw [hv]
      exact Value.beq_self_of_beq ((hb _ _).trans he)
    rw [if_pos he, if_pos he, hself]
    rfl
  · have hne : ((make slot).value == (make { slot with value := a }).value) = false := by
      rw [hv, hv, hb]
      exact Bool.eq_false_iff.mpr he
    rw [if_neg he, if_neg he, hne]
    rfl

theorem outcome_assignM_boolean (slot : Slot Bool) (a : Bool) :
    outcome (assignM .boolean slot a : InPlace Setting ε Bool) (.boolean slot)
      = reported (.boolean slot) (.boolean (slot.put a)) :=
  outcome_assignM .boolean .boolean (fun _ => rfl) Value.boolean_beq slot a

theorem outcome_assignM_integer (slot : Slot Int64) (bounds : Bounds Int64) (a : Int64) :
    outcome (assignM (.integer · bounds) slot a : InPlace Setting ε Bool) (.integer slot bounds)
      = reported (.integer slot bounds) (.integer (slot.put a) bounds) :=
  outcome_assignM (.integer · bounds) .integer (fun _ => rfl) Value.integer_beq slot a

theorem outcome_assignM_decimal (slot : Slot Float) (bounds : Bounds Float) (places : UInt32)
    (a : Float) :
    outcome (assignM (.decimal · bounds places) slot a : InPlace Setting ε Bool)
        (.decimal slot bounds places)
      = reported (.decimal slot bounds places) (.decimal (slot.put a) bounds places) :=
  outcome_assignM (.decimal · bounds places) .decimal (fun _ => rfl) Value.decimal_beq slot a

theorem outcome_assignM_choice (slot : Slot String) (key : String) (choices : List String)
    (a : String) :
    outcome (assignM (.choice · key choices) slot a : InPlace Setting ε Bool)
        (.choice slot key choices)
      = reported (.choice slot key choices) (.choice (slot.put a) key choices) :=
  outcome_assignM (.choice · key choices) .choice (fun _ => rfl) Value.choice_beq slot a

/-- Storing in place. -/
theorem outcome_storeM (s : Setting) (v : Value) :
    outcome (storeM v) s
      = wholly s ((s.store v).map fun t => (t, !(s.value == t.value))) := by
  rw [storeM, outcome_bind, outcome_get]
  cases s with
  | boolean slot =>
    cases v with
    | boolean a => exact outcome_assignM_boolean slot a
    | _ => rfl
  | integer slot bounds =>
    cases v with
    | integer a => exact outcome_assignM_integer slot bounds (bounds.clamp a)
    | _ => rfl
  | decimal slot bounds places =>
    cases v with
    | decimal x =>
      by_cases hx : x.isFinite = true
      · simp only [store, if_pos hx]
        exact outcome_assignM_decimal slot bounds places (fitDecimal bounds places x)
      · simp only [store, if_neg hx]
        rfl
    | _ => rfl
  | choice slot key choices =>
    cases v with
    | choice name =>
      by_cases hm : name ∈ choices
      · simp only [store, if_pos hm]
        exact outcome_assignM_choice slot key choices name
      · simp only [store, if_neg hm]
        rfl
    | _ => rfl

/-- Resetting in place never fails. -/
theorem outcome_resetM (s : Setting) :
    outcome (resetM : InPlace Setting ε Bool) s = reported s s.reset := by
  cases s with
  | boolean slot => exact outcome_assignM_boolean slot slot.default
  | integer slot bounds => exact outcome_assignM_integer slot bounds slot.default
  | decimal slot bounds places => exact outcome_assignM_decimal slot bounds places slot.default
  | choice slot key choices => exact outcome_assignM_choice slot key choices slot.default

/-- Where the value has stayed equal, nothing has been put in. -/
theorem put_eq_self {v : Value} (hk : v.kind = s.kind)
    (h : (s.value == (s.put v).value) = true) : s.put v = s := by
  unfold put at h ⊢
  split at h
  next he => rw [if_pos he]
  next hne =>
    rw [value_withValue hk] at h
    exact absurd h hne

theorem eq_of_store {t : Setting} {v : Value} (h : s.store v = .ok t)
    (he : (s.value == t.value) = true) : t = s := by
  obtain ⟨w, hw, rfl⟩ := store_eq_ok_iff.mp h
  exact put_eq_self (kind_of_fitted hw) he

theorem eq_of_reset (h : (s.value == s.reset.value) = true) : s.reset = s := by
  rw [reset_eq] at h ⊢
  exact put_eq_self (kind_default s) h

end Setting

/-! ### Properties -/

namespace Property

variable {α ε : Type} {p q : Property}

/-- Lends the setting of the property. -/
def onSettingM (m : InPlace Setting Mismatch α) : InPlace Property Malformed α := do
  let p ← get
  ExceptT.adapt (·.at p.field) (lend p.setting (fun setting => { p with setting }) m)

/-- The change of a value that has been put in. -/
def reportM (changed : Bool) : InPlace Property ε (Option Change) := do
  let p ← get
  return if changed then some ⟨p.field, .value⟩ else none

/-- Puts a value in. -/
def setValueM (value : Value) : InPlace Property Malformed (Option Change) := do
  let changed ← onSettingM (Setting.storeM value)
  reportM changed

/-- Puts the default in. -/
def restoreDefaultM : InPlace Property Malformed (Option Change) := do
  let changed ← onSettingM Setting.resetM
  reportM changed

/-- Fits a value that is to be enforced, on a copy of the setting. -/
def fitOverrideM (value : Option Value) : InPlace Property Malformed (Option Value) := do
  let p ← get
  match value with
  | none => return none
  | some value => some <$> liftM ((p.setting.fit value).mapError (·.at p.field))

/-- Puts in an enforced value, or none, if it differs from the old one. -/
def assignOverrideM (next : Option Value) : InPlace Property ε (List Change) := do
  let p ← get
  if p.override == next then return []
  else do
    set { p with override := next }
    let q ← get
    return ⟨q.field, .override⟩ :: if p.isEnabled = q.isEnabled then [] else [⟨q.field, .enabled⟩]

/-- Enforces a value, or none. -/
def setOverrideM (value : Option Value) : InPlace Property Malformed (List Change) := do
  let next ← fitOverrideM value
  assignOverrideM next

theorem outcome_onSettingM {m : InPlace Setting Mismatch α} {r : Except Mismatch (Setting × α)}
    (h : outcome m p.setting = wholly p.setting r) :
    outcome (onSettingM m) p
      = wholly p ((r.map fun t => ({ p with setting := t.1 }, t.2)).mapError (·.at p.field)) := by
  have hlend : outcome (lend p.setting (fun setting => { p with setting }) m) p
      = wholly p (r.map fun t => ({ p with setting := t.1 }, t.2)) := outcome_lend rfl h
  exact outcome_adapt_wholly (·.at p.field) hlend

theorem outcome_reportM (changed : Bool) (p : Property) :
    outcome (reportM changed : InPlace Property ε (Option Change)) p
      = (.ok (if changed then some ⟨p.field, .value⟩ else none), p) := rfl

/-- The change tells what the answer of the setting tells. -/
theorem valueChange_eq (p : Property) (next : Value) :
    p.valueChange next = if !(p.value == next) then some ⟨p.field, .value⟩ else none := by
  unfold valueChange
  cases p.value == next <;> rfl

theorem outcome_setValueM (p : Property) (v : Value) :
    outcome (setValueM v) p = wholly p (p.setValue v) := by
  rw [setValueM, outcome_bind_wholly (outcome_onSettingM (Setting.outcome_storeM _ v))
    outcome_reportM, setValue]
  cases p.setting.store v with
  | error e => rfl
  | ok t =>
    show _ = (Except.ok (p.valueChange t.value), { p with setting := t })
    rw [valueChange_eq]
    rfl

theorem outcome_restoreDefaultM (p : Property) :
    outcome restoreDefaultM p = wholly p (.ok p.restoreDefault) := by
  have hreset : outcome (Setting.resetM : InPlace Setting Mismatch Bool) p.setting
      = wholly p.setting (.ok (p.setting.reset, !(p.setting.value == p.setting.reset.value))) :=
    Setting.outcome_resetM p.setting
  rw [restoreDefaultM, outcome_bind_wholly (outcome_onSettingM hreset) outcome_reportM,
    restoreDefault, valueChange_eq]
  rfl

theorem outcome_assignOverrideM (next : Option Value) (p : Property) :
    outcome (assignOverrideM next : InPlace Property ε (List Change)) p
      = (.ok (p.withOverride next).2, (p.withOverride next).1) := by
  rw [assignOverrideM, outcome_bind, outcome_get]
  unfold withOverride overrideChanges
  by_cases he : (p.override == next) = true
  · simp only [if_pos he]
    rfl
  · simp only [if_neg he]
    rfl

/-- Only the fitting can fail, and it comes first. -/
theorem outcome_setOverrideM (p : Property) (value : Option Value) :
    outcome (setOverrideM value) p = wholly p (p.setOverride value) := by
  cases value with
  | none => exact outcome_assignOverrideM none p
  | some value =>
    have hfit : outcome (fitOverrideM (some value)) p
        = wholly p (((p.setting.fit value).mapError (·.at p.field)).map fun v => (p, some v)) := by
      simp only [fitOverrideM, outcome_bind, outcome_get, outcome_map, outcome_lift]
      cases p.setting.fit value <;> rfl
    rw [setOverrideM, outcome_bind_wholly hfit outcome_assignOverrideM, setOverride]
    cases p.setting.fit value <;> rfl

/-! ### Nothing reported, nothing changed -/

/-- Without a change to report the setting has stayed as it was. -/
theorem beq_of_valueChange {next : Value} (h : p.valueChange next = none) :
    (p.value == next) = true := by
  unfold valueChange at h
  split at h
  next he => exact he
  next => cases h

theorem eq_of_setValue {v : Value} (h : p.setValue v = .ok (q, none)) : q = p := by
  unfold setValue at h
  split at h
  · cases h
  next t ht =>
    obtain ⟨rfl, hnone⟩ := Prod.mk.inj (Except.ok.inj h)
    rw [Setting.eq_of_store ht (beq_of_valueChange hnone)]

theorem eq_of_restoreDefault (h : p.restoreDefault.2 = none) : p.restoreDefault.1 = p := by
  show { p with setting := p.setting.reset } = p
  rw [Setting.eq_of_reset (beq_of_valueChange h)]

theorem eq_of_withOverride {next : Option Value} (h : (p.withOverride next).2 = []) :
    (p.withOverride next).1 = p := by
  unfold withOverride overrideChanges at h
  unfold withOverride
  split at h
  next he => exact if_pos he
  next => cases h

theorem eq_of_setOverride {value : Option Value} (h : p.setOverride value = .ok (q, [])) :
    q = p := by
  -- whatever the value has become, it is the present one
  obtain ⟨next, hnext⟩ : ∃ next, p.withOverride next = (q, []) := by
    cases value with
    | none => exact ⟨none, Except.ok.inj h⟩
    | some value =>
      unfold setOverride at h
      simp only at h
      split at h
      · cases h
      next fitted _ => exact ⟨some fitted, Except.ok.inj h⟩
  have hq := eq_of_withOverride (congrArg Prod.snd hnext)
  rwa [hnext] at hq

end Property

end Settings
