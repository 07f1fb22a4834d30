/-
Settings/Proofs/Setting.lean

What the operations on a setting leave alone, and what values they put in.

The frame of a setting is all of it but the present value.  `fitted` is what a
value becomes when it is put in, whatever has been there before; together with
`put` it says what `store` does:

    s.store v  =  (s.fitted v).map s.put

So a setting only ever holds its default or a fitted value (`Holds`), and
this depends on the frame alone.
-/
import Settings.Property

namespace Settings

/-! ### Equality of values -/

@[simp] theorem Value.boolean_beq (a b : Bool) :
    (Value.boolean a == Value.boolean b) = (a == b) := rfl

@[simp] theorem Value.integer_beq (a b : Int64) :
    (Value.integer a == Value.integer b) = (a == b) := rfl

@[simp] theorem Value.decimal_beq (a b : Float) :
    (Value.decimal a == Value.decimal b) = (a == b) := rfl

@[simp] theorem Value.choice_beq (a b : String) :
    (Value.choice a == Value.choice b) = (a == b) := rfl

namespace Setting

/-! ### Frames -/

/-- The setting with another value of its kind. -/
def withValue : Setting → Value → Setting
  | .boolean slot, .boolean value => .boolean { slot with value }
  | .integer slot bounds, .integer value => .integer { slot with value } bounds
  | .decimal slot bounds places, .decimal value => .decimal { slot with value } bounds places
  | .choice slot enumKey choices, .choice value => .choice { slot with value } enumKey choices
  | setting, _ => setting

/-- Everything about a setting but its value. -/
def frame (s : Setting) : Setting := s.withValue s.default

/-- Puts in a value.  An equal value leaves the old one in place. -/
def put (s : Setting) (v : Value) : Setting := if s.value == v then s else s.withValue v

/-- What a value becomes when it is put in, whatever has been there before. -/
def fitted (s : Setting) (v : Value) : Except Mismatch Value :=
  match s, v with
  | .boolean _, .boolean value => .ok (.boolean value)
  | .integer _ bounds, .integer value => .ok (.integer (bounds.clamp value))
  | .decimal _ bounds places, .decimal value =>
    if value.isFinite then .ok (.decimal (fitDecimal bounds places value))
    else .error (.notFinite value)
  | .choice _ _ choices, .choice name =>
    if name ∈ choices then .ok (.choice name) else .error (.notAChoice choices name)
  | setting, value => .error (.wrongKind setting.kind value)

/-- A setting puts a value into its slot. -/
theorem put_slot {α : Type} [BEq α] (make : Slot α → Setting) (tag : α → Value)
    (hv : ∀ slot, (make slot).value = tag slot.value) (hb : ∀ a b, (tag a == tag b) = (a == b))
    (hw : ∀ slot a, (make slot).withValue (tag a) = make { slot with value := a })
    (slot : Slot α) (a : α) : (make slot).put (tag a) = make (slot.put a) := by
  unfold put Slot.put
  rw [hv, hb, hw]
  split <;> rfl

@[simp] theorem put_boolean (slot : Slot Bool) (a : Bool) :
    (boolean slot).put (.boolean a) = .boolean (slot.put a) :=
  put_slot boolean .boolean (fun _ => rfl) Value.boolean_beq (fun _ _ => rfl) slot a

@[simp] theorem put_integer (slot : Slot Int64) (bounds : Bounds Int64) (a : Int64) :
    (integer slot bounds).put (.integer a) = .integer (slot.put a) bounds :=
  put_slot (integer · bounds) .integer (fun _ => rfl) Value.integer_beq (fun _ _ => rfl) slot a

@[simp] theorem put_decimal (slot : Slot Float) (bounds : Bounds Float) (places : UInt32)
    (a : Float) :
    (decimal slot bounds places).put (.decimal a) = .decimal (slot.put a) bounds places :=
  put_slot (decimal · bounds places) .decimal (fun _ => rfl) Value.decimal_beq
    (fun _ _ => rfl) slot a

@[simp] theorem put_choice (slot : Slot String) (key : String) (choices : List String)
    (a : String) :
    (choice slot key choices).put (.choice a) = .choice (slot.put a) key choices :=
  put_slot (choice · key choices) .choice (fun _ => rfl) Value.choice_beq (fun _ _ => rfl) slot a

/-- Storing is fitting and then putting in. -/
theorem store_eq (s : Setting) (v : Value) : s.store v = (s.fitted v).map s.put := by
  cases s with
  | boolean slot => cases v <;> simp [store, fitted, Except.map]
  | integer slot bounds => cases v <;> simp [store, fitted, Except.map]
  | decimal slot bounds places =>
    cases v with
    | decimal x => by_cases h : x.isFinite = true <;> simp [store, fitted, Except.map, h]
    | _ => rfl
  | choice slot key choices =>
    cases v with
    | choice name => by_cases h : name ∈ choices <;> simp [store, fitted, Except.map, h]
    | _ => rfl

/-- Resetting puts in the default. -/
theorem reset_eq (s : Setting) : s.reset = s.put s.default := by
  cases s <;> simp [reset, Slot.reset, Setting.default]

@[simp] theorem default_withValue (s : Setting) (v : Value) :
    (s.withValue v).default = s.default := by
  cases s <;> cases v <;> rfl

@[simp] theorem kind_withValue (s : Setting) (v : Value) : (s.withValue v).kind = s.kind := by
  cases s <;> cases v <;> rfl

@[simp] theorem frame_withValue (s : Setting) (v : Value) : (s.withValue v).frame = s.frame := by
  cases s <;> cases v <;> rfl

@[simp] theorem default_frame (s : Setting) : s.frame.default = s.default :=
  default_withValue s _

@[simp] theorem kind_frame (s : Setting) : s.frame.kind = s.kind := kind_withValue s _

@[simp] theorem frame_put (s : Setting) (v : Value) : (s.put v).frame = s.frame := by
  unfold put
  split
  · rfl
  · exact frame_withValue s v

@[simp] theorem kind_value (s : Setting) : s.value.kind = s.kind := by cases s <;> rfl

@[simp] theorem kind_default (s : Setting) : s.default.kind = s.kind := by cases s <;> rfl

/-- A value of the setting's kind is there once it is put in by force. -/
theorem value_withValue {s : Setting} {v : Value} (h : v.kind = s.kind) :
    (s.withValue v).value = v := by
  cases s <;> cases v <;> simp_all [withValue, Setting.value, Setting.kind, Value.kind]

/-- Only values of the setting's kind can be fitted, and they stay of it. -/
theorem kind_of_fitted {s : Setting} {v w : Value} (h : s.fitted v = .ok w) :
    w.kind = s.kind := by
  unfold fitted at h
  split at h
  · cases h
    rfl
  · cases h
    rfl
  · split at h
    · cases h
      rfl
    · cases h
  · split at h
    · cases h
      rfl
    · cases h
  · cases h

/-- Decimals have to be finite, and are clamped and rounded. -/
theorem fitted_decimal_eq_ok_iff {slot : Slot Float} {bounds : Bounds Float} {places : UInt32}
    {v w : Value} :
    (decimal slot bounds places).fitted v = .ok w ↔
      ∃ x, v = .decimal x ∧ x.isFinite = true ∧ w = .decimal (fitDecimal bounds places x) := by
  constructor
  · intro h
    cases v with
    | decimal x =>
      rw [fitted] at h
      split at h
      next hx =>
        cases h
        exact ⟨x, rfl, hx, rfl⟩
      next => cases h
    | _ => cases h
  · rintro ⟨x, rfl, hx, rfl⟩
    exact if_pos hx

/-- Choices have to be in the list, and stay as they are. -/
theorem fitted_choice_eq_ok_iff {slot : Slot String} {key : String} {choices : List String}
    {v w : Value} :
    (choice slot key choices).fitted v = .ok w ↔
      ∃ name ∈ choices, v = .choice name ∧ w = .choice name := by
  constructor
  · intro h
    cases v with
    | choice name =>
      rw [fitted] at h
      split at h
      next hm =>
        cases h
        exact ⟨name, hm, rfl, rfl⟩
      next => cases h
    | _ => cases h
  · rintro ⟨name, hm, rfl, rfl⟩
    exact if_pos hm

/-- What a value becomes depends on the frame only. -/
@[simp] theorem fitted_frame (s : Setting) (v : Value) : s.frame.fitted v = s.fitted v := by
  cases s <;> cases v <;> rfl

/-! ### Values that a setting holds -/

/-- The values that operations can leave in a setting: its default, and what
values become when they are put in. -/
def Holds (s : Setting) (v : Value) : Prop := v = s.default ∨ ∃ w, s.fitted w = .ok v

theorem holds_default (s : Setting) : s.Holds s.default := .inl rfl

theorem holds_of_fitted {s : Setting} {v w : Value} (h : s.fitted v = .ok w) : s.Holds w :=
  .inr ⟨v, h⟩

theorem Holds.kind {s : Setting} {v : Value} (h : s.Holds v) : v.kind = s.kind := by
  rcases h with rfl | ⟨w, hw⟩
  · exact kind_default s
  · exact kind_of_fitted hw

/-- What a setting can hold depends on its frame only. -/
theorem holds_congr {s t : Setting} (h : s.frame = t.frame) {v : Value} :
    s.Holds v ↔ t.Holds v := by
  have hd : s.default = t.default := by rw [← default_frame s, h, default_frame]
  have hf : ∀ w, s.fitted w = t.fitted w := fun w => by
    rw [← fitted_frame s, h, fitted_frame]
  simp only [Holds, hd, hf]

/-- Putting in a value of the right kind leaves it there, or the old one. -/
theorem value_put {s : Setting} {v : Value} (h : v.kind = s.kind) :
    (s.put v).value = s.value ∧ (s.value == v) = true ∨ (s.put v).value = v := by
  unfold put
  split
  next he => exact .inl ⟨rfl, he⟩
  next => exact .inr (value_withValue h)

/-- Putting in a value that the setting can hold leaves one there. -/
theorem holds_value_put {s : Setting} {v : Value} (hs : s.Holds s.value) (hv : s.Holds v) :
    s.Holds (s.put v).value := by
  rcases value_put hv.kind with ⟨h, -⟩ | h
  · rwa [h]
  · rwa [h]

/-- What storing does. -/
theorem store_eq_ok_iff {s t : Setting} {v : Value} :
    s.store v = .ok t ↔ ∃ w, s.fitted v = .ok w ∧ t = s.put w := by
  rw [store_eq]
  cases s.fitted v with
  | error e => simp [Except.map]
  | ok w => simp [Except.map, eq_comm]

/-- What the value after fitting is: the fitted value, or an equal one that
has been there before. -/
theorem fit_eq_ok_iff {s : Setting} {v u : Value} :
    s.fit v = .ok u ↔ ∃ w, s.fitted v = .ok w ∧ u = (s.put w).value := by
  rw [fit, store_eq]
  cases s.fitted v with
  | error e => simp [Except.map]
  | ok w => simp [Except.map, eq_comm]

end Setting

end Settings
