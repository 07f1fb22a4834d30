/-
Settings/Proofs/Edit.lean

What the operations on a property can do to it.  None of them touches anything
but the value and the enforced value, and these two stay among the values that
the setting can hold.  `Property.Edit p q` says that `q` is what such
operations make of `p`; each operation has a lemma that says so, and edits of
edits are edits.
-/
import Settings.Proofs.Setting

namespace Settings

namespace Property

/-- Everything about a property but its value and its enforced value. -/
def frame (p : Property) : Property := { p with setting := p.setting.frame, override := none }

/-- The value and the enforced value are such as the setting can hold. -/
def Settled (p : Property) : Prop :=
  p.setting.Holds p.value ∧ ∀ v, p.override = some v → p.setting.Holds v

/-- The value equals all values that the setting can hold.  Then it is never
replaced by another one. -/
def Stuck (p : Property) : Prop := ∀ v, p.setting.Holds v → (p.value == v) = true

/-- `q` is `p` with other values. -/
structure Edit (p q : Property) : Prop where
  frame : q.frame = p.frame
  settled : p.Settled → q.Settled
  stays : p.Settled → p.Stuck → q.value = p.value

variable {p q r : Property}

@[refl] theorem Edit.refl (p : Property) : Edit p p := ⟨rfl, id, fun _ _ => rfl⟩

theorem Edit.field (h : Edit p q) : q.field = p.field := by
  show q.frame.field = p.frame.field
  rw [h.frame]

theorem Edit.setting_frame (h : Edit p q) : q.setting.frame = p.setting.frame := by
  show q.frame.setting = p.frame.setting
  rw [h.frame]

theorem Edit.default (h : Edit p q) : q.default = p.default := by
  show q.setting.default = p.setting.default
  rw [← Setting.default_frame, h.setting_frame, Setting.default_frame]

theorem Edit.trans (h : Edit p q) (h' : Edit q r) : Edit p r where
  frame := h'.frame.trans h.frame
  settled := fun hp => h'.settled (h.settled hp)
  stays := fun hp hs => by
    have hq := h.stays hp hs
    have hstuck : q.Stuck := by
      intro v hv
      rw [hq]
      exact hs v ((Setting.holds_congr h.setting_frame).mp hv)
    rw [h'.stays (h.settled hp) hstuck, hq]

/-! ### One lemma for each operation -/

/-- Putting in a value that the setting can hold is an edit. -/
theorem edit_put {v : Value} (h : p.Settled → p.setting.Holds v) :
    Edit p { p with setting := p.setting.put v } where
  frame := by simp [Property.frame]
  settled := fun hp => by
    have hc : ∀ w, (p.setting.put v).Holds w ↔ p.setting.Holds w :=
      fun w => Setting.holds_congr (by simp)
    refine ⟨(hc _).mpr (Setting.holds_value_put hp.1 (h hp)), ?_⟩
    intro w hw
    exact (hc w).mpr (hp.2 w hw)
  stays := fun hp hs => by
    have heq : (p.setting.value == v) = true := hs v (h hp)
    show (p.setting.put v).value = p.setting.value
    rw [Setting.put, if_pos heq]

/-- Storing a value is an edit. -/
theorem edit_store {v : Value} {s : Setting} (h : p.setting.store v = .ok s) :
    Edit p { p with setting := s } := by
  obtain ⟨w, hw, rfl⟩ := Setting.store_eq_ok_iff.mp h
  exact edit_put fun _ => Setting.holds_of_fitted hw

theorem edit_of_setValue {v : Value} {change : Option Change}
    (h : p.setValue v = .ok (q, change)) : Edit p q := by
  unfold setValue at h
  split at h
  · cases h
  next s hs =>
    cases h
    exact edit_store hs

theorem edit_restoreDefault (p : Property) : Edit p p.restoreDefault.1 := by
  show Edit p { p with setting := p.setting.reset }
  rw [Setting.reset_eq]
  exact edit_put fun _ => Setting.holds_default _

theorem edit_of_restoreDefault {change : Option Change}
    (h : (.ok p.restoreDefault : Except Malformed _) = .ok (q, change)) : Edit p q := by
  have hq : p.restoreDefault.1 = q := congrArg Prod.fst (Except.ok.inj h)
  rw [← hq]
  exact edit_restoreDefault p

/-- What loading does. -/
theorem load_eq_ok_iff {entry : Json} :
    p.load entry = .ok q ↔ ∃ v w, p.setting.decode entry = .ok v ∧ p.setting.fitted v = .ok w ∧
      q = { p with setting := p.setting.put w } := by
  rw [load]
  cases hd : p.setting.decode entry with
  | error e => simp [Except.bind]
  | ok v =>
    have hstore : (Except.ok v).bind p.setting.store = p.setting.store v := rfl
    rw [hstore, Setting.store_eq]
    cases hw : p.setting.fitted v with
    | error e => simp [Except.map, hw]
    | ok w => simp [Except.map, hw, eq_comm]

theorem edit_of_load {entry : Json} (h : p.load entry = .ok q) : Edit p q := by
  obtain ⟨v, w, -, hw, rfl⟩ := load_eq_ok_iff.mp h
  exact edit_put fun _ => Setting.holds_of_fitted hw

theorem edit_of_map_load {entry : Json} {r : Unit}
    (h : (p.load entry).map (·, ()) = .ok (q, r)) : Edit p q := by
  cases hl : p.load entry with
  | error e =>
    rw [hl] at h
    cases h
  | ok loaded =>
    rw [hl] at h
    cases h
    exact edit_of_load hl

/-- What fitting gives is among the values that the setting can hold. -/
theorem holds_of_fit {v w : Value} (hp : p.Settled) (h : p.setting.fit v = .ok w) :
    p.setting.Holds w := by
  obtain ⟨u, hu, rfl⟩ := Setting.fit_eq_ok_iff.mp h
  exact Setting.holds_value_put hp.1 (Setting.holds_of_fitted hu)

theorem edit_withOverride {next : Option Value}
    (h : p.Settled → ∀ v, next = some v → p.setting.Holds v) :
    Edit p (p.withOverride next).1 := by
  unfold withOverride
  split
  · exact Edit.refl p
  · exact ⟨rfl, fun hp => ⟨hp.1, h hp⟩, fun _ _ => rfl⟩

theorem edit_of_setOverride {value : Option Value} {changes : List Change}
    (h : p.setOverride value = .ok (q, changes)) : Edit p q := by
  cases value with
  | none =>
    have hq : (p.withOverride none).1 = q := congrArg Prod.fst (Except.ok.inj h)
    rw [← hq]
    exact edit_withOverride fun _ v hv => nomatch hv
  | some value =>
    unfold setOverride at h
    simp only at h
    split at h
    · cases h
    next fitted hf =>
      have hq : (p.withOverride (some fitted)).1 = q := congrArg Prod.fst (Except.ok.inj h)
      rw [← hq]
      apply edit_withOverride
      intro hp v hv
      cases hv
      exact holds_of_fit hp hf

end Property

end Settings
