/-
Settings/Proofs/Lookup.lean

Finding the property of a specification.  The fields of a valid schema are
all different, so looking a field up finds the one property that belongs to
it (`find?_of_forall₂`), and changing the property changes that one
(`property?_setValue`).
-/
import Settings.Proofs.Invariant

namespace Settings

namespace Configuration

/-! ### Lists of properties -/

/-- With different fields, looking up the field of a specification finds the
property in the same place. -/
theorem find?_of_forall₂ {R : PropertySpec → Property → Prop}
    (hfield : ∀ spec p, R spec p → p.field = spec.field) {specs : List PropertySpec}
    {properties : List Property} (h : List.Forall₂ R specs properties)
    (hn : (specs.map (·.field)).Nodup) {spec : PropertySpec} (hm : spec ∈ specs) :
    ∃ p, properties.find? (·.field = spec.field) = some p ∧ R spec p := by
  induction h with
  | nil => cases hm
  | @cons first p rest properties hp _ ih =>
    rw [List.map_cons, List.nodup_cons] at hn
    by_cases he : first.field = spec.field
    · -- no other specification has this field
      rcases List.mem_cons.mp hm with rfl | hm
      · exact ⟨p, by simp [hfield _ _ hp], hp⟩
      · exact absurd (List.mem_map.mpr ⟨spec, hm, he.symm⟩) hn.1
    · have hm : spec ∈ rest := (List.mem_cons.mp hm).resolve_left (fun h => he (h ▸ rfl))
      obtain ⟨q, hq, hr⟩ := ih hn.2 hm
      refine ⟨q, ?_, hr⟩
      rw [List.find?_cons_of_neg (by simpa [hfield _ _ hp] using he)]
      exact hq

/-- What has been put into the place of a property is found there. -/
theorem find?_replace {field : String} {p q : Property} (hq : q.field = field) :
    ∀ {properties : List Property}, properties.find? (·.field = field) = some p →
      (replace field q properties).find? (·.field = field) = some q
  | [], h => by cases h
  | first :: rest, h => by
    by_cases hf : first.field = field
    · rw [replace, if_pos hf]
      exact List.find?_cons_of_pos (by simpa using hq)
    · rw [List.find?_cons_of_neg (by simpa using hf)] at h
      rw [replace, if_neg hf, List.find?_cons_of_neg (by simpa using hf)]
      exact find?_replace hq h

/-- What other fields lead to is the same. -/
theorem find?_replace_of_ne {field other : String} {q : Property} (hq : q.field = field)
    (hne : field ≠ other) :
    ∀ properties : List Property, (replace field q properties).find? (·.field = other)
      = properties.find? (·.field = other)
  | [] => rfl
  | first :: rest => by
    by_cases hf : first.field = field
    · rw [replace, if_pos hf, List.find?_cons_of_neg (by simpa [hq] using hne),
        List.find?_cons_of_neg (by simpa [hf] using hne)]
    · rw [replace, if_neg hf, List.find?_cons, List.find?_cons,
        find?_replace_of_ne hq hne rest]

theorem mem_replace {field : String} {p q : Property} :
    ∀ {properties : List Property}, p ∈ replace field q properties → p = q ∨ p ∈ properties
  | [], h => nomatch h
  | first :: rest, h => by
    unfold replace at h
    split at h
    · exact (List.mem_cons.mp h).imp_right (List.mem_cons_of_mem first)
    · rcases List.mem_cons.mp h with rfl | h
      · exact .inr List.mem_cons_self
      · exact (mem_replace h).imp_right (List.mem_cons_of_mem first)

theorem mem_replace_of_ne {field : String} {p q : Property} (hne : p.field ≠ field) :
    ∀ {properties : List Property}, p ∈ properties → p ∈ replace field q properties
  | first :: rest, h => by
    rw [replace]
    split
    next hf =>
      rcases List.mem_cons.mp h with rfl | h
      · exact absurd hf hne
      · exact List.mem_cons_of_mem q h
    next =>
      rcases List.mem_cons.mp h with rfl | h
      · exact List.mem_cons_self
      · exact List.mem_cons_of_mem first (mem_replace_of_ne hne h)

/-- A property in the place of another one with its field. -/
theorem fields_replace {field : String} {q : Property} (hq : q.field = field) :
    ∀ properties : List Property,
      (replace field q properties).map (·.field) = properties.map (·.field)
  | [] => rfl
  | p :: rest => by
    rw [replace]
    split
    next hp => rw [List.map_cons, List.map_cons, hq, hp]
    next => rw [List.map_cons, List.map_cons, fields_replace hq rest]

theorem field_of_find? {field : String} {p : Property} {properties : List Property}
    (h : properties.find? (·.field = field) = some p) : p.field = field := by
  simpa using List.find?_some h

/-- With different fields, every property is found by its own. -/
theorem find?_of_mem {properties : List Property} (hn : (properties.map (·.field)).Nodup)
    {p : Property} (hp : p ∈ properties) :
    properties.find? (·.field = p.field) = some p := by
  induction properties with
  | nil => cases hp
  | cons first rest ih =>
    rw [List.map_cons, List.nodup_cons] at hn
    rcases List.mem_cons.mp hp with rfl | hp
    · exact List.find?_cons_of_pos (by simp)
    · have hne : first.field ≠ p.field :=
        fun he => hn.1 (List.mem_map.mpr ⟨p, hp, he.symm⟩)
      rw [List.find?_cons_of_neg (by simpa using hne)]
      exact ih hn.2 hp

/-- Every property of a configuration is found by its field. -/
theorem Reachable.property?_of_mem {schema : Schema} {c : Configuration}
    (hv : schema.validate = .ok ()) (hc : Reachable schema c) {p : Property}
    (hp : p ∈ c.properties) : c.property? p.field = some p := by
  have hn : (c.properties.map (·.field)).Nodup := by
    rw [hc.fields_eq]
    exact (Schema.validate_eq_ok_iff.mp hv).1
  exact find?_of_mem hn hp

/-- The fresh property of a specification. -/
theorem find?_map_freshProperty {specs : List PropertySpec} {spec : PropertySpec}
    (hn : (specs.map (·.field)).Nodup) (hm : spec ∈ specs) (enums : Fields (List String))
    (language : Language) :
    (specs.map (freshProperty enums language)).find? (·.field = spec.field)
      = some (freshProperty enums language spec) := by
  have hfresh : List.Forall₂ (fun spec p => p = freshProperty enums language spec)
      specs (specs.map (freshProperty enums language)) := by
    rw [List.forall₂_map_right_iff, List.forall₂_same]
    exact fun spec _ => rfl
  obtain ⟨p, hp, rfl⟩ := find?_of_forall₂ (by rintro spec p rfl; rfl) hfresh hn hm
  exact hp

/-- The property of a specification in the configuration with all defaults. -/
theorem property?_ofDefaults {schema : Schema} {spec : PropertySpec}
    (hn : (schema.properties.map (·.field)).Nodup) (hm : spec ∈ schema.properties)
    (name : String) (language : Language) :
    (ofDefaults name schema language).property? spec.field
      = some (freshProperty schema.enums language spec) :=
  find?_map_freshProperty hn hm schema.enums language

/-- The properties of a new configuration have the fields of the schema. -/
theorem fields_ofDefaults (name : String) (schema : Schema) (language : Language) :
    (ofDefaults name schema language).properties.map (·.field)
      = schema.properties.map (·.field) := by
  show (schema.properties.map _).map _ = _
  rw [List.map_map]
  rfl

/-! ### Changing a property -/

variable {c : Configuration} {field : String} {p : Property}

/-- The configuration with a property in the place of the one with its field. -/
def assign (c : Configuration) (p : Property) : Configuration :=
  { c with properties := replace p.field p c.properties }

/-- What has been put into a place is found there. -/
theorem property?_assign {q : Property} (hp : c.property? field = some p) (hq : q.field = field) :
    (c.assign q).property? field = some q := by
  subst hq
  exact find?_replace rfl hp

/-- What other fields lead to is the same. -/
theorem property?_assign_of_ne {q : Property} (hne : q.field ≠ field) :
    (c.assign q).property? field = c.property? field :=
  find?_replace_of_ne rfl hne c.properties

/-- The fields are the same. -/
theorem fields_assign (c : Configuration) (q : Property) :
    (c.assign q).properties.map (·.field) = c.properties.map (·.field) :=
  fields_replace rfl c.properties

/-- What is put into a place for a second time is what stays there. -/
theorem assign_assign {q r : Property} (h : r.field = q.field) :
    (c.assign q).assign r = c.assign r := by
  have hreplace : ∀ properties,
      replace q.field r (replace q.field q properties) = replace q.field r properties := by
    intro properties
    induction properties with
    | nil => rfl
    | cons first rest ih =>
      by_cases hf : first.field = q.field
      · rw [replace, if_pos hf, replace, if_pos rfl, replace, if_pos hf]
      · rw [replace, if_neg hf, replace, if_neg hf, replace, if_neg hf, ih]
  rw [assign, assign, assign, h]
  simp only [hreplace]

/-- What is put into different places can be put there in either order. -/
theorem assign_comm {q r : Property} (hne : q.field ≠ r.field) :
    (c.assign q).assign r = (c.assign r).assign q := by
  have hreplace : ∀ properties, replace r.field r (replace q.field q properties)
      = replace q.field q (replace r.field r properties) := by
    intro properties
    induction properties with
    | nil => rfl
    | cons first rest ih =>
      by_cases hq : first.field = q.field
      · have hr : first.field ≠ r.field := hq ▸ hne
        rw [replace, if_pos hq, replace, if_neg hne, replace, if_neg hr, replace, if_pos hq]
      · by_cases hr : first.field = r.field
        · rw [replace, if_neg hq, replace, if_pos hr, replace, if_pos hr, replace, if_neg hne.symm]
        · rw [replace, if_neg hq, replace, if_neg hr, replace, if_neg hr, replace, if_neg hq, ih]
  rw [assign, assign, assign, assign]
  simp only [hreplace]

/-- What a successful change leaves. -/
theorem modify_eq_ok {α : Type} {q : Property} {r : α}
    {change : Property → Except Malformed (Property × α)} (hp : c.property? field = some p)
    (hq : change p = .ok (q, r)) (hf : q.field = p.field) :
    c.modify field change = .ok (c.assign q, r) := by
  have hfield : q.field = field := hf.trans (field_of_find? hp)
  subst hfield
  unfold modify
  rw [hp]
  simp only [hq, assign]

/-- Putting in a value that can be fitted. -/
theorem perform_setValue {v w : Value} (hp : c.property? field = some p)
    (hw : p.setting.fitted v = .ok w) :
    c.perform (.setValue field v) = c.assign { p with setting := p.setting.put w } := by
  have hs : p.setting.store v = .ok (p.setting.put w) := by
    rw [Setting.store_eq, hw]
    rfl
  have hset : p.setValue v = .ok ({ p with setting := p.setting.put w },
      p.valueChange (p.setting.put w).value) := by
    unfold Property.setValue
    rw [hs]
  rw [perform, setValue,
    modify_eq_ok (q := { p with setting := p.setting.put w }) hp hset rfl]
  rfl

/-- Putting in the default. -/
theorem perform_restoreDefault (hp : c.property? field = some p) :
    c.perform (.restoreDefault field) = c.assign { p with setting := p.setting.put p.default } := by
  have hreset : (Except.ok p.restoreDefault : Except Malformed _)
      = .ok ({ p with setting := p.setting.put p.default }, p.restoreDefault.2) := by
    rw [Property.default, ← Setting.reset_eq]
    rfl
  rw [perform, modify_eq_ok (q := { p with setting := p.setting.put p.default }) hp hreset rfl]
  rfl

/-- The property that takes a value, afterwards. -/
theorem property?_setValue {v w : Value} (hp : c.property? field = some p)
    (hw : p.setting.fitted v = .ok w) :
    (c.perform (.setValue field v)).property? field
      = some { p with setting := p.setting.put w } := by
  have hfield : p.field = field := field_of_find? hp
  rw [perform_setValue hp hw]
  exact property?_assign hp hfield

end Configuration

end Settings
