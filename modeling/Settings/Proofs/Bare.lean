/-
Settings/Proofs/Bare.lean

Configurations without their enforced values.  `bare` takes the enforced
values out of a configuration and leaves everything else.  What does not
enforce anything never looks at them, so it does the same without them:

    c.bare.op  =  c.op.bare

and what does enforce something, or stops half way in trying to, changes
nothing else:

    (enforcing c).bare  =  c.bare

Each operation has its equation here.  What they come to along a run is said
elsewhere.
-/
import Settings.Proofs.Operation
import Settings.Proofs.InPlace.Configuration

namespace Settings

namespace Property

/-- The property without its enforced value. -/
def bare (p : Property) : Property := { p with override := none }

variable {p q : Property}

@[simp] theorem field_bare (p : Property) : p.bare.field = p.field := rfl

@[simp] theorem value_bare (p : Property) : p.bare.value = p.value := rfl

@[simp] theorem bare_bare (p : Property) : p.bare.bare = p.bare := rfl

/-- Without an enforced value there is nothing to take out. -/
theorem bare_eq_self (h : p.override = none) : p.bare = p := by
  rw [bare, ← h]

/-- Putting in a value looks at the setting alone. -/
theorem setValue_bare (p : Property) (v : Value) :
    p.bare.setValue v = (p.setValue v).map fun r => (r.1.bare, r.2) := by
  have hs : p.bare.setting.store v = p.setting.store v := rfl
  unfold setValue
  rw [hs]
  cases p.setting.store v <;> rfl

theorem restoreDefault_bare (p : Property) :
    p.bare.restoreDefault = (p.restoreDefault.1.bare, p.restoreDefault.2) := rfl

theorem load_bare (p : Property) (entry : Json) :
    p.bare.load entry = (p.load entry).map bare := by
  have hs : (p.bare.setting.decode entry).bind p.bare.setting.store
      = (p.setting.decode entry).bind p.setting.store := rfl
  unfold load
  rw [hs]
  cases (p.setting.decode entry).bind p.setting.store <;> rfl

/-- Another enforced value is the only change. -/
theorem bare_withOverride (p : Property) (next : Option Value) :
    (p.withOverride next).1.bare = p.bare := by
  unfold withOverride
  split <;> rfl

theorem bare_of_setOverride {value : Option Value} {changes : List Change}
    (h : p.setOverride value = .ok (q, changes)) : q.bare = p.bare := by
  have hq : ∃ next, (p.withOverride next).1 = q := by
    unfold setOverride at h
    split at h
    · exact ⟨none, congrArg Prod.fst (Except.ok.inj h)⟩
    · split at h
      · cases h
      next fitted _ => exact ⟨some fitted, congrArg Prod.fst (Except.ok.inj h)⟩
  obtain ⟨next, rfl⟩ := hq
  exact bare_withOverride p next

end Property

namespace Configuration

variable {α : Type} {c d : Configuration}

/-- The configuration without its enforced values. -/
def bare (c : Configuration) : Configuration :=
  { c with properties := c.properties.map Property.bare }

@[simp] theorem bare_bare (c : Configuration) : c.bare.bare = c.bare := by
  simp [bare, Function.comp_def]

/-- Where nothing is enforced there is nothing to take out. -/
theorem bare_eq_self (h : ∀ p ∈ c.properties, p.override = none) : c.bare = c := by
  have hp : c.properties.map Property.bare = c.properties :=
    (List.map_congr_left fun p hp => Property.bare_eq_self (h p hp)).trans (List.map_id _)
  rw [bare, hp]

/-- Configurations that are equal up to enforced values have the same values. -/
theorem map_eq_of_bare_eq {β : Type} {f : Property → β} (hf : ∀ p, f p.bare = f p)
    (h : c.bare = d.bare) : c.properties.map f = d.properties.map f := by
  have hp : c.properties.map Property.bare = d.properties.map Property.bare :=
    congrArg Configuration.properties h
  have hmap := congrArg (List.map f) hp
  simpa only [List.map_map, Function.comp_def, hf] using hmap

/-! ### Making and reading -/

theorem override_ofDefaults {name : String} {schema : Schema} {language : Language}
    {p : Property} (hp : p ∈ (ofDefaults name schema language).properties) :
    p.override = none := by
  obtain ⟨spec, -, rfl⟩ := List.mem_map.mp hp
  rfl

theorem bare_ofDefaults (name : String) (schema : Schema) (language : Language) :
    (ofDefaults name schema language).bare = ofDefaults name schema language :=
  bare_eq_self fun _ => override_ofDefaults

theorem values_bare (properties : List Property) :
    values (properties.map Property.bare) = values properties := by
  simp [values, Function.comp_def]

theorem rebase_bare (c : Configuration) : c.bare.rebase = c.rebase.bare := by
  show { c.bare with baseline := values (c.properties.map Property.bare) } = c.rebase.bare
  rw [values_bare]
  rfl

/-- Loading enforces nothing. -/
theorem overrides_loadAll : ∀ (properties : List Property) (document : Document),
    (loadAll properties document).properties.map (·.override) = properties.map (·.override)
  | [], _ => rfl
  | p :: rest, document => by
    unfold loadAll
    split
    · simp only [List.map_cons, overrides_loadAll rest]
    · split
      next q hq =>
        obtain ⟨-, w, -, -, rfl⟩ := Property.load_eq_ok_iff.mp hq
        simp only [List.map_cons, overrides_loadAll rest]
      next => simp only [List.map_cons, overrides_loadAll rest]

/-- So what is read has no enforced values. -/
theorem bare_of_readWith {tree : FileTree} {name path : String} {schema : Schema}
    {language : Language} (h : readWith tree name schema language path = .ok c) : c.bare = c := by
  unfold readWith at h
  split at h
  · cases h
  next document _ =>
    unfold ofDocument at h
    simp only at h
    split at h
    · cases h
      apply bare_eq_self
      intro p hp
      -- the properties come from a configuration that enforces nothing
      have hm : p.override ∈
          (loadAll (ofDefaults name schema language).properties document).properties.map
            (·.override) := List.mem_map_of_mem hp
      rw [overrides_loadAll] at hm
      obtain ⟨q, hq, ho⟩ := List.mem_map.mp hm
      rw [← ho]
      exact override_ofDefaults hq
    · cases h

theorem bare_of_read {tree : FileTree} {registry : Registry} {language : Language}
    {path name : String} (h : read tree registry language path name = .ok c) : c.bare = c := by
  unfold read at h
  split at h
  · cases h
  · exact bare_of_readWith h

/-! ### Views and writing -/

theorem toText_bare (c : Configuration) : c.bare.toText = c.toText := by
  have hknown : c.bare.properties.map (fun p => (p.field, p.exported))
      = c.properties.map fun p => (p.field, p.exported) := by
    show (c.properties.map Property.bare).map _ = _
    rw [List.map_map]
    rfl
  unfold toText toDocument
  rw [hknown]
  rfl

theorem isDirty_bare (c : Configuration) : c.bare.isDirty = c.isDirty := by
  show (c.properties.map Property.bare).any _ = _
  rw [List.any_map]
  rfl

theorem isDefault_bare (c : Configuration) : c.bare.isDefault = c.isDefault := by
  show (c.properties.map Property.bare).all _ = _
  rw [List.all_map]
  rfl

theorem write_bare (c : Configuration) (tree : FileTree) (path : String) :
    c.bare.write tree path = (c.write tree path).map fun r => (r.1, r.2.1.bare, r.2.2) := by
  have hwritten : rebase { c.bare with path := some path }
      = (rebase { c with path := some path }).bare := rebase_bare { c with path := some path }
  rw [write_eq, write_eq, toText_bare, hwritten]
  split
  · rfl
  · cases tree.writeText path c.toText <;> rfl

/-! ### Editing -/

theorem property?_bare (c : Configuration) (field : String) :
    c.bare.property? field = (c.property? field).map Property.bare := by
  show (c.properties.map Property.bare).find? _ = _
  rw [List.find?_map]
  rfl

theorem replace_bare (field : String) (q : Property) : ∀ properties : List Property,
    replace field q.bare (properties.map Property.bare)
      = (replace field q properties).map Property.bare
  | [] => rfl
  | p :: rest => by
    simp only [List.map_cons, replace, Property.field_bare, replace_bare field q rest]
    split <;> rfl

/-- A change that does not look at the enforced value of its property. -/
theorem modify_bare {field : String} {change : Property → Except Malformed (Property × α)}
    (h : ∀ p, change p.bare = (change p).map fun r => (r.1.bare, r.2)) :
    c.bare.modify field change = (c.modify field change).map fun r => (r.1.bare, r.2) := by
  unfold modify
  rw [property?_bare]
  cases c.property? field with
  | none => rfl
  | some p =>
    simp only [Option.map_some, h]
    cases change p with
    | error e => rfl
    | ok r =>
      have hput : replace field r.1.bare c.bare.properties
          = (replace field r.1 c.properties).map Property.bare := replace_bare field r.1 c.properties
      simp only [Except.map, hput]
      rfl

/-- A change of nothing but the enforced value of its property. -/
theorem bare_of_modify {field : String} {change : Property → Except Malformed (Property × α)}
    {a : α} (h : ∀ {p q}, change p = .ok (q, a) → q.bare = p.bare)
    (hm : c.modify field change = .ok (d, a)) : d.bare = c.bare := by
  obtain ⟨p, q, hp, hq, rfl⟩ := exists_of_modify hm
  -- without enforced values the property is put back where it was found
  have hput := replace_bare field q c.properties
  have hfound := property?_bare c field
  rw [hp, Option.map_some, ← h hq] at hfound
  have hself : replace field q.bare (c.properties.map Property.bare)
      = c.properties.map Property.bare := replace_self hfound
  show { c.bare with properties := (replace field q c.properties).map Property.bare } = _
  rw [← hput, hself]
  rfl

theorem setValue_bare (c : Configuration) (field : String) (v : Value) :
    c.bare.setValue field v = (c.setValue field v).map fun r => (r.1.bare, r.2) :=
  modify_bare fun p => p.setValue_bare v

theorem restoreDefaults_bare (c : Configuration) :
    c.bare.restoreDefaults = (c.restoreDefaults.1.bare, c.restoreDefaults.2) := by
  have hresults : c.bare.properties.map (·.restoreDefault)
      = c.properties.map fun p => (p.restoreDefault.1.bare, p.restoreDefault.2) := by
    show (c.properties.map Property.bare).map _ = _
    rw [List.map_map]
    exact List.map_congr_left fun p _ => p.restoreDefault_bare
  unfold restoreDefaults
  rw [hresults]
  simp [bare, Function.comp_def, List.filterMap_map]

/-! ### Enforcing -/

theorem bare_of_setOverride {field : String} {value : Option Value} {changes : List Change}
    (h : c.setOverride field value = .ok (d, changes)) : d.bare = c.bare :=
  bare_of_modify Property.bare_of_setOverride h

/-- Wherever enforcing stops, it has changed nothing else. -/
theorem bare_enforceAll : ∀ (properties : List Property) (values : List (Option Value)),
    (enforceAll properties values).2.map Property.bare = properties.map Property.bare
  | [], _ => rfl
  | _ :: _, [] => rfl
  | p :: rest, value :: values => by
    unfold enforceAll
    split
    · rfl
    next q changes hq =>
      show q.bare :: (enforceAll rest values).2.map Property.bare = _
      rw [Property.bare_of_setOverride hq, bare_enforceAll rest values]
      rfl

theorem bare_applyEnforced (c : Configuration) (tree : FileTree) (path : String) :
    (c.applyEnforced tree path).2.bare = c.bare := by
  unfold applyEnforced
  split
  · rfl
  · unfold enforce
    simp only
    split
    · show { c with properties := (enforceAll c.properties _).2.map Property.bare } = c.bare
      rw [bare_enforceAll]
      rfl
    · rfl

/-! ### Reading again -/

/-- Up to enforced values, reading again is reading the same path. -/
theorem readWith_of_reload {tree : FileTree} (h : c.reload tree = .ok d) :
    ∃ path, c.path = some path ∧
      readWith tree c.schemaName c.schema c.language path = .ok d.bare := by
  unfold reload at h
  split at h
  · cases h
  next path hpath =>
    split at h
    · cases h
    next fresh hf =>
      split at h
      · cases h
      next changes properties he =>
        cases h
        refine ⟨path, hpath, ?_⟩
        have hp := bare_enforceAll fresh.properties (c.properties.map (·.override))
        rw [he] at hp
        have hbare : ({ fresh with properties } : Configuration).bare = fresh.bare := by
          show { fresh with properties := properties.map Property.bare } = fresh.bare
          rw [hp]
          rfl
        rw [hf, hbare, bare_of_readWith hf]

/-- Enforcing nothing where nothing is enforced. -/
theorem enforceAll_none : ∀ {properties : List Property} {values : List (Option Value)},
    (∀ p ∈ properties, p.override = none) → (∀ value ∈ values, value = none) →
      ∃ changes, enforceAll properties values = (.ok changes, properties)
  | [], _, _, _ => ⟨[], rfl⟩
  | _ :: _, [], _, _ => ⟨[], rfl⟩
  | p :: rest, value :: values, hp, hv => by
    rw [List.forall_mem_cons] at hp hv
    obtain ⟨changes, hrest⟩ := enforceAll_none hp.2 hv.2
    have hfirst : p.setOverride value = .ok (p, []) := by
      rw [hv.1]
      simp [Property.setOverride, Property.withOverride, Property.overrideChanges, hp.1]
    refine ⟨[] ++ changes, ?_⟩
    rw [enforceAll, hfirst]
    simp only [hrest]
    rfl

/-- So reading again succeeds without enforced values if it does with them. -/
theorem reload_bare {tree : FileTree} (h : c.reload tree = .ok d) :
    c.bare.reload tree = .ok d.bare := by
  obtain ⟨path, hpath, hread⟩ := readWith_of_reload h
  have hfresh : ∀ p ∈ d.bare.properties, p.override = none := by
    intro p hp
    obtain ⟨q, -, rfl⟩ := List.mem_map.mp hp
    rfl
  have hnone : ∀ value ∈ c.bare.properties.map (·.override), value = none := by
    intro value hm
    obtain ⟨p, hp, rfl⟩ := List.mem_map.mp hm
    obtain ⟨q, -, rfl⟩ := List.mem_map.mp hp
    rfl
  obtain ⟨changes, henforce⟩ := enforceAll_none hfresh hnone
  have hpath' : c.bare.path = some path := hpath
  have hread' : readWith tree c.bare.schemaName c.bare.schema c.bare.language path
      = .ok d.bare := hread
  simp only [reload, hpath', hread', henforce]

end Configuration

end Settings
