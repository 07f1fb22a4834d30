/-
Settings/Proofs/Dirty.lean

What being dirty means.  The flag compares the values with a baseline, which is
computed anew by some of the operations and left behind by the others.  Along a
run of any steps we remember the whole configuration as it was when it last
came from the defaults or from a file, or went into one (`Tracked.synced`).
The invariant is that the baseline holds its values:

    t.configuration.baseline  =  values t.synced.properties

The main statement is that the flag tells whether some value differs from the
remembered one, and that steps that fail and steps that enforce values make no
difference to it: without them the run ends with the same answer
(`Tracked.isDirty_iff_differs`).
-/
import Settings.Proofs.Bare
import Settings.Proofs.Fitting
import Settings.Proofs.Lookup
import Settings.Proofs.Reading

namespace Settings

/-! ### Operations that succeed -/

/-- Whether the values agree with a file afterwards. -/
def Operation.syncs : Operation → Bool
  | .reload _ => true
  | .write .. => true
  | _ => false

/-- Whether values are enforced. -/
def Operation.enforces : Operation → Bool
  | .setOverride .. => true
  | .applyEnforced .. => true
  | _ => false

namespace Configuration

variable {α : Type} {c d : Configuration}

/-- The configuration after an operation, if the operation succeeds. -/
def attempt (c : Configuration) : Operation → Option Configuration
  | .setValue field value => (c.setValue field value).toOption.map (·.1)
  | .setOverride field value => (c.setOverride field value).toOption.map (·.1)
  | .applyEnforced tree path =>
    (c.applyEnforced tree path).1.toOption.map fun _ => (c.applyEnforced tree path).2
  | .restoreDefaults => some c.restoreDefaults.1
  | .reload tree => (c.reload tree).toOption.map id
  | .write tree path => (c.write tree path).toOption.map (·.2.1)
  | .load field entry =>
    (c.modify field fun p => (p.load entry).map (·, ())).toOption.map (·.1)
  | .restoreDefault field =>
    (c.modify field fun p => .ok p.restoreDefault).toOption.map (·.1)

/-- Where a failure changes nothing, an operation comes to its success or to
nothing. -/
theorem orOld_eq (c : Configuration) (result : Except Error α) (new : α → Configuration) :
    c.orOld result new = (result.toOption.map new).getD c := by
  cases result <;> rfl

/-- What is left is what success leaves. -/
theorem perform_of_attempt {operation : Operation} (h : c.attempt operation = some d) :
    c.perform operation = d := by
  cases operation with
  | applyEnforced tree path =>
    obtain ⟨-, -, rfl⟩ := exists_ok_of_toOption h
    rfl
  | restoreDefaults => exact Option.some.inj h
  | _ => rw [perform, orOld_eq, show Option.map _ _ = some d from h, Option.getD_some]

/-- A failure leaves everything but enforced values. -/
theorem bare_perform_of_attempt {operation : Operation} (h : c.attempt operation = none) :
    (c.perform operation).bare = c.bare := by
  cases operation with
  | applyEnforced tree path => exact bare_applyEnforced c tree path
  | restoreDefaults => cases h
  | _ => rw [perform, orOld_eq, show Option.map _ _ = none from h, Option.getD_none]

/-! ### Enforced values make no difference -/

/-- What enforces values leaves everything else. -/
theorem bare_of_attempt {operation : Operation} (he : operation.enforces = true)
    (h : c.attempt operation = some d) : d.bare = c.bare := by
  cases operation with
  | setOverride field value =>
    obtain ⟨⟨d, changes⟩, hd, rfl⟩ := exists_ok_of_toOption h
    exact bare_of_setOverride hd
  | applyEnforced tree path =>
    obtain ⟨-, -, rfl⟩ := exists_ok_of_toOption h
    exact bare_applyEnforced c tree path
  | _ => cases he

/-- A result that is the same without enforced values. -/
theorem toOption_map_bare {β : Type} {result : Except Error α} {other : Except Error β}
    {f : α → Configuration} {g : β → Configuration} {k : α → β}
    (hr : other = result.map k) (hg : ∀ a, g (k a) = (f a).bare) :
    other.toOption.map g = (result.toOption.map f).map bare := by
  rw [hr]
  cases result with
  | error e => rfl
  | ok a => exact congrArg some (hg a)

/-- So is a change of a property that does not look at the enforced one. -/
theorem modified_bare {field : String} {change : Property → Except Malformed (Property × α)}
    (h : ∀ p, change p.bare = (change p).map fun r => (r.1.bare, r.2)) :
    (c.bare.modify field change).toOption.map (·.1)
      = ((c.modify field change).toOption.map (·.1)).map bare :=
  toOption_map_bare (modify_bare h) fun _ => rfl

/-- Every other operation does the same without enforced values. -/
theorem attempt_bare {operation : Operation} (he : operation.enforces = false)
    (h : c.attempt operation = some d) : c.bare.attempt operation = some d.bare := by
  have hmap : ∀ {e : Option Configuration},
      e = (c.attempt operation).map bare → e = some d.bare := by
    rintro e rfl
    exact congrArg (Option.map bare) h
  cases operation with
  | setOverride field value => cases he
  | applyEnforced tree path => cases he
  | setValue field value => exact hmap (modified_bare fun p => p.setValue_bare value)
  | restoreDefaults => exact hmap (congrArg (some ∘ Prod.fst) c.restoreDefaults_bare)
  | reload tree =>
    obtain ⟨d, hd, rfl⟩ := exists_ok_of_toOption h
    show (c.bare.reload tree).toOption.map id = _
    rw [reload_bare hd]
    rfl
  | write tree path => exact hmap (toOption_map_bare (c.write_bare tree path) fun _ => rfl)
  | load field entry =>
    refine hmap (modified_bare fun p => ?_)
    rw [Property.load_bare]
    cases p.load entry <;> rfl
  | restoreDefault field => exact hmap (modified_bare fun _ => rfl)

/-! ### The baseline -/

/-- The other configuration has the same schema, baseline and fields. -/
structure Alongside (c d : Configuration) : Prop where
  schema_eq : d.schema = c.schema
  baseline_eq : d.baseline = c.baseline
  fields_eq : d.properties.map (·.field) = c.properties.map (·.field)

theorem Alongside.refl (c : Configuration) : Alongside c c := ⟨rfl, rfl, rfl⟩

theorem Alongside.trans {e : Configuration} (h : Alongside c d) (h' : Alongside d e) :
    Alongside c e :=
  ⟨h'.schema_eq.trans h.schema_eq, h'.baseline_eq.trans h.baseline_eq,
    h'.fields_eq.trans h.fields_eq⟩

/-- Enforced values have no part in it. -/
theorem alongside_of_bare_eq (h : d.bare = c.bare) : Alongside c d :=
  ⟨congrArg (·.schema) h, congrArg (·.baseline) h, map_eq_of_bare_eq Property.field_bare h⟩

theorem alongside_of_modify {field : String} {a : α}
    {change : Property → Except Malformed (Property × α)}
    (hchange : ∀ {p q}, change p = .ok (q, a) → q.field = p.field)
    (h : c.modify field change = .ok (d, a)) : Alongside c d := by
  obtain ⟨p, q, hp, hq, rfl⟩ := exists_of_modify h
  exact ⟨rfl, rfl, fields_replace ((hchange hq).trans (field_of_find? hp)) c.properties⟩

theorem alongside_of_edited (h : c.Edited d) : Alongside c d := by
  obtain ⟨properties, he, rfl⟩ := h
  exact ⟨rfl, rfl, (map_eq_map_of_forall₂ (he.imp fun _ _ h => h.field.symm)).symm⟩

/-- Only reading and writing compute the baseline anew. -/
theorem alongside_perform {operation : Operation} (hs : operation.syncs = false) :
    Alongside c (c.perform operation) := by
  cases operation with
  | reload tree => cases hs
  | write tree path => cases hs
  | _ => exact alongside_of_edited (edited_perform nofun nofun)

theorem alongside_performAll {operations : List Operation}
    (h : ∀ operation ∈ operations, operation.syncs = false) :
    Alongside c (c.performAll operations) := by
  induction operations generalizing c with
  | nil => exact Alongside.refl c
  | cons operation rest ih =>
    rw [List.forall_mem_cons] at h
    exact (alongside_perform h.1).trans (ih h.2)

/-- What is read has its own values as the baseline. -/
theorem baseline_of_readWith {tree : FileTree} {name path : String} {schema : Schema}
    {language : Language} (h : readWith tree name schema language path = .ok c) :
    c.baseline = values c.properties := by
  unfold readWith at h
  split at h
  · cases h
  · unfold ofDocument at h
    simp only at h
    split at h
    · cases h
      rfl
    · cases h

/-- What agrees with a file has its own values as the baseline, and the fields
of its schema. -/
structure Synced (c : Configuration) : Prop where
  baseline_eq : c.baseline = values c.properties
  fields_eq : c.properties.map (·.field) = c.schema.properties.map (·.field)

theorem synced_ofDefaults (name : String) (schema : Schema) (language : Language) :
    Synced (ofDefaults name schema language) := ⟨rfl, fields_ofDefaults name schema language⟩

theorem synced_of_readWith {tree : FileTree} {name path : String} {schema : Schema}
    {language : Language} (h : readWith tree name schema language path = .ok c) : Synced c := by
  refine ⟨baseline_of_readWith h, ?_⟩
  rw [(Reachable.read h).fields_eq, (conforms_of_readWith h).schema_eq]

/-- Reading and writing take the values that are there then. -/
theorem synced_of_attempt {operation : Operation} (hs : operation.syncs = true)
    (hc : c.properties.map (·.field) = c.schema.properties.map (·.field))
    (h : c.attempt operation = some d) : Synced d ∧ d.schema = c.schema := by
  cases operation with
  | reload tree =>
    obtain ⟨d, hd, rfl⟩ := exists_ok_of_toOption h
    obtain ⟨path, -, hread⟩ := readWith_of_reload hd
    have hsynced := synced_of_readWith hread
    have hschema : d.bare.schema = c.schema := (conforms_of_readWith hread).schema_eq
    have hfields : d.bare.properties.map (·.field) = d.properties.map (·.field) :=
      map_eq_of_bare_eq Property.field_bare (bare_bare d)
    refine ⟨⟨?_, hfields.symm.trans hsynced.fields_eq⟩, hschema⟩
    exact hsynced.baseline_eq.trans (values_bare d.properties)
  | write tree path =>
    obtain ⟨⟨written, d, tree'⟩, hd, rfl⟩ := exists_ok_of_toOption h
    cases write_eq_ok hd
    exact ⟨⟨rfl, hc⟩, rfl⟩
  | _ => cases hs

/-! ### Runs -/

/-- What a run does: a configuration is made or read, and then things are done
to it. -/
inductive Step where
  | defaults (name : String) (schema : Schema) (language : Language)
  | read (tree : FileTree) (registry : Registry) (language : Language) (path name : String)
  | perform (operation : Operation)
  /-- Makes one property ready for use again, with any lists of choices. -/
  | initialise (field : String) (enums : Fields (List String))

/-- Every schema that comes in is valid. -/
def Step.Valid : Step → Prop
  | .defaults _ schema _ => schema.validate = .ok ()
  | .read _ registry _ _ name => ∀ schema, registry.get name = .ok schema → schema.validate = .ok ()
  | _ => True

/-- A configuration, and what it was when it last agreed with a file or with
the defaults. -/
structure Tracked where
  configuration : Configuration
  synced : Configuration

namespace Tracked

/-- A configuration that has just been made or read. -/
def start (c : Configuration) : Tracked := ⟨c, c⟩

/-- Does an operation.  Reading again and writing set the mark, if they
succeed. -/
def perform (t : Tracked) (operation : Operation) : Tracked :=
  let d := t.configuration.perform operation
  if operation.syncs && (t.configuration.attempt operation).isSome then ⟨d, d⟩
  else { t with configuration := d }

/-- Makes a property ready for use again. -/
def initialise (t : Tracked) (field : String) (enums : Fields (List String)) : Tracked :=
  let result := t.configuration.modify field fun p => .ok (p.initialise enums, ())
  { t with configuration := t.configuration.orOld result (·.1) }

/-- Does a step.  What fails to be read leaves the old configuration, if there
is one. -/
def advance (t : Option Tracked) : Step → Option Tracked
  | .defaults name schema language => some (.start (ofDefaults name schema language))
  | .read tree registry language path name =>
    match read tree registry language path name with
    | .ok c => some (.start c)
    | .error _ => t
  | .perform operation => t.map (·.perform operation)
  | .initialise field enums => t.map (·.initialise field enums)

/-- A run from nothing. -/
def track (steps : List Step) : Option Tracked := steps.foldl advance none

/-- Whether a step succeeds and does not enforce anything. -/
def counts (t : Option Tracked) : Step → Bool
  | .defaults .. => true
  | .read tree registry language path name => (read tree registry language path name).isOk
  | .perform operation =>
    !operation.enforces && t.any fun t => (t.configuration.attempt operation).isSome
  | .initialise field _ => t.any fun t => (t.configuration.property? field).isSome

/-- The steps of a run that succeed and do not enforce anything. -/
def essential (t : Option Tracked) : List Step → List Step
  | [] => []
  | step :: rest =>
    if counts t step then step :: essential (advance t step) rest
    else essential (advance t step) rest

/-- The baseline goes with the mark, and the fields are those of the schema. -/
structure Sound (t : Tracked) : Prop where
  valid : t.configuration.schema.validate = .ok ()
  synced : Synced t.synced
  alongside : Alongside t.synced t.configuration

variable {t : Tracked}

theorem Sound.fields_eq (h : t.Sound) : t.configuration.properties.map (·.field)
    = t.configuration.schema.properties.map (·.field) := by
  rw [h.alongside.fields_eq, h.synced.fields_eq, h.alongside.schema_eq]

theorem sound_start {c : Configuration} (hv : c.schema.validate = .ok ()) (h : Synced c) :
    (start c).Sound := ⟨hv, h, rfl, rfl, rfl⟩

/-- What is alongside stays so. -/
theorem Sound.along {d : Configuration} (h : t.Sound) (hd : Alongside t.configuration d) :
    Sound { t with configuration := d } where
  valid := (congrArg Schema.validate hd.schema_eq).trans h.valid
  synced := h.synced
  alongside := h.alongside.trans hd

/-- One operation. -/
theorem Sound.perform (h : t.Sound) (operation : Operation) : (t.perform operation).Sound := by
  unfold Tracked.perform
  cases ha : t.configuration.attempt operation with
  | none =>
    -- a failure changes at most enforced values
    rw [Option.isSome_none, Bool.and_false]
    exact h.along (alongside_of_bare_eq (bare_perform_of_attempt ha))
  | some d =>
    rw [Option.isSome_some, Bool.and_true, perform_of_attempt ha]
    cases hs : operation.syncs with
    | true =>
      obtain ⟨hsynced, hschema⟩ := synced_of_attempt hs h.fields_eq ha
      exact sound_start ((congrArg Schema.validate hschema).trans h.valid) hsynced
    | false =>
      rw [← perform_of_attempt ha]
      exact h.along (alongside_perform hs)

/-- One step. -/
theorem sound_advance {t : Option Tracked} (h : ∀ s, t = some s → s.Sound) {step : Step}
    (hv : step.Valid) : ∀ s, advance t step = some s → s.Sound := by
  intro s hs
  cases step with
  | defaults name schema language =>
    cases hs
    exact sound_start hv (synced_ofDefaults name schema language)
  | read tree registry language path name =>
    unfold advance at hs
    simp only at hs
    split at hs
    next c hc =>
      cases hs
      unfold Configuration.read at hc
      split at hc
      · cases hc
      next schema hschema =>
        have hvalid : c.schema.validate = .ok () := by
          rw [(conforms_of_readWith hc).schema_eq]
          exact hv schema hschema
        exact sound_start hvalid (synced_of_readWith hc)
    next => exact h s hs
  | perform operation =>
    obtain ⟨s, rfl, rfl⟩ := Option.map_eq_some_iff.mp hs
    exact (h s rfl).perform operation
  | initialise field enums =>
    obtain ⟨s, rfl, rfl⟩ := Option.map_eq_some_iff.mp hs
    refine (h s rfl).along (orOld_of ⟨rfl, rfl, rfl⟩ ?_)
    rintro ⟨d, ⟨⟩⟩ hd
    refine alongside_of_modify ?_ hd
    intro p q hq
    exact congrArg (·.1.field) (Except.ok.inj hq).symm

/-- Any run. -/
theorem sound_track {steps : List Step} (hv : ∀ step ∈ steps, step.Valid) {t : Tracked}
    (h : track steps = some t) : t.Sound := by
  suffices hrun : ∀ (steps : List Step), (∀ step ∈ steps, step.Valid) → ∀ start : Option Tracked,
      (∀ s, start = some s → s.Sound) → ∀ s, steps.foldl advance start = some s → s.Sound from
    hrun steps hv none (fun _ hs => nomatch hs) t h
  intro steps
  induction steps with
  | nil => exact fun _ start hstart => hstart
  | cons step rest ih =>
    intro hv start hstart
    rw [List.forall_mem_cons] at hv
    exact ih hv.2 (advance start step) (sound_advance hstart hv.1)

/-! ### What the flag tells -/

/-- Every property is found in what is remembered, and the baseline holds its
value there. -/
theorem Sound.get?_baseline (h : t.Sound) {p : Property} (hp : p ∈ t.configuration.properties) :
    ∃ q, t.synced.property? p.field = some q ∧
      Fields.get? p.field t.configuration.baseline = some q.value := by
  have hm : p.field ∈ t.synced.properties.map (·.field) := by
    rw [← h.alongside.fields_eq]
    exact List.mem_map_of_mem hp
  obtain ⟨r, hr, hfield⟩ := List.mem_map.mp hm
  have hfound : (t.synced.property? p.field).isSome = true :=
    List.find?_isSome.mpr ⟨r, hr, by simpa using hfield⟩
  obtain ⟨q, hq⟩ := Option.isSome_iff_exists.mp hfound
  refine ⟨q, hq, ?_⟩
  -- the fields of a valid schema are all different
  have hn : (t.synced.properties.map (·.field)).Nodup := by
    rw [← h.alongside.fields_eq, h.fields_eq]
    exact (Schema.validate_eq_ok_iff.mp h.valid).1
  rw [h.alongside.baseline_eq, h.synced.baseline_eq, ← field_of_find? hq]
  exact get?_ofList_map Property.value hn (List.mem_of_find?_eq_some hq)

theorem Sound.isDirty_iff (h : t.Sound) : t.configuration.isDirty = true ↔
    ∃ p ∈ t.configuration.properties, ∃ q, t.synced.property? p.field = some q ∧
      (p.value == q.value) = false := by
  rw [isDirty, List.any_eq_true]
  refine exists_congr fun p => and_congr_right fun hp => ?_
  obtain ⟨q, hq, hget⟩ := h.get?_baseline hp
  rw [hget, hq]
  have hdiffer : (some q.value != some p.value) = !(p.value == q.value) := by
    rw [Value.beq_comm]
    rfl
  rw [hdiffer, Bool.not_eq_true']
  constructor
  · exact fun hne => ⟨q, rfl, hne⟩
  · rintro ⟨r, hr, hne⟩
    cases hr
    exact hne

/-! ### What makes no difference -/

/-- Without enforced values, then and now. -/
def bare (t : Tracked) : Tracked := ⟨t.configuration.bare, t.synced.bare⟩

/-- An operation that counts does the same without enforced values. -/
theorem perform_bare {operation : Operation} (he : operation.enforces = false)
    (ha : (t.configuration.attempt operation).isSome = true) :
    t.bare.perform operation = (t.perform operation).bare := by
  obtain ⟨d, hd⟩ := Option.isSome_iff_exists.mp ha
  have hbare : t.bare.configuration.attempt operation = some d.bare := attempt_bare he hd
  unfold Tracked.perform
  rw [hd, hbare, perform_of_attempt hd, perform_of_attempt hbare]
  cases operation.syncs <;> rfl

/-- Other operations do nothing without enforced values. -/
theorem bare_perform {operation : Operation}
    (h : operation.enforces = true ∨ t.configuration.attempt operation = none) :
    (t.perform operation).bare = t.bare := by
  have hperform : (t.configuration.perform operation).bare = t.configuration.bare := by
    cases ha : t.configuration.attempt operation with
    | none => exact bare_perform_of_attempt ha
    | some d =>
      rw [perform_of_attempt ha]
      exact bare_of_attempt (h.resolve_right (by simp [ha])) ha
  have hmark : (operation.syncs && (t.configuration.attempt operation).isSome) = false := by
    rcases h with he | ha
    · cases operation <;> first | rfl | cases he
    · rw [ha, Option.isSome_none, Bool.and_false]
  unfold Tracked.perform
  rw [hmark]
  exact congrArg (Tracked.mk · t.synced.bare) hperform

theorem initialise_bare (t : Tracked) (field : String) (enums : Fields (List String)) :
    t.bare.initialise field enums = (t.initialise field enums).bare := by
  have hmodify : t.bare.configuration.modify field (fun p => .ok (p.initialise enums, ()))
      = (t.configuration.modify field fun p => .ok (p.initialise enums, ())).map
          fun r => (r.1.bare, r.2) := modify_bare fun _ => rfl
  unfold initialise
  rw [hmodify]
  cases t.configuration.modify field fun p => .ok (p.initialise enums, ()) <;> rfl

variable {s : Option Tracked} {step : Step}

/-- A step that counts does the same without enforced values. -/
theorem advance_bare (h : counts s step = true) :
    advance (s.map bare) step = (advance s step).map bare := by
  cases step with
  | defaults name schema language =>
    show some (start _) = some (start _).bare
    rw [Tracked.bare, start, bare_ofDefaults]
  | read tree registry language path name =>
    rw [counts] at h
    cases hc : read tree registry language path name with
    | error e =>
      rw [hc] at h
      cases h
    | ok c =>
      simp only [advance, hc]
      show some (start c) = some (start c).bare
      rw [Tracked.bare, start, bare_of_read hc]
  | perform operation =>
    obtain ⟨he, ha⟩ := Bool.and_eq_true_iff.mp h
    cases s with
    | none => cases ha
    | some t => exact congrArg some (perform_bare (by simpa using he) ha)
  | initialise field enums =>
    cases s with
    | none => rfl
    | some t => exact congrArg some (t.initialise_bare field enums)

/-- Other steps do nothing without enforced values. -/
theorem bare_advance (h : counts s step = false) : (advance s step).map bare = s.map bare := by
  cases step with
  | defaults name schema language => cases h
  | read tree registry language path name =>
    rw [counts] at h
    cases hc : read tree registry language path name with
    | error e => simp only [advance, hc]
    | ok c =>
      rw [hc] at h
      cases h
  | perform operation =>
    cases s with
    | none => rfl
    | some t =>
      refine congrArg some (bare_perform ?_)
      rcases Bool.and_eq_false_iff.mp h with he | ha
      · exact .inl (by simpa using he)
      · exact .inr (Option.isNone_iff_eq_none.mp (by simpa using ha))
  | initialise field enums =>
    cases s with
    | none => rfl
    | some t =>
      have hnone : t.configuration.property? field = none := by
        simpa [counts] using h
      simp only [advance, Option.map_some, initialise, modify, hnone]
      rfl

/-- A whole run, without the steps that do not count. -/
theorem foldl_essential (s : Option Tracked) (steps : List Step) :
    (essential s steps).foldl advance (s.map bare) = (steps.foldl advance s).map bare := by
  induction steps generalizing s with
  | nil => rfl
  | cons step rest ih =>
    unfold essential
    split
    next h => rw [List.foldl_cons, List.foldl_cons, advance_bare h, ih]
    next h => rw [List.foldl_cons, ← ih, bare_advance (Bool.not_eq_true _ ▸ h)]

/-- **Dirty means different.**  After any run in which all schemas are valid,
the configuration is dirty exactly if some value does not equal the one that
the property had when the configuration was last made, read or written with
success.  The run ends with the same answer without the steps that fail and
those that enforce values. -/
theorem isDirty_iff_differs {steps : List Step} (hv : ∀ step ∈ steps, step.Valid) {t : Tracked}
    (h : track steps = some t) :
    (t.configuration.isDirty = true ↔
      ∃ p ∈ t.configuration.properties, ∃ q, t.synced.property? p.field = some q ∧
        (p.value == q.value) = false) ∧
    ∃ u, track (essential none steps) = some u ∧
      u.configuration.isDirty = t.configuration.isDirty := by
  refine ⟨(sound_track hv h).isDirty_iff, t.bare, ?_, isDirty_bare t.configuration⟩
  have hrun := foldl_essential none steps
  rw [Option.map_none] at hrun
  rw [track, hrun, show steps.foldl advance none = some t from h]
  rfl

/-- The sample is written and changed afterwards.  Then a value is enforced, one
of the wrong kind is refused, and a directory cannot be written. -/
def sampleSteps : List Step :=
  [.defaults "sample" sampleSchema [], .perform (.write .empty "/a.json5"),
    .perform (.setValue "fov" (.integer 70)),
    .perform (.setOverride "braid" (some (.boolean true))),
    .perform (.setValue "fov" (.boolean true)), .perform (.write .empty "/")]

/-- The three last steps make no difference. -/
theorem isDirty_iff_differs_sampleSteps :
    (∀ step ∈ sampleSteps, step.Valid) ∧ (essential none sampleSteps).length = 3 ∧
      ∃ t, track sampleSteps = some t ∧ t.configuration.isDirty = true ∧
        (∃ p ∈ t.configuration.properties, ∃ q, t.synced.property? p.field = some q ∧
          (p.value == q.value) = false) ∧
        ∃ u, track (essential none sampleSteps) = some u ∧ u.configuration.isDirty = true := by
  have hv : ∀ step ∈ sampleSteps, step.Valid := by
    simp [sampleSteps, Step.Valid, validate_sampleSchema]
  have hdirty : (track sampleSteps).map (·.configuration.isDirty) = some true := by
    decide +kernel
  obtain ⟨t, ht, hdirty⟩ := Option.map_eq_some_iff.mp hdirty
  obtain ⟨hiff, u, hu, hsame⟩ := isDirty_iff_differs hv ht
  exact ⟨hv, by decide +kernel, t, ht, hdirty, hiff.mp hdirty, u, hu, hsame.trans hdirty⟩

end Tracked

end Configuration

end Settings
