/-
Settings/Proofs/Restoring.lean

Going back to the defaults.  Each property whose value differs from its default
takes the default, and tells so; the others stay as they are, and nothing but
values is touched:

    c.restoreDefaults  =
      ({ c with properties := c.properties.map restored }, one change for each that differs)

Afterwards every value is its default only if every default equals itself,
which a decimal that is not a number does not.  The check of a schema lets no
such default in, and nothing that is done later makes one
(`Tracked.fits_track`).

The main statement is `Tracked.restoreDefaults_restores`, for every run in
which all schemas are valid.
-/
import Settings.Proofs.Dirty
import Settings.Proofs.Instantiation
import Settings.Proofs.Keeping

namespace Settings

/-! ### Defaults that equal themselves -/

namespace Setting

variable {s t : Setting} {enums : Fields (List String)}

/-- A default that fits equals itself, since only numbers equal anything. -/
theorem Fits.beq_default (h : s.Fits) : (s.default == s.default) = true := by
  cases h with
  | boolean slot => exact beq_self_eq_true slot.default
  | integer _ => exact beq_self_eq_true (α := Int64) _
  | @decimal slot bounds places h =>
    show (slot.default == slot.default) = true
    exact BEq.trans (BEq.symm h) h
  | choice slot key choices => exact beq_self_eq_true slot.default

/-- Whether the default fits does not depend on the value. -/
theorem fits_frame_iff : s.frame.Fits ↔ s.Fits := by
  cases s with
  | boolean slot => exact iff_of_true (.boolean _) (.boolean _)
  | integer slot bounds => exact ⟨fun | .integer h => .integer h, fun | .integer h => .integer h⟩
  | decimal slot bounds places =>
    exact ⟨fun | .decimal h => .decimal h, fun | .decimal h => .decimal h⟩
  | choice slot key choices => exact iff_of_true (.choice _ _ _) (.choice _ _ _)

theorem Fits.of_frame_eq (h : s.Fits) (heq : t.frame = s.frame) : t.Fits := by
  rw [← fits_frame_iff, heq, fits_frame_iff]
  exact h

/-- Choices are the only thing that a list of choices changes. -/
theorem Fits.withChoices (h : s.Fits) : (s.withChoices enums).Fits := by
  cases h with
  | boolean slot => exact .boolean slot
  | integer h => exact .integer h
  | decimal h => exact .decimal h
  | choice slot key choices => exact .choice _ _ _

/-- Making a setting ready for use changes no default that fits. -/
theorem fits_initialise (h : (s.withChoices enums).Fits) : (s.initialise enums).Fits := by
  have hframe : (s.initialise enums).frame = (s.withChoices enums).frame := by
    rw [initialise, h.fitDefault_eq, reset_eq, frame_put]
  exact h.of_frame_eq hframe

end Setting

/-! ### Properties -/

namespace Property

variable {p : Property}

/-- The property with its default, unless its value equals that already. -/
def restored (p : Property) : Property :=
  if p.isDefault then p else { p with setting := p.setting.frame }

/-- A setting in its frame has its default. -/
theorem value_frame (s : Setting) : s.frame.value = s.default :=
  Setting.value_withValue (Setting.kind_default s)

/-- What going back does to one property, and what it tells. -/
theorem restoreDefault_eq (p : Property) :
    p.restoreDefault = (p.restored, if p.isDefault then none else some ⟨p.field, .value⟩) := by
  have hreset : p.setting.reset = if p.isDefault then p.setting else p.setting.frame :=
    Setting.reset_eq p.setting
  rw [restoreDefault, hreset, restored, valueChange]
  split
  next h =>
    have hself : (p.value == p.value) = true := Value.beq_self_of_beq h
    exact congrArg (Prod.mk p) (if_pos hself)
  next h =>
    have hne : ¬ (p.value == p.setting.frame.value) = true := by
      rw [value_frame]
      exact h
    rw [if_neg hne]

@[simp] theorem field_restored (p : Property) : p.restored.field = p.field := by
  unfold restored
  split <;> rfl

@[simp] theorem default_restored (p : Property) : p.restored.default = p.default := by
  unfold restored
  split
  · rfl
  · exact Setting.default_frame p.setting

/-- The value equals the default then, if anything does. -/
theorem isDefault_restored (h : (p.default == p.default) = true) :
    p.restored.isDefault = true := by
  unfold restored
  split
  next hd => exact hd
  next =>
    show (p.setting.frame.value == p.setting.frame.default) = true
    rw [value_frame, Setting.default_frame]
    exact h

end Property

namespace Configuration

variable {c d : Configuration}

/-! ### All properties -/

theorem restoreDefaults_eq (c : Configuration) :
    c.restoreDefaults = ({ c with properties := c.properties.map Property.restored },
      (c.properties.filter (!·.isDefault)).map fun p => ⟨p.field, .value⟩) := by
  have htold : ∀ p : Property, p.restoreDefault.2
      = (Option.guard (fun p : Property => !p.isDefault) p).map fun p => ⟨p.field, .value⟩ := by
    intro p
    rw [Property.restoreDefault_eq, Option.guard]
    cases p.isDefault <;> rfl
  have hproperties : (c.properties.map (·.restoreDefault)).map (·.1)
      = c.properties.map Property.restored := by
    rw [List.map_map]
    exact List.map_congr_left fun p _ => congrArg Prod.fst p.restoreDefault_eq
  have hchanges : (c.properties.map (·.restoreDefault)).filterMap (·.2)
      = (c.properties.filter (!·.isDefault)).map fun p => ⟨p.field, .value⟩ := by
    rw [List.filterMap_map, ← List.filterMap_eq_filter, List.map_filterMap]
    exact List.filterMap_congr fun p _ => htold p
  rw [restoreDefaults]
  simp only [hproperties, hchanges]

/-- Where every value is its default there is nothing to go back from. -/
theorem restoreDefaults_eq_self (h : c.isDefault = true) : c.restoreDefaults = (c, []) := by
  rw [isDefault, List.all_eq_true] at h
  have hsame : c.properties.map Property.restored = c.properties :=
    (List.map_congr_left fun p hp => if_pos (h p hp)).trans (List.map_id _)
  have hnone : c.properties.filter (!·.isDefault) = [] := by
    rw [List.filter_eq_nil_iff]
    intro p hp
    rw [h p hp]
    exact Bool.false_ne_true
  rw [restoreDefaults_eq, hsame, hnone, List.map_nil]

/-! ### Defaults that fit -/

/-- Every default is equal to itself within its constraints. -/
def DefaultsFit (c : Configuration) : Prop := ∀ p ∈ c.properties, p.setting.Fits

theorem DefaultsFit.of_edited (h : c.DefaultsFit) (he : c.Edited d) : d.DefaultsFit := by
  obtain ⟨properties, he, rfl⟩ := he
  exact forall_mem_of_forall₂ ((List.forall₂_and_left ..).mpr ⟨h, he⟩)
    fun _ _ ⟨hp, hedit⟩ => hp.of_frame_eq hedit.setting_frame

/-- What is made of a valid schema. -/
theorem Reachable.defaultsFit {schema : Schema} (hv : schema.validate = .ok ())
    (h : Reachable schema c) : c.DefaultsFit := by
  refine forall_mem_of_forall₂ h.edits_fresh fun spec p ⟨hm, hedit⟩ => ?_
  have hfresh : (spec.domain.fresh schema.enums).Fits :=
    Setting.fits_initialise (Domain.fits_withChoices ((Schema.validate_eq_ok_iff.mp hv).2 spec hm))
  exact hfresh.of_frame_eq hedit.setting_frame

theorem DefaultsFit.of_bare (h : c.bare.DefaultsFit) : c.DefaultsFit :=
  fun p hp => h p.bare (List.mem_map_of_mem hp)

/-- One operation. -/
theorem DefaultsFit.perform (h : c.DefaultsFit) (hv : c.schema.validate = .ok ())
    (operation : Operation) : (c.perform operation).DefaultsFit := by
  cases operation with
  | reload tree =>
    refine orOld_of (P := DefaultsFit) h fun d hd => ?_
    -- up to enforced values the file is read anew
    obtain ⟨path, -, hread⟩ := readWith_of_reload hd
    exact ((Reachable.read hread).defaultsFit hv).of_bare
  | write tree path =>
    refine orOld_of (P := DefaultsFit) h fun r hr => ?_
    rw [write_eq_ok hr]
    exact h
  | _ => exact h.of_edited (edited_perform nofun nofun)

/-- Making one property ready for use again. -/
theorem DefaultsFit.initialise (h : c.DefaultsFit) {field : String}
    {enums : Fields (List String)} {d : Configuration} {r : Unit}
    (hd : c.modify field (fun p => .ok (p.initialise enums, ())) = .ok (d, r)) :
    d.DefaultsFit := by
  obtain ⟨p, q, hp, hq, rfl⟩ := exists_of_modify hd
  cases hq
  intro r hr
  rcases mem_replace hr with rfl | hr
  · exact Setting.fits_initialise (h p (List.mem_of_find?_eq_some hp)).withChoices
  · exact h r hr

namespace Tracked

theorem fits_advance {t : Option Tracked} (hs : ∀ s, t = some s → s.Sound)
    (h : ∀ s, t = some s → s.configuration.DefaultsFit) {step : Step} (hv : step.Valid) :
    ∀ s, advance t step = some s → s.configuration.DefaultsFit := by
  intro s hstep
  cases step with
  | defaults name schema language =>
    cases hstep
    exact (Reachable.defaults name language).defaultsFit hv
  | read tree registry language path name =>
    unfold advance at hstep
    simp only at hstep
    split at hstep
    next c hc =>
      cases hstep
      unfold Configuration.read at hc
      split at hc
      · cases hc
      next schema hschema => exact (Reachable.read hc).defaultsFit (hv schema hschema)
    next => exact h s hstep
  | perform operation =>
    obtain ⟨s, rfl, rfl⟩ := Option.map_eq_some_iff.mp hstep
    have hperform := (h s rfl).perform (hs s rfl).valid operation
    unfold Tracked.perform
    simp only
    split <;> exact hperform
  | initialise field enums =>
    obtain ⟨s, rfl, rfl⟩ := Option.map_eq_some_iff.mp hstep
    exact orOld_of (P := DefaultsFit) (h s rfl) fun r hr => (h s rfl).initialise hr

/-- Any run. -/
theorem fits_track {steps : List Step} (hv : ∀ step ∈ steps, step.Valid) {t : Tracked}
    (h : track steps = some t) : t.configuration.DefaultsFit := by
  induction steps using List.reverseRecOn generalizing t with
  | nil => cases h
  | append_singleton front step ih =>
    have hfront : ∀ s ∈ front, s.Valid := fun s hs => hv s (List.mem_append_left _ hs)
    rw [track, List.foldl_concat] at h
    exact fits_advance (fun s hs => sound_track hfront hs) (fun s hs => ih hfront hs)
      (hv step (List.mem_append_right _ List.mem_cons_self)) t h

/-! ### Going back -/

/-- What going back to the defaults leaves of a configuration in a run, and
what it tells. -/
structure Restores (t : Tracked) (d : Configuration) (changes : List Change) : Prop where
  isDefault : d.isDefault = true
  /-- Nothing but values has changed: no enforced value, nor the baseline, the
  path or the further entries. -/
  rest : d = { t.configuration with properties := t.configuration.properties.map Property.restored }
  /-- One change for each value that was not the default, in order. -/
  changes_eq : changes
    = (t.configuration.properties.filter (!·.isDefault)).map fun p => ⟨p.field, .value⟩
  /-- There is nothing left to go back from. -/
  again : d.restoreDefaults = (d, [])
  /-- It is the defaults that are compared with what was last read or written. -/
  isDirty_iff : d.isDirty = true ↔ ∃ p ∈ t.configuration.properties, ∃ q,
    t.synced.property? p.field = some q ∧ (p.default == q.value) = false

/-- **Going back to the defaults** resets everything, and only values, after any
run in which all schemas are valid. -/
theorem restoreDefaults_restores {steps : List Step} (hv : ∀ step ∈ steps, step.Valid)
    {t : Tracked} (h : track steps = some t) :
    t.Restores t.configuration.restoreDefaults.1 t.configuration.restoreDefaults.2 := by
  have hself : ∀ p ∈ t.configuration.properties, p.restored.isDefault = true :=
    fun p hp => Property.isDefault_restored (fits_track hv h p hp).beq_default
  have hd := restoreDefaults_eq t.configuration
  have hsound : Sound { t with configuration := t.configuration.restoreDefaults.1 } :=
    (sound_track hv h).along
      (show Alongside _ (t.configuration.perform .restoreDefaults) from alongside_perform rfl)
  have hdefault : t.configuration.restoreDefaults.1.isDefault = true := by
    rw [hd, isDefault, List.all_map, List.all_eq_true]
    exact hself
  refine ⟨hdefault, congrArg Prod.fst hd, congrArg Prod.snd hd, restoreDefaults_eq_self hdefault, ?_⟩
  rw [hsound.isDirty_iff, hd]
  simp only [List.mem_map, exists_exists_and_eq_and]
  refine exists_congr fun p => and_congr_right fun hp => ?_
  -- what was put in equals the default, so both compare alike
  have hequal : (p.restored.value == p.default) = true := by
    rw [← Property.default_restored]
    exact hself p hp
  rw [Property.field_restored]
  simp only [Value.beq_congr hequal]

/-- A file is read that has two values of its own, a third one is changed, and
one is enforced. -/
def notedSteps : List Step :=
  [.read notedTree [("sample", sampleSchema)] [] "/a.json5" "sample",
    .perform (.setValue "brightness" (.decimal 1.5)),
    .perform (.setOverride "braid" (some (.boolean true)))]

/-- Three values go back, and the file has other ones than the defaults. -/
theorem restoreDefaults_restores_notedSteps :
    (∀ step ∈ notedSteps, step.Valid) ∧ ∃ t, track notedSteps = some t ∧
      t.configuration.restoreDefaults.2
        = [⟨"brightness", .value⟩, ⟨"braid", .value⟩, ⟨"fov", .value⟩] ∧
      t.configuration.restoreDefaults.1.isDirty = true ∧
      t.Restores t.configuration.restoreDefaults.1 t.configuration.restoreDefaults.2 := by
  have hv : ∀ step ∈ notedSteps, step.Valid := by
    have hread : ∀ schema, Registry.get [("sample", sampleSchema)] "sample" = .ok schema →
        schema.validate = .ok () := by
      rintro schema ⟨⟩
      exact validate_sampleSchema
    simp only [notedSteps, List.forall_mem_cons, Step.Valid, List.not_mem_nil, IsEmpty.forall_iff,
      implies_true, and_true]
    exact hread
  have hrun : (track notedSteps).map (fun t =>
      (t.configuration.restoreDefaults.2, t.configuration.restoreDefaults.1.isDirty))
        = some ([⟨"brightness", .value⟩, ⟨"braid", .value⟩, ⟨"fov", .value⟩], true) := by
    decide +kernel
  obtain ⟨t, ht, hresult⟩ := Option.map_eq_some_iff.mp hrun
  obtain ⟨hchanges, hdirty⟩ := Prod.mk.inj hresult
  exact ⟨hv, t, ht, hchanges, hdirty, restoreDefaults_restores hv ht⟩

end Tracked

end Configuration

end Settings
