/-
Settings/Proofs/Unsaved.lean

The flag and the file.  After a configuration has been saved, there are two
ways to ask whether it has been changed since: the flag, which compares the
values with those that were saved, and saving again, which compares the texts
and writes nothing if they are the same.

The main statement is that the two agree for all runs of edits exactly if every
decimal of the schema has one zero at most (`Unsaved.agrees_iff`).  Where one
has both, the way from one zero to the other leads over another value:

    set x;  set 0;  save;  set x;  set -0

after which the values are equal and the texts are not.
-/
import Settings.Proofs.Dirty
import Settings.Proofs.Keeping
import Settings.Proofs.Saving
import Settings.Proofs.Zeros

namespace Settings

open Settings.Binary Settings.Decimal

/-- Whether values are edited or enforced, and nothing is written or read. -/
def Operation.edits : Operation → Bool
  | .reload _ => false
  | .write .. => false
  | .load .. => false
  | _ => true

theorem Operation.syncs_of_edits {operation : Operation} (h : operation.edits = true) :
    operation.syncs = false ∧ operation.rereads = false := by
  cases operation with
  | reload tree => cases h
  | write tree path => cases h
  | _ => exact ⟨rfl, rfl⟩

namespace Configuration

variable {schema : Schema} {c d : Configuration}

/-! ### Saved configurations -/

/-- A configuration that has been saved and then edited, and the file in which
it was saved. -/
structure Unsaved (schema : Schema) where
  saved : Configuration
  path : String
  tree : FileTree
  operations : List Operation
  /-- It has come out of a write, and the file still has the text of then. -/
  just_saved : ∃ before earlier written after, Reachable schema before ∧
    before.write earlier path = .ok (written, saved, after) ∧
    tree.readText path = after.readText path
  edits : ∀ operation ∈ operations, operation.edits = true

/-- What the edits have led to. -/
def Unsaved.now (u : Unsaved schema) : Configuration := u.saved.performAll u.operations

/-- Saving again would leave the file alone. -/
def Unsaved.Settles (u : Unsaved schema) : Prop :=
  ∃ r, u.now.write u.tree u.path = .ok (false, r)

/-- A write leaves the file alone exactly if it holds the text. -/
theorem exists_write_false_iff {tree : FileTree} {path : String} :
    (∃ r, c.write tree path = .ok (false, r)) ↔ tree.readText path = .ok c.toText := by
  have hsave : ∀ {e : Configuration} (r : Configuration × FileTree),
      write.save tree path c.toText e ≠ .ok (false, r) := by
    intro e r h
    unfold write.save at h
    split at h <;> cases h
  unfold write
  simp only
  split
  next old hold =>
    rw [hold]
    split
    next he => exact iff_of_true ⟨_, rfl⟩ (congrArg _ he)
    next he => exact iff_of_false (not_exists.mpr hsave) (fun h => he (Except.ok.inj h))
  next fault hfault =>
    rw [hfault]
    exact iff_of_false (not_exists.mpr hsave) (fun h => nomatch h)

namespace Unsaved

variable (u : Unsaved schema)

theorem reachable_saved : Reachable schema u.saved := by
  obtain ⟨before, earlier, written, after, hbefore, hw, -⟩ := u.just_saved
  have hperform : before.perform (.write earlier u.path) = u.saved := by
    rw [perform, hw]
    rfl
  exact hperform ▸ .perform _ hbefore

theorem reachable_now : Reachable schema u.now := u.reachable_saved.performAll u.operations

/-- What has been saved is what the baseline and the file hold. -/
theorem saved_spec : u.saved.baseline = values u.saved.properties ∧
    u.tree.readText u.path = .ok u.saved.toText := by
  obtain ⟨before, earlier, written, after, -, hw, hfile⟩ := u.just_saved
  rw [hfile, readText_of_write hw, write_eq_ok hw]
  exact ⟨rfl, rfl⟩

/-- Specification by specification, the properties then and now. -/
theorem forall₂_edits : List.Forall₂ (fun p q => ∃ spec ∈ schema.properties,
      Property.Edit (freshProperty schema.enums u.saved.language spec) p ∧
      Property.Edit (freshProperty schema.enums u.now.language spec) q)
    u.saved.properties u.now.properties :=
  forall₂_join (fun spec _ _ hp hq => ⟨spec, hp.1, hp.2, hq.2⟩) u.reachable_saved.edits_fresh
    u.reachable_now.edits_fresh

theorem forall₂_sameSort : List.Forall₂ SameSort u.saved.properties u.now.properties :=
  u.forall₂_edits.imp fun _ _ ⟨_, _, hp, hq⟩ => sameSort_of_edits hp hq

theorem nodup_saved (hv : schema.validate = .ok ()) :
    (u.saved.properties.map (·.field)).Nodup := by
  rw [u.reachable_saved.fields_eq]
  exact (Schema.validate_eq_ok_iff.mp hv).1

/-- What the flag tells: whether all values equal those that were saved. -/
theorem isDirty_now_iff (hv : schema.validate = .ok ()) : u.now.isDirty = false ↔
    List.Forall₂ (fun p q => (q.value == p.value) = true) u.saved.properties u.now.properties := by
  have halong : Alongside u.saved u.now :=
    alongside_performAll fun operation hm => (Operation.syncs_of_edits (u.edits operation hm)).1
  exact isDirty_eq_false_iff (halong.baseline_eq.trans u.saved_spec.1) (u.nodup_saved hv)
    (u.forall₂_sameSort.imp fun _ _ h => h.1)

/-- What saving again tells: whether all values are written like those that
were saved. -/
theorem settles_iff (hv : schema.validate = .ok ()) : u.Settles ↔
    List.Forall₂ (fun p q => p.value.Alike q.value) u.saved.properties u.now.properties := by
  have hextra : u.now.extra = u.saved.extra :=
    extra_performAll fun operation hm => (Operation.syncs_of_edits (u.edits operation hm)).2
  rw [Settles, exists_write_false_iff, u.saved_spec.2, Except.ok.injEq,
    toText_eq_iff (u.nodup_saved hv) hextra u.forall₂_sameSort]

/-- The two agree where no decimal has two zeros. -/
theorem isDirty_now_iff_settles (hv : schema.validate = .ok ())
    (h0 : ∀ spec ∈ schema.properties, spec.domain.OneZero) :
    u.now.isDirty = false ↔ u.Settles := by
  rw [u.isDirty_now_iff hv, u.settles_iff hv]
  apply iff_of_forall₂ u.forall₂_edits
  rintro p q ⟨spec, hm, hp, hq⟩
  exact beq_iff_alike ((Schema.validate_eq_ok_iff.mp hv).2 spec hm) (h0 spec hm) hp hq

end Unsaved

/-! ### From one zero to the other -/

section

variable {field : String} {default : Float} {bounds : Bounds Float} {places : UInt32}

/-- Within the bounds, each zero is fitted to itself. -/
theorem fitDecimal_zero {z : Float} (hr : (roundTo default places == default) = true)
    (hin : bounds.excludes 0 = false) (hz : (0 == z) = true) :
    Setting.fitDecimal bounds places z = z := by
  obtain ⟨hf, hpos⟩ := Domain.factor_of_valid hr
  have hzero : Domain.Keeps bounds 0 := ⟨by decide +kernel, hin⟩
  rw [Setting.fitDecimal, Bounds.clamp_eq_self (Domain.keeps_of_beq hz hzero).2]
  refine roundTo_of_number_eq_zero (isNaN_of_beq hz).2 ?_ hf hpos
  rw [← number_eq_of_beq hz, number_zero]

/-- The operation puts the number into the property with the field, whatever
the value has been. -/
def Puts (operation : Operation) (field : String) (s : Setting) (x : Float) : Prop :=
  ∀ (c : Configuration) (p : Property), c.property? field = some p → p.setting.frame = s →
    c.perform operation = c.assign { p with setting := p.setting.put (.decimal x) }

theorem puts_setValue {s : Setting} {x : Float} {v : Value} (h : s.fitted v = .ok (.decimal x)) :
    Puts (.setValue field v) field s x := by
  rintro c p hp rfl
  exact perform_setValue hp ((Setting.fitted_frame ..).symm.trans h)

theorem puts_restoreDefault {s : Setting} {x : Float} (h : s.default = .decimal x) :
    Puts (.restoreDefault field) field s x := by
  rintro c p hp rfl
  have hdefault : p.default = .decimal x := (Setting.default_frame _).symm.trans h
  rw [← hdefault]
  exact perform_restoreDefault hp

/-- Each zero can be put in. -/
theorem puts_zero {z : Float} (hr : (roundTo default places == default) = true)
    (hin : bounds.excludes 0 = false) (hz : (0 == z) = true) :
    Puts (.setValue field (.decimal z)) field (.decimal ⟨default, default⟩ bounds places) z := by
  have hfinite : z.isFinite = true := (isFinite_congr hz).symm.trans (by decide +kernel)
  apply puts_setValue
  rw [Setting.fitted, if_pos hfinite, fitDecimal_zero hr hin hz]

/-- Where zero is within the bounds and there is something else, some edit puts
in something else. -/
theorem exists_puts (h0 : ¬ (Domain.decimal default bounds places).OneZero) :
    bounds.excludes 0 = false ∧ ∃ operation x, operation.edits = true ∧ (x == 0) = false ∧
      Puts operation field (.decimal ⟨default, default⟩ bounds places) x := by
  rw [Domain.OneZero, not_or, Bool.not_eq_true] at h0
  refine ⟨h0.1, ?_⟩
  have hset : ∀ x : Float, x.isFinite = true → Puts (.setValue field (.decimal x)) field
      (.decimal ⟨default, default⟩ bounds places) (Setting.fitDecimal bounds places x) :=
    fun x hx => puts_setValue (if_pos hx)
  by_cases hd : (default == 0) = true
  · by_cases hlo : (Setting.fitDecimal bounds places (-largest) == 0) = true
    · have hhi : (Setting.fitDecimal bounds places largest == 0) = false :=
        Bool.eq_false_iff.mpr fun hhi => h0.2 ⟨hd, hlo, hhi⟩
      exact ⟨_, _, rfl, hhi, hset largest isFinite_largest⟩
    · exact ⟨_, _, rfl, Bool.eq_false_iff.mpr hlo, hset (-largest) isFinite_neg_largest⟩
  · exact ⟨_, default, rfl, Bool.eq_false_iff.mpr hd, puts_restoreDefault rfl⟩

/-- From something else, each zero is put in as it is. -/
theorem exists_assign_zero {operation : Operation} {x z : Float} {p : Property}
    (hr : (roundTo default places == default) = true) (hin : bounds.excludes 0 = false)
    (hx : (x == 0) = false) (hz : (0 == z) = true)
    (hputs : Puts operation field (.decimal ⟨default, default⟩ bounds places) x)
    (hp : c.property? field = some p)
    (hframe : p.setting.frame = .decimal ⟨default, default⟩ bounds places) :
    ∃ q : Property, q.field = field ∧ q.value = .decimal z ∧
      q.setting.frame = .decimal ⟨default, default⟩ bounds places ∧
      c.performAll [operation, .setValue field (.decimal z)] = c.assign q := by
  have hfield : p.field = field := field_of_find? hp
  have hkind : ∀ {s : Setting} {y : Float},
      s.frame = .decimal ⟨default, default⟩ bounds places → (Value.decimal y).kind = s.kind := by
    intro s y hs
    rw [← Setting.kind_frame, hs]
    rfl
  obtain ⟨q, hq⟩ : ∃ q : Property, q = { p with setting := p.setting.put (.decimal x) } := ⟨_, rfl⟩
  have hqfield : q.field = field := hq ▸ hfield
  have hqframe : q.setting.frame = .decimal ⟨default, default⟩ bounds places := by
    rw [hq, ← hframe]
    exact Setting.frame_put ..
  refine ⟨{ q with setting := q.setting.put (.decimal z) }, hqfield, ?_, ?_, ?_⟩
  · -- the value in between does not equal the zero, so it gives way
    refine (Setting.value_put (hkind hqframe)).resolve_left ?_
    rintro ⟨-, heq⟩
    rw [hq, Setting.value_put_beq (hkind hframe), Value.decimal_beq] at heq
    rw [BEq.trans heq (BEq.symm hz)] at hx
    cases hx
  · rw [← hqframe]
    exact Setting.frame_put ..
  · show (c.perform operation).perform (.setValue field (.decimal z)) = _
    rw [hputs c p hp hframe, ← hq, puts_zero hr hin hz _ q (property?_assign hp hqfield) hqframe]
    exact assign_assign rfl

end

/-- No value is other than itself. -/
theorem Reachable.beq_self (hv : schema.validate = .ok ()) (hc : Reachable schema c) :
    ∀ p ∈ c.properties, (p.value == p.value) = true :=
  forall_mem_of_forall₂ hc.edits_fresh fun _ _ ⟨hm, hedit⟩ =>
    beq_self_of_edit_fresh ((Schema.validate_eq_ok_iff.mp hv).2 _ hm) hedit

/-- With the other zero in the place of the one that was saved, a configuration
is clean, and saving again changes the file. -/
theorem Unsaved.unsettled_of_zeros (hv : schema.validate = .ok ()) (u : Unsaved schema)
    {q r : Property} (hq : u.saved.property? r.field = some q) (hnow : u.now = u.saved.assign r)
    (hqvalue : q.value = .decimal 0) (hrvalue : r.value = .decimal (-0)) :
    u.now.isDirty = false ∧ ¬ u.Settles := by
  have hreplaced : u.now.properties = replace r.field r u.saved.properties := by
    rw [hnow]
    rfl
  rw [u.isDirty_now_iff hv, u.settles_iff hv, hreplaced,
    forall₂_replace_iff (u.reachable_saved.beq_self hv) hq,
    forall₂_replace_iff (fun _ _ => .inl rfl) hq, hqvalue, hrvalue]
  refine ⟨by decide +kernel, ?_⟩
  rintro (heq | ⟨hfinite, -⟩)
  · revert heq
    decide +kernel
  · exact hfinite (by decide +kernel : (0 : Float).isFinite = true)

/-- A decimal with two zeros gets from the one to the other. -/
theorem exists_unsettled (hv : schema.validate = .ok ()) {spec : PropertySpec}
    (hm : spec ∈ schema.properties) (h0 : ¬ spec.domain.OneZero) :
    ∃ u : Unsaved schema, u.now.isDirty = false ∧ ¬ u.Settles := by
  obtain ⟨hnodup, hvalid⟩ := Schema.validate_eq_ok_iff.mp hv
  obtain ⟨field, domain⟩ := spec
  cases domain with
  | decimal default bounds places =>
    obtain ⟨-, hd, hr⟩ := fault?_decimal_eq_none_iff.mp (hvalid _ hm)
    obtain ⟨hin, operation, x, hedits, hx, hputs⟩ := exists_puts h0
    obtain ⟨p, hp, hframe⟩ : ∃ p, (ofDefaults "" schema []).property? field = some p ∧
        p.setting.frame = .decimal ⟨default, default⟩ bounds places := by
      refine ⟨_, property?_ofDefaults hnodup hm "" [], ?_⟩
      rw [setting_freshProperty schema.enums [] field hd hr]
      rfl
    -- the positive zero is saved
    obtain ⟨q, hqfield, hqvalue, hqframe, hbefore⟩ :=
      exists_assign_zero (z := 0) hr hin hx (by decide +kernel) hputs hp hframe
    obtain ⟨written, saved, after, hw⟩ := exists_write ((ofDefaults "" schema []).assign q)
    have hq : saved.property? field = some q := by
      rw [write_eq_ok hw]
      exact property?_assign hp hqfield
    -- and then the negative one is put in
    obtain ⟨r, hrfield, hrvalue, -, hnow⟩ :=
      exists_assign_zero (z := -0) hr hin hx (by decide +kernel) hputs hq hqframe
    have hreachable : Reachable schema ((ofDefaults "" schema []).assign q) :=
      hbefore ▸ (Reachable.defaults "" []).performAll _
    have hall : ∀ o ∈ [operation, .setValue field (.decimal (-0))], o.edits = true := by
      simp only [List.forall_mem_cons]
      exact ⟨hedits, rfl, List.forall_mem_nil _⟩
    exact ⟨⟨saved, "/settings.json", after, _, ⟨_, _, _, _, hreachable, hw, rfl⟩, hall⟩,
      Unsaved.unsettled_of_zeros hv _ (hrfield ▸ hq) hnow hqvalue hrvalue⟩
  | _ => exact absurd trivial h0

/-- **The flag and the file.**  A configuration that has been saved and then
edited is clean exactly if all values equal those that were saved, and saving
again leaves the file alone exactly if all are written like them.  The two
agree, whatever edits there are, exactly if every decimal of the schema has one
zero at most. -/
theorem Unsaved.agrees_iff (hv : schema.validate = .ok ()) :
    (∀ u : Unsaved schema,
      (u.now.isDirty = false ↔ List.Forall₂ (fun p q => (q.value == p.value) = true)
        u.saved.properties u.now.properties) ∧
      (u.Settles ↔ List.Forall₂ (fun p q => p.value.Alike q.value)
        u.saved.properties u.now.properties)) ∧
    ((∀ u : Unsaved schema, u.now.isDirty = false ↔ u.Settles) ↔
      ∀ spec ∈ schema.properties, spec.domain.OneZero) := by
  refine ⟨fun u => ⟨u.isDirty_now_iff hv, u.settles_iff hv⟩, ?_, ?_⟩
  · intro hall spec hm
    by_contra h0
    obtain ⟨u, hclean, hunsettled⟩ := exists_unsettled hv hm h0
    exact hunsettled ((hall u).mp hclean)
  · exact fun h0 u => u.isDirty_now_iff_settles hv h0

/-- The decimal of the sample has no zero at all. -/
theorem Unsaved.agrees_sampleSchema : sampleSchema.validate = .ok () ∧
    ∀ u : Unsaved sampleSchema, u.now.isDirty = false ↔ u.Settles :=
  ⟨validate_sampleSchema, (Unsaved.agrees_iff validate_sampleSchema).2.mpr (by decide +kernel)⟩

/-- A decimal without bounds has both: the file says `0.0`, and the value is the
negative zero that equals it. -/
theorem not_always_agrees : ¬ ∀ schema : Schema, schema.validate = .ok () →
    ∀ u : Unsaved schema, u.now.isDirty = false ↔ u.Settles := by
  intro h
  have hvalid : openSchema.validate = .ok () :=
    Schema.validate_eq_ok_iff.mpr (by decide +kernel)
  obtain ⟨written, saved, after, hw⟩ := exists_write (ofDefaults "" openSchema [])
  have hsaved := write_eq_ok hw
  have hfile := readText_of_write hw
  have hiff := h openSchema hvalid ⟨saved, "/settings.json", after,
    [.setValue "gain" (.decimal 1.5), .setValue "gain" (.decimal (-0))],
    ⟨_, _, _, _, .defaults "" [], hw, rfl⟩, by decide⟩
  rw [Unsaved.Settles, exists_write_false_iff, Unsaved.now] at hiff
  simp only [hfile, hsaved] at hiff
  revert hiff
  decide +kernel

end Configuration

end Settings
