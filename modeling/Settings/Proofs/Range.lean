/-
Settings/Proofs/Range.lean

Whether decimals stay finite and within their bounds.  They are clamped first
and rounded afterwards, and nothing is looked at again, so this depends on the
schema: a bound may be finer than the number of places, and a large number may
be too large for the scale.

The main statement is that this is all that it depends on.  A valid schema is
safe, whatever is done, exactly if the default of every decimal and what
becomes of the smallest and of the largest number are finite and within the
bounds (`decimals_kept_iff`).
-/
import Settings.Proofs.Fitting
import Settings.Proofs.Lookup

namespace Settings

/-- The value is a decimal that is finite and within the bounds. -/
def Value.Keeps (bounds : Bounds Float) : Value → Prop
  | .decimal x => Domain.Keeps bounds x
  | _ => False

/-- If the specification is one of a decimal, all values of the property are
finite and within the bounds. -/
def PropertySpec.Kept (spec : PropertySpec) (p : Property) : Prop :=
  p.field = spec.field ∧
    match spec.domain with
    | .decimal _ bounds _ =>
      p.value.Keeps bounds ∧ p.default.Keeps bounds ∧ ∀ v ∈ p.override, v.Keeps bounds
    | _ => True

instance (bounds : Bounds Float) : DecidablePred (Value.Keeps bounds) := fun v => by
  unfold Value.Keeps Domain.Keeps
  split <;> infer_instance

instance (spec : PropertySpec) : DecidablePred spec.Kept := fun p => by
  unfold PropertySpec.Kept
  split <;> infer_instance

namespace Configuration

/-! ### Fresh properties -/

section

variable {enums : Fields (List String)} {default : Float} {bounds : Bounds Float}
  {places : UInt32}

theorem setting_freshProperty (enums : Fields (List String)) (language : Language)
    (field : String) (hd : bounds.excludes default = false)
    (hr : (Decimal.roundTo default places == default) = true) :
    (freshProperty enums language ⟨field, .decimal default bounds places⟩).setting
      = .decimal ⟨default, default⟩ bounds places := by
  show (Domain.decimal default bounds places).fresh enums = _
  exact Domain.fresh_decimal hd hr

/-- What a decimal setting can hold. -/
theorem keeps_of_holds (hd : bounds.excludes default = false)
    (hr : (Decimal.roundTo default places == default) = true)
    (hs : (Domain.decimal default bounds places).SpansWithin) {v : Value}
    (h : ((Domain.decimal default bounds places).fresh enums).Holds v) : v.Keeps bounds := by
  obtain ⟨hdefault, hall⟩ := (Domain.spansWithin_iff hr).mp hs
  rw [Domain.fresh_decimal hd hr] at h
  rcases h with rfl | ⟨w, hw⟩
  · exact hdefault
  · obtain ⟨x, rfl, hx, rfl⟩ := Setting.fitted_decimal_eq_ok_iff.mp hw
    exact hall x hx

/-- What is put into a decimal setting and found to be kept tells that the
fitted number is. -/
theorem keeps_of_put {s : Setting} {x : Float} (hk : s.kind = .decimal)
    (h : (s.put (.decimal x)).value.Keeps bounds) : Domain.Keeps bounds x := by
  rcases Setting.value_put (v := .decimal x) hk.symm with ⟨hput, heq⟩ | hput
  · -- an equal number has been there before
    rw [hput] at h
    cases hv : s.value with
    | decimal y =>
      rw [hv] at h heq
      exact Domain.keeps_of_beq heq h
    | _ =>
      rw [hv] at h
      cases h
  · rw [hput] at h
    exact h

end

/-! ### Reachable configurations -/

variable {schema : Schema}

/-- Whatever is made of a fresh property is kept. -/
theorem kept_of_edit_fresh {enums : Fields (List String)} {language : Language}
    {spec : PropertySpec} {p : Property} (hf : spec.fault? enums = none)
    (hs : spec.domain.SpansWithin)
    (h : Property.Edit (freshProperty enums language spec) p) : spec.Kept p := by
  obtain ⟨hvalue, hdefault, hoverride⟩ := holds_of_edit_fresh (Domain.sound_of_fault? hf) h
  refine ⟨h.field, ?_⟩
  obtain ⟨field, domain⟩ := spec
  cases domain with
  | decimal default bounds places =>
    obtain ⟨-, hd, hr⟩ := fault?_decimal_eq_none_iff.mp hf
    exact ⟨keeps_of_holds hd hr hs hvalue, keeps_of_holds hd hr hs hdefault,
      fun v hv => keeps_of_holds hd hr hs (hoverride v hv)⟩
  | _ => trivial

/-- What becomes of a number is kept if all that is reachable is. -/
theorem keeps_fitDecimal_of_kept {field : String} {default : Float} {bounds : Bounds Float}
    {places : UInt32} (hv : schema.validate = .ok ())
    (hm : ⟨field, .decimal default bounds places⟩ ∈ schema.properties)
    (hall : ∀ c, Reachable schema c →
      List.Forall₂ PropertySpec.Kept schema.properties c.properties)
    {x : Float} (hx : x.isFinite = true) :
    Domain.Keeps bounds (Setting.fitDecimal bounds places x) := by
  obtain ⟨hnodup, hvalid⟩ := Schema.validate_eq_ok_iff.mp hv
  obtain ⟨-, hd, hr⟩ := fault?_decimal_eq_none_iff.mp (hvalid _ hm)
  have hp := property?_ofDefaults hnodup hm "" []
  have hsetting := setting_freshProperty schema.enums [] field hd hr
  have hfitted : (freshProperty schema.enums [] ⟨field, .decimal default bounds places⟩
      ).setting.fitted (.decimal x) = .ok (.decimal (Setting.fitDecimal bounds places x)) := by
    rw [hsetting, Setting.fitted, if_pos hx]
  -- the configuration in which the number has been put in
  have hset := property?_setValue hp hfitted
  obtain ⟨q, hq, hkept⟩ := find?_of_forall₂ (fun _ _ h => h.1)
    (hall _ (.perform (.setValue field (.decimal x)) (.defaults "" []))) hnodup hm
  have hqp := Option.some.inj (hq.symm.trans hset)
  rw [hqp] at hkept
  exact keeps_of_put (by rw [hsetting]; rfl) hkept.2.1

/-- **The range of decimals**: whatever is done to a configuration of a valid
schema, its decimals stay finite and within their bounds exactly if the
defaults do and the smallest and the largest number do when they are fitted. -/
theorem decimals_kept_iff (hv : schema.validate = .ok ()) :
    (∀ c, Reachable schema c → List.Forall₂ PropertySpec.Kept schema.properties c.properties) ↔
      ∀ spec ∈ schema.properties, spec.domain.SpansWithin := by
  obtain ⟨hnodup, hvalid⟩ := Schema.validate_eq_ok_iff.mp hv
  constructor
  · rintro hall ⟨field, domain⟩ hm
    cases domain with
    | decimal default bounds places =>
      obtain ⟨-, hd, hr⟩ := fault?_decimal_eq_none_iff.mp (hvalid _ hm)
      rw [Domain.spansWithin_iff hr]
      refine ⟨?_, fun x hx => keeps_fitDecimal_of_kept hv hm hall hx⟩
      -- the default is kept in the configuration that has all of them
      obtain ⟨p, hp, hkept⟩ :=
        find?_of_forall₂ (fun _ _ h => h.1) (hall _ (.defaults "" [])) hnodup hm
      have hfresh := Option.some.inj (hp.symm.trans (property?_ofDefaults hnodup hm "" []))
      have hdefault : p.default = .decimal default := by
        rw [hfresh, Property.default, setting_freshProperty schema.enums [] field hd hr]
        rfl
      have hk := hkept.2.2.1
      rwa [hdefault] at hk
    | _ => trivial
  · intro hs c hc
    exact hc.edits_fresh.imp fun spec p hp =>
      kept_of_edit_fresh (hvalid spec hp.1) (hs spec hp.1) hp.2

/-- The decimal of the sample is safe: its bounds are no finer than its places. -/
theorem decimals_kept_sampleSchema :
    sampleSchema.validate = .ok () ∧ ∀ c, Reachable sampleSchema c →
      List.Forall₂ PropertySpec.Kept sampleSchema.properties c.properties :=
  ⟨validate_sampleSchema, (decimals_kept_iff validate_sampleSchema).mpr (by decide +kernel)⟩

/-- A schema with one decimal, whose upper bound is finer than its places. -/
def fineSchema : Schema where
  categories := [⟨"sound", none, [⟨"gain", .decimal 0.0 ⟨some 0.0, some 0.25⟩ 1⟩]⟩]
  enums := []

/-- There the bound itself is rounded to a number beyond it. -/
theorem decimals_not_kept : ¬ ∀ schema : Schema, schema.validate = .ok () →
    ∀ c, Reachable schema c →
      List.Forall₂ PropertySpec.Kept schema.properties c.properties := by
  intro h
  have hvalid : fineSchema.validate = .ok () :=
    Schema.validate_eq_ok_iff.mpr (by decide +kernel)
  have hkept := h fineSchema hvalid _
    (.perform (.setValue "gain" (.decimal 0.25)) (.defaults "" []))
  revert hkept
  decide +kernel

end Configuration

end Settings
