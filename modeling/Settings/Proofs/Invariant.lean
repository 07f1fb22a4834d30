/-
Settings/Proofs/Invariant.lean

The invariant of configurations.  Whatever is done to a configuration of a
valid schema, its properties are those of the schema, one for one and in
order, and their values, defaults and enforced values belong to the domains:
they are of the right kind, whole numbers lie within their bounds, and choices
stand in their lists (`Reachable.described`).

What is special about decimals, whose bounds are not safe from rounding, is
said elsewhere; here they are only known to be decimals.
-/
import Mathlib.Algebra.GroupWithZero.Nat
import Settings.Proofs.Operation
import Settings.Proofs.Validity

namespace Settings

/-- The property is the one that the specification is about, and all its
values belong to the domain. -/
structure PropertySpec.Describes (enums : Fields (List String)) (spec : PropertySpec)
    (p : Property) : Prop where
  field_eq : p.field = spec.field
  value : spec.domain.Admits enums p.value
  default : spec.domain.Admits enums p.default
  override : ∀ v, p.override = some v → spec.domain.Admits enums v

namespace Configuration

/-! ### Categories -/

/-- Dealing out a list to groups hands out a part of it at its front. -/
theorem flatMap_deal : ∀ (groups : List Group) (properties : List Property),
    (deal groups properties).flatMap (·.2) = properties.take (groups.map (·.size)).sum
  | [], properties => by simp [deal]
  | group :: groups, properties => by
    rw [deal, List.flatMap_cons, flatMap_deal groups, List.map_cons, List.sum_cons, List.take_add]

/-- The properties are those of the categories, in order. -/
theorem Conforms.flatMap_categories {schema : Schema} {c : Configuration}
    (h : Conforms schema c) : c.categories.flatMap (·.2) = c.properties := by
  have hl : c.properties.length = schema.properties.length := by
    rw [← h.edits.length_eq]
    exact List.length_map ..
  have hg : (c.groups.map (·.size)).sum = schema.properties.length := by
    rw [h.groups_eq, Schema.properties, List.length_flatMap]
    show ((schema.categories.map _).map _).sum = _
    rw [List.map_map]
    rfl
  rw [categories, flatMap_deal, hg, ← hl, List.take_length]

/-! ### Properties and their specifications -/

/-- The property that a specification gives at first. -/
def freshProperty (enums : Fields (List String)) (language : Language) (spec : PropertySpec) :
    Property := (Property.ofSpec language spec).initialise enums

/-- Each property is an edit of the one that its specification gives. -/
theorem Reachable.edits_fresh {schema : Schema} {c : Configuration} (h : Reachable schema c) :
    List.Forall₂ (fun spec p => spec ∈ schema.properties ∧
        Property.Edit (freshProperty schema.enums c.language spec) p)
      schema.properties c.properties := by
  have he := List.forall₂_map_left_iff.mp h.conforms.edits
  rw [List.forall₂_iff_get] at he ⊢
  exact ⟨he.1, fun i hi hi' => ⟨List.get_mem .., he.2 i hi hi'⟩⟩

/-- The fields are those of the schema. -/
theorem Reachable.fields_eq {schema : Schema} {c : Configuration} (h : Reachable schema c) :
    c.properties.map (·.field) = schema.properties.map (·.field) :=
  map_eq_map_of_forall₂ (h.edits_fresh.imp fun _ _ hp => hp.2.field).flip

/-- A fresh property holds its default and nothing is enforced. -/
theorem settled_freshProperty {enums : Fields (List String)} {spec : PropertySpec}
    (hs : spec.domain.Sound enums) (language : Language) :
    (freshProperty enums language spec).Settled :=
  ⟨.inl hs.value_eq, fun _ hv => nomatch hv⟩

/-- An edit of a fresh property holds what the setting of its domain can hold. -/
theorem holds_of_edit_fresh {enums : Fields (List String)} {language : Language}
    {spec : PropertySpec} {p : Property} (hs : spec.domain.Sound enums)
    (h : Property.Edit (freshProperty enums language spec) p) :
    (spec.domain.fresh enums).Holds p.value ∧ (spec.domain.fresh enums).Holds p.default ∧
      ∀ v, p.override = some v → (spec.domain.fresh enums).Holds v := by
  -- edits leave the frame alone, and it decides what can be held
  have hc : ∀ v, p.setting.Holds v ↔ (spec.domain.fresh enums).Holds v :=
    fun v => Setting.holds_congr h.setting_frame
  have hp := h.settled (settled_freshProperty hs language)
  exact ⟨(hc _).mp hp.1, (hc _).mp (Setting.holds_default _), fun v hv => (hc v).mp (hp.2 v hv)⟩

theorem describes_of_edit_fresh {enums : Fields (List String)} {language : Language}
    {spec : PropertySpec} {p : Property} (hs : spec.domain.Sound enums)
    (h : Property.Edit (freshProperty enums language spec) p) : spec.Describes enums p := by
  obtain ⟨hvalue, hdefault, hoverride⟩ := holds_of_edit_fresh hs h
  exact ⟨h.field, hs.admits_of_holds hvalue, hs.admits_of_holds hdefault,
    fun v hv => hs.admits_of_holds (hoverride v hv)⟩

/-- **The invariant of configurations**: the properties of the categories are,
in order, those that the schema describes, and no operation puts a value into
one that its domain does not admit. -/
theorem Reachable.described {schema : Schema} {c : Configuration}
    (hv : schema.validate = .ok ()) (h : Reachable schema c) :
    (c.categories.flatMap (·.2)).map (·.field) = schema.properties.map (·.field) ∧
      List.Forall₂ (PropertySpec.Describes schema.enums) schema.properties
        (c.categories.flatMap (·.2)) := by
  -- the categories hold all properties, so it is about the list of them
  rw [h.conforms.flatMap_categories]
  refine ⟨h.fields_eq, h.edits_fresh.imp fun spec p hp => ?_⟩
  have hspec := (Schema.validate_eq_ok_iff.mp hv).2 spec hp.1
  exact describes_of_edit_fresh (Domain.sound_of_fault? hspec) hp.2

/-- A schema with a setting of each kind, in two categories. -/
def sampleSchema : Schema where
  categories :=
    [⟨"visuals", some "visuals.jpg",
      [⟨"brightness", .decimal 1.0 ⟨some 0.5, some 2.0⟩ 1⟩, ⟨"braid", .boolean false⟩]⟩,
    ⟨"controls", none,
      [⟨"fov", .integer 65 ⟨some 30, some 150⟩⟩, ⟨"menu", .choice "n64" "style"⟩]⟩]
  enums := [("style", ["ps1", "pc"])]

theorem validate_sampleSchema : sampleSchema.validate = .ok () :=
  Schema.validate_eq_ok_iff.mpr (by decide +kernel)

/-- A configuration of the sample with a value that was out of bounds and a
choice that is enforced. -/
def sampleEdited : Configuration :=
  ((ofDefaults "sample" sampleSchema []).perform (.setValue "fov" (.integer 500))).perform
    (.setOverride "menu" (some (.choice "pc")))

theorem reachable_sampleEdited : Reachable sampleSchema sampleEdited :=
  .perform _ (.perform _ (.defaults "sample" []))

/-- The invariant of the edited sample. -/
theorem described_sampleEdited :
    sampleSchema.validate = .ok () ∧ Reachable sampleSchema sampleEdited ∧
      (sampleEdited.categories.flatMap (·.2)).map (·.field)
        = ["brightness", "braid", "fov", "menu"] ∧
      List.Forall₂ (PropertySpec.Describes sampleSchema.enums) sampleSchema.properties
        (sampleEdited.categories.flatMap (·.2)) :=
  ⟨validate_sampleSchema, reachable_sampleEdited,
    Reachable.described validate_sampleSchema reachable_sampleEdited⟩

end Configuration

end Settings
