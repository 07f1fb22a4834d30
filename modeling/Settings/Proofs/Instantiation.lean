/-
Settings/Proofs/Instantiation.lean

A valid schema is instantiated as it is written.  Two parts of the library look
at a default, and each on its own: the check of a schema refuses one that is
out of its bounds or has too many places, and making a setting ready for use
clamps and rounds it.  What the first accepts the second leaves alone
(`fits_withChoices`), be the bounds missing, equal, infinite or not numbers.

So a new configuration has the defaults of its schema, value for value
(`ofDefaults_as_written`).  Only a choice that is not in its list gives way to
the first one there, since schemas are not checked for that.
-/
import Settings.Proofs.Saving
import Settings.Proofs.Zeros

namespace Settings

/-! ### Settings -/

namespace Setting

/-- The default is equal to itself within its constraints. -/
inductive Fits : Setting → Prop
  | boolean (slot : Slot Bool) : Fits (.boolean slot)
  | integer {slot : Slot Int64} {bounds : Bounds Int64} :
      (bounds.clamp slot.default == slot.default) = true → Fits (.integer slot bounds)
  | decimal {slot : Slot Float} {bounds : Bounds Float} {places : UInt32} :
      (fitDecimal bounds places slot.default == slot.default) = true →
      Fits (.decimal slot bounds places)
  | choice (slot : Slot String) (key : String) (choices : List String) :
      Fits (.choice slot key choices)

/-- A default that fits is left as it is. -/
theorem Fits.fitDefault_eq {s : Setting} (h : s.Fits) : s.fitDefault = s := by
  cases h with
  | boolean | choice => rfl
  | integer h | decimal h => simp only [fitDefault, if_pos h]

end Setting

namespace Domain

/-- A setting that holds the default of its domain as the value and as the
default. -/
inductive StartsAs (enums : Fields (List String)) : Domain → Setting → Prop
  | boolean (default : Bool) : StartsAs enums (.boolean default) (.boolean ⟨default, default⟩)
  | integer (default : Int64) (bounds : Bounds Int64) :
      StartsAs enums (.integer default bounds) (.integer ⟨default, default⟩ bounds)
  | decimal (default : Float) (bounds : Bounds Float) (places : UInt32) :
      StartsAs enums (.decimal default bounds places) (.decimal ⟨default, default⟩ bounds places)
  | listed {default key : String} {choices : List String} :
      Fields.get? key enums = some choices → default ∈ choices →
      StartsAs enums (.choice default key) (.choice ⟨default, default⟩ key choices)
  /-- A default that is not in the list gives way to the first choice. -/
  | unlisted {default key first : String} {rest : List String} :
      Fields.get? key enums = some (first :: rest) → default ∉ first :: rest →
      StartsAs enums (.choice default key) (.choice ⟨first, first⟩ key (first :: rest))

variable {enums : Fields (List String)} {spec : PropertySpec}

theorem StartsAs.value_eq {domain : Domain} {s : Setting} (h : domain.StartsAs enums s) :
    s.value = s.default := by
  cases h <;> rfl

/-- An accepted default fits. -/
theorem fits_withChoices (h : spec.fault? enums = none) :
    ((Setting.ofDomain spec.domain).withChoices enums).Fits := by
  rcases spec with ⟨field, default | ⟨default, bounds⟩ | ⟨default, bounds, places⟩ | ⟨default, key⟩⟩
  · exact .boolean _
  · obtain ⟨-, hd⟩ := fault?_integer_eq_none_iff.mp h
    refine .integer ?_
    rw [Bounds.clamp_eq_self hd]
    exact beq_self_eq_true default
  · obtain ⟨-, hd, hr⟩ := fault?_decimal_eq_none_iff.mp h
    refine .decimal ?_
    rwa [Setting.fitDecimal, Bounds.clamp_eq_self hd]
  · exact .choice _ _ _

/-- The setting of an accepted specification starts with its default. -/
theorem startsAs_fresh (h : spec.fault? enums = none) :
    spec.domain.StartsAs enums (spec.domain.fresh enums) := by
  rcases spec with ⟨field, default | ⟨default, bounds⟩ | ⟨default, bounds, places⟩ | ⟨default, key⟩⟩
  · rw [fresh_boolean]
    exact .boolean default
  · obtain ⟨-, hd⟩ := fault?_integer_eq_none_iff.mp h
    rw [fresh_integer hd]
    exact .integer default bounds
  · obtain ⟨-, hd, hr⟩ := fault?_decimal_eq_none_iff.mp h
    rw [fresh_decimal hd hr]
    exact .decimal default bounds places
  · obtain ⟨first, rest, hk⟩ := fault?_choice_eq_none_iff.mp h
    rw [fresh_choice hk, chosenDefault]
    split
    next hm => exact .listed hk hm
    next hm => exact .unlisted hk hm

end Domain

/-! ### Configurations -/

/-- The property is the one that is specified, with its default as it is
written and nothing enforced. -/
structure PropertySpec.InstantiatedBy (enums : Fields (List String)) (spec : PropertySpec)
    (p : Property) : Prop where
  field_eq : p.field = spec.field
  setting : spec.domain.StartsAs enums p.setting
  /-- The default did not have to be brought within its constraints. -/
  fits : ((Setting.ofDomain spec.domain).withChoices enums).Fits
  uncorrected : ((Setting.ofDomain spec.domain).withChoices enums).fitDefault
    = (Setting.ofDomain spec.domain).withChoices enums
  override_eq : p.override = none

namespace Configuration

variable {schema : Schema}

theorem instantiatedBy_freshProperty {enums : Fields (List String)} {spec : PropertySpec}
    (h : spec.fault? enums = none) (language : Language) :
    spec.InstantiatedBy enums (freshProperty enums language spec) where
  field_eq := rfl
  setting := Domain.startsAs_fresh h
  fits := Domain.fits_withChoices h
  uncorrected := (Domain.fits_withChoices h).fitDefault_eq
  override_eq := rfl

/-- The properties of a new configuration, with what makes each of them fresh. -/
theorem forall₂_instantiatedBy (hv : schema.validate = .ok ()) (name : String)
    (language : Language) :
    List.Forall₂ (PropertySpec.InstantiatedBy schema.enums) schema.properties
      (ofDefaults name schema language).properties := by
  show List.Forall₂ _ schema.properties
    (schema.properties.map (freshProperty schema.enums language))
  rw [List.forall₂_map_right_iff, List.forall₂_same]
  exact fun spec hspec =>
    instantiatedBy_freshProperty ((Schema.validate_eq_ok_iff.mp hv).2 spec hspec) language

/-- No value of a new configuration is other than itself, decimals included. -/
theorem beq_self_ofDefaults (hv : schema.validate = .ok ()) (name : String) (language : Language) :
    ∀ p ∈ (ofDefaults name schema language).properties, (p.value == p.value) = true := by
  intro p hp
  obtain ⟨spec, hspec, rfl⟩ := List.mem_map.mp hp
  exact beq_self_of_edit_fresh ((Schema.validate_eq_ok_iff.mp hv).2 spec hspec)
    (Property.Edit.refl (freshProperty schema.enums language spec))

/-- **A valid schema is instantiated as it is written.** -/
theorem ofDefaults_as_written (hv : schema.validate = .ok ()) (name : String)
    (language : Language) :
    List.Forall₂ (PropertySpec.InstantiatedBy schema.enums) schema.properties
        (ofDefaults name schema language).properties ∧
      (ofDefaults name schema language).isDefault = true ∧
      (ofDefaults name schema language).isDirty = false := by
  have hself := beq_self_ofDefaults hv name language
  have hall := forall₂_instantiatedBy hv name language
  refine ⟨hall, ?_, ?_⟩
  · rw [isDefault, List.all_eq_true]
    intro p hp
    have hvalue : p.value = p.default :=
      forall_mem_of_forall₂ hall (fun _ _ h => h.setting.value_eq) p hp
    rw [Property.isDefault, ← hvalue]
    exact hself p hp
  · have hfields : ((ofDefaults name schema language).properties.map (·.field)).Nodup := by
      rw [fields_ofDefaults]
      exact (Schema.validate_eq_ok_iff.mp hv).1
    exact isDirty_rebase hfields hself

/-- A schema whose defaults lie on the edges: the lower zero, infinity, equal
bounds, a bound that is no number, and a choice that is not in the list. -/
def edgeSchema : Schema where
  categories :=
    [⟨"sound", none,
      [⟨"gain", .decimal (-0.0) ⟨some (0.0 / 0.0), some 0.0⟩ 2⟩,
        ⟨"peak", .decimal (1.0 / 0.0) ⟨some 0.0, some (1.0 / 0.0)⟩ 0⟩]⟩,
    ⟨"controls", none,
      [⟨"fov", .integer 65 ⟨some 65, some 65⟩⟩, ⟨"menu", .choice "n64" "style"⟩]⟩]
  enums := [("style", ["ps1", "pc"])]

theorem ofDefaults_edgeSchema_as_written :
    edgeSchema.validate = .ok () ∧
      List.Forall₂ (PropertySpec.InstantiatedBy edgeSchema.enums) edgeSchema.properties
        (ofDefaults "edge" edgeSchema []).properties ∧
      (ofDefaults "edge" edgeSchema []).isDefault = true ∧
      (ofDefaults "edge" edgeSchema []).isDirty = false := by
  have hv : edgeSchema.validate = .ok () := Schema.validate_eq_ok_iff.mpr (by decide +kernel)
  exact ⟨hv, ofDefaults_as_written hv "edge" []⟩

end Configuration

end Settings
