/-
Settings/Proofs/Validity.lean

What a valid schema promises about the settings that are made of it.  A schema
is valid exactly if no field occurs twice and nothing is wrong with any of its
settings (`validate_eq_ok_iff`).  The default of such a setting already is
fitted, so the setting starts with the default of its domain
(`fresh_integer`, `fresh_decimal`), and all that it can hold is a value of the domain
(`admits_of_holds`): whole numbers within the bounds, choices in the list.
-/
import Settings.Proofs.Setting

namespace Settings

/-! ### Bounds -/

namespace Bounds

variable {α : Type} [LT α] [DecidableLT α] {bounds : Bounds α} {x : α}

/-- A number is not excluded exactly if it lies beyond neither bound. -/
theorem excludes_eq_false_iff :
    bounds.excludes x = false ↔
      (∀ min, bounds.min = some min → ¬ x < min) ∧ ∀ max, bounds.max = some max → ¬ max < x := by
  rcases bounds with ⟨min, max⟩
  cases min <;> cases max <;> simp [excludes]

/-- A number that is not excluded stays as it is. -/
theorem clamp_eq_self (h : bounds.excludes x = false) : bounds.clamp x = x := by
  rcases bounds with ⟨min, max⟩
  have h := excludes_eq_false_iff.mp h
  cases min <;> cases max <;> simp_all [clamp]

/-- The number lies within those bounds that there are. -/
def Contains [LE α] (bounds : Bounds α) (x : α) : Prop :=
  (∀ min, bounds.min = some min → min ≤ x) ∧ ∀ max, bounds.max = some max → x ≤ max

theorem contains_of_excludes {bounds : Bounds Int64} {n : Int64}
    (h : bounds.excludes n = false) : bounds.Contains n := by
  have h := excludes_eq_false_iff.mp h
  exact ⟨fun min hm => Int64.not_lt.mp (h.1 min hm), fun max hm => Int64.not_lt.mp (h.2 max hm)⟩

/-- A whole number comes to lie within bounds that are not crossed. -/
theorem contains_clamp {bounds : Bounds Int64} (h : bounds.crossed? = none) (n : Int64) :
    bounds.Contains (bounds.clamp n) := by
  rcases bounds with ⟨min, max⟩
  cases min with
  | none =>
    cases max with
    | none => simp [Contains]
    | some max =>
      by_cases hn : max < n
      · simp [Contains, clamp, hn]
      · simp [Contains, clamp, hn, Int64.not_lt.mp hn]
  | some min =>
    cases max with
    | none =>
      by_cases hn : n < min
      · simp [Contains, clamp, hn]
      · simp [Contains, clamp, hn, Int64.not_lt.mp hn]
    | some max =>
      have hm : min ≤ max := by
        apply Int64.not_lt.mp
        intro hc
        simp [crossed?, hc] at h
      by_cases hn : n < min
      · simp [Contains, clamp, hn, Int64.not_lt.mpr hm, hm]
      · by_cases hx : max < n
        · simp [Contains, clamp, hn, hx, hm]
        · simp [Contains, clamp, hn, hx, Int64.not_lt.mp hn, Int64.not_lt.mp hx]

end Bounds

/-! ### Valid schemas -/

theorem firstFault?_eq_none_iff {enums : Fields (List String)} :
    ∀ {seen : List String} {specs : List PropertySpec},
      firstFault? enums seen specs = none ↔
        (specs.map (·.field)).Nodup ∧ (∀ spec ∈ specs, spec.field ∉ seen) ∧
          ∀ spec ∈ specs, spec.fault? enums = none
  | seen, [] => by simp [firstFault?]
  | seen, spec :: rest => by
    by_cases hs : spec.field ∈ seen
    · simp [firstFault?, hs]
    · cases hf : spec.fault? enums with
      | some fault => simp [firstFault?, hs, hf]
      | none =>
        -- a field that has been seen is one that must not come again
        simp only [firstFault?, hs, if_false, hf, firstFault?_eq_none_iff, List.map_cons,
          List.nodup_cons, List.mem_map, List.mem_cons, forall_eq_or_imp, not_or, not_exists]
        grind

/-- A schema is valid exactly if no field occurs twice and every setting is
right on its own. -/
theorem Schema.validate_eq_ok_iff {schema : Schema} :
    schema.validate = .ok () ↔ (schema.properties.map (·.field)).Nodup ∧
      ∀ spec ∈ schema.properties, spec.fault? schema.enums = none := by
  have h : schema.validate = .ok () ↔ schema.fault? = none := by
    unfold validate
    cases schema.fault? <;> simp
  rw [h, fault?, firstFault?_eq_none_iff]
  simp

/-! ### Settings that are right on their own -/

section

variable {enums : Fields (List String)} {field : String}

theorem fault?_integer_eq_none_iff {default : Int64} {bounds : Bounds Int64} :
    PropertySpec.fault? ⟨field, .integer default bounds⟩ enums = none ↔
      bounds.crossed? = none ∧ bounds.excludes default = false := by
  unfold PropertySpec.fault?
  cases hc : bounds.crossed? <;> cases he : bounds.excludes default <;> simp [hc, he]

theorem fault?_decimal_eq_none_iff {default : Float} {bounds : Bounds Float} {places : UInt32} :
    PropertySpec.fault? ⟨field, .decimal default bounds places⟩ enums = none ↔
      bounds.crossed? = none ∧ bounds.excludes default = false ∧
        (Decimal.roundTo default places == default) = true := by
  unfold PropertySpec.fault?
  cases hc : bounds.crossed? <;> cases he : bounds.excludes default <;>
    cases hr : (Decimal.roundTo default places == default) <;> simp [hc, he, bne, hr]

theorem fault?_choice_eq_none_iff {default key : String} :
    PropertySpec.fault? ⟨field, .choice default key⟩ enums = none ↔
      ∃ first rest, Fields.get? key enums = some (first :: rest) := by
  unfold PropertySpec.fault?
  rcases hk : Fields.get? key enums with - | (- | ⟨first, rest⟩) <;> simp [hk]

end

/-! ### Fresh settings -/

/-- The setting that a domain starts with. -/
def Domain.fresh (enums : Fields (List String)) (domain : Domain) : Setting :=
  (Setting.ofDomain domain).initialise enums

/-- The values of a domain. -/
def Domain.Admits (enums : Fields (List String)) : Domain → Value → Prop
  | .boolean _, .boolean _ => True
  | .integer _ bounds, .integer n => bounds.Contains n
  | .decimal .., .decimal _ => True
  | .choice _ key, .choice name =>
    ∃ choices, Fields.get? key enums = some choices ∧ name ∈ choices
  | _, _ => False

namespace Domain

variable {enums : Fields (List String)}

theorem fresh_boolean (default : Bool) :
    (boolean default).fresh enums = .boolean ⟨default, default⟩ := by
  simp [fresh, Setting.ofDomain, Setting.initialise, Setting.withChoices, Setting.fitDefault,
    Setting.reset, Slot.reset, Slot.put]

theorem fresh_integer {default : Int64} {bounds : Bounds Int64}
    (h : bounds.excludes default = false) :
    (integer default bounds).fresh enums = .integer ⟨default, default⟩ bounds := by
  simp [fresh, Setting.ofDomain, Setting.initialise, Setting.withChoices, Setting.fitDefault,
    Setting.reset, Slot.reset, Slot.put, Bounds.clamp_eq_self h]

theorem fresh_decimal {default : Float} {bounds : Bounds Float} {places : UInt32}
    (h : bounds.excludes default = false)
    (hr : (Decimal.roundTo default places == default) = true) :
    (decimal default bounds places).fresh enums
      = .decimal ⟨default, default⟩ bounds places := by
  have hf : (Setting.fitDecimal bounds places default == default) = true := by
    rwa [Setting.fitDecimal, Bounds.clamp_eq_self h]
  simp [fresh, Setting.ofDomain, Setting.initialise, Setting.withChoices, Setting.fitDefault,
    Setting.reset, Slot.reset, Slot.put, hf]

/-- The default of a choice, or the first choice in its stead. -/
def chosenDefault (default : String) (choices : List String) : String :=
  if default ∈ choices then default else choices.head?.getD default

theorem chosenDefault_mem {default : String} {choices : List String} (h : choices ≠ []) :
    chosenDefault default choices ∈ choices := by
  unfold chosenDefault
  split
  · assumption
  · cases choices with
    | nil => exact absurd rfl h
    | cons first rest => simp

theorem fresh_choice {default key : String} {choices : List String}
    (h : Fields.get? key enums = some choices) :
    (choice default key).fresh enums
      = .choice ⟨chosenDefault default choices, chosenDefault default choices⟩ key choices := by
  have hput : ∀ value, (Slot.mk value (chosenDefault default choices)).reset
      = ⟨chosenDefault default choices, chosenDefault default choices⟩ := by
    intro value
    by_cases hv : value = chosenDefault default choices <;> simp [Slot.reset, Slot.put, hv]
  show Setting.choice (Slot.reset ⟨default, chosenDefault default _⟩) key _ = _
  rw [h, Option.getD_some, hput]

/-- A setting of a valid schema starts with its default, which is a value of
its domain, and every value becomes one of the domain when it is put in. -/
structure Sound (enums : Fields (List String)) (domain : Domain) : Prop where
  value_eq : (domain.fresh enums).value = (domain.fresh enums).default
  admits_default : domain.Admits enums (domain.fresh enums).default
  admits_fitted : ∀ v w, (domain.fresh enums).fitted v = .ok w → domain.Admits enums w

theorem sound_boolean (default : Bool) : (boolean default).Sound enums where
  value_eq := by
    rw [fresh_boolean]
    rfl
  admits_default := by
    rw [fresh_boolean]
    trivial
  admits_fitted := fun v w h => by
    rw [fresh_boolean] at h
    cases v <;> cases h
    trivial

theorem sound_integer {default : Int64} {bounds : Bounds Int64} (hc : bounds.crossed? = none)
    (hd : bounds.excludes default = false) : (integer default bounds).Sound enums where
  value_eq := by
    rw [fresh_integer hd]
    rfl
  admits_default := by
    rw [fresh_integer hd]
    exact Bounds.contains_of_excludes hd
  admits_fitted := fun v w h => by
    rw [fresh_integer hd] at h
    cases v <;> cases h
    exact Bounds.contains_clamp hc _

theorem sound_decimal {default : Float} {bounds : Bounds Float} {places : UInt32}
    (hd : bounds.excludes default = false)
    (hr : (Decimal.roundTo default places == default) = true) :
    (decimal default bounds places).Sound enums where
  value_eq := by
    rw [fresh_decimal hd hr]
    rfl
  admits_default := by
    rw [fresh_decimal hd hr]
    trivial
  admits_fitted := fun v w h => by
    have hk := Setting.kind_of_fitted h
    rw [fresh_decimal hd hr] at hk
    cases w <;> cases hk
    trivial

theorem sound_choice {default key first : String} {rest : List String}
    (hk : Fields.get? key enums = some (first :: rest)) : (choice default key).Sound enums where
  value_eq := by
    rw [fresh_choice hk]
    rfl
  admits_default := by
    rw [fresh_choice hk]
    exact ⟨_, hk, chosenDefault_mem (List.cons_ne_nil first rest)⟩
  admits_fitted := fun v w h => by
    rw [fresh_choice hk] at h
    obtain ⟨name, hm, -, rfl⟩ := Setting.fitted_choice_eq_ok_iff.mp h
    exact ⟨_, hk, hm⟩

theorem sound_of_fault? {spec : PropertySpec} (h : spec.fault? enums = none) :
    spec.domain.Sound enums := by
  rcases spec with ⟨field, default | ⟨default, bounds⟩ | ⟨default, bounds, places⟩ | ⟨default, key⟩⟩
  · exact sound_boolean default
  · obtain ⟨hc, hd⟩ := fault?_integer_eq_none_iff.mp h
    exact sound_integer hc hd
  · obtain ⟨-, hd, hr⟩ := fault?_decimal_eq_none_iff.mp h
    exact sound_decimal hd hr
  · obtain ⟨first, rest, hk⟩ := fault?_choice_eq_none_iff.mp h
    exact sound_choice hk

/-- Whatever the setting can hold is a value of the domain. -/
theorem Sound.admits_of_holds {domain : Domain} (h : domain.Sound enums) {v : Value}
    (hv : (domain.fresh enums).Holds v) : domain.Admits enums v := by
  rcases hv with rfl | ⟨w, hw⟩
  · exact h.admits_default
  · exact h.admits_fitted w v hw

end Domain

end Settings
