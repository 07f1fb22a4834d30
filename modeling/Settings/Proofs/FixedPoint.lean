/-
Settings/Proofs/FixedPoint.lean

Whether a value stays what it is when it is put in again: set once more, or
exported and loaded.  It is clamped, rounded and looked up again, although that
has been done before, so this is about doing it twice.

Nothing can go wrong with booleans and whole numbers, and with choices only as
long as there is no list of them.  The main statement is about all states that
a property of a valid schema can get into (`fixed_iff_rests`): its value stays
exactly if it rests, which for a decimal says that it is finite and fitted to
an equal one.  A decimal that is less than `2 ^ 51` when it is scaled does, and
two computations tell whether all decimals of a setting are.
-/
import Settings.Proofs.Decimal.Steady
import Settings.Proofs.Enforcing
import Settings.Proofs.Reading
import Settings.Proofs.Saving

namespace Settings

open Settings.Binary Settings.Decimal

/-! ### Slots -/

namespace Slot

variable {α : Type} [BEq α] {slot : Slot α} {a : α}

@[simp] theorem default_put : (slot.put a).default = slot.default := by
  unfold put
  split <;> rfl

theorem value_put : (slot.put a).value = slot.value ∨ (slot.put a).value = a := by
  unfold put
  split
  · exact .inl rfl
  · exact .inr rfl

@[simp] theorem value_put_of_lawful [LawfulBEq α] : (slot.put a).value = a := by
  unfold put
  split
  next heq => exact eq_of_beq heq
  next => rfl

end Slot

/-! ### Settings of a domain -/

/-- A whole number that has been clamped stays where it is. -/
theorem Bounds.clamp_clamp {bounds : Bounds Int64} (h : bounds.crossed? = none) (n : Int64) :
    bounds.clamp (bounds.clamp n) = bounds.clamp n := by
  obtain ⟨hmin, hmax⟩ := contains_clamp h n
  exact clamp_eq_self (excludes_eq_false_iff.mpr
    ⟨fun min hm => Int64.not_lt.mpr (hmin min hm), fun max hm => Int64.not_lt.mpr (hmax max hm)⟩)

/-- The setting is one of the domain, as operations leave it: the value is one
that has been put in, or the default.  Choices may be without a list. -/
inductive Domain.Governs : Domain → Setting → Prop
  | boolean {default : Bool} {slot : Slot Bool} : Governs (.boolean default) (.boolean slot)
  | integer {default : Int64} {bounds : Bounds Int64} {slot : Slot Int64}
    (hd : slot.default = default) (h : bounds.clamp slot.value = slot.value) :
    Governs (.integer default bounds) (.integer slot bounds)
  | decimal {default : Float} {bounds : Bounds Float} {places : UInt32} {slot : Slot Float}
    (hd : slot.default = default)
    (h : slot.value = default ∨
      ∃ x, x.isFinite = true ∧ Setting.fitDecimal bounds places x = slot.value) :
    Governs (.decimal default bounds places) (.decimal slot bounds places)
  | choice {default key : String} {choices : List String} {slot : Slot String}
    (h : choices ≠ [] → slot.value ∈ choices ∧ slot.default ∈ choices) :
    Governs (.choice default key) (.choice slot key choices)

namespace Setting

variable {s : Setting} {enums : Fields (List String)} {spec : PropertySpec}

/-- What is put in is one of the values that stay. -/
theorem governs_put (hf : spec.fault? enums = none) (h : spec.domain.Governs s) {v w : Value}
    (hw : s.fitted v = .ok w) : spec.domain.Governs (s.put w) := by
  obtain ⟨field, domain⟩ := spec
  cases h with
  | boolean =>
    cases v <;> cases hw
    rw [put_boolean]
    exact .boolean
  | integer hd _ =>
    obtain ⟨hc, -⟩ := fault?_integer_eq_none_iff.mp hf
    cases v <;> cases hw
    rw [put_integer]
    refine .integer (by rwa [Slot.default_put]) ?_
    rw [Slot.value_put_of_lawful, Bounds.clamp_clamp hc]
  | @decimal default bounds places slot hd hvalue =>
    obtain ⟨x, rfl, hx, rfl⟩ := fitted_decimal_eq_ok_iff.mp hw
    rw [put_decimal]
    refine .decimal (by rwa [Slot.default_put]) ?_
    rcases slot.value_put (a := fitDecimal bounds places x) with hput | hput
    · rwa [hput]
    · exact .inr ⟨x, hx, hput.symm⟩
  | choice hlist =>
    obtain ⟨name, hm, rfl, rfl⟩ := fitted_choice_eq_ok_iff.mp hw
    rw [put_choice]
    refine .choice fun hne => ?_
    rw [Slot.value_put_of_lawful, Slot.default_put]
    exact ⟨hm, (hlist hne).2⟩

/-- The default of a valid setting is another one. -/
theorem governs_reset (hf : spec.fault? enums = none) (h : spec.domain.Governs s) :
    spec.domain.Governs s.reset := by
  obtain ⟨field, domain⟩ := spec
  cases h with
  | boolean => exact .boolean
  | integer hd _ =>
    obtain ⟨-, hin⟩ := fault?_integer_eq_none_iff.mp hf
    refine .integer (by rwa [Slot.reset, Slot.default_put]) ?_
    rw [Slot.reset, Slot.value_put_of_lawful, hd, Bounds.clamp_eq_self hin]
  | @decimal default bounds places slot hd hvalue =>
    refine .decimal (by rwa [Slot.reset, Slot.default_put]) ?_
    rw [Slot.reset]
    rcases slot.value_put (a := slot.default) with hput | hput
    · rwa [hput]
    · exact .inl (hput.trans hd)
  | choice hlist =>
    refine .choice fun hne => ?_
    rw [Slot.reset, Slot.value_put_of_lawful, Slot.default_put]
    exact ⟨(hlist hne).2, (hlist hne).2⟩

/-- So it is after the setting has been made ready, with whatever lists. -/
theorem governs_initialise (hf : spec.fault? enums = none) (h : spec.domain.Governs s)
    (lists : Fields (List String)) : spec.domain.Governs (s.initialise lists) := by
  obtain ⟨field, domain⟩ := spec
  cases h with
  | boolean => exact governs_reset hf .boolean
  | integer hd hvalue =>
    obtain ⟨-, hin⟩ := fault?_integer_eq_none_iff.mp hf
    -- the default lies within the bounds and is left
    have hkeep := beq_iff_eq.mpr ((congrArg _ hd).trans ((Bounds.clamp_eq_self hin).trans hd.symm))
    simp only [initialise, withChoices, fitDefault, hkeep, if_true]
    exact governs_reset hf (.integer hd hvalue)
  | @decimal default bounds places slot hd hvalue =>
    obtain ⟨-, hin, hr⟩ := fault?_decimal_eq_none_iff.mp hf
    have hkeep : (fitDecimal bounds places slot.default == slot.default) = true := by
      rwa [hd, fitDecimal, Bounds.clamp_eq_self hin]
    simp only [initialise, withChoices, fitDefault, hkeep, if_true]
    exact governs_reset hf (.decimal hd hvalue)
  | choice _ =>
    refine .choice fun hne => ?_
    rw [Slot.reset, Slot.value_put_of_lawful, Slot.default_put]
    exact ⟨Domain.chosenDefault_mem hne, Domain.chosenDefault_mem hne⟩

theorem governs_ofDomain (hf : spec.fault? enums = none) :
    spec.domain.Governs (ofDomain spec.domain) := by
  obtain ⟨field, domain⟩ := spec
  cases domain with
  | boolean default => exact .boolean
  | integer default bounds =>
    obtain ⟨-, hin⟩ := fault?_integer_eq_none_iff.mp hf
    exact .integer rfl (Bounds.clamp_eq_self hin)
  | decimal default bounds places => exact .decimal rfl (.inl rfl)
  | choice default key => exact .choice fun hne => absurd rfl hne

/-! ### Values that rest -/

/-- The value can be put in again and stays what it is: a decimal has to be
finite and fitted to an equal one, and a choice has to have a list. -/
def Rests : Setting → Prop
  | .choice _ _ choices => choices ≠ []
  | s => s.Returns

instance : DecidablePred Rests := fun s => by
  unfold Rests
  split <;> infer_instance

/-- A value that rests is finite and fitted to an equal one. -/
theorem rests_iff {domain : Domain} (h : domain.Governs s) :
    s.Rests ↔ s.value.IsFinite ∧ ∃ w, s.fitted s.value = .ok w ∧ (w == s.value) = true := by
  cases h with
  | @boolean default slot => exact returns_iff (s := boolean slot) fun _ => rfl
  | @integer default bounds slot hd hvalue =>
    refine returns_iff (s := integer slot bounds) fun _ => ?_
    show Except.ok (Value.integer (bounds.clamp slot.value)) = .ok (.integer slot.value)
    rw [hvalue]
  | @decimal default bounds places slot =>
    exact returns_iff (s := decimal slot bounds places) fun hk => absurd rfl hk
  | @choice default key choices slot hlist =>
    constructor
    · intro hne
      exact ⟨trivial, _, if_pos (hlist hne).1, beq_self_eq_true slot.value⟩
    · rintro ⟨-, w, hw, -⟩ rfl
      obtain ⟨name, hm, -⟩ := fitted_choice_eq_ok_iff.mp hw
      cases hm

/-- Putting in what equals the value leaves everything. -/
theorem put_of_beq {w : Value} (h : (w == s.value) = true) : s.put w = s := by
  rw [put, if_pos (by rwa [Value.beq_comm])]

/-- A choice has a list.  Other settings need none. -/
def HasChoices : Setting → Prop
  | .choice _ _ choices => choices ≠ []
  | _ => True

theorem hasChoices_put (s : Setting) (v : Value) : (s.put v).HasChoices ↔ s.HasChoices := by
  unfold put
  split
  · rfl
  · cases s <;> cases v <;> rfl

/-- A valid setting has a list once it has been made ready with the lists that
it is valid with. -/
theorem hasChoices_initialise (hf : spec.fault? enums = none) (h : spec.domain.Governs s) :
    (s.initialise enums).HasChoices := by
  obtain ⟨field, domain⟩ := spec
  cases h with
  | choice _ =>
    obtain ⟨first, rest, hkey⟩ := fault?_choice_eq_none_iff.mp hf
    show (Fields.get? _ enums).getD [] ≠ []
    rw [hkey]
    exact List.cons_ne_nil first rest
  | _ => trivial

end Setting

/-! ### Decimals -/

namespace Domain

/-- All decimals of the domain are moderate: the default is finite, and what
becomes of the smallest and of the largest number is moderate. -/
def Steady : Domain → Prop
  | .decimal default bounds places =>
    default.isFinite = true ∧ Moderate places (Setting.fitDecimal bounds places (-largest)) ∧
      Moderate places (Setting.fitDecimal bounds places largest)
  | _ => True

instance : DecidablePred Steady
  | .boolean _ => isTrue trivial
  | .integer .. => isTrue trivial
  | .decimal .. => inferInstanceAs (Decidable (_ ∧ _ ∧ _))
  | .choice .. => isTrue trivial

variable {spec : PropertySpec} {enums : Fields (List String)} {s : Setting}

/-- A decimal is the default, which is fitted to itself, or has been fitted. -/
theorem Governs.decimal_cases {slot : Slot Float} {bounds : Bounds Float} {places : UInt32}
    (hf : spec.fault? enums = none) (h : spec.domain.Governs (.decimal slot bounds places)) :
    ∃ default, spec.domain = .decimal default bounds places ∧
      (factor places).isFinite = true ∧ 0 < number (factor places) ∧
      (slot.value = default ∧ (Setting.fitDecimal bounds places default == default) = true ∨
        ∃ x, x.isFinite = true ∧ Setting.fitDecimal bounds places x = slot.value) := by
  obtain ⟨field, domain⟩ := spec
  cases h with
  | @decimal default bounds places slot hd hvalue =>
    obtain ⟨-, hin, hr⟩ := fault?_decimal_eq_none_iff.mp hf
    obtain ⟨hfinite, hpos⟩ := factor_of_valid hr
    refine ⟨default, rfl, hfinite, hpos, hvalue.imp_left fun heq => ⟨heq, ?_⟩⟩
    rwa [Setting.fitDecimal, Bounds.clamp_eq_self hin]

/-- A moderate decimal rests. -/
theorem Governs.rests_of_moderate {slot : Slot Float} {bounds : Bounds Float} {places : UInt32}
    (hf : spec.fault? enums = none) (h : spec.domain.Governs (.decimal slot bounds places))
    (hm : Moderate places slot.value) : (Setting.decimal slot bounds places).Rests := by
  refine ⟨hm.1, ?_⟩
  obtain ⟨default, -, hfinite, hpos, ⟨heq, hfit⟩ | ⟨x, hx, hfit⟩⟩ := h.decimal_cases hf
  · rwa [heq]
  · exact fitDecimal_fitDecimal hfinite hpos (isNaN_of_isFinite hx) hfit hm

/-- In a steady domain every value rests. -/
theorem Governs.rests_of_steady (hf : spec.fault? enums = none) (h : spec.domain.Governs s)
    (hs : spec.domain.Steady) (hc : s.HasChoices) : s.Rests := by
  cases s with
  | boolean slot => trivial
  | integer slot bounds => trivial
  | choice slot key choices => exact hc
  | decimal slot bounds places =>
    obtain ⟨default, hdomain, hfinite, hpos, hvalue⟩ := h.decimal_cases hf
    rw [hdomain] at hs
    obtain ⟨hdefault, hlo, hhi⟩ := hs
    rcases hvalue with ⟨heq, hfit⟩ | ⟨x, hx, hfit⟩
    · rw [← heq] at hdefault hfit
      exact ⟨hdefault, hfit⟩
    · apply h.rests_of_moderate hf
      rw [← hfit]
      obtain ⟨hle, hle'⟩ := fitDecimal_between hfinite hpos hx
      exact moderate_of_le hpos hlo hhi hle hle'

end Domain

/-! ### Properties -/

theorem Value.stored_toJson (v : Value) : v.toJson.stored = v.toJson := by
  cases v with
  | decimal x =>
    by_cases hx : x.isFinite = true
    · rw [Value.toJson, if_pos hx, Json.stored, if_pos hx]
    · rw [Value.toJson, if_neg hx]
      rfl
  | _ => rfl

namespace Property

variable {p q : Property}

/-- The value stays when it is exported and loaded, it is what decoding its
entry gives, and setting it changes nothing. -/
structure Fixed (p : Property) : Prop where
  load : ∃ q, p.load p.exported = .ok q ∧ (q.value == p.value) = true
  decode : p.decode p.exported = .ok p.value
  setValue : p.setValue p.value = .ok (p, none)

/-- It does exactly if it is finite and fitted to an equal one. -/
theorem fixed_iff : p.Fixed ↔
    p.value.IsFinite ∧ ∃ w, p.setting.fitted p.value = .ok w ∧ (w == p.value) = true := by
  obtain ⟨hfinite, hinfinite⟩ := Setting.decode_stored p.setting
  rw [Value.stored_toJson] at hfinite hinfinite
  constructor
  · intro h
    obtain ⟨q, hq, hvalue⟩ := h.load
    obtain ⟨v, w, hv, hw, rfl⟩ := load_eq_ok_iff.mp hq
    have hx : p.setting.value.IsFinite := by
      by_contra hx
      exact hinfinite hx v hv
    cases (hfinite hx).symm.trans hv
    refine ⟨hx, w, hw, ?_⟩
    rwa [← Setting.value_put_beq (Setting.kind_of_fitted hw)]
  · rintro ⟨hx, w, hw, heq⟩
    have hv := hfinite hx
    have hput : p.setting.put w = p.setting := Setting.put_of_beq heq
    have hself : (p.value == p.value) = true :=
      Value.beq_self_of_beq ((Value.beq_comm _ _).trans heq)
    refine ⟨⟨p, load_eq_ok_iff.mpr ⟨_, w, hv, hw, by rw [hput]⟩, hself⟩,
      decode_eq_ok_iff.mpr ⟨_, w, hv, hw, by rw [hput]; rfl⟩, ?_⟩
    have hstore : p.setting.store p.value = .ok p.setting :=
      Setting.store_eq_ok_iff.mpr ⟨w, hw, hput.symm⟩
    rw [Property.setValue, hstore]
    show Except.ok (p, if (p.value == p.value) = true then _ else _) = _
    rw [if_pos hself]

/-- What becomes of a property when it is made ready with some of the lists,
values are loaded and set, and its default is restored, in any order.  What
fails leaves it as it is. -/
inductive Handled (lists : Set (Fields (List String))) (p : Property) : Property → Prop
  | refl : Handled lists p p
  | initialise {q : Property} {enums : Fields (List String)} (h : Handled lists p q)
    (hm : enums ∈ lists) : Handled lists p (q.initialise enums)
  | load {q r : Property} {entry : Json} (h : Handled lists p q) (hr : q.load entry = .ok r) :
    Handled lists p r
  | setValue {q r : Property} {v : Value} {change : Option Change} (h : Handled lists p q)
    (hr : q.setValue v = .ok (r, change)) : Handled lists p r
  | restoreDefault {q : Property} (h : Handled lists p q) : Handled lists p q.restoreDefault.1

variable {lists : Set (Fields (List String))} {spec : PropertySpec} {enums : Fields (List String)}

theorem setting_of_setValue {v : Value} {change : Option Change}
    (h : p.setValue v = .ok (q, change)) :
    ∃ w, p.setting.fitted v = .ok w ∧ q.setting = p.setting.put w := by
  unfold setValue at h
  split at h
  · cases h
  next s hs =>
    cases h
    exact Setting.store_eq_ok_iff.mp hs

/-- Whatever is done to a property, its setting is one of the domain. -/
theorem Handled.governs (h : Handled lists p q) (hf : spec.fault? enums = none)
    (hp : spec.domain.Governs p.setting) : spec.domain.Governs q.setting := by
  induction h with
  | refl => exact hp
  | initialise _ _ ih => exact Setting.governs_initialise hf ih _
  | load _ hr ih =>
    obtain ⟨v, w, -, hw, rfl⟩ := load_eq_ok_iff.mp hr
    exact Setting.governs_put hf ih hw
  | setValue _ hr ih =>
    obtain ⟨w, hw, hset⟩ := setting_of_setValue hr
    rw [hset]
    exact Setting.governs_put hf ih hw
  | restoreDefault _ ih => exact Setting.governs_reset hf ih

/-- And it keeps its list if it is made ready with no others. -/
theorem Handled.hasChoices (h : Handled {enums} p q) (hf : spec.fault? enums = none)
    (hp : spec.domain.Governs p.setting) (hc : p.setting.HasChoices) : q.setting.HasChoices := by
  induction h with
  | refl => exact hc
  | initialise h hm _ =>
    cases hm
    exact Setting.hasChoices_initialise hf (h.governs hf hp)
  | load _ hr ih =>
    obtain ⟨v, w, -, hw, rfl⟩ := load_eq_ok_iff.mp hr
    exact (Setting.hasChoices_put _ w).mpr ih
  | setValue _ hr ih =>
    obtain ⟨w, -, hset⟩ := setting_of_setValue hr
    rw [hset]
    exact (Setting.hasChoices_put _ w).mpr ih
  | @restoreDefault q _ ih =>
    show q.setting.reset.HasChoices
    rw [Setting.reset_eq]
    exact (Setting.hasChoices_put _ _).mpr ih

open Settings.Configuration (freshProperty sampleSchema validate_sampleSchema openSchema)

/-- **Fixed points**: the values that a property of a valid schema can get
stay what they are exactly if they rest.  Moderate decimals do.  If all decimals
of the property are moderate, and it is made ready with the lists of the schema
before it is used, all its values do. -/
theorem fixed_iff_rests {schema : Schema} (hv : schema.validate = .ok ())
    (hm : spec ∈ schema.properties) (language : Language) :
    (∀ p, Handled Set.univ (ofSpec language spec) p → (p.Fixed ↔ p.setting.Rests)) ∧
    (∀ p slot bounds places, Handled Set.univ (ofSpec language spec) p →
      p.setting = .decimal slot bounds places → Moderate places slot.value → p.Fixed) ∧
    (spec.domain.Steady →
      ∀ p, Handled {schema.enums} (freshProperty schema.enums language spec) p → p.Fixed) := by
  have hf := (Schema.validate_eq_ok_iff.mp hv).2 spec hm
  have hstart : spec.domain.Governs (ofSpec language spec).setting := Setting.governs_ofDomain hf
  have hfresh : spec.domain.Governs (freshProperty schema.enums language spec).setting :=
    Setting.governs_initialise hf hstart schema.enums
  have hiff : ∀ p : Property, spec.domain.Governs p.setting → (p.Fixed ↔ p.setting.Rests) :=
    fun p hp => fixed_iff.trans (Setting.rests_iff hp).symm
  refine ⟨fun p hp => hiff p (hp.governs hf hstart), ?_, ?_⟩
  · intro p slot bounds places hp hsetting hmoderate
    have hgoverns := hp.governs hf hstart
    rw [hiff p hgoverns]
    rw [hsetting] at hgoverns ⊢
    exact hgoverns.rests_of_moderate hf hmoderate
  · intro hsteady p hp
    have hgoverns := hp.governs hf hfresh
    have hchoices := hp.hasChoices hf hfresh (Setting.hasChoices_initialise hf hstart)
    exact (hiff p hgoverns).mpr (hgoverns.rests_of_steady hf hsteady hchoices)

/-- The decimal of the sample, which stands first. -/
def sampleDecimal : PropertySpec := ⟨"brightness", .decimal 1.0 ⟨some 0.5, some 2.0⟩ 1⟩

/-- The decimal of the sample is steady, so what it is set to stays. -/
theorem fixed_iff_rests_sampleDecimal :
    sampleSchema.validate = .ok () ∧
      sampleDecimal ∈ sampleSchema.properties ∧ sampleDecimal.domain.Steady ∧
      ∃ p, Handled {sampleSchema.enums} (freshProperty sampleSchema.enums [] sampleDecimal) p ∧
        p.value = .decimal 2.0 ∧ p.Fixed := by
  have hv := validate_sampleSchema
  have hm : sampleDecimal ∈ sampleSchema.properties := .head _
  have hsteady : sampleDecimal.domain.Steady := by decide +kernel
  have hresult : ((freshProperty sampleSchema.enums [] sampleDecimal).setValue
      (.decimal 1.96)).toOption.map (fun r => r.1.value) = some (.decimal 2.0) := by decide +kernel
  obtain ⟨⟨p, change⟩, hset, hvalue⟩ := exists_ok_of_toOption hresult
  have hp : Handled {sampleSchema.enums} _ p := .setValue .refl hset
  exact ⟨hv, hm, hsteady, p, hp, hvalue, (fixed_iff_rests hv hm []).2.2 hsteady p hp⟩

/-- A large number is stored as infinity, which cannot be set. -/
theorem not_always_fixed : ¬ ∀ (schema : Schema) (spec : PropertySpec) (language : Language)
    (p : Property), schema.validate = .ok () → spec ∈ schema.properties →
      Handled {schema.enums} (freshProperty schema.enums language spec) p → p.Fixed := by
  intro h
  have hvalid : openSchema.validate = .ok () :=
    Schema.validate_eq_ok_iff.mpr (by decide +kernel)
  have hresult : ((freshProperty [] [] ⟨"gain", .decimal 0.0 ⟨none, none⟩ 2⟩).setValue
      (.decimal 1e308)).toOption.map (fun r => r.1.value) = some (.decimal (1.0 / 0.0)) := by
    decide +kernel
  obtain ⟨⟨p, change⟩, hset, hvalue⟩ := exists_ok_of_toOption hresult
  have hfixed := h openSchema _ [] p hvalid (.head _) (.setValue .refl hset)
  have hvalue : p.value = .decimal (1.0 / 0.0) := hvalue
  have hfinite := (fixed_iff.mp hfixed).1
  rw [hvalue] at hfinite
  have hfinite : (1.0 / 0.0 : Float).isFinite = true := hfinite
  revert hfinite
  decide +kernel

end Property

end Settings
