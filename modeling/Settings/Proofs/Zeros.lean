/-
Settings/Proofs/Zeros.lean

Where two values compare as equal and are written alike.  The two come apart
at decimals only, and in two ways: the two zeros are equal and have two texts,
and the two infinities are not equal and have one text.  It takes both signs
for either of them.

A setting that can hold both zeros is one whose bounds do not keep zero out.
If they do, all that the setting can hold has one sign (`exists_sign`).  If
they do not, it still takes a third value to get from one zero to the other,
since an equal value is left in place.  So the values of a setting are equal
exactly if they are written alike, unless zero is within its bounds and
something besides zero can be held (`beq_iff_alike`).
-/
import Settings.Proofs.Decimal.Sign
import Settings.Proofs.Range
import Settings.Proofs.Written

namespace Settings

open Settings.Binary Settings.Decimal
open Float.Model.UnpackedFloat (Sign)

variable {bounds : Bounds Float} {places : UInt32} {x y : Float}

/-! ### Bounds and signs -/

theorem lt_irrefl_float (x : Float) : ¬ x < x := by
  intro h
  obtain ⟨hx, -⟩ := isNaN_of_lt h
  exact lt_irrefl _ ((lt_iff hx hx).mp h)

/-- A number comes to lie within the bounds if some number does. -/
theorem excludes_clamp (hd : bounds.excludes y = false) (hy : y.isNaN = false)
    (hx : x.isNaN = false) :
    (bounds.clamp x).isNaN = false ∧ bounds.excludes (bounds.clamp x) = false := by
  rcases bounds with ⟨min, max⟩
  obtain ⟨hmin, hmax⟩ := Bounds.excludes_eq_false_iff.mp hd
  rw [Bounds.excludes_eq_false_iff]
  obtain ⟨z, hz⟩ : ∃ z, (Bounds.mk min none).clamp x = z := ⟨_, rfl⟩
  -- first the number is brought up to the lower bound
  obtain ⟨hzn, hlow⟩ : z.isNaN = false ∧ ∀ m, min = some m → ¬ z < m := by
    subst hz
    cases min with
    | none =>
      refine ⟨hx, fun m hm => ?_⟩
      cases hm
    | some min =>
      show (if x < min then min else x).isNaN = false ∧
        ∀ m, some min = some m → ¬ (if x < min then min else x) < m
      split_ifs with h
      · exact ⟨(isNaN_of_lt h).2, fun m hm => Option.some.inj hm ▸ lt_irrefl_float min⟩
      · exact ⟨hx, fun m hm => Option.some.inj hm ▸ h⟩
  cases max with
  | none =>
    have hclamp : (Bounds.mk min none).clamp x = z := hz
    rw [hclamp]
    refine ⟨hzn, hlow, fun m hm => ?_⟩
    cases hm
  | some max =>
    have hclamp : (Bounds.mk min (some max)).clamp x = if max < z then max else z := by
      rw [← hz]
      rfl
    rw [hclamp]
    split_ifs with h
    · refine ⟨(isNaN_of_lt h).1, ?_, fun m hm => Option.some.inj hm ▸ lt_irrefl_float max⟩
      intro m hm hlt
      -- the number between the bounds keeps them in order
      have hle : m ≤ y := (not_lt_float hy (isNaN_of_lt hlt).2).mp (hmin m hm)
      exact hmax max rfl (lt_of_lt_of_le_float hlt hle)
    · exact ⟨hzn, hlow, fun m hm => Option.some.inj hm ▸ h⟩

theorem number_zero : number 0 = 0 := by decide +kernel

theorem isNaN_zero : (0 : Float).isNaN = false := by decide +kernel

/-- Bounds that keep zero out leave one sign. -/
theorem exists_sign (h0 : bounds.excludes 0 = true) :
    ∃ s, ∀ y, y.isNaN = false → bounds.excludes y = false → sign y = s := by
  rw [Bounds.excludes, Bool.or_eq_true, Option.any_eq_true, Option.any_eq_true] at h0
  rcases h0 with ⟨min, hmin, h⟩ | ⟨max, hmax, h⟩
  · rw [decide_eq_true_iff] at h
    refine ⟨.positive, fun y hy hin => (sign_of_number hy).1 ?_⟩
    have hle := (not_lt_float hy (isNaN_of_lt h).2).mp
      ((Bounds.excludes_eq_false_iff.mp hin).1 min hmin)
    rw [← number_zero]
    exact (lt_iff isNaN_zero hy).mp (lt_of_lt_of_le_float h hle)
  · rw [decide_eq_true_iff] at h
    refine ⟨.negative, fun y hy hin => (sign_of_number hy).2 ?_⟩
    have hle := (not_lt_float (isNaN_of_lt h).1 hy).mp
      ((Bounds.excludes_eq_false_iff.mp hin).2 max hmax)
    rw [← number_zero]
    exact (lt_iff hy isNaN_zero).mp (lt_of_le_of_lt_float hle h)

/-! ### Equal values -/

/-- Numbers of one sign are equal exactly if they are written alike. -/
theorem beq_iff_alike_of_sign (hx : x.isNaN = false) (hy : y.isNaN = false)
    (hs : sign x = sign y) : (x == y) = true ↔ (Value.decimal x).Alike (.decimal y) := by
  constructor
  · exact fun h => .inl (congrArg _ (eq_of_sign h hs))
  · rintro (h | ⟨hxf, hyf⟩)
    · cases h
      exact beq_refl hx
    · -- two infinities, and of one sign
      obtain ⟨s, hu, -⟩ := number_of_not_isFinite hx (Bool.eq_false_iff.mpr hxf)
      obtain ⟨t, hv, -⟩ := number_of_not_isFinite hy (Bool.eq_false_iff.mpr hyf)
      have hst : s = t := by
        rw [sign, sign, hu, hv] at hs
        exact hs
      rw [eq_of_unpacked (hu.trans (hst ▸ hv.symm))]
      exact beq_refl hy

/-- Values that are no decimals are equal exactly if they are the same. -/
theorem Value.beq_iff_alike_of_kind {u v : Value} (hk : u.kind = v.kind) (hd : u.kind ≠ .decimal) :
    (u == v) = true ↔ u.Alike v := by
  have hfinite : u.IsFinite := by
    cases u with
    | decimal x => exact absurd rfl hd
    | _ => trivial
  rw [Value.Alike, or_iff_left (fun h => h.1 hfinite)]
  cases u with
  | decimal x => exact absurd rfl hd
  | boolean a =>
    cases v with
    | boolean b => rw [Value.boolean_beq, beq_iff_eq, Value.boolean.injEq]
    | _ => cases hk
  | integer a =>
    cases v with
    | integer b => rw [Value.integer_beq, beq_iff_eq, Value.integer.injEq]
    | _ => cases hk
  | choice a =>
    cases v with
    | choice b => rw [Value.choice_beq, beq_iff_eq, Value.choice.injEq]
    | _ => cases hk

/-! ### What a setting can hold -/

namespace Domain

variable {enums : Fields (List String)} {default : Float} {v : Value}

/-- Zero is kept out, or there is nothing but zero. -/
def OneZero : Domain → Prop
  | .decimal default bounds places =>
    bounds.excludes 0 = true ∨ (default == 0) = true ∧
      (Setting.fitDecimal bounds places (-largest) == 0) = true ∧
      (Setting.fitDecimal bounds places largest == 0) = true
  | _ => True

instance : DecidablePred OneZero
  | .decimal default bounds places =>
    inferInstanceAs (Decidable (bounds.excludes 0 = true ∨ (default == 0) = true ∧
      (Setting.fitDecimal bounds places (-largest) == 0) = true ∧
      (Setting.fitDecimal bounds places largest == 0) = true))
  | .boolean _ | .integer _ _ | .choice _ _ => .isTrue trivial

/-- A decimal setting holds its default and what finite numbers are fitted to. -/
theorem holds_decimal_iff (hd : bounds.excludes default = false)
    (hr : (roundTo default places == default) = true) :
    ((decimal default bounds places).fresh enums).Holds v ↔ v = .decimal default ∨
      ∃ x, x.isFinite = true ∧ v = .decimal (Setting.fitDecimal bounds places x) := by
  rw [fresh_decimal hd hr, Setting.Holds]
  refine or_congr_right ⟨?_, ?_⟩
  · rintro ⟨w, hw⟩
    obtain ⟨x, -, hx, rfl⟩ := Setting.fitted_decimal_eq_ok_iff.mp hw
    exact ⟨x, hx, rfl⟩
  · rintro ⟨x, hx, rfl⟩
    exact ⟨_, Setting.fitted_decimal_eq_ok_iff.mpr ⟨x, rfl, hx, rfl⟩⟩

/-- All that it holds are numbers, with the signs of numbers within the bounds. -/
theorem exists_of_holds (hd : bounds.excludes default = false)
    (hr : (roundTo default places == default) = true)
    (h : ((decimal default bounds places).fresh enums).Holds v) :
    ∃ x, v = .decimal x ∧ x.isNaN = false ∧
      ∃ y, y.isNaN = false ∧ bounds.excludes y = false ∧ sign x = sign y := by
  have hdefault := (isNaN_of_beq hr).2
  rcases (holds_decimal_iff hd hr).mp h with rfl | ⟨x, hx, rfl⟩
  · exact ⟨default, rfl, hdefault, default, hdefault, hd, rfl⟩
  · obtain ⟨hf, hpos⟩ := factor_of_valid hr
    obtain ⟨hclamp, hin⟩ := excludes_clamp hd hdefault (isNaN_of_isFinite hx)
    exact ⟨_, rfl, (isNumber_roundTo hclamp hf hpos).isNaN_eq, _, hclamp, hin,
      sign_roundTo hclamp hf hpos⟩

/-- Where zero is kept out, equal values are those that are written alike. -/
theorem beq_iff_alike_of_excludes (hd : bounds.excludes default = false)
    (hr : (roundTo default places == default) = true) (h0 : bounds.excludes 0 = true) {u : Value}
    (hu : ((decimal default bounds places).fresh enums).Holds u)
    (hv : ((decimal default bounds places).fresh enums).Holds v) :
    (u == v) = true ↔ u.Alike v := by
  obtain ⟨s, hs⟩ := exists_sign h0
  obtain ⟨x, rfl, hx, x', hxn, hxin, hxs⟩ := exists_of_holds hd hr hu
  obtain ⟨y, rfl, hy, y', hyn, hyin, hys⟩ := exists_of_holds hd hr hv
  rw [Value.decimal_beq]
  exact beq_iff_alike_of_sign hx hy (by rw [hxs, hys, hs x' hxn hxin, hs y' hyn hyin])

/-- If the default and the two ends become zero, everything does. -/
theorem beq_zero_of_holds (hd : bounds.excludes default = false)
    (hr : (roundTo default places == default) = true) (h0 : (default == 0) = true)
    (hlo : (Setting.fitDecimal bounds places (-largest) == 0) = true)
    (hhi : (Setting.fitDecimal bounds places largest == 0) = true)
    (h : ((decimal default bounds places).fresh enums).Holds v) :
    (v == .decimal 0) = true := by
  rcases (holds_decimal_iff hd hr).mp h with rfl | ⟨x, hx, rfl⟩
  · exact h0
  · obtain ⟨hf, hpos⟩ := factor_of_valid hr
    have hbetween : Setting.fitDecimal bounds places (-largest) ≤
        Setting.fitDecimal bounds places x ∧ Setting.fitDecimal bounds places x ≤
          Setting.fitDecimal bounds places largest := fitDecimal_between hf hpos hx
    obtain ⟨-, hn, hle⟩ := le_iff.mp hbetween.1
    obtain ⟨-, -, hle'⟩ := le_iff.mp hbetween.2
    rw [number_eq_of_beq hlo] at hle
    rw [number_eq_of_beq hhi] at hle'
    exact (beq_iff hn isNaN_zero).mpr (le_antisymm hle' hle)

end Domain

/-! ### Properties -/

namespace Configuration

variable {enums : Fields (List String)} {language other : Language} {spec : PropertySpec}
  {p q : Property}

/-- Edits of one property are of one sort. -/
theorem sameSort_of_edits (hp : Property.Edit (freshProperty enums language spec) p)
    (hq : Property.Edit (freshProperty enums other spec) q) : SameSort p q := by
  have hkind : ∀ {l : Language} {r : Property},
      Property.Edit (freshProperty enums l spec) r → r.value.kind = (spec.domain.fresh enums).kind := by
    intro l r hr
    rw [Property.value, Setting.kind_value, ← Setting.kind_frame, hr.setting_frame,
      Setting.kind_frame]
    rfl
  exact ⟨hq.field.trans hp.field.symm, (hkind hq).trans (hkind hp).symm⟩

/-- A value of a property is not other than itself. -/
theorem beq_self_of_edit_fresh (hf : spec.fault? enums = none)
    (hp : Property.Edit (freshProperty enums language spec) p) : (p.value == p.value) = true := by
  have hheld := (holds_of_edit_fresh (Domain.sound_of_fault? hf) hp).1
  generalize p.value = v at hheld
  cases v with
  | decimal x =>
    -- only a decimal setting holds decimals, and they are numbers
    obtain ⟨field, domain⟩ := spec
    have hadmits := (Domain.sound_of_fault? hf).admits_of_holds hheld
    cases domain with
    | decimal default bounds places =>
      obtain ⟨-, hd, hr⟩ := fault?_decimal_eq_none_iff.mp hf
      obtain ⟨y, hy, hn, -⟩ := Domain.exists_of_holds hd hr hheld
      cases hy
      exact beq_refl hn
    | _ => exact hadmits.elim
  | boolean b => exact beq_self_eq_true b
  | integer n => exact beq_self_eq_true n
  | choice name => exact beq_self_eq_true name

/-- Nothing is ever put into a property that can hold only zero. -/
theorem value_eq_of_zero {field : String} {default : Float} (hd : bounds.excludes default = false)
    (hr : (roundTo default places == default) = true) (h0 : (default == 0) = true)
    (hzero : ∀ v, ((Domain.decimal default bounds places).fresh enums).Holds v →
      (v == .decimal 0) = true)
    (hp : Property.Edit (freshProperty enums language ⟨field, .decimal default bounds places⟩) p) :
    p.value = .decimal default := by
  have hsetting := setting_freshProperty enums language field hd hr
  have hvalue : (freshProperty enums language ⟨field, .decimal default bounds places⟩).value
      = .decimal default := by
    rw [Property.value, hsetting]
    rfl
  rw [hp.stays (settled_freshProperty (Domain.sound_decimal hd hr) language), hvalue]
  intro v hv
  rw [hvalue]
  -- both are equal to zero
  have hdefault : (Value.decimal default == .decimal 0) = true := h0
  rw [Value.beq_congr hdefault, Value.beq_comm]
  exact hzero v hv

/-- **Equal values are written alike**, and no others, whatever is done to two
copies of a property that has one zero at most. -/
theorem beq_iff_alike (hf : spec.fault? enums = none) (h0 : spec.domain.OneZero)
    (hp : Property.Edit (freshProperty enums language spec) p)
    (hq : Property.Edit (freshProperty enums other spec) q) :
    (q.value == p.value) = true ↔ p.value.Alike q.value := by
  have hsound := Domain.sound_of_fault? hf
  have hsort := sameSort_of_edits hp hq
  have hpv := (holds_of_edit_fresh hsound hp).1
  have hqv := (holds_of_edit_fresh hsound hq).1
  rw [Value.beq_comm]
  obtain ⟨field, domain⟩ := spec
  cases domain with
  | decimal default bounds places =>
    obtain ⟨-, hd, hr⟩ := fault?_decimal_eq_none_iff.mp hf
    rcases h0 with h0 | ⟨hz, hlo, hhi⟩
    · exact Domain.beq_iff_alike_of_excludes hd hr h0 hpv hqv
    · have hzero : ∀ v, ((Domain.decimal default bounds places).fresh enums).Holds v →
          (v == .decimal 0) = true := fun v => Domain.beq_zero_of_holds hd hr hz hlo hhi
      rw [value_eq_of_zero hd hr hz hzero hp, value_eq_of_zero hd hr hz hzero hq]
      exact beq_iff_alike_of_sign (isNaN_of_beq hr).2 (isNaN_of_beq hr).2 rfl
  | _ =>
    -- no other domain admits decimals
    have hadmits := (describes_of_edit_fresh hsound hp).value
    refine Value.beq_iff_alike_of_kind hsort.2.symm ?_
    intro hk
    cases hvalue : p.value with
    | decimal x =>
      rw [hvalue] at hadmits
      exact hadmits
    | _ =>
      rw [hvalue] at hk
      cases hk

end Configuration

end Settings
