/-
Settings/Proofs/Fitting.lean

The range of fitted decimals.  Clamping and rounding keep the order of
numbers, so whatever is fitted lies between what becomes of the smallest and
of the largest finite number:

    fitDecimal (-largest)  ≤  fitDecimal x  ≤  fitDecimal largest

So two computations tell whether every fitted decimal is finite
(`spansFinite_iff`), and whether every one is finite and within its bounds
(`spansWithin_iff`).
-/
import Settings.Proofs.Decimal.Rounding
import Settings.Proofs.Validity

namespace Settings

open Settings.Binary Settings.Decimal

variable {bounds : Bounds Float} {places : UInt32} {x y z : Float}

/-! ### The order of floating point numbers -/

theorem le_trans_float (h : x ≤ y) (h' : y ≤ z) : x ≤ z := by
  obtain ⟨hx, -, hxy⟩ := le_iff.mp h
  obtain ⟨-, hz, hyz⟩ := le_iff.mp h'
  exact le_iff.mpr ⟨hx, hz, hxy.trans hyz⟩

/-- Numbers are ordered one way or the other. -/
theorem not_lt_float (hx : x.isNaN = false) (hy : y.isNaN = false) : ¬ x < y ↔ y ≤ x := by
  rw [lt_iff hx hy, le_iff, not_lt]
  exact ⟨fun h => ⟨hy, hx, h⟩, fun h => h.2.2⟩

theorem le_of_lt_float (h : x < y) : x ≤ y := by
  obtain ⟨hx, hy⟩ := isNaN_of_lt h
  exact le_iff.mpr ⟨hx, hy, ((lt_iff hx hy).mp h).le⟩

theorem lt_of_le_of_lt_float (h : x ≤ y) (h' : y < z) : x < z := by
  obtain ⟨hx, -, hle⟩ := le_iff.mp h
  obtain ⟨hy, hz⟩ := isNaN_of_lt h'
  exact (lt_iff hx hz).mpr (hle.trans_lt ((lt_iff hy hz).mp h'))

theorem lt_of_lt_of_le_float (h : x < y) (h' : y ≤ z) : x < z := by
  obtain ⟨-, hz, hle⟩ := le_iff.mp h'
  obtain ⟨hx, hy⟩ := isNaN_of_lt h
  exact (lt_iff hx hz).mpr (((lt_iff hx hy).mp h).trans_le hle)

/-- What lies between two finite numbers is finite. -/
theorem isFinite_of_le (hx : x.isFinite = true) (hz : z.isFinite = true) (h : x ≤ y)
    (h' : y ≤ z) : y.isFinite = true := by
  obtain ⟨-, hy, hxy⟩ := le_iff.mp h
  obtain ⟨-, -, hyz⟩ := le_iff.mp h'
  have hx := (isFinite_iff_number (isNaN_of_isFinite hx)).mp hx
  have hz := (isFinite_iff_number (isNaN_of_isFinite hz)).mp hz
  exact (isFinite_iff_number hy).mpr ⟨hx.1.trans_le hxy, hyz.trans_lt hz.2⟩

/-! ### Clamping and rounding -/

/-- Bringing numbers up to a bound keeps their order. -/
theorem raise_mono (min : Float) (h : x ≤ y) :
    (if x < min then min else x) ≤ (if y < min then min else y) := by
  obtain ⟨hx, hy, -⟩ := le_iff.mp h
  split_ifs with h₁ h₂ h₂
  · exact le_iff.mpr ⟨(isNaN_of_lt h₁).2, (isNaN_of_lt h₁).2, le_rfl⟩
  · exact (not_lt_float hy (isNaN_of_lt h₁).2).mp h₂
  · exact le_trans_float h (le_of_lt_float h₂)
  · exact h

/-- So does bringing them down to one. -/
theorem lower_mono (max : Float) (h : x ≤ y) :
    (if max < x then max else x) ≤ (if max < y then max else y) := by
  obtain ⟨hx, hy, -⟩ := le_iff.mp h
  split_ifs with h₁ h₂ h₂
  · exact le_iff.mpr ⟨(isNaN_of_lt h₁).1, (isNaN_of_lt h₁).1, le_rfl⟩
  · exact le_trans_float (le_of_lt_float h₁) h
  · exact (not_lt_float (isNaN_of_lt h₂).1 hx).mp h₁
  · exact h

theorem clamp_mono (h : x ≤ y) : bounds.clamp x ≤ bounds.clamp y := by
  rcases bounds with ⟨min, max⟩
  -- the lower bound comes first, and the upper one is applied to what it leaves
  have hraise : (Bounds.mk min none).clamp x ≤ (Bounds.mk min none).clamp y := by
    cases min with
    | none => exact h
    | some min => exact raise_mono min h
  cases max with
  | none => exact hraise
  | some max => exact lower_mono max hraise

/-- Rounding keeps the order, unless it makes nothing a number. -/
theorem roundTo_mono (hf : (factor places).isFinite = true) (hpos : 0 < number (factor places))
    (h : x ≤ y) : roundTo x places ≤ roundTo y places := by
  obtain ⟨hx, hy, hxy⟩ := le_iff.mp h
  have hx' := isNumber_roundTo hx hf hpos
  have hy' := isNumber_roundTo hy hf hpos
  refine le_iff.mpr ⟨hx'.isNaN_eq, hy'.isNaN_eq, ?_⟩
  rw [hx'.number_eq, hy'.number_eq]
  exact rounded_mono hpos.le (number_mem_limits x) (number_mem_limits y) hxy

theorem fitDecimal_mono (hf : (factor places).isFinite = true)
    (hpos : 0 < number (factor places)) (h : x ≤ y) :
    Setting.fitDecimal bounds places x ≤ Setting.fitDecimal bounds places y :=
  roundTo_mono hf hpos (clamp_mono h)

/-! ### The range -/

/-- The largest finite number. -/
def largest : Float := Float.ofBits 0x7FEFFFFFFFFFFFFF

theorem isFinite_largest : largest.isFinite = true := by decide +kernel

theorem isFinite_neg_largest : (-largest).isFinite = true := by decide +kernel

theorem number_largest : number largest = (2 ^ 53 - 1) * 2 ^ (971 : ℤ) := by decide +kernel

/-- The finite numbers lie between the smallest and the largest of them. -/
theorem mem_range_of_isFinite (h : x.isFinite = true) : -largest ≤ x ∧ x ≤ largest := by
  have hx := isNaN_of_isFinite h
  obtain ⟨s, q, hq, hu⟩ := (isFinite_iff x).mp h
  have hsize : 0 ≤ q ∧ q ≤ number largest := by
    refine ⟨hu.nonneg, ?_⟩
    rw [number_largest]
    generalize unpacked x = u at hu
    cases hu with
    | zero => exact mul_nonneg (by norm_num) (two_zpow_pos 971).le
    | @finite m e hpos hm he hfull =>
      have he' := (lt_limit_iff hm hfull).mp hq
      have hm' : (m : ℚ) ≤ 2 ^ 53 - 1 := by
        have hm : (m : ℚ) + 1 ≤ 2 ^ 53 := by exact_mod_cast hm
        linarith
      exact mul_le_mul hm' (two_zpow_mono he') (two_zpow_pos e).le (by norm_num)
  have hnumber : number x = signed s q := hu.value_eq
  rw [le_iff, le_iff, number_neg, hnumber]
  refine ⟨⟨isNaN_of_isFinite isFinite_neg_largest, hx, ?_⟩,
    hx, isNaN_of_isFinite isFinite_largest, ?_⟩
  · cases s
    · exact neg_le_neg hsize.2
    · exact (neg_nonpos.mpr (hsize.1.trans hsize.2)).trans hsize.1
  · cases s
    · exact (neg_nonpos.mpr hsize.1).trans (hsize.1.trans hsize.2)
    · exact hsize.2

/-- What is fitted lies between what becomes of the two ends. -/
theorem fitDecimal_between (hf : (factor places).isFinite = true)
    (hpos : 0 < number (factor places)) (h : x.isFinite = true) :
    Setting.fitDecimal bounds places (-largest) ≤ Setting.fitDecimal bounds places x ∧
      Setting.fitDecimal bounds places x ≤ Setting.fitDecimal bounds places largest := by
  obtain ⟨hlo, hhi⟩ := mem_range_of_isFinite h
  exact ⟨fitDecimal_mono hf hpos hlo, fitDecimal_mono hf hpos hhi⟩

/-- What lies between two numbers within the bounds does so, too. -/
theorem excludes_of_le (hx : bounds.excludes x = false) (hz : bounds.excludes z = false)
    (h : x ≤ y) (h' : y ≤ z) : bounds.excludes y = false := by
  rw [Bounds.excludes_eq_false_iff] at *
  exact ⟨fun min hm hy => hx.1 min hm (lt_of_le_of_lt_float h hy),
    fun max hm hy => hz.2 max hm (lt_of_lt_of_le_float hy h')⟩

/-! ### Values -/

/-- The value is a finite number, if it is a decimal. -/
def Value.IsFinite : Value → Prop
  | .decimal x => x.isFinite = true
  | _ => True

/-- Equal values compare alike. -/
theorem Value.beq_congr {u v w : Value} (h : (u == v) = true) : (u == w) = (v == w) := by
  cases u with
  | boolean a =>
    cases v with
    | boolean b =>
      rw [Value.boolean_beq, beq_iff_eq] at h
      rw [h]
    | _ => cases h
  | integer a =>
    cases v with
    | integer b =>
      rw [Value.integer_beq, beq_iff_eq] at h
      rw [h]
    | _ => cases h
  | decimal a =>
    cases v with
    | decimal b =>
      cases w with
      | decimal c =>
        rw [Value.decimal_beq] at h
        rw [Value.decimal_beq, Value.decimal_beq]
        exact BEq.congr_left h
      | _ => rfl
    | _ => cases h
  | choice a =>
    cases v with
    | choice b =>
      rw [Value.choice_beq, beq_iff_eq] at h
      rw [h]
    | _ => cases h

theorem Value.beq_comm (u v : Value) : (u == v) = (v == u) := by
  cases u with
  | boolean a =>
    cases v with
    | boolean b => exact BEq.comm (a := a) (b := b)
    | _ => rfl
  | integer a =>
    cases v with
    | integer b => exact BEq.comm (a := a) (b := b)
    | _ => rfl
  | decimal a =>
    cases v with
    | decimal b => exact BEq.comm (a := a) (b := b)
    | _ => rfl
  | choice a =>
    cases v with
    | choice b => exact BEq.comm (a := a) (b := b)
    | _ => rfl

/-- What equals something equals itself. -/
theorem Value.beq_self_of_beq {u v : Value} (h : (u == v) = true) : (u == u) = true := by
  cases u with
  | boolean a => exact beq_self_eq_true a
  | integer a => exact beq_self_eq_true a
  | decimal a =>
    cases v with
    | decimal b => exact beq_refl (isNaN_of_beq h).1
    | _ => cases h
  | choice a => exact beq_self_eq_true a

/-- Equal values are finite together. -/
theorem Value.isFinite_congr {u v : Value} (h : (u == v) = true) : u.IsFinite ↔ v.IsFinite := by
  cases u with
  | decimal a =>
    cases v with
    | decimal b =>
      show a.isFinite = true ↔ b.isFinite = true
      rw [Binary.isFinite_congr h]
    | _ => cases h
  | _ =>
    cases v with
    | decimal b => cases h
    | _ => exact Iff.rfl

/-! ### Domains -/

namespace Domain

/-- Every decimal of the domain stays finite when it is fitted: the smallest
and the largest number do. -/
def SpansFinite : Domain → Prop
  | .decimal _ bounds places =>
    (Setting.fitDecimal bounds places (-largest)).isFinite = true ∧
      (Setting.fitDecimal bounds places largest).isFinite = true
  | _ => True

/-- The floating point number is finite and lies within the bounds. -/
def Keeps (bounds : Bounds Float) (x : Float) : Prop :=
  x.isFinite = true ∧ bounds.excludes x = false

/-- Every decimal of the domain is finite and within its bounds: the default,
and what the smallest and the largest number become. -/
def SpansWithin : Domain → Prop
  | .decimal default bounds places =>
    Keeps bounds default ∧ Keeps bounds (Setting.fitDecimal bounds places (-largest)) ∧
      Keeps bounds (Setting.fitDecimal bounds places largest)
  | _ => True

instance : DecidablePred SpansFinite := fun domain => by
  unfold SpansFinite
  split <;> infer_instance

instance : DecidablePred SpansWithin := fun domain => by
  unfold SpansWithin Keeps
  split <;> infer_instance

variable {default : Float}

/-- The factor of a valid setting is one to scale with. -/
theorem factor_of_valid (h : (roundTo default places == default) = true) :
    (factor places).isFinite = true ∧ 0 < number (factor places) :=
  factor_of_roundTo (isNaN_of_beq h).1

/-- Two computations tell whether fitting leaves all numbers finite. -/
theorem spansFinite_iff (h : (roundTo default places == default) = true) :
    (decimal default bounds places).SpansFinite ↔
      ∀ x, x.isFinite = true → (Setting.fitDecimal bounds places x).isFinite = true := by
  obtain ⟨hf, hpos⟩ := factor_of_valid h
  constructor
  · rintro ⟨hlo, hhi⟩ x hx
    obtain ⟨hle, hle'⟩ := fitDecimal_between hf hpos hx
    exact isFinite_of_le hlo hhi hle hle'
  · intro hall
    exact ⟨hall _ isFinite_neg_largest, hall _ isFinite_largest⟩

/-- And whether it leaves them within their bounds as well. -/
theorem spansWithin_iff (h : (roundTo default places == default) = true) :
    (decimal default bounds places).SpansWithin ↔ Keeps bounds default ∧
      ∀ x, x.isFinite = true → Keeps bounds (Setting.fitDecimal bounds places x) := by
  obtain ⟨hf, hpos⟩ := factor_of_valid h
  constructor
  · rintro ⟨hd, hlo, hhi⟩
    refine ⟨hd, ?_⟩
    intro x hx
    obtain ⟨hle, hle'⟩ := fitDecimal_between hf hpos hx
    exact ⟨isFinite_of_le hlo.1 hhi.1 hle hle', excludes_of_le hlo.2 hhi.2 hle hle'⟩
  · rintro ⟨hd, hall⟩
    exact ⟨hd, hall _ isFinite_neg_largest, hall _ isFinite_largest⟩

/-- Equal numbers are within the bounds together. -/
theorem keeps_of_beq (h : (x == y) = true) (hx : Keeps bounds x) : Keeps bounds y := by
  obtain ⟨hx', hy'⟩ := isNaN_of_beq h
  have hn := number_eq_of_beq h
  refine ⟨(isFinite_congr h).symm.trans hx.1, excludes_of_le hx.2 hx.2 ?_ ?_⟩
  · exact le_iff.mpr ⟨hx', hy', hn.le⟩
  · exact le_iff.mpr ⟨hy', hx', hn.ge⟩

end Domain

end Settings
