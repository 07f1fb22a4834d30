/-
Settings/Proofs/Decimal/Rounding.lean

Rounding to a number of decimal places, said with rational numbers: scaling
by the factor, going to a whole number and scaling back.

    number (roundTo x places)  =  rounded (number factor) (number x)

All three steps keep the order of numbers (`rounded_mono`).  The factor has to
be positive and finite for it; otherwise nothing is a number after rounding
(`factor_of_roundTo`).
-/
import Settings.Decimal.Rounding
import Settings.Proofs.Binary.Literals

namespace Settings.Decimal

open Float.Model Float.Model.UnpackedFloat
open Settings.Binary hiding nearest

/-! ### Whole numbers -/

/-- The nearest whole number, a half going away from zero. -/
def whole (q : ℚ) : ℚ := if 0 ≤ q then ⌊q + 1 / 2⌋ else -⌊-q + 1 / 2⌋

theorem whole_of_nonneg {q : ℚ} (h : 0 ≤ q) : whole q = ⌊q + 1 / 2⌋ := if_pos h

theorem whole_nonneg {q : ℚ} (h : 0 ≤ q) : 0 ≤ whole q := by
  rw [whole_of_nonneg h]
  exact_mod_cast Int.floor_nonneg.mpr (by linarith : 0 ≤ q + 1 / 2)

theorem whole_neg (q : ℚ) : whole (-q) = -whole q := by
  rcases lt_trichotomy q 0 with h | rfl | h
  · simp [whole, h.le, not_le.mpr h]
  · have hhalf : ⌊(1 / 2 : ℚ)⌋ = 0 := by norm_num
    simp only [whole, neg_zero, le_refl, if_true, zero_add, hhalf, Int.cast_zero]
  · simp [whole, h.le, not_le.mpr (neg_neg_of_pos h)]

theorem whole_mono {p q : ℚ} (h : p ≤ q) : whole p ≤ whole q := by
  refine monotone_of_odd whole_neg (fun _ => whole_nonneg) ?_ h
  intro p q hp h
  rw [whole_of_nonneg hp, whole_of_nonneg (hp.trans h)]
  exact_mod_cast Int.floor_mono (by linarith : p + 1 / 2 ≤ q + 1 / 2)

@[simp] theorem whole_natCast (n : ℕ) : whole n = n := by
  have hfloor : ⌊(n : ℚ) + 1 / 2⌋ = n := by
    rw [Int.floor_eq_iff]
    constructor <;> push_cast <;> linarith
  rw [whole_of_nonneg (Nat.cast_nonneg n), hfloor, Int.cast_natCast]

theorem whole_signed (s : Sign) (q : ℚ) : whole (signed s q) = signed s (whole q) := by
  cases s
  · exact whole_neg q
  · rfl

/-! ### Signs -/

/-- The first bit is set exactly if the sign is negative. -/
theorem isNegative_iff {x : Float} {s : Sign} {q : ℚ} (h : Encodes s q (unpacked x)) :
    isNegative x = true ↔ s = .negative := by
  have hs : s = .ofBitVec (@unpackSign Format.binary64 x.toBits.toBitVec) := by
    have h : Encodes s q (UnpackedFloat.unpack Format.binary64 x.toBits.toBitVec) := h
    rw [UnpackedFloat.unpack] at h
    simp only at h
    split_ifs at h <;> cases h <;> rfl
  have hbit : @unpackSign Format.binary64 x.toBits.toBitVec = 0#1 ↔ x.toBits.toNat < 2 ^ 63 := by
    have hlt := x.toBits.toNat_lt
    rw [← BitVec.toNat_inj, unpackSign, BitVec.toNat_cast, BitVec.extractLsb_toNat]
    show x.toBits.toNat >>> 63 % 2 ^ 1 = 0 ↔ _
    rw [Nat.shiftRight_eq_div_pow]
    omega
  have hnegative : isNegative x = true ↔ 2 ^ 63 ≤ x.toBits.toNat := by
    rw [isNegative, decide_eq_true_iff, ge_iff_le, UInt64.le_iff_toNat_le]
    rfl
  -- the same bit is asked for in two ways
  rw [hnegative, ← not_lt, ← hbit, hs, Sign.ofBitVec]
  split_ifs with h0 <;> simp [h0]

/-! ### Rounding to a whole number -/

theorem magnitude?_eq (x : Float) :
    magnitude? x = match unpacked x with
      | .finite _ m e _ => some (m, e)
      | _ => none := rfl

theorem roundHalfUp_eq (m k : ℕ) : roundHalfUp m k = (2 * m + 2 ^ k) / 2 ^ (k + 1) := rfl

/-- Rounding the quotient by a power of two. -/
theorem whole_div_pow (m k : ℕ) : whole (m / 2 ^ k) = roundHalfUp m k := by
  have hfloor : ⌊(m : ℚ) / 2 ^ k + 1 / 2⌋ = roundHalfUp m k := by
    have hsum : (m : ℚ) / 2 ^ k + 1 / 2 = ((2 * m + 2 ^ k : ℕ) : ℚ) / (2 ^ (k + 1) : ℕ) := by
      push_cast
      field_simp
      ring
    rw [hsum, Rat.floor_natCast_div_natCast, roundHalfUp_eq]
    rfl
  rw [whole_of_nonneg (by positivity), hfloor, Int.cast_natCast]

theorem roundHalfUp_lt {m k : ℕ} (hm : m < 2 ^ 53) (hk : 0 < k) :
    roundHalfUp m k < 2 ^ 53 := by
  have hpow : 2 ^ (k + 1) = 2 * 2 ^ k := pow_succ' ..
  have hk : 2 ^ 1 ≤ 2 ^ k := Nat.pow_le_pow_right two_pos hk
  rw [roundHalfUp_eq]
  apply Nat.div_lt_of_lt_mul
  rw [hpow]
  omega

theorem isNumber_neg {x : Float} {q : ℚ} (h : IsNumber x q) : IsNumber (-x) (-q) :=
  ⟨(isNaN_neg x).trans h.isNaN_eq, by rw [number_neg, h.number_eq]⟩

/-- Rounding the size of a number that has a fraction. -/
theorem isNumber_ofNat_roundHalfUp {m k : ℕ} (hm : m < 2 ^ 53) (hk : 0 < k) :
    IsNumber (Float.ofNat (roundHalfUp m k)) (whole (m / 2 ^ k)) := by
  rw [whole_div_pow, ← nearest_natCast (roundHalfUp_lt hm hk)]
  exact isNumber_ofNat _

/-- What is whole already is not changed. -/
theorem isNumber_roundWhole_of_eq {x : Float} (hx : x.isNaN = false) (h : roundWhole x = x)
    (hw : whole (number x) = number x) : IsNumber (roundWhole x) (whole (number x)) := by
  rw [h, hw]
  exact isNumber x hx

/-- A number without a fraction. -/
theorem isNumber_roundWhole_of_nonneg {x : Float} {s : Sign} {m n : ℕ} {hm : 0 < m}
    (hx : x.isNaN = false) (hu : unpacked x = .finite s m n hm) :
    IsNumber (roundWhole x) (whole (number x)) := by
  have hnat : (m : ℚ) * 2 ^ (n : ℤ) = (m * 2 ^ n : ℕ) := by
    rw [zpow_natCast]
    push_cast
    rfl
  have hnumber : number x = signed s (m * 2 ^ n : ℕ) := by
    rw [← hnat, number, hu]
    rfl
  apply isNumber_roundWhole_of_eq hx
  · rw [roundWhole, magnitude?_eq, hu]
    exact if_pos (Int.natCast_nonneg n)
  · rw [hnumber, whole_signed, whole_natCast]

/-- A number with a fraction: its size is rounded, and then has its sign back. -/
theorem isNumber_roundWhole_of_neg {x : Float} {s : Sign} {m k : ℕ} {hm : 0 < m} (hk : 0 < k)
    (hshort : m < 2 ^ 53) (hsign : isNegative x = true ↔ s = .negative)
    (hu : unpacked x = .finite s m (-k) hm) :
    IsNumber (roundWhole x) (whole (number x)) := by
  have hsize := isNumber_ofNat_roundHalfUp hshort hk
  have hnumber : number x = signed s (m / 2 ^ k) := by
    rw [div_eq_mul_inv, ← zpow_natCast, ← zpow_neg, number, hu]
    rfl
  have hround : roundWhole x = if isNegative x then -Float.ofNat (roundHalfUp m k)
      else Float.ofNat (roundHalfUp m k) := by
    rw [roundWhole, magnitude?_eq, hu]
    simp only
    rw [if_neg (by omega), Int.natAbs_neg, Int.natAbs_natCast]
  rw [hround, hnumber, whole_signed]
  cases s with
  | negative =>
    rw [if_pos (hsign.mpr rfl)]
    exact isNumber_neg hsize
  | positive =>
    have hpositive : ¬ isNegative x = true := by
      intro h
      cases hsign.mp h
    rw [if_neg hpositive]
    exact hsize

/-- Rounding to a whole number is exact. -/
theorem isNumber_roundWhole {x : Float} (hx : x.isNaN = false) :
    IsNumber (roundWhole x) (whole (number x)) := by
  rcases unpacked_cases x with h | ⟨s, h⟩ | ⟨s, q, hq, h⟩
  · rw [(isNaN_iff_unpacked x).mpr h] at hx
    cases hx
  · apply isNumber_roundWhole_of_eq hx
    · rw [roundWhole, magnitude?_eq, h]
    · have hlimit : limit = ((2 ^ 1024 : ℕ) : ℚ) := (Nat.cast_pow 2 1024).symm
      rw [number, h, value, whole_signed, hlimit, whole_natCast]
  · have hsign := isNegative_iff h
    obtain ⟨u, hu⟩ : ∃ u, unpacked x = u := ⟨_, rfl⟩
    rw [hu] at h
    cases h with
    | zero =>
      apply isNumber_roundWhole_of_eq hx
      · rw [roundWhole, magnitude?_eq, hu]
      · rw [number, hu]
        exact whole_natCast 0
    | @finite m e hpos hm he hfull =>
      by_cases h0 : 0 ≤ e
      · obtain ⟨n, rfl⟩ := Int.eq_ofNat_of_zero_le h0
        exact isNumber_roundWhole_of_nonneg hx hu
      · obtain ⟨k, rfl⟩ : ∃ k : ℕ, e = -k := Int.exists_eq_neg_ofNat (by omega)
        exact isNumber_roundWhole_of_neg (by omega) hm hsign hu

/-! ### The factor -/

/-- Something positive times infinity. -/
theorem mul_infinity {x y : Float} (hx : x.isNaN = false) (hpos : 0 < number x)
    (hy : unpacked y = .infinity .positive) : x * y = y := by
  have hmul := mul_eq_packed x y
  by_cases hf : x.isFinite = true
  · obtain ⟨m, e, hm, hu⟩ := unpacked_of_pos hf hpos
    rw [hmul, hu, hy, ← packed_unpacked y, hy]
    rfl
  · obtain ⟨s, hs, hn⟩ := number_of_not_isFinite hx (Bool.eq_false_iff.mpr hf)
    cases s with
    | negative =>
      rw [hn] at hpos
      exact absurd hpos (neg_neg_of_pos limit_pos).not_gt
    | positive =>
      rw [hmul, hs, hy, ← packed_unpacked y, hy]
      rfl

/-- What is infinite and positive. -/
theorem unpacked_of_not_isFinite {x : Float} {q : ℚ} (hx : IsNumber x q) (hq : 0 ≤ q)
    (h : x.isFinite = false) : unpacked x = .infinity .positive ∧ q = limit := by
  obtain ⟨s, hs, hn⟩ := number_of_not_isFinite hx.isNaN_eq h
  rw [hx.number_eq] at hn
  cases s with
  | negative =>
    rw [hn] at hq
    exact absurd (neg_neg_of_pos limit_pos) hq.not_gt
  | positive => exact ⟨hs, hn⟩

/-- The product of numbers that are at least one. -/
theorem isNumber_mul_of_one_le {x y : Float} {p q : ℚ} (hx : IsNumber x p) (hy : IsNumber y q)
    (hp : 1 ≤ p) (hq : 1 ≤ q) : ∃ r, 1 ≤ r ∧ IsNumber (x * y) r := by
  by_cases hf : y.isFinite = true
  · have hmul := isNumber_mul_pos hx.isNaN_eq hf (hy.number_eq.symm ▸ one_pos.trans_le hq)
    rw [hx.number_eq, hy.number_eq] at hmul
    refine ⟨_, ?_, hmul⟩
    unfold scaled
    split_ifs
    · -- one is on the grid, so nothing above it is rounded to less
      calc (1 : ℚ) = Binary.nearest (1 : ℕ) := by
            rw [nearest_natCast (Nat.one_lt_two_pow (by decide)), Nat.cast_one]
        _ ≤ Binary.nearest (p * q) := nearest_mono (by rw [Nat.cast_one]; nlinarith)
    · exact hp
  · obtain ⟨hu, -⟩ := unpacked_of_not_isFinite hy (by linarith) (Bool.eq_false_iff.mpr hf)
    rw [mul_infinity hx.isNaN_eq (hx.number_eq.symm ▸ one_pos.trans_le hp) hu]
    exact ⟨q, hq, hy⟩

theorem isNumber_powerOnto (bits : ℕ) :
    ∀ {result base : Float} {p q : ℚ} (exponent : ℕ), IsNumber result p → IsNumber base q →
      1 ≤ p → 1 ≤ q → ∃ r, 1 ≤ r ∧ IsNumber (powerOnto result base bits exponent) r := by
  induction bits with
  | zero => exact fun _ hr _ hp _ => ⟨_, hp, hr⟩
  | succ bits ih =>
    -- both the result and the square that goes on stay at least one
    intro result base p q exponent hr hb hp hq
    obtain ⟨step, hstep⟩ : ∃ step, (if exponent % 2 = 1 then result * base else result) = step :=
      ⟨_, rfl⟩
    obtain ⟨p', hp', hr'⟩ : ∃ p', 1 ≤ p' ∧ IsNumber step p' := by
      rw [← hstep]
      split_ifs
      · exact isNumber_mul_of_one_le hr hb hp hq
      · exact ⟨p, hp, hr⟩
    obtain ⟨q', hq', hb'⟩ := isNumber_mul_of_one_le hb hb hq hq
    rw [powerOnto, hstep]
    show ∃ r, 1 ≤ r ∧ IsNumber (if exponent / 2 = 0 then step else _) r
    split_ifs
    · exact ⟨p', hp', hr'⟩
    · exact ih _ hr' hb' hp' hq'

/-- The factor of the scale is a number and not negative; it may be zero or
infinite. -/
theorem isNumber_powerOfTen (exponent : ℤ) : ∃ q, 0 ≤ q ∧ IsNumber (powerOfTen exponent) q := by
  have hone : IsNumber (1.0 : Float) 1 := ⟨by decide +kernel, by decide +kernel⟩
  have hten : IsNumber (10.0 : Float) 10 := ⟨by decide +kernel, by decide +kernel⟩
  obtain ⟨q, hq, hpower⟩ :=
    isNumber_powerOnto 32 exponent.natAbs hone hten le_rfl (by norm_num)
  unfold powerOfTen
  simp only
  generalize powerOnto 1.0 10.0 32 exponent.natAbs = power at hpower
  split_ifs
  · by_cases hf : power.isFinite = true
    · have hdiv := isNumber_div (by decide +kernel : (1.0 : Float).isFinite = true) hf
        (hpower.number_eq.symm ▸ (one_pos.trans_le hq).ne')
      rw [hone.number_eq, hpower.number_eq] at hdiv
      exact ⟨_, nearest_nonneg (by positivity), hdiv⟩
    · obtain ⟨hu, -⟩ :=
        unpacked_of_not_isFinite hpower (by linarith) (Bool.eq_false_iff.mpr hf)
      -- one divided by infinity
      rw [← packed_unpacked power, hu]
      exact ⟨0, le_rfl, by decide +kernel, by decide +kernel⟩
  · exact ⟨q, zero_le_one.trans hq, hpower⟩

/-- The factor that is scaled with. -/
def factor (places : UInt32) : Float := powerOfTen (placesExponent places)

theorem roundTo_eq (x : Float) (places : UInt32) :
    roundTo x places = roundWhole (x * factor places) / factor places := rfl

theorem roundWhole_eq_self {x : Float} (h : magnitude? x = none) : roundWhole x = x := by
  rw [roundWhole, h]

/-- A number is lost if scaling leaves nothing to divide. -/
theorem isNaN_scaledBack {x y : Float} {u : UnpackedFloat} (hu : unpacked (x * y) = u)
    (hm : ∀ s m e h, u ≠ .finite s m e h)
    (hd : UnpackedFloat.div Format.binary64 u (unpacked y) = .notANumber) :
    (roundWhole (x * y) / y).isNaN = true := by
  have hround : roundWhole (x * y) = x * y := by
    apply roundWhole_eq_self
    rw [magnitude?_eq, hu]
    cases u with
    | finite s m e h => exact absurd rfl (hm s m e h)
    | _ => rfl
  rw [hround, isNaN_iff_unpacked, div_eq_packed, hu, hd]
  exact unpacked_packed_notANumber

/-- So it is if the factor is infinite. -/
theorem isNaN_of_infinity {x y : Float} {t : Sign} (hy : unpacked y = .infinity t) :
    (roundWhole (x * y) / y).isNaN = true := by
  have hmul := mul_eq_packed x y
  rw [hy] at hmul
  cases hx : unpacked x with
  | notANumber =>
    rw [hx] at hmul
    exact isNaN_scaledBack (hmul ▸ unpacked_packed_notANumber) (by simp) (by rw [hy]; rfl)
  | zero s =>
    rw [hx] at hmul
    exact isNaN_scaledBack (hmul ▸ unpacked_packed_notANumber) (by simp) (by rw [hy]; rfl)
  | infinity s =>
    rw [hx] at hmul
    exact isNaN_scaledBack (hmul ▸ unpacked_packed_infinity (s * t)) (by simp) (by rw [hy]; rfl)
  | finite s m e hm =>
    rw [hx] at hmul
    exact isNaN_scaledBack (hmul ▸ unpacked_packed_infinity (s * t)) (by simp) (by rw [hy]; rfl)

/-- And so it is if the factor is zero. -/
theorem isNaN_of_zero {x y : Float} {t : Sign} (hy : unpacked y = .zero t) :
    (roundWhole (x * y) / y).isNaN = true := by
  have hmul := mul_eq_packed x y
  have hzero : ∀ s, unpacked (packed (.zero s)) = .zero s :=
    fun s => unpack_pack_of_lt .zero limit_pos
  rw [hy] at hmul
  cases hx : unpacked x with
  | notANumber =>
    rw [hx] at hmul
    exact isNaN_scaledBack (hmul ▸ unpacked_packed_notANumber) (by simp) (by rw [hy]; rfl)
  | infinity s =>
    rw [hx] at hmul
    exact isNaN_scaledBack (hmul ▸ unpacked_packed_notANumber) (by simp) (by rw [hy]; rfl)
  | zero s =>
    rw [hx] at hmul
    exact isNaN_scaledBack (hmul ▸ hzero (s * t)) (by simp) (by rw [hy]; rfl)
  | finite s m e hm =>
    rw [hx] at hmul
    exact isNaN_scaledBack (hmul ▸ hzero (s * t)) (by simp) (by rw [hy]; rfl)

/-- Some number is rounded to a number only if the factor is one to scale with. -/
theorem factor_of_roundTo {x : Float} {places : UInt32} (h : (roundTo x places).isNaN = false) :
    (factor places).isFinite = true ∧ 0 < number (factor places) := by
  obtain ⟨q, hq, hfactor⟩ := isNumber_powerOfTen (placesExponent places)
  have hfactor : IsNumber (factor places) q := hfactor
  rw [roundTo_eq] at h
  by_cases hf : (factor places).isFinite = true
  · refine ⟨hf, ?_⟩
    rw [hfactor.number_eq]
    refine hq.lt_of_ne ?_
    rintro rfl
    obtain ⟨t, hu⟩ := unpacked_of_eq_zero hf hfactor.number_eq
    rw [isNaN_of_zero hu] at h
    cases h
  · obtain ⟨hu, -⟩ := unpacked_of_not_isFinite hfactor hq (Bool.eq_false_iff.mpr hf)
    rw [isNaN_of_infinity hu] at h
    cases h

/-! ### Rounding to decimal places -/

/-- What rounding makes of a number, with the given factor. -/
def rounded (f q : ℚ) : ℚ := scaled f⁻¹ (whole (scaled f q))

theorem isNumber_roundTo {x : Float} {places : UInt32} (hx : x.isNaN = false)
    (hf : (factor places).isFinite = true) (hpos : 0 < number (factor places)) :
    IsNumber (roundTo x places) (rounded (number (factor places)) (number x)) := by
  have hmul := isNumber_mul_pos hx hf hpos
  have hround := isNumber_roundWhole hmul.isNaN_eq
  have hdiv := isNumber_div_pos hround.isNaN_eq hf hpos
  rw [hround.number_eq, hmul.number_eq] at hdiv
  exact hdiv

theorem limits_scaled {f q : ℚ} (h : -limit ≤ q ∧ q ≤ limit) :
    -limit ≤ scaled f q ∧ scaled f q ≤ limit := by
  unfold scaled
  split_ifs
  · exact ⟨neg_limit_le_nearest _, nearest_le_limit _⟩
  · exact h

theorem limits_whole {q : ℚ} (h : -limit ≤ q ∧ q ≤ limit) :
    -limit ≤ whole q ∧ whole q ≤ limit := by
  have hwhole : whole limit = limit := by
    have hlimit : limit = ((2 ^ 1024 : ℕ) : ℚ) := (Nat.cast_pow 2 1024).symm
    rw [hlimit, whole_natCast]
  constructor
  · calc -limit = whole (-limit) := by rw [whole_neg, hwhole]
      _ ≤ whole q := whole_mono h.1
  · calc whole q ≤ whole limit := whole_mono h.2
      _ = limit := hwhole

/-- Rounding does not exchange numbers. -/
theorem rounded_mono {f p q : ℚ} (hf : 0 ≤ f) (hp : -limit ≤ p ∧ p ≤ limit)
    (hq : -limit ≤ q ∧ q ≤ limit) (h : p ≤ q) : rounded f p ≤ rounded f q := by
  have hp' := limits_whole (limits_scaled (f := f) hp)
  have hq' := limits_whole (limits_scaled (f := f) hq)
  apply scaled_mono (inv_nonneg.mpr hf) hp'.1 hq'.2
  exact whole_mono (scaled_mono hf hp.1 hq.2 h)

end Settings.Decimal
