/-
Settings/Proofs/Binary/Arithmetic.lean

The operations on floating point numbers, said with rational numbers: the
result is the floating point number nearest to the exact one.

    number (x * y)  =  nearest (number x * number y)

Infinite operands keep what they are when they are scaled by something
positive, so scaling never exchanges two numbers (`scaled_mono`).
-/
import Settings.Proofs.Binary.Number

namespace Settings.Binary

open Float.Model Float.Model.UnpackedFloat

/-! ### Signs -/

@[simp] theorem signed_mul_signed (s t : Sign) (p q : ℚ) :
    signed s p * signed t q = signed (s * t) (p * q) := by
  cases s <;> cases t
  · exact neg_mul_neg p q
  · exact neg_mul p q
  · exact mul_neg p q
  · rfl

@[simp] theorem signed_div_signed (s t : Sign) (p q : ℚ) :
    signed s p / signed t q = signed (s / t) (p / q) := by
  cases s <;> cases t
  · exact neg_div_neg_eq p q
  · exact neg_div q p
  · exact div_neg p
  · rfl

theorem nearest_signed (s : Sign) (q : ℚ) : nearest (signed s q) = signed s (nearest q) := by
  cases s
  · exact nearest_neg q
  · rfl

/-! ### Parts -/

/-- The product of two positive numbers that has digits enough, or that is
small enough. -/
theorem encodes_mul_finite (s t : Sign) {m n : ℕ} (hm : 0 < m) (hn : 0 < n) {d e : ℤ}
    (h : 2 ^ 52 ≤ m * n ∨ d + e ≤ -1074) :
    Encodes (s * t) (toGrid (m * 2 ^ d * (n * 2 ^ e)))
      (UnpackedFloat.mul Format.binary64 (.finite s m d hm) (.finite t n e hn)) := by
  have hvalue : (m : ℚ) * 2 ^ d * (n * 2 ^ e) = (m * n : ℕ) * 2 ^ (d + e) := by
    rw [zpow_add₀ two_ne_zero, Nat.cast_mul]
    ring
  rw [hvalue]
  apply encodes_roundWithAccuracy _ (denotes_exact _)
  · exact_mod_cast Nat.mul_pos hm hn
  · -- no digit is missing that the grid still has
    rcases h with hlong | hsmall
    · have hlong : (2 : ℚ) ^ 52 ≤ (m * n : ℕ) := by exact_mod_cast hlong
      exact le_gridExponent_of_le hlong _
    · exact hsmall.trans (le_gridExponent _)

/-- The product of two canonical forms. -/
theorem Encodes.mul {s t : Sign} {p q : ℚ} {u v : UnpackedFloat} (hu : Encodes s p u)
    (hv : Encodes t q v) :
    Encodes (s * t) (toGrid (p * q)) (UnpackedFloat.mul Format.binary64 u v) := by
  cases hu with
  | zero =>
    rw [zero_mul, toGrid_zero]
    cases hv <;> exact .zero
  | @finite m d hm hm' hd hmfull =>
    cases hv with
    | zero =>
      rw [mul_zero, toGrid_zero]
      exact .zero
    | @finite n e hn hn' he hnfull =>
      apply encodes_mul_finite
      -- two factors without their first digits are far below the grid
      rcases hmfull with hlong | rfl
      · exact .inl (hlong.trans (Nat.le_mul_of_pos_right m hn))
      · rcases hnfull with hlong | rfl
        · exact .inl (hlong.trans (Nat.le_mul_of_pos_left n hm))
        · exact .inr (by omega)

/-- The size of a number from its first digit. -/
theorem zpow_totalExponent_le {m : ℕ} (hm : 0 < m) (e : ℤ) :
    (2 : ℚ) ^ (totalExponent m e - 1) ≤ m * 2 ^ e := by
  rw [totalExponent, show (m.log2 + 1 + e - 1 : ℤ) = m.log2 + e by omega, zpow_add₀ two_ne_zero,
    zpow_natCast]
  refine mul_le_mul_of_nonneg_right ?_ (two_zpow_pos e).le
  exact_mod_cast Nat.log2_self_le hm.ne'

theorem lt_zpow_totalExponent (m : ℕ) (e : ℤ) : (m : ℚ) * 2 ^ e < 2 ^ totalExponent m e := by
  rw [totalExponent, zpow_add₀ two_ne_zero]
  refine mul_lt_mul_of_pos_right ?_ (two_zpow_pos e)
  exact_mod_cast Nat.lt_log2_self (n := m)

/-- The exponent at which a division stops leaves enough digits. -/
theorem divCore_exponent_le {m n : ℕ} (hm : 0 < m) (hn : 0 < n) (d e : ℤ) :
    Format.binary64.targetExponent (totalExponent m d - totalExponent n e)
      ≤ gridExponent (m * 2 ^ d / (n * 2 ^ e)) := by
  have hn' : (0 : ℚ) < n * 2 ^ e := mul_pos (by exact_mod_cast hn) (two_zpow_pos e)
  have hm' : (0 : ℚ) < m * 2 ^ d := mul_pos (by exact_mod_cast hm) (two_zpow_pos d)
  have hlog : totalExponent m d - totalExponent n e - 1
      ≤ Int.log 2 ((m : ℚ) * 2 ^ d / (n * 2 ^ e)) := by
    rw [← Int.zpow_le_iff_le_log (by norm_num) (div_pos hm' hn'), Nat.cast_ofNat,
      le_div_iff₀ hn']
    calc (2 : ℚ) ^ (totalExponent m d - totalExponent n e - 1) * (n * 2 ^ e)
        ≤ 2 ^ (totalExponent m d - totalExponent n e - 1) * 2 ^ totalExponent n e :=
          mul_le_mul_of_nonneg_left (lt_zpow_totalExponent n e).le (two_zpow_pos _).le
      _ = 2 ^ (totalExponent m d - 1) := by
          rw [← zpow_add₀ two_ne_zero]
          congr 1
          omega
      _ ≤ m * 2 ^ d := zpow_totalExponent_le hm d
  rw [targetExponent_eq]
  exact max_le_max (by omega) le_rfl

/-- The quotient of two positive numbers. -/
theorem encodes_div_finite (s t : Sign) {m n : ℕ} (hm : 0 < m) (hn : 0 < n) (d e : ℤ) :
    Encodes (s / t) (toGrid (m * 2 ^ d / (n * 2 ^ e)))
      (UnpackedFloat.div Format.binary64 (.finite s m d hm) (.finite t n e hn)) := by
  have hstop := divCore_exponent_le hm hn d e
  -- the numerator is shifted so far that the quotient ends where it may
  obtain ⟨k, hk⟩ : ∃ k : ℕ, d - e - min (d - e) (Format.binary64.targetExponent
      (totalExponent m d - totalExponent n e)) = k := Int.eq_ofNat_of_zero_le (by omega)
  have hvalue : ((m <<< k : ℕ) : ℚ) / n * 2 ^ (d - e - k) = m * 2 ^ d / (n * 2 ^ e) := by
    have hn0 : (n : ℚ) ≠ 0 := by exact_mod_cast hn.ne'
    rw [Nat.shiftLeft_eq, Nat.cast_mul, Nat.cast_pow, Nat.cast_ofNat, zpow_sub₀ two_ne_zero,
      zpow_sub₀ two_ne_zero, zpow_natCast]
    have hd0 := (two_zpow_pos d).ne'
    have he0 := (two_zpow_pos e).ne'
    field_simp
  have hdiv : UnpackedFloat.div Format.binary64 (.finite s m d hm) (.finite t n e hn)
      = roundWithAccuracy Format.binary64 (s / t) (m <<< k / n) (d - e - k)
          (accuracyOfFraction (m <<< k % n) n) := by
    rw [UnpackedFloat.div, divCore]
    simp only
    rw [hk, Int.toNat_natCast, show min (d - e) (Format.binary64.targetExponent
      (totalExponent m d - totalExponent n e)) = d - e - k by omega]
  rw [hdiv, ← hvalue]
  apply encodes_roundWithAccuracy _ (denotes_div _ hn)
  · rw [Nat.shiftLeft_eq]
    positivity
  · rw [hvalue]
    omega

theorem Encodes.div {s t : Sign} {p q : ℚ} {u v : UnpackedFloat} (hu : Encodes s p u)
    (hv : Encodes t q v) (hq : q ≠ 0) :
    Encodes (s / t) (toGrid (p / q)) (UnpackedFloat.div Format.binary64 u v) := by
  cases hv with
  | zero => exact absurd rfl hq
  | finite hn =>
    cases hu with
    | zero =>
      rw [zero_div, toGrid_zero]
      exact .zero
    | finite hm => exact encodes_div_finite s t hm hn _ _

/-! ### Operations -/

/-- The floating point number is a number, namely the given one. -/
structure IsNumber (x : Float) (q : ℚ) : Prop where
  isNaN_eq : x.isNaN = false
  number_eq : number x = q

theorem isNumber (x : Float) (h : x.isNaN = false) : IsNumber x (number x) := ⟨h, rfl⟩

theorem isNumber_infinity (s : Sign) : IsNumber (packed (.infinity s)) (signed s limit) := by
  refine ⟨?_, ?_⟩
  · rw [Bool.eq_false_iff, ne_eq, isNaN_iff_unpacked, unpacked_packed_infinity]
    simp
  · rw [number, unpacked_packed_infinity]
    rfl

/-- What is packed is cut off at the limit. -/
theorem Encodes.isNumber {s : Sign} {q : ℚ} {u : UnpackedFloat} (h : Encodes s q u) :
    IsNumber (packed u) (signed s (min q limit)) := by
  rcases lt_or_ge q limit with hq | hq
  · have hu : unpacked (packed u) = u := unpack_pack_of_lt h hq
    refine ⟨isNaN_of_isFinite ((isFinite_iff _).mpr ⟨s, q, hq, hu.symm ▸ h⟩), ?_⟩
    rw [number, hu, h.value_eq, min_eq_left hq.le]
  · have hu : packed u = packed (.infinity s) := by
      rw [← packed_unpacked (packed u), unpacked_packed_eq, unpack_pack_of_le h hq]
    rw [hu, min_eq_right hq]
    exact isNumber_infinity s

theorem signed_nearest {s : Sign} {q : ℚ} (hq : 0 ≤ q) :
    signed s (min (toGrid q) limit) = nearest (signed s q) := by
  rw [nearest_signed, nearest_of_nonneg hq]

/-- Numbers on the grid are the nearest to themselves. -/
theorem Encodes.nearest_eq {s : Sign} {q : ℚ} {u : UnpackedFloat} (h : Encodes s q u)
    (hq : q < limit) : nearest q = q := by
  rw [nearest_of_nonneg h.nonneg, h.toGrid_eq, min_eq_left hq.le]

variable {x y : Float}

theorem mul_eq_packed (x y : Float) :
    x * y = packed (UnpackedFloat.mul Format.binary64 (unpacked x) (unpacked y)) := rfl

theorem div_eq_packed (x y : Float) :
    x / y = packed (UnpackedFloat.div Format.binary64 (unpacked x) (unpacked y)) := rfl

/-- Multiplying goes to the nearest number. -/
theorem isNumber_mul (hx : x.isFinite = true) (hy : y.isFinite = true) :
    IsNumber (x * y) (nearest (number x * number y)) := by
  obtain ⟨s, p, -, hu⟩ := (isFinite_iff x).mp hx
  obtain ⟨t, q, -, hv⟩ := (isFinite_iff y).mp hy
  rw [number, number, hu.value_eq, hv.value_eq, signed_mul_signed,
    ← signed_nearest (mul_nonneg hu.nonneg hv.nonneg)]
  exact (hu.mul hv).isNumber

/-- Dividing goes to the nearest number. -/
theorem isNumber_div (hx : x.isFinite = true) (hy : y.isFinite = true) (h0 : number y ≠ 0) :
    IsNumber (x / y) (nearest (number x / number y)) := by
  obtain ⟨s, p, -, hu⟩ := (isFinite_iff x).mp hx
  obtain ⟨t, q, -, hv⟩ := (isFinite_iff y).mp hy
  have hq : q ≠ 0 := by
    rintro rfl
    rw [number, hv.value_eq, signed_zero] at h0
    exact h0 rfl
  rw [number, number, hu.value_eq, hv.value_eq, signed_div_signed,
    ← signed_nearest (div_nonneg hu.nonneg hv.nonneg)]
  exact (hu.div hv hq).isNumber

/-! ### Scaling -/

/-- The parts of a positive finite number. -/
theorem unpacked_of_pos (h : x.isFinite = true) (hpos : 0 < number x) :
    ∃ m e hm, unpacked x = .finite .positive m e hm := by
  obtain ⟨s, q, -, hu⟩ := (isFinite_iff x).mp h
  rw [number] at hpos
  generalize unpacked x = u at hu hpos
  cases hu with
  | zero => exact absurd hpos (lt_irrefl 0)
  | @finite m e hm =>
    cases s
    · have hle : (0 : ℚ) ≤ m * 2 ^ e := mul_nonneg (Nat.cast_nonneg m) (two_zpow_pos e).le
      exact absurd hpos (neg_nonpos.mpr hle).not_gt
    · exact ⟨m, e, hm, rfl⟩

/-- The parts of zero. -/
theorem unpacked_of_eq_zero (h : x.isFinite = true) (h0 : number x = 0) :
    ∃ s, unpacked x = .zero s := by
  obtain ⟨s, q, -, hu⟩ := (isFinite_iff x).mp h
  rw [number] at h0
  generalize unpacked x = u at hu h0
  cases hu with
  | zero => exact ⟨s, rfl⟩
  | @finite m e hm =>
    have hpos : (0 : ℚ) < m * 2 ^ e := mul_pos (by exact_mod_cast hm) (two_zpow_pos e)
    cases s
    · exact absurd h0 (neg_neg_of_pos hpos).ne
    · exact absurd h0 hpos.ne'

/-- The number that is left of `q` when it is scaled by `r`; the limits stay
where they are. -/
def scaled (r q : ℚ) : ℚ := if -limit < q ∧ q < limit then nearest (q * r) else q

/-- Infinity stays what it is when it is multiplied by something positive. -/
theorem mul_eq_self {s : Sign} (hx : unpacked x = .infinity s) (hy : y.isFinite = true)
    (hpos : 0 < number y) : x * y = x := by
  obtain ⟨m, e, hm, hv⟩ := unpacked_of_pos hy hpos
  rw [mul_eq_packed, hx, hv, ← packed_unpacked x, hx]
  cases s <;> rfl

/-- Or divided by it. -/
theorem div_eq_self {s : Sign} (hx : unpacked x = .infinity s) (hy : y.isFinite = true)
    (hpos : 0 < number y) : x / y = x := by
  obtain ⟨m, e, hm, hv⟩ := unpacked_of_pos hy hpos
  rw [div_eq_packed, hx, hv, ← packed_unpacked x, hx]
  cases s <;> rfl

/-- Multiplying something by a positive finite number. -/
theorem isNumber_mul_pos (hx : x.isNaN = false) (hy : y.isFinite = true) (hpos : 0 < number y) :
    IsNumber (x * y) (scaled (number y) (number x)) := by
  by_cases hf : x.isFinite = true
  · rw [scaled, if_pos ((isFinite_iff_number hx).mp hf)]
    exact isNumber_mul hf hy
  · obtain ⟨s, hs, -⟩ := number_of_not_isFinite hx (Bool.eq_false_iff.mpr hf)
    rw [scaled, if_neg (fun h => hf ((isFinite_iff_number hx).mpr h)), mul_eq_self hs hy hpos]
    exact isNumber x hx

/-- Dividing something by a positive finite number. -/
theorem isNumber_div_pos (hx : x.isNaN = false) (hy : y.isFinite = true) (hpos : 0 < number y) :
    IsNumber (x / y) (scaled (number y)⁻¹ (number x)) := by
  by_cases hf : x.isFinite = true
  · rw [scaled, if_pos ((isFinite_iff_number hx).mp hf), ← div_eq_mul_inv]
    exact isNumber_div hf hy hpos.ne'
  · obtain ⟨s, hs, -⟩ := number_of_not_isFinite hx (Bool.eq_false_iff.mpr hf)
    rw [scaled, if_neg (fun h => hf ((isFinite_iff_number hx).mpr h)), div_eq_self hs hy hpos]
    exact isNumber x hx

/-- Scaling does not exchange numbers. -/
theorem scaled_mono {r p q : ℚ} (hr : 0 ≤ r) (hp : -limit ≤ p) (hq : q ≤ limit) (h : p ≤ q) :
    scaled r p ≤ scaled r q := by
  unfold scaled
  split_ifs with h₁ h₂ h₂
  · exact nearest_mono (mul_le_mul_of_nonneg_right h hr)
  · -- only at the limit is the larger number not scaled
    have hq : q = limit := le_antisymm hq (not_lt.mp fun hlt => h₂ ⟨h₁.1.trans_le h, hlt⟩)
    rw [hq]
    exact nearest_le_limit _
  · have hp : p = -limit := le_antisymm (not_lt.mp fun hlt => h₁ ⟨hlt, h.trans_lt h₂.2⟩) hp
    rw [hp]
    exact neg_limit_le_nearest _
  · exact h

end Settings.Binary
