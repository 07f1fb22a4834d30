/-
Settings/Proofs/Binary/Literals.lean

Floating point numbers that are given by digits.  A whole number goes to the
nearest floating point number, and so does a decimal one, whichever way is
taken to compute it:

    number (Float.ofScientific m s e)  =  nearest (m * 10 ^ (∓ e))
-/
import Settings.Proofs.Binary.Arithmetic

namespace Settings.Binary

open Float.Model Float.Model.UnpackedFloat

/-! ### Whole numbers -/

theorem encodes_ofNat (n : ℕ) :
    Encodes .positive (toGrid n) (UnpackedFloat.ofNat Format.binary64 n) := by
  rcases Nat.eq_zero_or_pos n with rfl | hn
  · rw [Nat.cast_zero, toGrid_zero]
    exact .zero
  · have hcompare : compare (n : ℤ) 0 = .gt := compare_gt_iff_gt.mpr (by exact_mod_cast hn)
    have hround := encodes_round .positive hn 0
    rw [zpow_zero, mul_one] at hround
    rw [UnpackedFloat.ofNat, UnpackedFloat.ofInt, UnpackedFloat.normalize, hcompare]
    exact hround

/-- Whole numbers with up to 53 binary digits are exact. -/
theorem nearest_natCast {n : ℕ} (h : n < 2 ^ 53) : nearest n = n := by
  have hgrid : toGrid (n : ℚ) = n := by simpa using toGrid_eq_self h (e := 0) (by norm_num)
  have hlt : (n : ℚ) < 2 ^ 53 := by exact_mod_cast h
  rw [nearest_of_nonneg (Nat.cast_nonneg n), hgrid, min_eq_left]
  exact hlt.le.trans (pow_le_pow_right₀ one_le_two (by norm_num))

/-- Packed canonical forms of positive numbers. -/
theorem Encodes.isNumber_positive {q : ℚ} {u : UnpackedFloat} (hq : 0 ≤ q)
    (h : Encodes .positive (toGrid q) u) : IsNumber (packed u) (nearest q) := by
  have hn := h.isNumber
  rwa [signed_nearest hq] at hn

theorem isNumber_toFloat {n : ℕ} (h : n < 2 ^ 53) : IsNumber n.toUInt64.toFloat n := by
  have hn : n.toUInt64.toNat = n := by
    rw [Nat.toUInt64_eq, UInt64.toNat_ofNat']
    exact Nat.mod_eq_of_lt (h.trans (by norm_num))
  have hfloat : n.toUInt64.toFloat = packed (UnpackedFloat.ofNat Format.binary64 n) := by
    conv => rhs; rw [← hn]
    rfl
  have hnumber := (encodes_ofNat n).isNumber_positive (Nat.cast_nonneg n)
  rwa [nearest_natCast h, ← hfloat] at hnumber

/-! ### Decimal numbers -/

/-- The powers of ten that are exact. -/
theorem isNumber_exactPower : ∀ (e : ℕ) (h : e < Float.exactlyRepresentablePowersOfTen.size),
    IsNumber Float.exactlyRepresentablePowersOfTen[e] (10 ^ e) := by
  have hall : ∀ e : Fin Float.exactlyRepresentablePowersOfTen.size,
      (Float.exactlyRepresentablePowersOfTen[e]).isNaN = false ∧
        number Float.exactlyRepresentablePowersOfTen[e] = 10 ^ (e : ℕ) := by
    decide +kernel
  intro e h
  exact ⟨(hall ⟨e, h⟩).1, (hall ⟨e, h⟩).2⟩

/-- A decimal number that is too large. -/
theorem limit_le_of_digits {m : ℕ} (hm : m ≠ 0) {e : ℤ} (he : 342 ≤ e) : limit ≤ m * 10 ^ e := by
  have hone : (1 : ℚ) ≤ m := by exact_mod_cast Nat.pos_of_ne_zero hm
  calc limit ≤ 2 ^ (3 * 342) := pow_le_pow_right₀ one_le_two (by norm_num)
    _ = (2 ^ 3) ^ 342 := pow_mul ..
    _ ≤ 10 ^ 342 := pow_le_pow_left₀ (by norm_num) (by norm_num) _
    _ = 10 ^ (342 : ℤ) := (zpow_natCast ..).symm
    _ ≤ 10 ^ e := zpow_le_zpow_right₀ (by norm_num) he
    _ ≤ m * 10 ^ e := le_mul_of_one_le_left (zpow_pos (by norm_num) e).le hone

/-- A decimal number that is too small. -/
theorem toGrid_of_digits {m k : ℕ} (hm : m < 2 ^ k) {e : ℤ} (he : e ≤ -(1075 + k)) :
    toGrid (m * 10 ^ e) = 0 := by
  obtain ⟨n, rfl⟩ : ∃ n : ℕ, e = -n := Int.exists_eq_neg_ofNat (by omega)
  have hten : (10 : ℚ) ^ (-n : ℤ) ≤ 2 ^ (-n : ℤ) := by
    rw [zpow_neg, zpow_neg, zpow_natCast, zpow_natCast]
    exact inv_anti₀ (pow_pos two_pos n) (pow_le_pow_left₀ two_pos.le (by norm_num) n)
  have hpos : (0 : ℚ) < 10 ^ (-n : ℤ) := zpow_pos (by norm_num) _
  apply toGrid_of_lt (mul_nonneg (Nat.cast_nonneg m) hpos.le)
  calc (m : ℚ) * 10 ^ (-n : ℤ) < 2 ^ (k : ℤ) * 10 ^ (-n : ℤ) :=
        mul_lt_mul_of_pos_right (by exact_mod_cast hm) hpos
    _ ≤ 2 ^ (k : ℤ) * 2 ^ (-n : ℤ) := mul_le_mul_of_nonneg_left hten (two_zpow_pos _).le
    _ = 2 ^ (k - n : ℤ) := by rw [← zpow_add₀ two_ne_zero, sub_eq_add_neg]
    _ ≤ 2 ^ (-1075 : ℤ) := two_zpow_mono (by omega)

/-- What stands for zero. -/
theorem isNumber_zero {q : ℚ} (hq : 0 ≤ q) (h : toGrid q = 0) :
    IsNumber (packed (.zero .positive)) (nearest q) := by
  apply Encodes.isNumber_positive hq
  rw [h]
  exact .zero

/-- What stands for infinity. -/
theorem isNumber_of_limit_le {q : ℚ} (h : limit ≤ q) :
    IsNumber (packed (.infinity .positive)) (nearest q) := by
  rw [nearest_of_nonneg (limit_pos.le.trans h), min_eq_right (limit_le_toGrid h)]
  exact isNumber_infinity .positive

/-- A product with a power of ten is exact before it is rounded. -/
theorem shiftLeft_mul_pow (m n : ℕ) :
    ((m <<< 53 : ℕ) : ℚ) * 2 ^ (-53 : ℤ) * ((10 ^ n : ℕ) * 2 ^ (0 : ℤ)) = m * 10 ^ (n : ℤ) := by
  rw [Nat.shiftLeft_eq, zpow_natCast, zpow_zero, mul_one, Nat.cast_mul, Nat.cast_pow,
    Nat.cast_pow, mul_assoc (m : ℚ), Nat.cast_ofNat, ← zpow_natCast (2 : ℚ),
    ← zpow_add₀ two_ne_zero]
  simp

/-- And so is a quotient. -/
theorem div_pow_toNat (m : ℕ) {e : ℤ} (he : e < 0) :
    (m : ℚ) * 2 ^ (0 : ℤ) / ((10 ^ (-e).toNat : ℕ) * 2 ^ (0 : ℤ)) = m * 10 ^ e := by
  have hinv : (10 : ℚ) ^ e = (10 ^ (-e).toNat)⁻¹ := by
    rw [← zpow_natCast, ← zpow_neg]
    congr 1
    omega
  rw [zpow_zero, mul_one, mul_one, hinv, Nat.cast_pow, div_eq_mul_inv, Nat.cast_ofNat]

/-- Digits and an exponent go to the nearest number. -/
theorem isNumber_packed_ofScientific (m : ℕ) (e : ℤ) :
    IsNumber (packed (UnpackedFloat.ofScientific Format.binary64 m e)) (nearest (m * 10 ^ e)) := by
  have hq : (0 : ℚ) ≤ m * 10 ^ e :=
    mul_nonneg (Nat.cast_nonneg m) (zpow_pos (by norm_num) e).le
  unfold UnpackedFloat.ofScientific
  split_ifs with hm hlarge hsmall hsign
  · apply isNumber_zero hq
    rw [hm, Nat.cast_zero, zero_mul, toGrid_zero]
  · -- beyond these exponents nothing is computed
    have hlarge : (2048 : ℤ) < e := hlarge
    exact isNumber_of_limit_le (limit_le_of_digits hm (by omega))
  · have hsmall : e < -(2048 + m.log2) := hsmall
    exact isNumber_zero hq (toGrid_of_digits Nat.lt_log2_self (by push_cast; omega))
  · apply Encodes.isNumber_positive hq
    obtain ⟨n, rfl⟩ := Int.eq_ofNat_of_zero_le hsign
    -- the mantissa is lengthened, so that the product has digits enough
    have hten : 0 < 10 ^ n := Nat.pow_pos (by decide)
    have hlong : 2 ^ 52 ≤ m <<< 53 := by
      rw [Nat.shiftLeft_eq]
      omega
    have hshift : 0 < m <<< 53 := lt_of_lt_of_le (by decide) hlong
    have hmul := encodes_mul_finite .positive .positive (d := -53) (e := 0) hshift
      hten (.inl (hlong.trans (Nat.le_mul_of_pos_right _ hten)))
    rw [shiftLeft_mul_pow] at hmul
    exact hmul
  · apply Encodes.isNumber_positive hq
    have hten : 0 < 10 ^ (-e).toNat := Nat.pow_pos (by decide)
    have hdiv := encodes_div_finite .positive .positive (Nat.pos_of_ne_zero hm) hten 0 0
    rw [div_pow_toNat m (by omega)] at hdiv
    exact hdiv

/-- A number below the limit is finite. -/
theorem IsNumber.isFinite {x : Float} {q : ℚ} (h : IsNumber x q) (hq : 0 ≤ q) (hlt : q < limit) :
    x.isFinite = true := by
  rw [isFinite_iff_number h.isNaN_eq, h.number_eq]
  exact ⟨(neg_neg_of_pos limit_pos).trans_le hq, hlt⟩

/-- Multiplying few digits by an exact power, or dividing them. -/
theorem isNumber_scale {x power : Float} {m e : ℕ} (hx : IsNumber x m) (hm : m < 2 ^ 53)
    (hpower : IsNumber power (10 ^ e)) (he : e ≤ 22) :
    IsNumber (x * power) (nearest (m * 10 ^ (e : ℤ))) ∧
      IsNumber (x / power) (nearest (m * 10 ^ (-(e : ℤ)))) := by
  have hm' : (m : ℚ) < 2 ^ 53 := by exact_mod_cast hm
  have hten : (10 : ℚ) ^ e ≤ 10 ^ 22 := pow_le_pow_right₀ (by norm_num) he
  have hlimit : (2 : ℚ) ^ 80 ≤ limit := pow_le_pow_right₀ one_le_two (by norm_num)
  have hpos : (0 : ℚ) < 10 ^ e := by positivity
  have hfin := hx.isFinite (Nat.cast_nonneg m) (by linarith)
  have hfin' := hpower.isFinite hpos.le (by linarith)
  have hmul := isNumber_mul hfin hfin'
  have hdiv := isNumber_div hfin hfin' (hpower.number_eq.symm ▸ hpos.ne')
  rw [hx.number_eq, hpower.number_eq, ← zpow_natCast] at hmul hdiv
  rw [div_eq_mul_inv, ← zpow_neg] at hdiv
  exact ⟨hmul, hdiv⟩

/-- Digits with a scale go to the nearest number. -/
theorem isNumber_ofScientific (m e : ℕ) (isNegative : Bool) :
    IsNumber (Float.ofScientific m isNegative e)
      (nearest (m * 10 ^ (if isNegative then -(e : ℤ) else e))) := by
  unfold Float.ofScientific
  -- few digits and a small power are exact, and one operation rounds once
  by_cases h : m < 2 ^ 53 ∧ e ≤ 22
  · have hscale := isNumber_scale (isNumber_toFloat h.1) h.1
      (isNumber_exactPower e (show e < 23 by omega)) h.2
    rw [dif_pos h]
    cases isNegative with
    | true => exact hscale.2
    | false => exact hscale.1
  · rw [dif_neg h]
    cases isNegative with
    | true =>
      show IsNumber (packed (UnpackedFloat.ofScientific Format.binary64 m (Int.negOfNat e))) _
      rw [Int.negOfNat_eq]
      exact isNumber_packed_ofScientific m (-e)
    | false => exact isNumber_packed_ofScientific m e

theorem isNumber_ofNat (n : ℕ) : IsNumber (Float.ofNat n) (nearest n) := by
  have h := isNumber_ofScientific n 0 false
  rwa [if_neg Bool.false_ne_true, Nat.cast_zero, zpow_zero, mul_one] at h

end Settings.Binary
