/-
Settings/Proofs/Decimal/Shortest.lean

The digits that are written for a number read back to it.  `Digits.nearest`
goes to the nearest floating point number (`isNumber_nearest`), so it depends
on the value of the digits only.  The digits that are chosen for `x` either
have been tried, or they are exact; both ways they read back to the size of
`x` (`nearest_of_shortest?`).
-/
import Settings.Decimal.Shortest
import Settings.Decimal.Reader
import Settings.Proofs.Decimal.Rounding

namespace Settings.Decimal

open Float.Model Float.Model.UnpackedFloat
open Settings.Binary hiding nearest value

/-! ### The value of digits -/

/-- The number that the digits write. -/
def Digits.value (d : Digits) : ℚ := d.digits * 10 ^ d.exponent

theorem Digits.value_nonneg (d : Digits) : 0 ≤ d.value :=
  mul_nonneg (Nat.cast_nonneg _) (zpow_pos (by norm_num) _).le

theorem Digits.value_strip (fuel : ℕ) : ∀ d : Digits, (strip fuel d).value = d.value := by
  induction fuel with
  | zero => exact fun d => rfl
  | succ fuel ih =>
    intro d
    rw [strip]
    split_ifs with h
    · rw [ih, value, value]
      have hdiv : (d.digits : ℚ) = 10 * (d.digits / 10 : ℕ) := by
        exact_mod_cast (Nat.mul_div_cancel' (Nat.dvd_of_mod_eq_zero h.2)).symm
      show ((d.digits / 10 : ℕ) : ℚ) * 10 ^ (d.exponent + 1) = d.digits * 10 ^ d.exponent
      rw [hdiv, zpow_add₀ (by norm_num), zpow_one]
      ring
    · rfl

/-- Zeros at the end do not change the value. -/
@[simp] theorem Digits.value_normal (d : Digits) : d.normal.value = d.value :=
  Digits.value_strip _ d

theorem lt_pow_digitCount (n : ℕ) : n < 10 ^ digitCount n :=
  (Nat.length_toDigits_le_iff (by decide) (Nat.length_toDigits_pos)).mp le_rfl

theorem pow_digitCount_le {n : ℕ} (h : n ≠ 0) : 10 ^ (digitCount n - 1) ≤ n := by
  by_contra! hlt
  rcases Nat.eq_zero_or_pos (digitCount n - 1) with h0 | hpos
  · rw [h0, pow_zero] at hlt
    omega
  · have hle := (Nat.length_toDigits_le_iff (by decide) hpos).mpr hlt
    have hcount : (Nat.toDigits 10 n).length = digitCount n := rfl
    omega

/-! ### Reading -/

/-- What lies far below all floating point numbers. -/
theorem Digits.toGrid_value_of_lt {d : Digits} (h : digitCount d.digits + d.exponent < -400) :
    toGrid d.value = 0 := by
  apply toGrid_of_lt d.value_nonneg
  have hten : (0 : ℚ) < 10 ^ d.exponent := zpow_pos (by norm_num) _
  calc d.value < 10 ^ (digitCount d.digits : ℤ) * 10 ^ d.exponent :=
        mul_lt_mul_of_pos_right (by exact_mod_cast lt_pow_digitCount d.digits) hten
    _ = 10 ^ (digitCount d.digits + d.exponent) := (zpow_add₀ (by norm_num) _ _).symm
    _ ≤ 10 ^ (-401 : ℤ) := zpow_le_zpow_right₀ (by norm_num) (by omega)
    _ = (10 ^ 401)⁻¹ := by rw [zpow_neg]; rfl
    _ ≤ ((2 ^ 3) ^ 401)⁻¹ :=
        inv_anti₀ (by positivity) (pow_le_pow_left₀ (by norm_num) (by norm_num) _)
    _ = 2 ^ (-1203 : ℤ) := by rw [← pow_mul, zpow_neg]; rfl
    _ ≤ 2 ^ (-1075 : ℤ) := two_zpow_mono (by norm_num)

/-- What lies far above them. -/
theorem Digits.limit_le_value {d : Digits} (h0 : d.digits ≠ 0)
    (h : 400 < digitCount d.digits + d.exponent) : limit ≤ d.value := by
  have hten : (0 : ℚ) < 10 ^ d.exponent := zpow_pos (by norm_num) _
  have hcount : 0 < digitCount d.digits := Nat.length_toDigits_pos
  calc limit ≤ (1 : ℕ) * 10 ^ (400 : ℤ) := limit_le_of_digits one_ne_zero (by norm_num)
    _ = 10 ^ (400 : ℤ) := by rw [Nat.cast_one, one_mul]
    _ ≤ 10 ^ (((digitCount d.digits - 1 : ℕ) : ℤ) + d.exponent) :=
        zpow_le_zpow_right₀ (by norm_num) (by omega)
    _ = 10 ^ ((digitCount d.digits - 1 : ℕ) : ℤ) * 10 ^ d.exponent := zpow_add₀ (by norm_num) _ _
    _ ≤ d.value := mul_le_mul_of_nonneg_right (by exact_mod_cast pow_digitCount_le h0) hten.le

theorem Digits.value_eq_zero_iff (d : Digits) : d.value = 0 ↔ d.digits = 0 := by
  have hten : (10 : ℚ) ^ d.exponent ≠ 0 := (zpow_pos (by norm_num) _).ne'
  rw [value, mul_eq_zero, or_iff_left hten, Nat.cast_eq_zero]

/-- Digits are read as the nearest number. -/
theorem Digits.isNumber_nearest (d : Digits) : IsNumber d.nearest (Binary.nearest d.value) := by
  have hzero : ∀ q : ℚ, 0 ≤ q → toGrid q = 0 → IsNumber (0.0 : Float) (Binary.nearest q) := by
    intro q hq h
    rw [nearest_of_nonneg hq, h, min_eq_left limit_pos.le]
    exact ⟨by decide +kernel, by decide +kernel⟩
  have h0 : d.normal.digits = 0 ↔ d.digits = 0 := by
    rw [← value_eq_zero_iff, value_normal, value_eq_zero_iff]
  -- the zeros at the end are dropped before anything is compared
  rw [← value_normal]
  unfold nearest
  rcases hn : d.normal with ⟨digits, exponent⟩
  rw [hn] at h0
  simp only
  split_ifs with hsmall hlarge
  · rw [Bool.or_eq_true, decide_eq_true_iff, decide_eq_true_iff] at hsmall
    apply hzero _ (value_nonneg _)
    rcases hsmall with hd | hsmall
    · rw [(value_eq_zero_iff _).mpr (h0.mpr hd), toGrid_zero]
    · exact toGrid_value_of_lt hsmall
  · rw [Bool.or_eq_true, decide_eq_true_iff, decide_eq_true_iff, not_or] at hsmall
    have hle := limit_le_value (d := ⟨digits, exponent⟩) (h0.not.mpr hsmall.1) hlarge
    rw [nearest_of_nonneg (value_nonneg _), min_eq_right (limit_le_toGrid hle)]
    exact ⟨by decide +kernel, by decide +kernel⟩
  · have hread := isNumber_ofScientific digits exponent.natAbs (decide (exponent < 0))
    have he : (if decide (exponent < 0) = true then -(exponent.natAbs : ℤ) else exponent.natAbs)
        = exponent := by
      split_ifs with h <;> rw [decide_eq_true_iff] at h <;> omega
    rw [he] at hread
    exact hread

/-! ### Reading back -/

/-- Two floating point numbers that are the same number are equal. -/
theorem beq_of_isNumber {x y : Float} {q : ℚ} (hx : IsNumber x q) (hy : IsNumber y q) :
    (x == y) = true :=
  (beq_iff hx.isNaN_eq hy.isNaN_eq).mpr (hx.number_eq.trans hy.number_eq.symm)

/-- The size of a finite number. -/
theorem isNumber_abs {x : Float} {s : Sign} {q : ℚ} (hq : q < limit)
    (h : Encodes s q (unpacked x)) : IsNumber x.abs q := by
  have habs : Encodes .positive q (unpacked x.abs) := by
    rw [unpacked_abs]
    exact h.abs
  exact ⟨isNaN_of_isFinite ((isFinite_iff _).mpr ⟨_, q, hq, habs⟩), habs.value_eq⟩

theorem exactDigits_eq (m : ℕ) (e : ℤ) :
    exactDigits m e = if 0 ≤ e then ⟨m * 2 ^ e.toNat, 0⟩ else ⟨m * 5 ^ e.natAbs, e⟩ := rfl

/-- All decimal digits of a number. -/
theorem value_exactDigits (m : ℕ) (e : ℤ) : (exactDigits m e).value = m * 2 ^ e := by
  rw [exactDigits_eq]
  split_ifs with h
  · obtain ⟨n, rfl⟩ := Int.eq_ofNat_of_zero_le h
    simp [Digits.value]
  · obtain ⟨n, rfl⟩ : ∃ n : ℕ, e = -n := Int.exists_eq_neg_ofNat (by omega)
    have hpow : (5 : ℚ) ^ n * (10 ^ n)⁻¹ = (2 ^ n)⁻¹ := by
      rw [← div_eq_mul_inv, ← div_pow, ← inv_pow]
      norm_num
    simp only [Digits.value, Int.natAbs_neg, Int.natAbs_natCast, zpow_neg, zpow_natCast]
    push_cast
    rw [mul_assoc, hpow]

/-- The size with the sign. -/
theorem withSign_isNegative_abs {x : Float} (hx : x.isFinite = true) :
    withSign (isNegative x) x.abs = x := by
  obtain ⟨s, q, hq, h⟩ := (isFinite_iff x).mp hx
  have hsign := isNegative_iff h
  apply eq_of_unpacked
  have habs : unpacked x.abs = (unpacked x).abs := unpacked_abs x
  generalize unpacked x = u at h habs ⊢
  cases s with
  | negative =>
    rw [withSign, hsign.mpr rfl, if_pos rfl, unpacked_neg, habs]
    cases h <;> rfl
  | positive =>
    rw [withSign, if_neg (fun hn => nomatch hsign.mp hn), habs]
    cases h <;> rfl

/-- Digits that read back to a number do so without the zeros at their end. -/
theorem normal_nearest_beq {d : Digits} {y : Float} (h : (d.nearest == y) = true) :
    (d.normal.nearest == y) = true := by
  have hn := d.normal.isNumber_nearest
  rw [Digits.value_normal] at hn
  exact BEq.trans (beq_of_isNumber hn d.isNumber_nearest) h

/-- Digits are chosen for finite numbers other than zero. -/
theorem unpacked_of_shortest? {x : Float} {tie : Tie} {d : Digits} (h : shortest? tie x = some d) :
    ∃ s m e hm, unpacked x = .finite s m e hm := by
  rw [shortest?, magnitude?_eq] at h
  cases hp : unpacked x with
  | finite s m e hm => exact ⟨s, m, e, hm, rfl⟩
  | zero s =>
    rw [hp] at h
    cases h
  | infinity s =>
    rw [hp] at h
    cases h
  | notANumber =>
    rw [hp] at h
    cases h

/-- The digits that are chosen for a number that is not zero read back to its
size. -/
theorem nearest_of_shortest? {x : Float} {tie : Tie} {d : Digits} (hx : x.isFinite = true)
    (h : shortest? tie x = some d) : d.nearest = x.abs := by
  obtain ⟨s, q, hq, hu⟩ := (isFinite_iff x).mp hx
  have habs := isNumber_abs hq hu
  have hself : Binary.nearest q = q := hu.nearest_eq hq
  obtain ⟨t, m, e, hm, hp⟩ := unpacked_of_shortest? h
  rw [shortest?, magnitude?_eq, hp] at h
  rw [hp] at hu
  cases hu
  have hpos : (0 : ℚ) < m * 2 ^ e := mul_pos (by exact_mod_cast hm) (two_zpow_pos e)
  have hexact : ((exactDigits m e).nearest == x.abs) = true := by
    have hnearest := (exactDigits m e).isNumber_nearest
    rw [value_exactDigits, hself] at hnearest
    exact beq_of_isNumber hnearest habs
  have hd : (d.nearest == x.abs) = true := by
    rw [← Option.some.inj h]
    apply normal_nearest_beq
    -- shorter digits have been tried before they are chosen
    cases hfound : List.find? _ _ with
    | none => exact hexact
    | some d =>
      have hd := List.find?_some hfound
      exact hd
  apply eq_of_beq hd
  rw [number_eq_of_beq hd, habs.number_eq]
  exact hpos.ne'

/-- Zero has no digits to be chosen. -/
theorem number_pos_of_shortest? {x : Float} {tie : Tie} {d : Digits} (hx : x.isFinite = true)
    (h : shortest? tie x = some d) : 0 < number x.abs := by
  obtain ⟨s, q, hq, hu⟩ := (isFinite_iff x).mp hx
  rw [(isNumber_abs hq hu).number_eq]
  obtain ⟨t, m, e, hm, hp⟩ := unpacked_of_shortest? h
  rw [hp] at hu
  cases hu
  exact mul_pos (by exact_mod_cast hm) (two_zpow_pos e)

/-- Digits of the same value as those that are chosen read back to the size,
too. -/
theorem nearest_of_value_eq {x : Float} {tie : Tie} {d d' : Digits} (hx : x.isFinite = true)
    (h : shortest? tie x = some d) (hvalue : d'.value = d.value) : d'.nearest = x.abs := by
  have hd := d.isNumber_nearest
  have hd' := d'.isNumber_nearest
  rw [nearest_of_shortest? hx h] at hd
  rw [hvalue] at hd'
  apply eq_of_beq (beq_of_isNumber hd' hd)
  rw [hd'.number_eq, ← hd.number_eq]
  exact (number_pos_of_shortest? hx h).ne'

/-- Digits that are chosen are not zero. -/
theorem digits_pos_of_shortest? {x : Float} {tie : Tie} {d : Digits} (hx : x.isFinite = true)
    (h : shortest? tie x = some d) : 0 < d.digits := by
  apply Nat.pos_of_ne_zero
  intro h0
  have hpos := number_pos_of_shortest? hx h
  have hd := d.isNumber_nearest
  rw [nearest_of_shortest? hx h, (d.value_eq_zero_iff).mpr h0] at hd
  rw [hd.number_eq, nearest_of_nonneg le_rfl, toGrid_zero, min_eq_left limit_pos.le] at hpos
  exact lt_irrefl _ hpos

/-- Only zero has no digits to be chosen. -/
theorem abs_of_shortest?_eq_none {x : Float} {tie : Tie} (hx : x.isFinite = true)
    (h : shortest? tie x = none) : x.abs = 0.0 := by
  obtain ⟨s, q, -, hu⟩ := (isFinite_iff x).mp hx
  apply eq_of_unpacked
  rw [unpacked_abs]
  rw [shortest?, magnitude?_eq] at h
  generalize unpacked x = u at hu h
  cases hu with
  | zero =>
    have hunpacked : unpacked (packed (.zero .positive)) = .zero .positive :=
      (unpacked_packed_eq _).trans (unpack_pack_of_lt .zero limit_pos)
    have hpacked : (0.0 : Float) = packed (.zero .positive) := by decide +kernel
    rw [hpacked, hunpacked]
    rfl
  | finite hpos => cases h

end Settings.Decimal
