/-
Settings/Proofs/Binary/Rounding.lean

What rounding to the binary format does, said with rational numbers.

A mantissa is carried along with two bits that tell how much has been cut off
it.  `Denotes em q` says that `q` is the number that is meant; shifting to
the right halves it, and the rounded mantissa is the nearest whole number.  So
rounding `q * 2 ^ e` goes to the nearest number of the grid:

    Encodes s (toGrid (q * 2 ^ e)) (roundWithAccuracy binary64 s m e accuracy)

as long as `e` does not cut off digits that the grid still has.
-/
import Mathlib
import Settings.Proofs.Binary.Grid

namespace Settings.Binary

open Float.Model Float.Model.UnpackedFloat

/-! ### Mantissas with what is cut off -/

/-- The mantissa with its two bits stands for the number. -/
structure Denotes (em : ExtendedMantissa) (q : ℚ) : Prop where
  le : (em.mantissa : ℚ) ≤ q
  lt : q < em.mantissa + 1
  roundBit_iff : em.roundBit = true ↔ (em.mantissa : ℚ) + 1 / 2 ≤ q
  stickyBit_iff : em.stickyBit = true ↔ q ≠ em.mantissa ∧ q ≠ em.mantissa + 1 / 2

theorem denotes_exact (m : ℕ) :
    Denotes (ExtendedMantissa.ofMantissaAndAccuracy m .exact) m := by
  refine ⟨le_rfl, lt_add_one _, ?_, ?_⟩ <;> norm_num [ExtendedMantissa.ofMantissaAndAccuracy]

/-- The bits that go with a remainder. -/
theorem ofMantissaAndAccuracy_fraction (m r : ℕ) {den : ℕ} (hd : 0 < den) :
    ExtendedMantissa.ofMantissaAndAccuracy m (accuracyOfFraction r den)
      = ⟨m, decide (den ≤ 2 * r), decide (r ≠ 0 ∧ 2 * r ≠ den)⟩ := by
  unfold accuracyOfFraction
  split_ifs with h0
  · simp [ExtendedMantissa.ofMantissaAndAccuracy, h0, hd.ne']
  · rcases hc : compare (2 * r) den
    · have hc := Nat.compare_eq_lt.mp hc
      simp [ExtendedMantissa.ofMantissaAndAccuracy, h0, hc.ne, hc]
    · have hc := Nat.compare_eq_eq.mp hc
      simp [ExtendedMantissa.ofMantissaAndAccuracy, hc]
    · have hc := Nat.compare_eq_gt.mp hc
      simp [ExtendedMantissa.ofMantissaAndAccuracy, h0, hc.ne', hc.le]

/-- A quotient with the accuracy of its remainder. -/
theorem denotes_div (num : ℕ) {den : ℕ} (hd : 0 < den) :
    Denotes (ExtendedMantissa.ofMantissaAndAccuracy (num / den)
      (accuracyOfFraction (num % den) den)) ((num : ℚ) / den) := by
  have hpos : (0 : ℚ) < den := by exact_mod_cast hd
  have hlt : ((num % den : ℕ) : ℚ) < den := by exact_mod_cast Nat.mod_lt num hd
  have hsplit : (num : ℚ) / den = (num / den : ℕ) + ((num % den : ℕ) : ℚ) / den := by
    rw [div_eq_iff hpos.ne', add_mul, div_mul_cancel₀ _ hpos.ne']
    exact_mod_cast (Nat.div_add_mod' num den).symm
  rw [hsplit, ofMantissaAndAccuracy_fraction _ _ hd]
  -- from here on only the bound of the remainder counts
  generalize num / den = m
  generalize num % den = r at hlt
  refine ⟨?_, ?_, ?_, ?_⟩
  · exact le_add_of_nonneg_right (by positivity)
  · exact add_lt_add_right ((div_lt_one hpos).mpr hlt) _
  · rw [decide_eq_true_iff, add_le_add_iff_left, div_le_div_iff₀ two_pos hpos, one_mul, mul_comm]
    norm_cast
  · rw [decide_eq_true_iff]
    refine and_congr (not_congr ?_) (not_congr ?_)
    · rw [add_eq_left, div_eq_zero_iff, or_iff_left hpos.ne', Nat.cast_eq_zero]
    · rw [add_right_inj, div_eq_div_iff hpos.ne' two_ne_zero, one_mul, mul_comm]
      norm_cast

/-- Some bit is set exactly if something has been cut off. -/
theorem Denotes.bits_iff {em : ExtendedMantissa} {q : ℚ} (h : Denotes em q) :
    (em.roundBit || em.stickyBit) = true ↔ q ≠ em.mantissa := by
  rw [Bool.or_eq_true, h.roundBit_iff, h.stickyBit_iff]
  constructor
  · rintro (hle | hne) he
    · linarith
    · exact hne.1 he
  · intro hne
    by_cases hq : q = em.mantissa + 1 / 2
    · exact .inl hq.ge
    · exact .inr ⟨hne, hq⟩

/-- Shifting to the right halves the number. -/
theorem Denotes.shiftRightOne {em : ExtendedMantissa} {q : ℚ} (h : Denotes em q) :
    Denotes em.shiftRightOne (q / 2) := by
  have hle := h.le
  have hlt := h.lt
  have hbits := h.bits_iff
  obtain ⟨k, hk | hk⟩ := Nat.even_or_odd' em.mantissa
  · -- a zero is cut off, and the half is not reached
    have hm : (em.mantissa : ℚ) = 2 * k := by exact_mod_cast hk
    have hdiv : em.shiftRightOne.mantissa = k := by
      show em.mantissa / 2 = k
      omega
    have hround : em.shiftRightOne.roundBit = false := by
      simp [ExtendedMantissa.shiftRightOne, hk]
    rw [hm] at hle hlt hbits
    refine ⟨?_, ?_, ?_, ?_⟩
    · rw [hdiv]
      linarith
    · rw [hdiv]
      linarith
    · rw [hdiv, hround]
      simp only [Bool.false_eq_true, false_iff, not_le]
      linarith
    · rw [hdiv]
      refine hbits.trans ⟨fun hne => ⟨?_, ?_⟩, fun hne he => hne.1 (by linarith)⟩
      · exact fun he => hne (by linarith)
      · exact fun he => by linarith
  · -- a one is cut off: the half is reached, and hit if nothing was missing
    have hm : (em.mantissa : ℚ) = 2 * k + 1 := by exact_mod_cast hk
    have hdiv : em.shiftRightOne.mantissa = k := by
      show em.mantissa / 2 = k
      omega
    have hround : em.shiftRightOne.roundBit = true := by
      simp [ExtendedMantissa.shiftRightOne, hk, Nat.add_mod]
    rw [hm] at hle hlt hbits
    refine ⟨?_, ?_, ?_, ?_⟩
    · rw [hdiv]
      linarith
    · rw [hdiv]
      linarith
    · rw [hdiv, hround]
      simp only [true_iff]
      linarith
    · rw [hdiv]
      refine hbits.trans ⟨fun hne => ⟨?_, ?_⟩, fun hne he => hne.2 (by linarith)⟩
      · exact fun he => by linarith
      · exact fun he => hne (by linarith)

theorem Denotes.shiftRight {em : ExtendedMantissa} {q : ℚ} (h : Denotes em q) (n : ℕ) :
    Denotes (em >>> n) (q / 2 ^ n) := by
  induction n with
  | zero =>
    rw [pow_zero, div_one]
    exact h
  | succ n ih =>
    have hq : q / 2 ^ (n + 1) = q / 2 ^ n / 2 := by rw [pow_succ, div_div]
    rw [hq]
    exact ih.shiftRightOne

/-- The rounded mantissa is the nearest whole number. -/
theorem Denotes.roundedMantissa_eq {em : ExtendedMantissa} {q : ℚ} (h : Denotes em q) :
    (em.roundedMantissa : ℤ) = halfEven q := by
  have hfloor : ⌊q⌋ = em.mantissa := by
    rw [Int.floor_eq_iff]
    exact ⟨by exact_mod_cast h.le, by exact_mod_cast h.lt⟩
  obtain ⟨m, r, s⟩ := em
  obtain ⟨hle, hlt, hr, hs⟩ := h
  simp only at hfloor hle hlt hr hs
  have hcast : ((⌊q⌋ : ℤ) : ℚ) = m := by exact_mod_cast hfloor
  unfold halfEven
  rw [hcast, hfloor]
  cases r with
  | false =>
    have hr : q < m + 1 / 2 := by simpa using hr
    rw [if_pos hr]
    cases s <;> rfl
  | true =>
    have hr : (m : ℚ) + 1 / 2 ≤ q := by simpa using hr
    rw [if_neg hr.not_gt]
    cases s with
    | false =>
      have he : q = m + 1 / 2 := by
        by_contra hne
        have hs := hs.mpr ⟨by rintro rfl; linarith, hne⟩
        cases hs
      rw [if_neg he.not_gt]
      rfl
    | true =>
      rw [if_pos (lt_of_le_of_ne hr (hs.mp rfl).2.symm)]
      rfl

/-! ### Canonical forms -/

/-- The unpacked number has the sign and the size, and is in canonical form. -/
inductive Encodes (s : Sign) : ℚ → UnpackedFloat → Prop
  | zero : Encodes s 0 (.zero s)
  | finite {m : ℕ} {e : ℤ} (hpos : 0 < m) (hm : m < 2 ^ 53) (he : -1074 ≤ e)
      (hfull : 2 ^ 52 ≤ m ∨ e = -1074) : Encodes s (m * 2 ^ e) (.finite s m e hpos)

/-- The sizes of unpacked numbers lie on the grid. -/
theorem Encodes.toGrid_eq {s : Sign} {q : ℚ} {u : UnpackedFloat} (h : Encodes s q u) :
    toGrid q = q := by
  cases h with
  | zero => exact toGrid_zero
  | finite hpos hm he hfull => exact toGrid_eq_self hm he

theorem Encodes.nonneg {s : Sign} {q : ℚ} {u : UnpackedFloat} (h : Encodes s q u) : 0 ≤ q := by
  cases h with
  | zero => exact le_rfl
  | finite hpos hm he hfull => exact mul_nonneg (Nat.cast_nonneg _) (two_zpow_pos _).le

theorem targetExponent_eq (t : ℤ) : Format.binary64.targetExponent t = max (t - 53) (-1074) := rfl

/-- Cutting digits off a positive mantissa does not change the size. -/
theorem Denotes.log_eq {em : ExtendedMantissa} {q : ℚ} (h : Denotes em q) (hm : 0 < em.mantissa)
    (e : ℤ) : Int.log 2 (q * 2 ^ e) = em.mantissa.log2 + e := by
  have hpow := two_zpow_pos e
  have hle : (2 : ℚ) ^ em.mantissa.log2 ≤ q := by
    refine le_trans ?_ h.le
    exact_mod_cast Nat.log2_self_le hm.ne'
  have hlt : q < 2 ^ (em.mantissa.log2 + 1) := by
    refine h.lt.trans_le ?_
    exact_mod_cast Nat.succ_le_of_lt (Nat.lt_log2_self (n := em.mantissa))
  have hpos : 0 < q * 2 ^ e := mul_pos ((two_zpow_pos em.mantissa.log2).trans_le (by simpa)) hpow
  apply le_antisymm
  · rw [← Int.lt_add_one_iff, ← Int.lt_zpow_iff_log_lt (by norm_num) hpos, add_right_comm,
      Nat.cast_ofNat, zpow_add₀ two_ne_zero]
    exact mul_lt_mul_of_pos_right (by exact_mod_cast hlt) hpow
  · rw [← Int.zpow_le_iff_le_log (by norm_num) hpos, Nat.cast_ofNat, zpow_add₀ two_ne_zero]
    exact mul_le_mul_of_nonneg_right (by exact_mod_cast hle) hpow.le

/-- So the target exponent is the one of the grid. -/
theorem Denotes.targetExponent_of_pos {em : ExtendedMantissa} {q : ℚ} (h : Denotes em q)
    (hm : 0 < em.mantissa) (e : ℤ) :
    Format.binary64.targetExponent (totalExponent em.mantissa e) = gridExponent (q * 2 ^ e) := by
  rw [targetExponent_eq, totalExponent, gridExponent, h.log_eq hm]
  omega

theorem Denotes.targetExponent {em : ExtendedMantissa} {q : ℚ} {e : ℤ} (h : Denotes em q)
    (hq : 0 < q) (he : e ≤ gridExponent (q * 2 ^ e)) :
    Format.binary64.targetExponent (totalExponent em.mantissa e) = gridExponent (q * 2 ^ e) := by
  rcases Nat.eq_zero_or_pos em.mantissa with hm | hm
  · -- the number is less than one step of `2 ^ e`
    have hpow := two_zpow_pos e
    have hlt : q < 1 := by
      have hlt := h.lt
      rwa [hm, Nat.cast_zero, zero_add] at hlt
    have hlog : Int.log 2 (q * 2 ^ e) < e := by
      rw [← Int.lt_zpow_iff_log_lt (by norm_num) (mul_pos hq hpow)]
      exact (mul_lt_iff_lt_one_left hpow).mpr hlt
    rw [targetExponent_eq, totalExponent, hm, Nat.log2_zero]
    rw [gridExponent] at he ⊢
    omega
  · exact h.targetExponent_of_pos hm e

/-! ### Rounding -/

/-- An unpacked number with the given mantissa and exponent. -/
def ofMantissa (s : Sign) (m : ℕ) (e : ℤ) : UnpackedFloat :=
  if h : m = 0 then .zero s else .finite s m e (Nat.pos_of_ne_zero h)

theorem encodes_ofMantissa (s : Sign) {m : ℕ} {e : ℤ} (hm : m < 2 ^ 53) (he : -1074 ≤ e)
    (hfull : 2 ^ 52 ≤ m ∨ e = -1074) : Encodes s (m * 2 ^ e) (ofMantissa s m e) := by
  unfold ofMantissa
  split_ifs with h
  · rw [h, Nat.cast_zero, zero_mul]
    exact .zero
  · exact .finite _ hm he hfull

/-- A rounded mantissa has one digit too many at most, which then is zero. -/
theorem encodes_shiftToTargetExponent (s : Sign) {m : ℕ} {e : ℤ} (hm : m ≤ 2 ^ 53)
    (he : -1074 ≤ e) (hfull : 2 ^ 52 ≤ m ∨ e = -1074) :
    Encodes s (m * 2 ^ e)
      (ofMantissa s (shiftToTargetExponent Format.binary64 m e .exact).1.mantissa
        (shiftToTargetExponent Format.binary64 m e .exact).2) := by
  rcases hm.eq_or_lt with rfl | hm
  · -- a carry has made one digit too many
    have hshift : (Format.binary64.targetExponent (totalExponent (2 ^ 53) e) - e).toNat = 1 := by
      rw [targetExponent_eq, totalExponent, Nat.log2_two_pow]
      omega
    have hvalue : ((2 ^ 53 : ℕ) : ℚ) * 2 ^ e = (2 ^ 52 : ℕ) * 2 ^ (e + 1) := by
      rw [zpow_add₀ two_ne_zero]
      push_cast
      ring
    rw [shiftToTargetExponent, shiftToExponent, hshift, hvalue]
    exact encodes_ofMantissa s (by norm_num) (by omega) (.inl le_rfl)
  · have hlog : m.log2 < 53 := by
      rcases Nat.eq_zero_or_pos m with rfl | hpos
      · norm_num
      · exact (Nat.log2_lt hpos.ne').mpr hm
    have hshift : (Format.binary64.targetExponent (totalExponent m e) - e).toNat = 0 := by
      rw [targetExponent_eq, totalExponent]
      omega
    rw [shiftToTargetExponent, shiftToExponent, hshift, Nat.cast_zero, add_zero]
    exact encodes_ofMantissa s hm he hfull

@[simp] theorem mantissa_ofMantissaAndAccuracy (m : ℕ) (accuracy : Accuracy) :
    (ExtendedMantissa.ofMantissaAndAccuracy m accuracy).mantissa = m := by
  rcases accuracy with - | (- | - | -) <;> rfl

/-- Rounding shifts, rounds the mantissa, and shifts once more. -/
theorem roundWithAccuracy_eq {s : Sign} {m m' : ℕ} {e e' : ℤ} {accuracy : Accuracy}
    {em : ExtendedMantissa}
    (h : shiftToTargetExponent Format.binary64 m e accuracy = (em, e'))
    (hm : em.roundedMantissa = m') :
    roundWithAccuracy Format.binary64 s m e accuracy
      = ofMantissa s (shiftToTargetExponent Format.binary64 m' e' .exact).1.mantissa
          (shiftToTargetExponent Format.binary64 m' e' .exact).2 := by
  rw [← hm, roundWithAccuracy, h]
  rfl

/-- Rounding goes to the nearest number of the grid. -/
theorem encodes_roundWithAccuracy (s : Sign) {m : ℕ} {accuracy : Accuracy} {q : ℚ} {e : ℤ}
    (h : Denotes (ExtendedMantissa.ofMantissaAndAccuracy m accuracy) q) (hq : 0 < q)
    (he : e ≤ gridExponent (q * 2 ^ e)) :
    Encodes s (toGrid (q * 2 ^ e)) (roundWithAccuracy Format.binary64 s m e accuracy) := by
  have htarget := h.targetExponent hq he
  rw [mantissa_ofMantissaAndAccuracy] at htarget
  obtain ⟨n, hn⟩ := Int.eq_ofNat_of_zero_le (sub_nonneg.mpr he)
  -- the first shift goes to the step of the grid
  have hshift : shiftToTargetExponent Format.binary64 m e accuracy
      = (ExtendedMantissa.ofMantissaAndAccuracy m accuracy >>> n, gridExponent (q * 2 ^ e)) := by
    rw [shiftToTargetExponent, shiftToExponent, htarget, hn, Int.toNat_natCast]
    congr 1
    omega
  have hdiv : q / 2 ^ n = q * 2 ^ e / 2 ^ gridExponent (q * 2 ^ e) := by
    rw [mul_div_assoc, ← zpow_sub₀ two_ne_zero, ← neg_sub, hn, zpow_neg, zpow_natCast,
      div_eq_mul_inv]
  have hround := (h.shiftRight n).roundedMantissa_eq
  rw [hdiv] at hround
  have hpos : 0 < q * 2 ^ e := mul_pos hq (two_zpow_pos e)
  rw [toGrid, ← hround, Int.cast_natCast, roundWithAccuracy_eq hshift rfl]
  -- and the second one only takes care of a carry
  apply encodes_shiftToTargetExponent
  · have hle : halfEven (q * 2 ^ e / 2 ^ gridExponent (q * 2 ^ e)) ≤ 2 ^ 53 :=
      halfEven_div_step_le _
    rw [← hround] at hle
    exact_mod_cast hle
  · exact le_gridExponent _
  · rcases (le_gridExponent (q * 2 ^ e)).eq_or_lt with heq | hlt
    · exact .inr heq.symm
    · left
      have hle := le_halfEven_div_step hpos hlt
      rw [← hround] at hle
      exact_mod_cast hle

/-- Rounding that adds digits first, where there are too few. -/
theorem encodes_round (s : Sign) {m : ℕ} (hm : 0 < m) (e : ℤ) :
    Encodes s (toGrid (m * 2 ^ e)) (UnpackedFloat.round Format.binary64 s m e) := by
  have htarget : Format.binary64.targetExponent (totalExponent m e) = gridExponent (m * 2 ^ e) :=
    (denotes_exact m).targetExponent_of_pos hm e
  obtain ⟨n, hn⟩ : ∃ n : ℕ, (e - gridExponent (m * 2 ^ e)).toNat = n := ⟨_, rfl⟩
  have hvalue : ((m <<< n : ℕ) : ℚ) * 2 ^ (e - n) = m * 2 ^ e := by
    rw [Nat.shiftLeft_eq, Nat.cast_mul, mul_assoc, Nat.cast_pow, Nat.cast_ofNat, ← zpow_natCast,
      ← zpow_add₀ two_ne_zero]
    congr 2
    omega
  have hround : UnpackedFloat.round Format.binary64 s m e
      = roundWithAccuracy Format.binary64 s (m <<< n) (e - n) .exact := by
    rw [UnpackedFloat.round, htarget, decreaseExponent, hn]
  rw [hround, ← hvalue]
  apply encodes_roundWithAccuracy s (denotes_exact _)
  · rw [Nat.shiftLeft_eq]
    positivity
  · rw [hvalue]
    omega

end Settings.Binary
