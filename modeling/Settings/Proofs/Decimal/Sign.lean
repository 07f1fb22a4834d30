/-
Settings/Proofs/Decimal/Sign.lean

The signs of floating point numbers.  There is a positive zero and a negative
one, which compare as equal; other numbers that compare as equal are the same,
so a number is determined by its size and its sign (`eq_of_sign`).

Rounding to decimal places keeps the sign, also where it leaves nothing else:

    sign (roundTo x places)  =  sign x
-/
import Settings.Proofs.Decimal.Rounding

namespace Settings.Binary

open Float.Model Float.Model.UnpackedFloat

variable {x y : Float}

/-! ### Signs of parts -/

/-- The sign of the parts; what is not a number counts as positive. -/
def signOf : UnpackedFloat → Sign
  | .notANumber => .positive
  | .infinity s => s
  | .zero s => s
  | .finite s _ _ _ => s

/-- The sign of a floating point number. -/
def sign (x : Float) : Sign := signOf (unpacked x)

theorem Encodes.signOf_eq {s : Sign} {q : ℚ} {u : UnpackedFloat} (h : Encodes s q u) :
    signOf u = s := by
  cases h <;> rfl

/-- What is packed keeps its sign, be it infinite then. -/
theorem Encodes.sign_packed {s : Sign} {q : ℚ} {u : UnpackedFloat} (h : Encodes s q u) :
    sign (packed u) = s := by
  rcases lt_or_ge q limit with hq | hq
  · rw [sign, unpacked_packed_eq, unpack_pack_of_lt h hq, h.signOf_eq]
  · rw [sign, unpacked_packed_eq, unpack_pack_of_le h hq]
    rfl

/-- Positive numbers are positive, negative ones negative. -/
theorem sign_of_number (hx : x.isNaN = false) :
    (0 < number x → sign x = .positive) ∧ (number x < 0 → sign x = .negative) := by
  have hlimit := limit_pos
  have hu := regular_unpacked hx
  rw [number, sign]
  generalize unpacked x = u at hu
  cases hu with
  | infinity s =>
    cases s
    · exact ⟨fun h => absurd h (neg_neg_of_pos hlimit).not_gt, fun _ => rfl⟩
    · exact ⟨fun _ => rfl, fun h => absurd h hlimit.not_gt⟩
  | zero s => exact ⟨fun h => absurd h (lt_irrefl 0), fun h => absurd h (lt_irrefl 0)⟩
  | @finite s m e hpos =>
    have hsize : (0 : ℚ) < m * 2 ^ e := mul_pos (by exact_mod_cast hpos) (two_zpow_pos e)
    cases s
    · exact ⟨fun h => absurd h (neg_neg_of_pos hsize).not_gt, fun _ => rfl⟩
    · exact ⟨fun _ => rfl, fun h => absurd h hsize.not_gt⟩

/-- Equal numbers of one sign are the same. -/
theorem eq_of_sign (h : (x == y) = true) (hs : sign x = sign y) : x = y := by
  obtain ⟨-, -, rfl | ⟨rfl, rfl⟩ | ⟨rfl, rfl⟩⟩ := Float.beq_iff_ne_nan_and_eq.mp h
  · rfl
  · cases hs
  · cases hs

/-! ### Signs of results -/

theorem sign_neg (hx : x.isNaN = false) : sign (-x) = -sign x := by
  have hu := regular_unpacked hx
  rw [sign, sign, unpacked_neg]
  generalize unpacked x = u at hu
  cases hu <;> rfl

/-- The parts of a positive finite number are positive. -/
theorem exists_encodes_of_pos (h : x.isFinite = true) (hpos : 0 < number x) :
    ∃ q, q ≠ 0 ∧ Encodes .positive q (unpacked x) := by
  obtain ⟨s, q, -, hu⟩ := (isFinite_iff x).mp h
  have hs : sign x = s := hu.signOf_eq
  rw [(sign_of_number (isNaN_of_isFinite h)).1 hpos] at hs
  subst hs
  refine ⟨q, ?_, hu⟩
  rintro rfl
  rw [number, hu.value_eq, signed_zero] at hpos
  exact lt_irrefl 0 hpos

/-- Scaling by something positive keeps the sign, whatever the size becomes. -/
theorem sign_mul_pos (hx : x.isNaN = false) (hy : y.isFinite = true) (hpos : 0 < number y) :
    sign (x * y) = sign x := by
  by_cases hf : x.isFinite = true
  · obtain ⟨s, p, -, hu⟩ := (isFinite_iff x).mp hf
    obtain ⟨q, -, hv⟩ := exists_encodes_of_pos hy hpos
    rw [mul_eq_packed, (hu.mul hv).sign_packed, sign, hu.signOf_eq]
    cases s <;> rfl
  · obtain ⟨s, hs, -⟩ := number_of_not_isFinite hx (Bool.eq_false_iff.mpr hf)
    rw [mul_eq_self hs hy hpos]

theorem sign_div_pos (hx : x.isNaN = false) (hy : y.isFinite = true) (hpos : 0 < number y) :
    sign (x / y) = sign x := by
  by_cases hf : x.isFinite = true
  · obtain ⟨s, p, -, hu⟩ := (isFinite_iff x).mp hf
    obtain ⟨q, hq, hv⟩ := exists_encodes_of_pos hy hpos
    rw [div_eq_packed, (hu.div hv hq).sign_packed, sign, hu.signOf_eq]
    cases s <;> rfl
  · obtain ⟨s, hs, -⟩ := number_of_not_isFinite hx (Bool.eq_false_iff.mpr hf)
    rw [div_eq_self hs hy hpos]

/-- Whole numbers without a sign are positive. -/
theorem sign_ofNat (n : ℕ) : sign (Float.ofNat n) = .positive := by
  rcases Nat.eq_zero_or_pos n with rfl | hn
  · rfl
  · have hone : (1 : ℚ) ≤ nearest n := by
      calc (1 : ℚ) = nearest (1 : ℕ) := by
            rw [nearest_natCast (Nat.one_lt_two_pow (by decide)), Nat.cast_one]
        _ ≤ nearest n := nearest_mono (by exact_mod_cast hn)
    have h := isNumber_ofNat n
    exact (sign_of_number h.isNaN_eq).1 (h.number_eq.symm ▸ one_pos.trans_le hone)

end Settings.Binary

namespace Settings.Decimal

open Settings.Binary hiding nearest
open Float.Model Float.Model.UnpackedFloat

variable {x : Float}

/-! ### Rounding -/

/-- Going to a whole number keeps the sign, also where zero is left. -/
theorem sign_roundWhole (hx : x.isNaN = false) : sign (roundWhole x) = sign x := by
  rw [roundWhole]
  split
  · rfl
  next m e hm =>
    split
    · rfl
    · -- a sign is put back where there has been one
      obtain ⟨s, q, -, hu⟩ | ⟨s, hu⟩ : (∃ s q, q < limit ∧ Encodes s q (unpacked x)) ∨
          ∃ s, unpacked x = .infinity s := by
        rcases unpacked_cases x with h | h | h
        · rw [(isNaN_iff_unpacked x).mpr h] at hx
          cases hx
        · exact .inr h
        · exact .inl h
      · have hnegative := isNegative_iff hu
        have hsign : sign x = s := hu.signOf_eq
        rw [hsign]
        simp only
        split
        next h =>
          rw [sign_neg (isNumber_ofNat _).isNaN_eq, sign_ofNat, hnegative.mp h]
          rfl
        next h =>
          rw [sign_ofNat]
          cases s with
          | positive => rfl
          | negative => exact absurd (hnegative.mpr rfl) h
      · rw [magnitude?_eq, hu] at hm
        cases hm

variable {places : UInt32}

/-- **Rounding keeps the sign.** -/
theorem sign_roundTo (hx : x.isNaN = false) (hf : (factor places).isFinite = true)
    (hpos : 0 < number (factor places)) : sign (roundTo x places) = sign x := by
  have hmul := (isNumber_mul_pos hx hf hpos).isNaN_eq
  have hround := (isNumber_roundWhole hmul).isNaN_eq
  rw [roundTo_eq, sign_div_pos hround hf hpos, sign_roundWhole hmul, sign_mul_pos hx hf hpos]

/-- So each zero stays the zero that it is. -/
theorem roundTo_of_number_eq_zero (hx : x.isNaN = false) (h0 : number x = 0)
    (hf : (factor places).isFinite = true) (hpos : 0 < number (factor places)) :
    roundTo x places = x := by
  have hround := isNumber_roundTo hx hf hpos
  have hzero : rounded (number (factor places)) 0 = 0 := by
    have hscaled : ∀ f : ℚ, scaled f 0 = 0 := by
      intro f
      simp [scaled, limit_pos, Binary.nearest, limit_pos.le]
    have hwhole : whole 0 = 0 := whole_natCast 0
    rw [rounded, hscaled, hwhole, hscaled]
  rw [h0, hzero] at hround
  refine eq_of_sign ((beq_iff hround.isNaN_eq hx).mpr ?_) (sign_roundTo hx hf hpos)
  rw [hround.number_eq, h0]

end Settings.Decimal
