/-
Settings/Proofs/Decimal/Steady.lean

When rounding twice is rounding once.  The first rounding leaves the floating
point number nearest to `n / f`, for a whole number `n` and the factor `f`; the
second one multiplies it by `f` again and goes to the nearest whole number.
This is `n` once more if it is missed by less than a half.  Each of the two
floating point operations misses by the 2 ^ 53rd part of a number at most, so
below `2 ^ 51` it is (`rounded_rounded`):

    |rounded f q| * f < 2 ^ 51   →   rounded f (rounded f q)  =  rounded f q

With two places `36032455454516.59` is below `2 ^ 52` when it is scaled, and is
rounded to `36032455454516.6`, so there is not much to gain.

Clamping goes before rounding, and a number that has been rounded may be beyond
a bound again.  Then it is brought back to the bound, which lies between it and
what had been rounded, so this does not matter (`fitDecimal_fitDecimal`).
-/
import Settings.Proofs.Fitting

namespace Settings.Binary

/-! ### The error -/

theorem abs_halfEven_sub_le (q : ℚ) : |(halfEven q : ℚ) - q| ≤ 1 / 2 := by
  have hle := Int.floor_le q
  have hlt := Int.lt_floor_add_one q
  unfold halfEven
  rw [abs_le]
  split_ifs with h₁ h₂
  · constructor <;> linarith
  · push_cast
    constructor <;> linarith
  · -- a half on either side
    rcases Int.emod_two_eq ⌊q⌋ with h | h <;> rw [h] <;> push_cast <;> constructor <;> linarith

/-- The grid is missed by a small part of the number at most, or of the
smallest step. -/
theorem abs_toGrid_sub_le {q : ℚ} (hq : 0 < q) :
    |toGrid q - q| ≤ max (q / 2 ^ 53) (2 ^ (-1075 : ℤ)) := by
  have hstep := two_zpow_pos (gridExponent q)
  have herror : |toGrid q - q| ≤ 2 ^ gridExponent q / 2 := by
    have hsub : toGrid q - q
        = (halfEven (q / 2 ^ gridExponent q) - q / 2 ^ gridExponent q) * 2 ^ gridExponent q := by
      rw [sub_mul, div_mul_cancel₀ _ hstep.ne']
      rfl
    rw [hsub, abs_mul, abs_of_pos hstep]
    have := mul_le_mul_of_nonneg_right (abs_halfEven_sub_le (q / 2 ^ gridExponent q)) hstep.le
    linarith
  refine herror.trans ?_
  rcases (le_gridExponent q).eq_or_lt with h | h
  · rw [← h, le_max_iff]
    right
    rw [show (-1074 : ℤ) = -1075 + 1 by norm_num, zpow_add₀ two_ne_zero, zpow_one,
      mul_div_cancel_right₀ _ two_ne_zero]
  · have hlong := le_div_step hq h
    rw [le_div_iff₀ hstep] at hlong
    norm_num at hlong
    rw [le_max_iff]
    left
    rw [div_le_div_iff₀ two_pos (by positivity)]
    norm_num
    linarith

/-- A number that is not too large is not cut off. -/
theorem nearest_eq_toGrid {q : ℚ} (hq : 0 ≤ q) (h : nearest q < limit) :
    nearest q = toGrid q := by
  rw [nearest_of_nonneg hq] at h ⊢
  exact min_eq_left (le_of_lt ((min_lt_iff.mp h).resolve_right (lt_irrefl _)))

end Settings.Binary

namespace Settings.Decimal

open Settings.Binary hiding nearest

variable {f q r : ℚ} {n : ℕ}

/-! ### Whole numbers -/

theorem whole_eq_of_abs_sub_lt (hq : 0 ≤ q) (h : |q - n| < 1 / 2) : whole q = n := by
  obtain ⟨hlo, hhi⟩ := abs_lt.mp h
  have hfloor : ⌊q + 1 / 2⌋ = n := by
    rw [Int.floor_eq_iff]
    constructor <;> push_cast <;> linarith
  rw [whole_of_nonneg hq, hfloor, Int.cast_natCast]

theorem exists_whole (q : ℚ) : ∃ n : ℕ, whole q = n ∨ whole q = -n := by
  unfold whole
  split_ifs
  · obtain ⟨n, hn | hn⟩ := Int.eq_nat_or_neg ⌊q + 1 / 2⌋
    · exact ⟨n, .inl (by rw [hn, Int.cast_natCast])⟩
    · exact ⟨n, .inr (by rw [hn, Int.cast_neg, Int.cast_natCast])⟩
  · obtain ⟨n, hn | hn⟩ := Int.eq_nat_or_neg ⌊-q + 1 / 2⌋
    · exact ⟨n, .inr (by rw [hn, Int.cast_natCast])⟩
    · exact ⟨n, .inl (by rw [hn, Int.cast_neg, Int.cast_natCast, neg_neg])⟩

/-! ### Dividing and multiplying again -/

/-- Dividing a whole number and multiplying exactly. -/
theorem abs_nearest_div_mul_sub_le (hf : 0 < f) (hlimit : f < limit) (hn : 0 < n)
    (hr : Binary.nearest (n / f) < limit) :
    |Binary.nearest (n / f) * f - n| ≤ max ((n : ℚ) / 2 ^ 53) (2 ^ (-51 : ℤ)) := by
  have hpos : (0 : ℚ) < n := by exact_mod_cast hn
  rw [nearest_eq_toGrid (by positivity) hr]
  have hmul : |toGrid (n / f) * f - n| = |toGrid (n / f) - n / f| * f := by
    rw [← abs_of_pos hf, ← abs_mul, abs_of_pos hf, sub_mul, div_mul_cancel₀ _ hf.ne']
  have hsmall : (2 : ℚ) ^ (-1075 : ℤ) * f ≤ 2 ^ (-51 : ℤ) := by
    have hlimit : f ≤ 2 ^ ((1024 : ℕ) : ℤ) := by
      rw [zpow_natCast]
      exact hlimit.le
    calc (2 : ℚ) ^ (-1075 : ℤ) * f
        ≤ 2 ^ (-1075 : ℤ) * 2 ^ ((1024 : ℕ) : ℤ) :=
          mul_le_mul_of_nonneg_left hlimit (two_zpow_pos _).le
      _ = 2 ^ (-51 : ℤ) := by
          rw [← zpow_add₀ two_ne_zero]
          rfl
  rw [hmul]
  calc |toGrid (n / f) - n / f| * f
      ≤ max ((n : ℚ) / f / 2 ^ 53) (2 ^ (-1075 : ℤ)) * f :=
        mul_le_mul_of_nonneg_right (abs_toGrid_sub_le (by positivity)) hf.le
    _ = max ((n : ℚ) / 2 ^ 53) (2 ^ (-1075 : ℤ) * f) := by
        rw [max_mul_of_nonneg _ _ hf.le, div_right_comm, div_mul_cancel₀ _ hf.ne']
    _ ≤ max ((n : ℚ) / 2 ^ 53) (2 ^ (-51 : ℤ)) := max_le_max le_rfl hsmall

/-- The whole number comes back. -/
theorem whole_nearest_mul (hf : 0 < f) (hlimit : f < limit)
    (hr : Binary.nearest (n / f) < limit) (h : Binary.nearest (n / f) * f < 2 ^ 51) :
    whole (Binary.nearest (Binary.nearest (n / f) * f)) = n := by
  rcases Nat.eq_zero_or_pos n with rfl | hn
  · have hzero : Binary.nearest ((0 : ℕ) : ℚ) = (0 : ℕ) := nearest_natCast (by norm_num)
    simp only [Nat.cast_zero, zero_div] at hzero ⊢
    rw [hzero, zero_mul, hzero]
    exact whole_natCast 0
  · have hone : (1 : ℚ) ≤ n := by exact_mod_cast hn
    have hfirst := abs_nearest_div_mul_sub_le hf hlimit hn hr
    obtain ⟨p, hp⟩ : ∃ p, Binary.nearest (n / f) * f = p := ⟨_, rfl⟩
    rw [hp] at h hfirst ⊢
    -- the whole number itself is not above `2 ^ 51`, so each error is a quarter at most
    have hle : (n : ℚ) ≤ 2 ^ 51 := by
      by_contra hgt
      have hgt : (2 : ℚ) ^ 51 + 1 ≤ n := by
        have : 2 ^ 51 < n := by exact_mod_cast not_le.mp hgt
        exact_mod_cast this
      have hmax : max ((n : ℚ) / 2 ^ 53) (2 ^ (-51 : ℤ)) = (n : ℚ) / 2 ^ 53 := by
        apply max_eq_left
        norm_num
        linarith
      rw [hmax] at hfirst
      have := (abs_le.mp hfirst).1
      linarith
    have hquarter : |p - n| ≤ 1 / 4 := by
      refine hfirst.trans (max_le ?_ (by norm_num))
      linarith
    have hpos : 0 < p := by
      have := (abs_le.mp hquarter).1
      linarith
    have hkeep : Binary.nearest p = toGrid p := by
      apply nearest_eq_toGrid hpos.le
      calc Binary.nearest p ≤ Binary.nearest (2 ^ 51 : ℕ) := nearest_mono (by exact_mod_cast h.le)
        _ = 2 ^ 51 := by rw [nearest_natCast (by norm_num), Nat.cast_pow, Nat.cast_ofNat]
        _ < limit := pow_lt_pow_right₀ one_lt_two (by norm_num)
    have hsecond : |toGrid p - p| < 1 / 4 := by
      have hleast : (2 : ℚ) ^ (-1075 : ℤ) < 2 ^ (-2 : ℤ) :=
        zpow_lt_zpow_right₀ one_lt_two (by norm_num)
      refine (abs_toGrid_sub_le hpos).trans_lt (max_lt ?_ (hleast.trans_eq (by norm_num)))
      linarith
    apply whole_eq_of_abs_sub_lt (nearest_nonneg hpos.le)
    rw [hkeep]
    calc |toGrid p - n| ≤ |toGrid p - p| + |p - n| := abs_sub_le ..
      _ < 1 / 2 := by linarith

/-! ### Rounding -/

/-- Rounding what has been rounded to something moderate changes nothing. -/
theorem rounded_rounded (hf : 0 < f) (hlimit : f < limit)
    (hx : -limit < rounded f q ∧ rounded f q < limit) (h : |rounded f q| * f < 2 ^ 51) :
    rounded f (rounded f q) = rounded f q := by
  obtain ⟨m, hm⟩ : ∃ m, whole (scaled f q) = m := ⟨_, rfl⟩
  have hrounded : rounded f q = scaled f⁻¹ m := by rw [rounded, hm]
  have hnearest : scaled f⁻¹ m = Binary.nearest (m / f) := by
    unfold scaled
    split_ifs with hin
    · rw [div_eq_mul_inv]
    · -- what is infinite would have stayed so
      rw [hrounded, scaled, if_neg hin] at hx
      exact absurd hx hin
  rw [hrounded, hnearest] at hx h ⊢
  have hwhole : whole (Binary.nearest (Binary.nearest (m / f) * f)) = m := by
    obtain ⟨n, hn⟩ := exists_whole (scaled f q)
    have hnonneg : 0 ≤ Binary.nearest (n / f) :=
      nearest_nonneg (div_nonneg (Nat.cast_nonneg n) hf.le)
    rcases hn with hn | hn
    · cases hm.symm.trans hn
      rw [abs_of_nonneg hnonneg] at h
      exact whole_nearest_mul hf hlimit hx.2 h
    · cases hm.symm.trans hn
      rw [neg_div, nearest_neg, abs_neg, abs_of_nonneg hnonneg] at h
      rw [neg_div, nearest_neg] at hx ⊢
      rw [neg_mul, nearest_neg, whole_neg, whole_nearest_mul hf hlimit (neg_lt_neg_iff.mp hx.1) h]
  have hscaled : scaled f (Binary.nearest (m / f)) = Binary.nearest (Binary.nearest (m / f) * f) :=
    if_pos hx
  rw [rounded, hscaled, hwhole, hnearest]

/-- The floating point number is finite, and less than `2 ^ 51` when it is
scaled. -/
def Moderate (places : UInt32) (x : Float) : Prop :=
  x.isFinite = true ∧ |number x| * number (factor places) < 2 ^ 51

instance (places : UInt32) : DecidablePred (Moderate places) := fun x => by
  unfold Moderate
  infer_instance

variable {places : UInt32} {bounds : Bounds Float} {x y z : Float}

theorem roundTo_roundTo (hf : (factor places).isFinite = true)
    (hpos : 0 < number (factor places)) (hy : y.isNaN = false)
    (h : Moderate places (roundTo y places)) :
    (roundTo (roundTo y places) places == roundTo y places) = true := by
  have hround := isNumber_roundTo hy hf hpos
  have hagain := isNumber_roundTo hround.isNaN_eq hf hpos
  have hfactor := (isFinite_iff_number (isNaN_of_isFinite hf)).mp hf
  have hfinite := (isFinite_iff_number hround.isNaN_eq).mp h.1
  have hmoderate := h.2
  rw [hround.number_eq] at hfinite hmoderate
  rw [beq_iff hagain.isNaN_eq hround.isNaN_eq, hagain.number_eq, hround.number_eq]
  exact rounded_rounded hpos hfactor.2 hfinite hmoderate

/-- What lies between two moderate numbers is moderate. -/
theorem moderate_of_le (hpos : 0 < number (factor places)) (hx : Moderate places x)
    (hz : Moderate places z) (h : x ≤ y) (h' : y ≤ z) : Moderate places y := by
  have hxy := (le_iff.mp h).2.2
  have hyz := (le_iff.mp h').2.2
  refine ⟨isFinite_of_le hx.1 hz.1 h h', ?_⟩
  have habs : |number y| ≤ max |number x| |number z| := abs_le_max_abs_abs hxy hyz
  calc |number y| * number (factor places)
      ≤ max |number x| |number z| * number (factor places) :=
        mul_le_mul_of_nonneg_right habs hpos.le
    _ = max (|number x| * number (factor places)) (|number z| * number (factor places)) :=
        max_mul_of_nonneg _ _ hpos.le
    _ < 2 ^ 51 := max_lt hx.2 hz.2

end Settings.Decimal

namespace Settings

open Settings.Binary Settings.Decimal

/-! ### Clamping -/

theorem le_refl_float {x : Float} (hx : x.isNaN = false) : x ≤ x := le_iff.mpr ⟨hx, hx, le_rfl⟩

namespace Bounds

variable {bounds : Bounds Float} {x y : Float}

/-- The lower bound on its own. -/
def onlyMin (bounds : Bounds Float) : Bounds Float := ⟨bounds.min, none⟩

/-- The upper bound on its own. -/
def onlyMax (bounds : Bounds Float) : Bounds Float := ⟨none, bounds.max⟩

theorem clamp_eq (bounds : Bounds Float) (x : Float) :
    bounds.clamp x = bounds.onlyMax.clamp (bounds.onlyMin.clamp x) := rfl

/-- Bringing a number up to a bound does not bring it down. -/
theorem le_clamp_onlyMin (hx : x.isNaN = false) : x ≤ bounds.onlyMin.clamp x := by
  obtain ⟨- | min, max⟩ := bounds
  · exact le_refl_float hx
  · show x ≤ if x < min then min else x
    split_ifs with h
    · exact le_of_lt_float h
    · exact le_refl_float hx

/-- And it is brought no farther than any other. -/
theorem clamp_onlyMin_eq_or_le (bounds : Bounds Float) (x : Float) (hy : y.isNaN = false) :
    bounds.onlyMin.clamp x = x ∨ bounds.onlyMin.clamp x ≤ bounds.onlyMin.clamp y := by
  obtain ⟨- | min, max⟩ := bounds
  · exact .inl rfl
  · show (if x < min then min else x) = x ∨
      (if x < min then min else x) ≤ if y < min then min else y
    by_cases h : x < min
    · have hmin := (isNaN_of_lt h).2
      rw [if_pos h]
      right
      split_ifs with h'
      · exact le_refl_float hmin
      · exact (not_lt_float hy hmin).mp h'
    · exact .inl (if_neg h)

/-- Bringing a number down to a bound does not bring it up. -/
theorem clamp_onlyMax_le (hx : x.isNaN = false) : bounds.onlyMax.clamp x ≤ x := by
  obtain ⟨min, - | max⟩ := bounds
  · exact le_refl_float hx
  · show (if max < x then max else x) ≤ x
    split_ifs with h
    · exact le_of_lt_float h
    · exact le_refl_float hx

theorem clamp_onlyMax_eq_or_le (bounds : Bounds Float) (x : Float) (hy : y.isNaN = false) :
    bounds.onlyMax.clamp x = x ∨ bounds.onlyMax.clamp y ≤ bounds.onlyMax.clamp x := by
  obtain ⟨min, - | max⟩ := bounds
  · exact .inl rfl
  · show (if max < x then max else x) = x ∨
      (if max < y then max else y) ≤ if max < x then max else x
    by_cases h : max < x
    · have hmax := (isNaN_of_lt h).1
      rw [if_pos h]
      right
      split_ifs with h'
      · exact le_refl_float hmax
      · exact (not_lt_float hmax hy).mp h'
    · exact .inl (if_neg h)

theorem isNaN_clamp (bounds : Bounds Float) (hx : x.isNaN = false) :
    (bounds.clamp x).isNaN = false :=
  (le_iff.mp (clamp_mono (le_refl_float hx))).1

/-- Above something clamped, clamping does not go up. -/
theorem clamp_le_of_le (hy : y.isNaN = false) (h : bounds.clamp y ≤ x) : bounds.clamp x ≤ x := by
  rcases clamp_onlyMin_eq_or_le bounds x hy with hraise | hraise
  · rw [clamp_eq, hraise]
    exact clamp_onlyMax_le (le_iff.mp h).2.1
  · have hle : bounds.clamp x ≤ bounds.clamp y := by
      rw [clamp_eq, clamp_eq]
      exact clamp_mono hraise
    exact le_trans_float hle h

/-- Below something clamped, it does not go down. -/
theorem le_clamp_of_le (hy : y.isNaN = false) (h : x ≤ bounds.clamp y) : x ≤ bounds.clamp x := by
  have hraised := isNaN_clamp bounds.onlyMin hy
  rcases clamp_onlyMax_eq_or_le bounds (bounds.onlyMin.clamp x) hraised with hlower | hlower
  · rw [clamp_eq, hlower]
    exact le_clamp_onlyMin (le_iff.mp h).1
  · exact le_trans_float h hlower

/-- Clamping leads to a number between the present one and something clamped. -/
theorem clamp_between (bounds : Bounds Float) (hx : x.isNaN = false) (hy : y.isNaN = false) :
    x ≤ bounds.clamp x ∧ bounds.clamp x ≤ bounds.clamp y ∨
      bounds.clamp y ≤ bounds.clamp x ∧ bounds.clamp x ≤ x := by
  have hc := isNaN_clamp bounds hy
  rcases le_total (number x) (number (bounds.clamp y)) with hle | hle
  · have hle : x ≤ bounds.clamp y := le_iff.mpr ⟨hx, hc, hle⟩
    exact .inl ⟨le_clamp_of_le hy hle,
      le_trans_float (clamp_mono hle) (clamp_le_of_le hy (le_refl_float hc))⟩
  · have hle : bounds.clamp y ≤ x := le_iff.mpr ⟨hc, hx, hle⟩
    exact .inr ⟨le_trans_float (le_clamp_of_le hy (le_refl_float hc)) (clamp_mono hle),
      clamp_le_of_le hy hle⟩

end Bounds

/-! ### Fitting -/

variable {bounds : Bounds Float} {places : UInt32} {x y : Float}

/-- Fitting what has been fitted to something moderate changes nothing. -/
theorem fitDecimal_fitDecimal (hf : (factor places).isFinite = true)
    (hpos : 0 < number (factor places)) (hy : y.isNaN = false)
    (hx : Setting.fitDecimal bounds places y = x) (h : Moderate places x) :
    (Setting.fitDecimal bounds places x == x) = true := by
  have hround : roundTo (bounds.clamp y) places = x := hx
  have hagain : (roundTo x places == x) = true := by
    rw [← hround] at h ⊢
    exact roundTo_roundTo hf hpos (bounds.isNaN_clamp hy) h
  obtain ⟨hself, hnan⟩ := isNaN_of_beq hagain
  have hnumber := number_eq_of_beq hagain
  have hdown : roundTo x places ≤ x := le_iff.mpr ⟨hself, hnan, hnumber.le⟩
  have hup : x ≤ roundTo x places := le_iff.mpr ⟨hnan, hself, hnumber.ge⟩
  -- both ends of the stretch that clamping leads into are rounded to `x`
  have hbetween : x ≤ roundTo (bounds.clamp x) places ∧ roundTo (bounds.clamp x) places ≤ x := by
    rcases bounds.clamp_between hnan hy with ⟨hlo, hhi⟩ | ⟨hlo, hhi⟩
    · have hle : roundTo (bounds.clamp x) places ≤ roundTo (bounds.clamp y) places :=
        roundTo_mono hf hpos hhi
      rw [hround] at hle
      exact ⟨le_trans_float hup (roundTo_mono hf hpos hlo), hle⟩
    · have hle : roundTo (bounds.clamp y) places ≤ roundTo (bounds.clamp x) places :=
        roundTo_mono hf hpos hlo
      rw [hround] at hle
      exact ⟨hle, le_trans_float (roundTo_mono hf hpos hhi) hdown⟩
  obtain ⟨hge, hle⟩ := hbetween
  exact (beq_iff (le_iff.mp hle).1 hnan).mpr (le_antisymm (le_iff.mp hle).2.2 (le_iff.mp hge).2.2)

end Settings
