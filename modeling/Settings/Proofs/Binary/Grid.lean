/-
Settings/Proofs/Binary/Grid.lean

Where the binary floating point numbers lie among the rational numbers.

Around a positive number they are the multiples of a step, a power of two that
depends on the size of the number (`gridExponent`): 53 binary digits from the
first one on, but no digit below `2 ^ -1074`.  `toGrid` goes to the nearest
multiple, and to the even one of two that are equally near.

Two facts are all that is needed of it: larger numbers do not go to smaller
ones (`toGrid_mono`), and what lies on the grid stays there (`toGrid_eq_self`).
`nearest` does the same with signs, and cuts off what is too large.
-/
import Mathlib.Algebra.Order.Floor.Ring
import Mathlib.Data.Int.Log
import Mathlib.Data.Rat.Floor
import Mathlib.Tactic.FieldSimp
import Mathlib.Tactic.Linarith
import Mathlib.Tactic.NormNum
import Mathlib.Tactic.Positivity
import Mathlib.Tactic.Ring

namespace Settings.Binary

/-! ### Nearest whole numbers -/

/-- The nearest whole number, the even one if two are equally near. -/
def halfEven (q : ℚ) : ℤ :=
  if q < ⌊q⌋ + 1 / 2 then ⌊q⌋
  else if ⌊q⌋ + 1 / 2 < q then ⌊q⌋ + 1
  else ⌊q⌋ + ⌊q⌋ % 2

theorem floor_le_halfEven (q : ℚ) : ⌊q⌋ ≤ halfEven q := by
  unfold halfEven
  split_ifs <;> omega

theorem halfEven_le_floor_add_one (q : ℚ) : halfEven q ≤ ⌊q⌋ + 1 := by
  unfold halfEven
  split_ifs <;> omega

theorem halfEven_mono {p q : ℚ} (h : p ≤ q) : halfEven p ≤ halfEven q := by
  rcases (Int.floor_mono h).eq_or_lt with hf | hf
  · -- between two whole numbers only the half matters
    unfold halfEven
    rw [← hf]
    split_ifs with h₁ h₂ h₃ h₄ h₅ h₆ h₇
    · exact le_rfl
    · omega
    · omega
    · exact absurd (h.trans_lt h₅) h₁
    · exact le_rfl
    · exact absurd (h₄.trans_le h) h₆
    · exact absurd (h.trans_lt h₇) h₁
    · omega
    · exact le_rfl
  · have hp := halfEven_le_floor_add_one p
    have hq := floor_le_halfEven q
    omega

@[simp] theorem halfEven_intCast (n : ℤ) : halfEven n = n := by
  simp [halfEven]

/-! ### The grid -/

/-- The power of two that the step around a number is. -/
def gridExponent (q : ℚ) : ℤ := max (Int.log 2 q - 52) (-1074)

/-- The nearest number of the grid. -/
def toGrid (q : ℚ) : ℚ := halfEven (q / 2 ^ gridExponent q) * 2 ^ gridExponent q

theorem two_zpow_pos (e : ℤ) : (0 : ℚ) < 2 ^ e := zpow_pos two_pos e

theorem two_zpow_mono {d e : ℤ} (h : d ≤ e) : (2 : ℚ) ^ d ≤ 2 ^ e :=
  zpow_le_zpow_right₀ (by norm_num) h

theorem le_gridExponent (q : ℚ) : -1074 ≤ gridExponent q := le_max_right ..

theorem gridExponent_mono {p q : ℚ} (hp : 0 < p) (h : p ≤ q) :
    gridExponent p ≤ gridExponent q :=
  max_le_max (by have := Int.log_mono_right (b := 2) hp h; omega) le_rfl

/-- The step of a number with 53 binary digits or more. -/
theorem le_gridExponent_of_le {q : ℚ} (hq : 2 ^ 52 ≤ q) (e : ℤ) :
    e ≤ gridExponent (q * 2 ^ e) := by
  have hpos : 0 < q * 2 ^ e := mul_pos (lt_of_lt_of_le (by norm_num) hq) (two_zpow_pos e)
  have hlog : 52 + e ≤ Int.log 2 (q * 2 ^ e) := by
    rw [← Int.zpow_le_iff_le_log (by norm_num) hpos, Nat.cast_ofNat, zpow_add₀ two_ne_zero]
    exact mul_le_mul_of_nonneg_right (by exact_mod_cast hq) (two_zpow_pos e).le
  exact le_max_of_le_left (by omega)

/-- In terms of the step a number has at most 53 binary digits. -/
theorem div_step_lt {q : ℚ} : q / 2 ^ gridExponent q < 2 ^ (53 : ℤ) := by
  rw [div_lt_iff₀ (two_zpow_pos _), ← zpow_add₀ two_ne_zero]
  refine (Int.lt_zpow_succ_log_self (b := 2) (by norm_num) q).trans_le ?_
  apply two_zpow_mono
  have : Int.log 2 q - 52 ≤ gridExponent q := le_max_left ..
  omega

/-- Above the smallest step it has just as many. -/
theorem le_div_step {q : ℚ} (hq : 0 < q) (h : -1074 < gridExponent q) :
    2 ^ (52 : ℤ) ≤ q / 2 ^ gridExponent q := by
  have he : gridExponent q = Int.log 2 q - 52 := by
    unfold gridExponent at h ⊢
    omega
  rw [le_div_iff₀ (two_zpow_pos _), ← zpow_add₀ two_ne_zero, he]
  have : (52 : ℤ) + (Int.log 2 q - 52) = Int.log 2 q := by omega
  rw [this]
  exact Int.zpow_log_le_self (b := 2) (by norm_num) hq

theorem toGrid_nonneg {q : ℚ} (hq : 0 ≤ q) : 0 ≤ toGrid q := by
  have h : 0 ≤ halfEven (q / 2 ^ gridExponent q) := by
    rw [← halfEven_intCast 0]
    exact halfEven_mono (by simpa using div_nonneg hq (two_zpow_pos _).le)
  exact mul_nonneg (by exact_mod_cast h) (two_zpow_pos _).le

@[simp] theorem toGrid_zero : toGrid 0 = 0 := by
  have h : halfEven 0 = 0 := by simpa using halfEven_intCast 0
  simp [toGrid, h]

theorem halfEven_div_step_le (q : ℚ) : halfEven (q / 2 ^ gridExponent q) ≤ 2 ^ 53 := by
  have hq : q / 2 ^ gridExponent q ≤ ((2 ^ 53 : ℤ) : ℚ) := by
    exact_mod_cast (div_step_lt (q := q)).le
  rw [← halfEven_intCast (2 ^ 53)]
  exact halfEven_mono hq

theorem le_halfEven_div_step {q : ℚ} (hq : 0 < q) (h : -1074 < gridExponent q) :
    2 ^ 52 ≤ halfEven (q / 2 ^ gridExponent q) := by
  have hq : ((2 ^ 52 : ℤ) : ℚ) ≤ q / 2 ^ gridExponent q := by
    exact_mod_cast le_div_step hq h
  rw [← halfEven_intCast (2 ^ 52)]
  exact halfEven_mono hq

/-- The end of the stretch with the present step is not passed. -/
theorem toGrid_le (q : ℚ) : toGrid q ≤ 2 ^ (gridExponent q + 53) := by
  rw [toGrid, add_comm, zpow_add₀ two_ne_zero]
  exact mul_le_mul_of_nonneg_right (by exact_mod_cast halfEven_div_step_le q) (two_zpow_pos _).le

/-- Nor is its beginning. -/
theorem le_toGrid {q : ℚ} (hq : 0 < q) (h : -1074 < gridExponent q) :
    2 ^ (gridExponent q + 52) ≤ toGrid q := by
  rw [toGrid, add_comm, zpow_add₀ two_ne_zero]
  exact mul_le_mul_of_nonneg_right (by exact_mod_cast le_halfEven_div_step hq h)
    (two_zpow_pos _).le

/-- Larger numbers do not go to smaller ones. -/
theorem toGrid_mono {p q : ℚ} (hp : 0 ≤ p) (h : p ≤ q) : toGrid p ≤ toGrid q := by
  rcases hp.eq_or_lt with rfl | hp
  · rw [toGrid_zero]
    exact toGrid_nonneg h
  · rcases (gridExponent_mono hp h).eq_or_lt with he | he
    · -- one step for both: whole numbers of it are compared
      have hd : p / 2 ^ gridExponent q ≤ q / 2 ^ gridExponent q :=
        div_le_div_of_nonneg_right h (two_zpow_pos _).le
      rw [toGrid, toGrid, he]
      exact mul_le_mul_of_nonneg_right (by exact_mod_cast halfEven_mono hd) (two_zpow_pos _).le
    · -- a power of two lies between the two
      calc toGrid p ≤ 2 ^ (gridExponent p + 53) := toGrid_le p
        _ ≤ 2 ^ (gridExponent q + 52) := two_zpow_mono (by omega)
        _ ≤ toGrid q := le_toGrid (hp.trans_le h) (by have := le_gridExponent p; omega)

/-- The numbers with 53 binary digits, none of them below the smallest step, lie
on the grid. -/
theorem toGrid_eq_self {m : ℕ} {e : ℤ} (hm : m < 2 ^ 53) (he : -1074 ≤ e) :
    toGrid (m * 2 ^ e) = m * 2 ^ e := by
  rcases Nat.eq_zero_or_pos m with rfl | hpos
  · simp
  · have hq : (0 : ℚ) < m * 2 ^ e := mul_pos (by exact_mod_cast hpos) (two_zpow_pos e)
    have hlog : Int.log 2 ((m : ℚ) * 2 ^ e) < e + 53 := by
      rw [← Int.lt_zpow_iff_log_lt (by norm_num) hq, add_comm, Nat.cast_ofNat,
        zpow_add₀ two_ne_zero]
      exact mul_lt_mul_of_pos_right (by exact_mod_cast hm) (two_zpow_pos e)
    have hle : gridExponent (m * 2 ^ e) ≤ e := max_le (by omega) he
    obtain ⟨k, hk⟩ := Int.eq_ofNat_of_zero_le (sub_nonneg.mpr hle)
    -- the step divides the number, so nothing is rounded
    have hdiv : (m : ℚ) * 2 ^ e / 2 ^ gridExponent (m * 2 ^ e) = ((m * 2 ^ k : ℤ) : ℚ) := by
      rw [mul_div_assoc, ← zpow_sub₀ two_ne_zero, hk]
      push_cast
      rw [zpow_natCast]
    rw [toGrid, hdiv, halfEven_intCast, ← hdiv]
    exact div_mul_cancel₀ _ (two_zpow_pos _).ne'

/-! ### Signs and the largest number -/

/-- A function that respects signs keeps the order if it does so where there
are none. -/
theorem monotone_of_odd {f : ℚ → ℚ} (hneg : ∀ q, f (-q) = -f q) (hpos : ∀ q, 0 ≤ q → 0 ≤ f q)
    (hmono : ∀ p q, 0 ≤ p → p ≤ q → f p ≤ f q) : Monotone f := by
  intro p q h
  rcases le_or_gt 0 p with hp | hp
  · exact hmono p q hp h
  · rcases le_or_gt 0 q with hq | hq
    · -- zero lies between the two
      have hfp := hpos (-p) (neg_nonneg.mpr hp.le)
      have hfq := hpos q hq
      rw [hneg] at hfp
      linarith
    · have hf := hmono (-q) (-p) (neg_nonneg.mpr hq.le) (neg_le_neg h)
      rw [hneg, hneg] at hf
      linarith

/-- What is beyond all floating point numbers. -/
def limit : ℚ := 2 ^ 1024

/-- The nearest floating point number, as a number; the limit stands for those
that are too large. -/
def nearest (q : ℚ) : ℚ :=
  if 0 ≤ q then min (toGrid q) limit else -min (toGrid (-q)) limit

theorem limit_pos : 0 < limit := by
  unfold limit
  positivity

theorem nearest_of_nonneg {q : ℚ} (h : 0 ≤ q) : nearest q = min (toGrid q) limit := if_pos h

theorem nearest_nonneg {q : ℚ} (h : 0 ≤ q) : 0 ≤ nearest q := by
  rw [nearest_of_nonneg h]
  exact le_min (toGrid_nonneg h) limit_pos.le

theorem nearest_neg (q : ℚ) : nearest (-q) = -nearest q := by
  rcases lt_trichotomy q 0 with h | rfl | h
  · simp [nearest, h.le, not_le.mpr h]
  · simp [nearest, limit_pos.le]
  · simp [nearest, h.le, not_le.mpr (neg_neg_of_pos h)]

/-- Larger numbers do not go to smaller ones. -/
theorem nearest_mono {p q : ℚ} (h : p ≤ q) : nearest p ≤ nearest q := by
  refine monotone_of_odd nearest_neg (fun _ => nearest_nonneg) ?_ h
  intro p q hp h
  rw [nearest_of_nonneg hp, nearest_of_nonneg (hp.trans h)]
  exact min_le_min_right _ (toGrid_mono hp h)

theorem nearest_le_limit (q : ℚ) : nearest q ≤ limit := by
  have hlimit := limit_pos
  unfold nearest
  split_ifs with h
  · exact min_le_right ..
  · have := le_min (toGrid_nonneg (q := -q) (by linarith)) hlimit.le
    linarith

theorem neg_limit_le_nearest (q : ℚ) : -limit ≤ nearest q := by
  have h := nearest_le_limit (-q)
  rw [nearest_neg] at h
  linarith

/-! ### What is very large or very small -/

@[simp] theorem toGrid_limit : toGrid limit = limit := by
  have h := toGrid_eq_self (m := 1) (e := 1024) (by norm_num) (by norm_num)
  norm_num at h
  exact h

theorem limit_le_toGrid {q : ℚ} (h : limit ≤ q) : limit ≤ toGrid q := by
  rw [← toGrid_limit]
  exact toGrid_mono limit_pos.le h

/-- What is less than half of the smallest number goes to zero. -/
theorem toGrid_of_lt {q : ℚ} (hq : 0 ≤ q) (h : q < 2 ^ (-1075 : ℤ)) : toGrid q = 0 := by
  rcases hq.eq_or_lt with rfl | hq
  · exact toGrid_zero
  · have hlog : Int.log 2 q < -1075 := by
      rw [← Int.lt_zpow_iff_log_lt (by norm_num) hq]
      exact_mod_cast h
    have hstep : gridExponent q = -1074 := by
      unfold gridExponent
      omega
    have hsmall : q / 2 ^ (-1074 : ℤ) < 1 / 2 := by
      rw [div_lt_iff₀ (two_zpow_pos _)]
      calc q < 2 ^ (-1075 : ℤ) := h
        _ = 2 ^ (-1 : ℤ) * 2 ^ (-1074 : ℤ) := by rw [← zpow_add₀ two_ne_zero]; rfl
        _ = 1 / 2 * 2 ^ (-1074 : ℤ) := by rw [zpow_neg_one, one_div]
    have hfloor : ⌊q / 2 ^ (-1074 : ℤ)⌋ = 0 := by
      rw [Int.floor_eq_zero_iff]
      exact ⟨div_nonneg hq.le (two_zpow_pos _).le, hsmall.trans (by norm_num)⟩
    rw [toGrid, hstep, halfEven, hfloor, Int.cast_zero, zero_add, if_pos hsmall, Int.cast_zero,
      zero_mul]

end Settings.Binary
