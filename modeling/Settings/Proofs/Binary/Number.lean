/-
Settings/Proofs/Binary/Number.lean

Floating point numbers as rational numbers.  `number` is the rational number
that a floating point number stands for; the limit stands for infinity.  What
is not a number has none, and is excluded where it matters.

Comparing floating point numbers is comparing numbers (`lt_iff`, `beq_iff`),
and the number and the sign together determine them (`eq_of_number`).
-/
import Settings.Proofs.Binary.Packing

namespace Settings.Binary

open Float.Model Float.Model.UnpackedFloat

/-- A number with a sign and a size. -/
def signed : Sign → ℚ → ℚ
  | .positive, q => q
  | .negative, q => -q

/-- The number that the parts stand for. -/
def value : UnpackedFloat → ℚ
  | .notANumber => 0
  | .infinity s => signed s limit
  | .zero _ => 0
  | .finite s m e _ => signed s (m * 2 ^ e)

/-- The number that a floating point number stands for. -/
def number (x : Float) : ℚ := value (unpacked x)

@[simp] theorem signed_zero (s : Sign) : signed s 0 = 0 := by
  cases s <;> simp [signed]

theorem Encodes.value_eq {s : Sign} {q : ℚ} {u : UnpackedFloat} (h : Encodes s q u) :
    value u = signed s q := by
  cases h with
  | zero => exact (signed_zero s).symm
  | finite hpos hm he hfull => rfl

/-! ### Comparisons -/

/-- Canonical forms of positive numbers are compared by exponent first. -/
theorem compare_finite {m n : ℕ} {d e : ℤ} (hm : m < 2 ^ 53) (hn : n < 2 ^ 53) (hd : -1074 ≤ d)
    (he : -1074 ≤ e) (hm' : 2 ^ 52 ≤ m ∨ d = -1074) (hn' : 2 ^ 52 ≤ n ∨ e = -1074) :
    (compare d e).then (compare m n) = compare ((m : ℚ) * 2 ^ d) (n * 2 ^ e) := by
  -- numbers with a larger exponent are larger
  have key : ∀ {m n : ℕ} {d e : ℤ}, m < 2 ^ 53 → -1074 ≤ d → (2 ^ 52 ≤ n ∨ e = -1074) → d < e →
      (m : ℚ) * 2 ^ d < n * 2 ^ e := by
    intro m n d e hm hd hn hde
    have hn := hn.resolve_right (by omega)
    calc (m : ℚ) * 2 ^ d < 2 ^ (53 : ℤ) * 2 ^ d :=
          mul_lt_mul_of_pos_right (by exact_mod_cast hm) (two_zpow_pos d)
      _ = 2 ^ (d + 53) := by rw [← zpow_add₀ two_ne_zero, add_comm]
      _ ≤ 2 ^ (52 + e) := two_zpow_mono (by omega)
      _ = 2 ^ (52 : ℤ) * 2 ^ e := zpow_add₀ two_ne_zero ..
      _ ≤ n * 2 ^ e := mul_le_mul_of_nonneg_right (by exact_mod_cast hn) (two_zpow_pos e).le
  rcases lt_trichotomy d e with hlt | rfl | hgt
  · rw [compare_lt_iff_lt.mpr hlt, compare_lt_iff_lt.mpr (key hm hd hn' hlt)]
    rfl
  · have hpow := two_zpow_pos d
    rw [compare_eq_iff_eq.mpr rfl, Ordering.eq_then]
    rcases lt_trichotomy m n with h | rfl | h
    · rw [compare_lt_iff_lt.mpr h, eq_comm, compare_lt_iff_lt, mul_lt_mul_iff_left₀ hpow]
      exact_mod_cast h
    · rw [compare_eq_iff_eq.mpr rfl, compare_eq_iff_eq.mpr rfl]
    · rw [compare_gt_iff_gt.mpr h, eq_comm, compare_gt_iff_gt, mul_lt_mul_iff_left₀ hpow]
      exact_mod_cast h
  · rw [compare_gt_iff_gt.mpr hgt, compare_gt_iff_gt.mpr (key hn he hm' hgt)]
    rfl

theorem compare_neg_neg (p q : ℚ) : compare (-p) (-q) = (compare p q).swap := by
  rcases lt_trichotomy p q with h | rfl | h
  · rw [compare_lt_iff_lt.mpr h, compare_gt_iff_gt.mpr (neg_lt_neg h)]
    rfl
  · rw [compare_eq_iff_eq.mpr rfl, compare_eq_iff_eq.mpr rfl]
    rfl
  · rw [compare_gt_iff_gt.mpr h, compare_lt_iff_lt.mpr (neg_lt_neg h)]
    rfl

/-- The parts of what is a number, be it infinite. -/
inductive Regular : UnpackedFloat → Prop
  | infinity (s : Sign) : Regular (.infinity s)
  | zero (s : Sign) : Regular (.zero s)
  | finite (s : Sign) {m : ℕ} {e : ℤ} (hpos : 0 < m) (hm : m < 2 ^ 53) (he : -1074 ≤ e)
      (hfull : 2 ^ 52 ≤ m ∨ e = -1074) (hlt : (m : ℚ) * 2 ^ e < limit) :
      Regular (.finite s m e hpos)

theorem Encodes.regular {s : Sign} {q : ℚ} {u : UnpackedFloat} (h : Encodes s q u)
    (hq : q < limit) : Regular u := by
  cases h with
  | zero => exact .zero s
  | finite hpos hm he hfull => exact .finite s hpos hm he hfull hq

theorem some_lt_eq_iff {p q : ℚ} : some Ordering.lt = some (compare p q) ↔ p < q := by
  rw [Option.some_inj, eq_comm, compare_lt_iff_lt]

theorem some_gt_eq_iff {p q : ℚ} : some Ordering.gt = some (compare p q) ↔ q < p := by
  rw [Option.some_inj, eq_comm, compare_gt_iff_gt]

theorem some_eq_eq_iff {p q : ℚ} : some Ordering.eq = some (compare p q) ↔ p = q := by
  rw [Option.some_inj, eq_comm, compare_eq_iff_eq]

/-- A finite number is between the infinite ones. -/
theorem value_finite_mem (s : Sign) {m : ℕ} {e : ℤ} (hm : 0 < m) (h : (m : ℚ) * 2 ^ e < limit) :
    -limit < value (.finite s m e hm) ∧ value (.finite s m e hm) < limit := by
  have hpos : (0 : ℚ) < m * 2 ^ e := mul_pos (by exact_mod_cast hm) (two_zpow_pos e)
  cases s
  · refine ⟨neg_lt_neg h, ?_⟩
    show -((m : ℚ) * 2 ^ e) < limit
    linarith
  · refine ⟨?_, h⟩
    show -limit < (m : ℚ) * 2 ^ e
    linarith

/-- Comparing parts is comparing the numbers that they stand for. -/
theorem Regular.compare_eq {u v : UnpackedFloat} (hu : Regular u) (hv : Regular v) :
    u.compare v = some (compare (value u) (value v)) := by
  have hlimit := limit_pos
  -- apart from two finite numbers of one sign, the signs decide
  cases hu with
  | infinity s =>
    cases hv with
    | infinity t =>
      cases s <;> cases t
      · exact some_eq_eq_iff.mpr rfl
      · exact some_lt_eq_iff.mpr (by simp only [value, signed]; linarith)
      · exact some_gt_eq_iff.mpr (by simp only [value, signed]; linarith)
      · exact some_eq_eq_iff.mpr rfl
    | zero t =>
      cases s
      · exact some_lt_eq_iff.mpr (neg_neg_of_pos hlimit)
      · exact some_gt_eq_iff.mpr hlimit
    | finite t hn hn' hd hfull hlt =>
      obtain ⟨hlow, hhigh⟩ := value_finite_mem t hn hlt
      cases s
      · exact some_lt_eq_iff.mpr hlow
      · exact some_gt_eq_iff.mpr hhigh
  | zero s =>
    cases hv with
    | infinity t =>
      cases t
      · exact some_gt_eq_iff.mpr (neg_neg_of_pos hlimit)
      · exact some_lt_eq_iff.mpr hlimit
    | zero t => exact some_eq_eq_iff.mpr rfl
    | @finite t n d hn =>
      have hpos : (0 : ℚ) < n * 2 ^ d := mul_pos (by exact_mod_cast hn) (two_zpow_pos d)
      cases t
      · exact some_gt_eq_iff.mpr (neg_neg_of_pos hpos)
      · exact some_lt_eq_iff.mpr hpos
  | @finite s m e hm hm' he hfull hlt =>
    have hpos : (0 : ℚ) < m * 2 ^ e := mul_pos (by exact_mod_cast hm) (two_zpow_pos e)
    cases hv with
    | infinity t =>
      obtain ⟨hlow, hhigh⟩ := value_finite_mem s hm hlt
      cases t
      · cases s <;> exact some_gt_eq_iff.mpr hlow
      · cases s <;> exact some_lt_eq_iff.mpr hhigh
    | zero t =>
      cases s
      · exact some_lt_eq_iff.mpr (neg_neg_of_pos hpos)
      · exact some_gt_eq_iff.mpr hpos
    | @finite t n d hn hn' hd hfull' hlt' =>
      have hpos' : (0 : ℚ) < n * 2 ^ d := mul_pos (by exact_mod_cast hn) (two_zpow_pos d)
      have hcompare := compare_finite hm' hn' he hd hfull hfull'
      cases s <;> cases t
      · -- of two negative numbers the larger one has the smaller size
        show some ((compare e d).then (compare m n)).swap = some (compare (-_) (-_))
        rw [hcompare, compare_neg_neg]
      · exact some_lt_eq_iff.mpr ((neg_neg_of_pos hpos).trans hpos')
      · exact some_gt_eq_iff.mpr ((neg_neg_of_pos hpos').trans hpos)
      · exact congrArg some hcompare

/-! ### Floating point numbers -/

theorem isNaN_iff_unpacked (x : Float) : x.isNaN = true ↔ unpacked x = .notANumber :=
  UnpackedFloat.isNaN_iff

theorem Encodes.isFinite {s : Sign} {q : ℚ} {u : UnpackedFloat} (h : Encodes s q u) :
    u.isFinite = true := by
  cases h <;> rfl

theorem isFinite_iff (x : Float) :
    x.isFinite = true ↔ ∃ s q, q < limit ∧ Encodes s q (unpacked x) := by
  show (unpacked x).isFinite = true ↔ _
  rcases unpacked_cases x with h | ⟨s, h⟩ | ⟨s, q, hq, h⟩
  · rw [h]
    refine iff_of_false (by simp [UnpackedFloat.isFinite]) ?_
    rintro ⟨s, q, hq, h⟩
    cases h
  · rw [h]
    refine iff_of_false (by simp [UnpackedFloat.isFinite]) ?_
    rintro ⟨s, q, hq, h⟩
    cases h
  · exact iff_of_true h.isFinite ⟨s, q, hq, h⟩

theorem regular_unpacked {x : Float} (h : x.isNaN = false) : Regular (unpacked x) := by
  rcases unpacked_cases x with hx | ⟨s, hx⟩ | ⟨s, q, hq, hx⟩
  · rw [(isNaN_iff_unpacked x).mpr hx] at h
    cases h
  · rw [hx]
    exact .infinity s
  · exact hx.regular hq

theorem lt_iff_compare (x y : Float) :
    x < y ↔ (unpacked x).compare (unpacked y) = some .lt := by
  show decide ((unpacked x).lt (unpacked y) = true) = true ↔ _
  rw [decide_eq_true_iff, UnpackedFloat.lt, beq_iff_eq]

theorem beq_iff_compare (x y : Float) :
    (x == y) = true ↔ (unpacked x).compare (unpacked y) = some .eq := by
  show (unpacked x).beq (unpacked y) = true ↔ _
  rw [UnpackedFloat.beq, beq_iff_eq]

variable {x y : Float}

/-- Numbers are less as floating point numbers if they are so as numbers. -/
theorem lt_iff (hx : x.isNaN = false) (hy : y.isNaN = false) : x < y ↔ number x < number y := by
  rw [lt_iff_compare, (regular_unpacked hx).compare_eq (regular_unpacked hy), eq_comm,
    some_lt_eq_iff]
  rfl

/-- Numbers are equal as floating point numbers if they are so as numbers. -/
theorem beq_iff (hx : x.isNaN = false) (hy : y.isNaN = false) :
    (x == y) = true ↔ number x = number y := by
  rw [beq_iff_compare, (regular_unpacked hx).compare_eq (regular_unpacked hy), eq_comm,
    some_eq_eq_iff]
  rfl

/-! ### Finite numbers -/

theorem isNaN_of_isFinite (h : x.isFinite = true) : x.isNaN = false := by
  obtain ⟨s, q, -, hx⟩ := (isFinite_iff x).mp h
  rw [Bool.eq_false_iff, ne_eq, isNaN_iff_unpacked]
  intro hn
  rw [hn] at hx
  cases hx

/-- What is a number and not finite. -/
theorem number_of_not_isFinite (hx : x.isNaN = false) (h : x.isFinite = false) :
    ∃ s, unpacked x = .infinity s ∧ number x = signed s limit := by
  rcases unpacked_cases x with hn | ⟨s, hs⟩ | ⟨s, q, hq, hu⟩
  · rw [(isNaN_iff_unpacked x).mpr hn] at hx
    cases hx
  · refine ⟨s, hs, ?_⟩
    rw [number, hs]
    rfl
  · rw [(isFinite_iff x).mpr ⟨s, q, hq, hu⟩] at h
    cases h

/-- The numbers between the limits are the finite ones. -/
theorem isFinite_iff_number (hx : x.isNaN = false) :
    x.isFinite = true ↔ -limit < number x ∧ number x < limit := by
  have hlimit := limit_pos
  constructor
  · intro h
    obtain ⟨s, q, hq, hu⟩ := (isFinite_iff x).mp h
    have hq0 := hu.nonneg
    rw [number, hu.value_eq]
    cases s
    · exact ⟨neg_lt_neg hq, by show -q < limit; linarith⟩
    · exact ⟨by show -limit < q; linarith, hq⟩
  · rintro ⟨hlo, hhi⟩
    by_contra h
    -- infinity is one of the limits
    obtain ⟨s, -, hs⟩ := number_of_not_isFinite hx (Bool.eq_false_iff.mpr h)
    rw [hs] at hlo hhi
    cases s
    · exact hlo.ne rfl
    · exact hhi.ne rfl

/-- Nothing is beyond the limits. -/
theorem number_mem_limits (x : Float) : -limit ≤ number x ∧ number x ≤ limit := by
  have hlimit := limit_pos
  cases hx : x.isNaN with
  | true =>
    rw [number, (isNaN_iff_unpacked x).mp hx]
    exact ⟨neg_nonpos.mpr hlimit.le, hlimit.le⟩
  | false =>
    cases hf : x.isFinite with
    | true =>
      obtain ⟨hlo, hhi⟩ := (isFinite_iff_number hx).mp hf
      exact ⟨hlo.le, hhi.le⟩
    | false =>
      obtain ⟨s, -, hs⟩ := number_of_not_isFinite hx hf
      rw [hs]
      cases s
      · exact ⟨le_rfl, by show -limit ≤ limit; linarith⟩
      · exact ⟨by show -limit ≤ limit; linarith, le_rfl⟩

/-- What is not a number compares with nothing. -/
theorem compare_eq_none (h : x.isNaN = true ∨ y.isNaN = true) :
    (unpacked x).compare (unpacked y) = none := by
  rcases h with hx | hy
  · rw [(isNaN_iff_unpacked x).mp hx]
    rfl
  · rw [(isNaN_iff_unpacked y).mp hy]
    cases unpacked x with
    | infinity s => cases s <;> rfl
    | _ => rfl

/-- What compares with something is a number. -/
theorem isNaN_of_compare {o : Ordering} (h : (unpacked x).compare (unpacked y) = some o) :
    x.isNaN = false ∧ y.isNaN = false := by
  by_contra hnan
  rw [compare_eq_none (by cases hx : x.isNaN <;> simp_all)] at h
  cases h

theorem isNaN_of_beq (h : (x == y) = true) : x.isNaN = false ∧ y.isNaN = false :=
  isNaN_of_compare ((beq_iff_compare x y).mp h)

theorem isNaN_of_lt (h : x < y) : x.isNaN = false ∧ y.isNaN = false :=
  isNaN_of_compare ((lt_iff_compare x y).mp h)

/-- The order of floating point numbers, at which only numbers take part. -/
theorem le_iff : x ≤ y ↔ x.isNaN = false ∧ y.isNaN = false ∧ number x ≤ number y := by
  have hle : x ≤ y ↔ ((unpacked x).compare (unpacked y)).any (·.isLE) = true := by
    show decide ((unpacked x).le (unpacked y) = true) = true ↔ _
    rw [decide_eq_true_iff, UnpackedFloat.le]
  rw [hle]
  constructor
  · intro h
    cases hc : (unpacked x).compare (unpacked y) with
    | none =>
      rw [hc] at h
      cases h
    | some o =>
      obtain ⟨hx, hy⟩ := isNaN_of_compare hc
      rw [(regular_unpacked hx).compare_eq (regular_unpacked hy)] at h
      exact ⟨hx, hy, compare_le_iff_le.mp (Ordering.ne_gt_iff_isLE.mpr h)⟩
  · rintro ⟨hx, hy, h⟩
    rw [(regular_unpacked hx).compare_eq (regular_unpacked hy)]
    exact Ordering.ne_gt_iff_isLE.mp (compare_le_iff_le.mpr h)

theorem number_eq_of_beq (h : (x == y) = true) : number x = number y := by
  obtain ⟨hx, hy⟩ := isNaN_of_beq h
  exact (beq_iff hx hy).mp h

/-- Equal floating point numbers are finite together. -/
theorem isFinite_congr (h : (x == y) = true) : x.isFinite = y.isFinite := by
  obtain ⟨hx, hy⟩ := isNaN_of_beq h
  rw [Bool.eq_iff_iff, isFinite_iff_number hx, isFinite_iff_number hy, number_eq_of_beq h]

theorem beq_refl (h : x.isNaN = false) : (x == x) = true := (beq_iff h h).mpr rfl

/-! ### Signs -/

theorem Encodes.neg {s : Sign} {q : ℚ} {u : UnpackedFloat} (h : Encodes s q u) :
    Encodes (-s) q u.neg := by
  cases h with
  | zero => exact .zero
  | finite hpos hm he hfull => exact .finite hpos hm he hfull

theorem Encodes.abs {s : Sign} {q : ℚ} {u : UnpackedFloat} (h : Encodes s q u) :
    Encodes .positive q u.abs := by
  cases h with
  | zero => exact .zero
  | finite hpos hm he hfull => exact .finite hpos hm he hfull

/-- Turning the sign is turning the sign of the parts. -/
theorem unpacked_neg (x : Float) : unpacked (-x) = (unpacked x).neg := by
  show unpacked (packed (unpacked x).neg) = _
  rcases unpacked_cases x with h | ⟨s, h⟩ | ⟨s, q, hq, h⟩
  · rw [h]
    exact unpacked_packed_notANumber
  · rw [h]
    exact unpacked_packed_infinity (-s)
  · rw [unpacked_packed_eq, unpack_pack_of_lt h.neg hq]

theorem unpacked_abs (x : Float) : unpacked x.abs = (unpacked x).abs := by
  show unpacked (packed (unpacked x).abs) = _
  rcases unpacked_cases x with h | ⟨s, h⟩ | ⟨s, q, hq, h⟩
  · rw [h]
    exact unpacked_packed_notANumber
  · rw [h]
    exact unpacked_packed_infinity .positive
  · rw [unpacked_packed_eq, unpack_pack_of_lt h.abs hq]

theorem eq_of_unpacked (h : unpacked x = unpacked y) : x = y := by
  rw [← packed_unpacked x, h, packed_unpacked]

/-- Equal numbers are the same unless they are zero. -/
theorem eq_of_beq (h : (x == y) = true) (h0 : number x ≠ 0) : x = y := by
  have hzero : number 0 = 0 := by decide +kernel
  have hneg : number (-0) = 0 := by decide +kernel
  obtain ⟨-, -, rfl | ⟨rfl, -⟩ | ⟨rfl, -⟩⟩ := Float.beq_iff_ne_nan_and_eq.mp h
  · rfl
  · exact absurd hzero h0
  · exact absurd hneg h0

theorem signed_neg (s : Sign) (q : ℚ) : signed (-s) q = -signed s q := by
  cases s
  · exact (neg_neg q).symm
  · rfl

theorem number_neg (x : Float) : number (-x) = -number x := by
  rw [number, number, unpacked_neg]
  cases unpacked x with
  | notANumber => exact neg_zero.symm
  | infinity s => exact signed_neg s limit
  | zero s => exact neg_zero.symm
  | finite s m e hm => exact signed_neg s _

theorem isNaN_neg (x : Float) : (-x).isNaN = x.isNaN := by
  show (unpacked (-x)).isNaN = (unpacked x).isNaN
  rw [unpacked_neg]
  cases unpacked x <;> rfl

end Settings.Binary
