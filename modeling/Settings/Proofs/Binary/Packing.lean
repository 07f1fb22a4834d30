/-
Settings/Proofs/Binary/Packing.lean

The 64 bits of a floating point number and the parts that they stand for: a
sign, a mantissa and an exponent.  Packing a canonical form and unpacking it
gives the form back, or infinity if it has reached the limit
(`unpack_pack_of_lt`, `unpack_pack_of_le`), and all bits unpack to such a form
(`unpack_cases`).

So there are three sorts of floating point numbers (`unpacked_cases`), and
each is determined by its parts (`packed_unpacked`).
-/
import Settings.Proofs.Binary.Rounding

namespace Settings.Binary

open Float.Model Float.Model.UnpackedFloat

/-! ### Unpacking what is packed -/

/-- The first digit of a number that has all of them is not among the bits. -/
theorem toNat_leading (mantissa : BitVec 52) :
    (1#1 ++ mantissa).toNat = 2 ^ 52 + mantissa.toNat := by
  rw [BitVec.toNat_append, ← Nat.shiftLeft_add_eq_or_of_lt mantissa.isLt]
  rfl

/-- A number with all its digits. -/
theorem unpack_normal (s : Sign) {biased m : ℕ} (hpos : 0 < biased) (hb : biased < 2047)
    (hm : 2 ^ 52 ≤ m) (hm' : m < 2 ^ 53) :
    UnpackedFloat.unpack Format.binary64
        (packComponents Format.binary64 s (BitVec.ofNat _ biased) (BitVec.ofNat _ m))
      = .finite s m (biased - 1075) (by omega) := by
  have hnat : (BitVec.ofNat 11 biased).toNat = biased := by
    rw [BitVec.toNat_ofNat]
    omega
  have hall : BitVec.ofNat 11 biased ≠ -1#11 := by
    intro h
    rw [h] at hnat
    exact hb.ne' hnat
  have hzero : BitVec.ofNat 11 biased ≠ 0#11 := by
    intro h
    rw [h] at hnat
    exact hpos.ne hnat
  -- the first digit takes the place of the one that is lost in 52 bits
  have hmant : (1#1 ++ BitVec.ofNat 52 m).toNat = m := by
    rw [toNat_leading, BitVec.toNat_ofNat]
    omega
  rw [UnpackedFloat.unpack]
  simp only [unpackMantissa_packComponents, unpackExponent_packComponents,
    unpackSign_packComponents, Sign.ofBitVec_toBitVec]
  rw [if_neg hall, if_neg hzero]
  congr 1
  rw [hnat]
  rfl

/-- A number without its first digits. -/
theorem unpack_subnormal (s : Sign) {m : ℕ} (hpos : 0 < m) (hm : m < 2 ^ 52) :
    UnpackedFloat.unpack Format.binary64 (packComponents Format.binary64 s 0#_ (BitVec.ofNat _ m))
      = .finite s m (-1074) hpos := by
  have hnat : (BitVec.ofNat 52 m).toNat = m := by
    rw [BitVec.toNat_ofNat]
    omega
  have hzero : BitVec.ofNat 52 m ≠ 0#52 := by
    intro h
    rw [h] at hnat
    exact hpos.ne hnat
  rw [UnpackedFloat.unpack]
  simp only [unpackMantissa_packComponents, unpackExponent_packComponents,
    unpackSign_packComponents, Sign.ofBitVec_toBitVec]
  rw [if_neg (by decide), if_pos trivial, dif_neg hzero]
  congr 1

@[simp] theorem unpack_packedInfinity (s : Sign) :
    UnpackedFloat.unpack Format.binary64 (packedInfinity Format.binary64 s) = .infinity s := by
  simp [UnpackedFloat.unpack, packedInfinity]

/-! ### Packing -/

/-- Whether packing goes to infinity. -/
theorem overflows_iff {e : ℤ} (he : -1074 ≤ e) :
    2 ^ Format.binary64.exponentBits ≤
        (e + Format.binary64.exponentBias + Format.binary64.mantissaBitsWithoutImplicit).toNat + 1
      ↔ ¬ e ≤ 971 := by
  show 2048 ≤ (e + 1023 + 52).toNat + 1 ↔ _
  omega

theorem log2_add_one_eq_iff {m : ℕ} (hpos : 0 < m) (hm : m < 2 ^ 53) :
    m.log2 + 1 = Format.binary64.mantissaBits ↔ 2 ^ 52 ≤ m := by
  show m.log2 + 1 = 53 ↔ _
  rw [Nat.succ_inj, Nat.log2_eq_iff hpos.ne']
  exact and_iff_left hm

theorem pack_normal (s : Sign) {e : ℤ} {m : ℕ} (hpos : 0 < m) (he : -1074 ≤ e) (he' : e ≤ 971)
    (hm : 2 ^ 52 ≤ m) (hm' : m < 2 ^ 53) :
    UnpackedFloat.pack Format.binary64 (.finite s m e hpos)
      = packComponents Format.binary64 s (BitVec.ofNat _ (e + 1075).toNat) (BitVec.ofNat _ m) := by
  have hbiased : (e + Format.binary64.exponentBias
      + Format.binary64.mantissaBitsWithoutImplicit).toNat = (e + 1075).toNat := by
    show (e + 1023 + 52).toNat = _
    omega
  rw [UnpackedFloat.pack]
  simp only
  rw [if_neg ((overflows_iff he).not.mpr (not_not.mpr he')),
    if_pos ((log2_add_one_eq_iff hpos hm').mpr hm), hbiased]

theorem pack_subnormal (s : Sign) {m : ℕ} (hpos : 0 < m) (hm : m < 2 ^ 52) :
    UnpackedFloat.pack Format.binary64 (.finite s m (-1074) hpos)
      = packComponents Format.binary64 s 0#_ (BitVec.ofNat _ m) := by
  rw [UnpackedFloat.pack]
  simp only
  rw [if_neg ((overflows_iff le_rfl).not.mpr (by decide)),
    if_neg ((log2_add_one_eq_iff hpos (by omega)).not.mpr (not_le.mpr hm))]

theorem pack_overflow (s : Sign) {e : ℤ} {m : ℕ} (hpos : 0 < m) (he : 971 < e) :
    UnpackedFloat.pack Format.binary64 (.finite s m e hpos) = packedInfinity Format.binary64 s := by
  rw [UnpackedFloat.pack]
  simp only
  rw [if_pos ((overflows_iff (by omega)).mpr (not_le.mpr he))]

/-- Below the limit the exponent is in range. -/
theorem lt_limit_iff {m : ℕ} {e : ℤ} (hm : m < 2 ^ 53) (hfull : 2 ^ 52 ≤ m ∨ e = -1074) :
    (m : ℚ) * 2 ^ e < limit ↔ e ≤ 971 := by
  constructor
  · intro h
    by_contra! he
    rcases hfull with hfull | rfl
    · have hle : (2 : ℚ) ^ (52 : ℤ) * 2 ^ (972 : ℤ) ≤ m * 2 ^ e :=
        mul_le_mul (by exact_mod_cast hfull) (two_zpow_mono (by omega)) (two_zpow_pos _).le
          (Nat.cast_nonneg _)
      rw [← zpow_add₀ two_ne_zero] at hle
      exact absurd (h.trans_le' hle) (by norm_num [limit])
    · omega
  · intro he
    have hlt : (m : ℚ) * 2 ^ e < 2 ^ (53 : ℤ) * 2 ^ (971 : ℤ) :=
      mul_lt_mul (by exact_mod_cast hm) (two_zpow_mono he) (two_zpow_pos _) (by norm_num)
    rw [← zpow_add₀ two_ne_zero] at hlt
    exact hlt.trans_le (by norm_num [limit])

/-- A canonical form below the limit survives packing. -/
theorem unpack_pack_of_lt {s : Sign} {q : ℚ} {u : UnpackedFloat} (h : Encodes s q u)
    (hq : q < limit) :
    UnpackedFloat.unpack Format.binary64 (UnpackedFloat.pack Format.binary64 u) = u := by
  cases h with
  | zero => exact unpack_packedZero
  | @finite m e hpos hm he hfull =>
    have he' := (lt_limit_iff hm hfull).mp hq
    by_cases hlong : 2 ^ 52 ≤ m
    · rw [pack_normal s hpos he he' hlong hm, unpack_normal s (by omega) (by omega) hlong hm]
      congr 1
      omega
    · obtain rfl := hfull.resolve_left hlong
      rw [pack_subnormal s hpos (not_le.mp hlong), unpack_subnormal s hpos (not_le.mp hlong)]

/-- One that has reached the limit becomes infinite. -/
theorem unpack_pack_of_le {s : Sign} {q : ℚ} {u : UnpackedFloat} (h : Encodes s q u)
    (hq : limit ≤ q) :
    UnpackedFloat.unpack Format.binary64 (UnpackedFloat.pack Format.binary64 u) = .infinity s := by
  cases h with
  | zero => exact absurd hq limit_pos.not_ge
  | finite hpos hm he hfull =>
    have he' := (lt_limit_iff hm hfull).not.mp hq.not_gt
    rw [pack_overflow s hpos (not_le.mp he'), unpack_packedInfinity]

/-! ### All bits -/

theorem toNat_pos_of_ne {n : ℕ} {b : BitVec n} (h : b ≠ 0#n) : 0 < b.toNat := by
  rw [Nat.pos_iff_ne_zero]
  intro h0
  exact h (BitVec.eq_of_toNat_eq (by simpa using h0))

/-- Exponent bits that are not all set. -/
theorem toNat_lt_of_ne {exponent : BitVec 11} (h : exponent ≠ -1#11) : exponent.toNat < 2047 := by
  have hlt := exponent.isLt
  have hne : exponent.toNat ≠ 2047 := fun he => h (BitVec.eq_of_toNat_eq he)
  omega

/-- What bits can stand for. -/
theorem unpack_cases (b : BitVec 64) :
    UnpackedFloat.unpack Format.binary64 b = .notANumber ∨
      (∃ s, UnpackedFloat.unpack Format.binary64 b = .infinity s) ∨
      ∃ s q, q < limit ∧ Encodes s q (UnpackedFloat.unpack Format.binary64 b) := by
  rw [UnpackedFloat.unpack]
  simp only
  split_ifs with hall hzero h0 hm
  · exact .inr (.inl ⟨_, rfl⟩)
  · exact .inl rfl
  · exact .inr (.inr ⟨_, 0, limit_pos, .zero⟩)
  · -- the first digits are missing
    have hpos : 0 < (@unpackMantissa Format.binary64 b).toNat := toNat_pos_of_ne hm
    have hlt : (@unpackMantissa Format.binary64 b).toNat < 2 ^ 52 := BitVec.isLt _
    have hshort : (@unpackMantissa Format.binary64 b).toNat < 2 ^ 53 := by omega
    refine .inr (.inr ⟨.ofBitVec (@unpackSign Format.binary64 b), _,
      (lt_limit_iff hshort (.inr rfl)).mpr (by decide), ?_⟩)
    rw [h0]
    exact .finite hpos hshort le_rfl (.inr rfl)
  · -- all digits are there, the first one besides the bits
    have hpos : 0 < (@unpackExponent Format.binary64 b).toNat := toNat_pos_of_ne h0
    have hlt : (@unpackExponent Format.binary64 b).toNat < 2047 := toNat_lt_of_ne hall
    have hmantissa : (@unpackMantissa Format.binary64 b).toNat < 2 ^ 52 := BitVec.isLt _
    have hsize := toNat_leading (@unpackMantissa Format.binary64 b)
    have hshort : (1#1 ++ @unpackMantissa Format.binary64 b).toNat < 2 ^ 53 := by omega
    have hlong : 2 ^ 52 ≤ (1#1 ++ @unpackMantissa Format.binary64 b).toNat := by omega
    have hbias : (Format.binary64.exponentBias + Format.binary64.mantissaBitsWithoutImplicit : ℤ)
        = 1075 := rfl
    refine .inr (.inr ⟨.ofBitVec (@unpackSign Format.binary64 b), _,
      (lt_limit_iff hshort (.inl hlong)).mpr ?_, .finite _ hshort ?_ (.inl hlong)⟩)
    · rw [hbias]
      omega
    · rw [hbias]
      omega

/-! ### Floating point numbers -/

/-- The parts of a floating point number. -/
def unpacked (x : Float) : UnpackedFloat := x.toModel.unpack

/-- The floating point number with the given parts. -/
def packed (u : UnpackedFloat) : Float := .ofModel (.pack u)

theorem unpacked_packed_eq (u : UnpackedFloat) :
    unpacked (packed u)
      = UnpackedFloat.unpack Format.binary64 (UnpackedFloat.pack Format.binary64 u) := rfl

@[simp] theorem unpacked_packed_infinity (s : Sign) :
    unpacked (packed (.infinity s)) = .infinity s := unpack_packedInfinity s

@[simp] theorem unpacked_packed_notANumber :
    unpacked (packed .notANumber) = .notANumber := @unpack_packedNaN Format.binary64

/-- A floating point number is determined by its parts. -/
theorem packed_unpacked (x : Float) : packed (unpacked x) = x := by
  rcases x with ⟨⟨bits, valid⟩⟩
  have hbits := pack_unpack_of_valid valid
  simp [packed, unpacked, Float.Model.pack, Float.Model.unpack, hbits]

/-- What the parts of a floating point number are. -/
theorem unpacked_cases (x : Float) :
    unpacked x = .notANumber ∨ (∃ s, unpacked x = .infinity s) ∨
      ∃ s q, q < limit ∧ Encodes s q (unpacked x) := unpack_cases x.toModel.toBits.toBitVec

end Settings.Binary
