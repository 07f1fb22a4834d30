/-
Settings/Proofs/Json5/Number.lean

Numbers between the writer of JSON and the reader of JSON5.  A finite decimal
is written with a point or with an exponent, so it is read as a decimal again,
and as the same one (`number?_decimalText`); a whole number has neither
(`number?_integerText`).

What follows a number in a file is a comma, the end of the line or the end of
the text.  The reader stops there (`Ends`).
-/
import Settings.Json.Printer
import Settings.Json5
import Settings.Proofs.Decimal.Shortest

namespace Settings.Json5

open Decimal (Digits spanDigits natOfDigits isDigit withSign digitCount zeros plain scientific)

/-! ### Digits -/

theorem isDigit_eq (c : Char) : isDigit c = c.isDigit := rfl

/-- The text does not go on with a digit. -/
def Stops (text : List Char) : Prop := ∀ c ∈ text.head?, isDigit c = false

/-- Digits are read up to where they stop. -/
theorem spanDigits_append {digits rest : List Char} (hd : ∀ c ∈ digits, isDigit c = true)
    (hr : Stops rest) : spanDigits (digits ++ rest) = (digits, rest) := by
  have hstop : rest.takeWhile isDigit = [] ∧ rest.dropWhile isDigit = rest := by
    cases rest with
    | nil => exact ⟨rfl, rfl⟩
    | cons c rest =>
      have hc := hr c rfl
      simp [hc]
  rw [spanDigits, List.takeWhile_append_of_pos hd, List.dropWhile_append_of_pos hd, hstop.1,
    hstop.2, List.append_nil]

theorem natOfDigits_append (a b : List Char) :
    natOfDigits (a ++ b) = natOfDigits a * 10 ^ b.length + natOfDigits b := by
  show Nat.ofDigitChars 10 (a ++ b) 0 = _
  rw [Nat.ofDigitChars_append, Nat.ofDigitChars_eq_ofDigitChars_zero, mul_comm]
  rfl

theorem natOfDigits_toDigits (n : ℕ) : natOfDigits (Nat.toDigits 10 n) = n :=
  Nat.ofDigitChars_ten_toDigits

@[simp] theorem natOfDigits_zeros (n : ℕ) : natOfDigits (zeros n) = 0 := by
  show Nat.ofDigitChars 10 (List.replicate n '0') 0 = 0
  rw [Nat.ofDigitChars_replicate_zero, mul_zero]

/-- Zeros at the end are powers of ten. -/
theorem natOfDigits_append_zeros (m n : ℕ) :
    natOfDigits (Nat.toDigits 10 m ++ zeros n) = m * 10 ^ n := by
  have hzeros : (zeros n).length = n := List.length_replicate
  rw [natOfDigits_append, natOfDigits_toDigits, natOfDigits_zeros, hzeros, add_zero]

/-- Zeros at the front are nothing. -/
theorem natOfDigits_zeros_append (n : ℕ) (digits : List Char) :
    natOfDigits (zeros n ++ digits) = natOfDigits digits := by
  rw [natOfDigits_append, natOfDigits_zeros, zero_mul, zero_add]

theorem isDigit_of_mem_toDigits {n : ℕ} : ∀ c ∈ Nat.toDigits 10 n, isDigit c = true :=
  fun _ h => Nat.isDigit_of_mem_toDigits (by decide) (by decide) h

theorem isDigit_of_mem_zeros {n : ℕ} : ∀ c ∈ zeros n, isDigit c = true := by
  intro c h
  rw [List.eq_of_mem_replicate h]
  rfl

/-- The digits of a positive number do not start with a zero. -/
theorem head?_toDigits {n : ℕ} (h : 0 < n) : (Nat.toDigits 10 n).head? ≠ some '0' := by
  induction n using Nat.strong_induction_on with
  | _ n ih =>
    rcases Nat.lt_or_ge n 10 with hlt | hge
    · rw [Nat.toDigits_of_lt_base hlt]
      have hdigit : ∀ n < 10, 0 < n → [n.digitChar].head? ≠ some '0' := by decide
      exact hdigit n hlt h
    · have hhead := ih (n / 10) (by omega) (by omega)
      rw [Nat.toDigits_of_base_le (by decide) hge,
        List.head?_append_of_ne_nil _ Nat.toDigits_ne_nil]
      exact hhead

/-! ### Parts of numbers -/

/-- What follows a number in a file. -/
def Ends (rest : List Char) : Prop :=
  rest = [] ∨ ∃ c after, rest = c :: after ∧ (c = ',' ∨ c = '\n')

theorem Ends.stops {rest : List Char} (h : Ends rest) : Stops rest := by
  rcases h with rfl | ⟨c, after, rfl, rfl | rfl⟩ <;> intro c hc <;> cases hc <;> rfl

/-- There is no exponent where a number ends. -/
theorem Ends.spanExponent {rest : List Char} (h : Ends rest) :
    spanExponent rest = (none, rest) := by
  rcases h with rfl | ⟨c, after, rfl, rfl | rfl⟩ <;> rfl

/-- An exponent as it is written. -/
def exponentText (e : ℤ) : List Char :=
  'e' :: (if e < 0 then '-' else '+') :: Nat.toDigits 10 e.natAbs

theorem stops_exponentText (e : ℤ) (rest : List Char) : Stops (exponentText e ++ rest) := by
  intro c hc
  cases hc
  rfl

theorem spanExponent_exponentText (e : ℤ) {rest : List Char} (hr : Stops rest) :
    spanExponent (exponentText e ++ rest) = (some e, rest) := by
  have hspan := spanDigits_append (isDigit_of_mem_toDigits (n := e.natAbs)) hr
  have hne : Nat.toDigits 10 e.natAbs ≠ [] := Nat.toDigits_ne_nil
  have hsign : Decimal.spanSign
      ((if e < 0 then '-' else '+') :: (Nat.toDigits 10 e.natAbs ++ rest))
        = (decide (e < 0), Nat.toDigits 10 e.natAbs ++ rest) := by
    split_ifs with h
    · rw [decide_eq_true h]
      rfl
    · rw [decide_eq_false h]
      rfl
  have he : (if decide (e < 0) = true then -(e.natAbs : ℤ) else e.natAbs) = e := by
    split_ifs with h <;> rw [decide_eq_true_iff] at h <;> omega
  show spanExponent ('e' :: ((if e < 0 then '-' else '+') :: (Nat.toDigits 10 e.natAbs ++ rest)))
    = (some e, rest)
  rw [spanExponent, if_pos (by decide), hsign]
  simp only [hspan, if_neg hne, natOfDigits_toDigits, he]

/-- The digits before a point: only zero itself starts with a zero. -/
inductive Whole : List Char → Prop
  | zero : Whole ['0']
  | digits {c : Char} {more : List Char} (hd : ∀ x ∈ c :: more, isDigit x = true) (hc : c ≠ '0') :
      Whole (c :: more)

theorem Whole.isDigit {whole : List Char} (h : Whole whole) : ∀ c ∈ whole, isDigit c = true := by
  cases h with
  | zero => exact List.forall_mem_singleton.mpr rfl
  | digits hd => exact hd

theorem Whole.of_head? {whole : List Char} (hd : ∀ c ∈ whole, Decimal.isDigit c = true)
    (hne : whole ≠ []) (hhead : whole.head? ≠ some '0') : Whole whole := by
  cases whole with
  | nil => exact absurd rfl hne
  | cons c more => exact .digits hd fun h => hhead (congrArg some h)

theorem Whole.toDigits (n : ℕ) : Whole (Nat.toDigits 10 n) := by
  rcases Nat.eq_zero_or_pos n with rfl | hn
  · exact .zero
  · exact .of_head? isDigit_of_mem_toDigits Nat.toDigits_ne_nil (head?_toDigits hn)

/-- A positive number with more digits. -/
theorem Whole.toDigits_append {n : ℕ} (hn : 0 < n) {more : List Char}
    (h : ∀ c ∈ more, Decimal.isDigit c = true) : Whole (Nat.toDigits 10 n ++ more) := by
  apply Whole.of_head?
  · intro c hc
    rcases List.mem_append.mp hc with hc | hc
    · exact isDigit_of_mem_toDigits c hc
    · exact h c hc
  · exact List.append_ne_nil_of_left_ne_nil Nat.toDigits_ne_nil _
  · rw [List.head?_append_of_ne_nil _ Nat.toDigits_ne_nil]
    exact head?_toDigits hn

/-- The first digits of a positive number. -/
theorem Whole.take {n k : ℕ} (hn : 0 < n) (hk : 0 < k) : Whole ((Nat.toDigits 10 n).take k) := by
  have hne : Nat.toDigits 10 n ≠ [] := Nat.toDigits_ne_nil
  apply Whole.of_head?
  · exact fun c hc => isDigit_of_mem_toDigits c (List.mem_of_mem_take hc)
  · rw [Ne, List.take_eq_nil_iff, not_or]
    exact ⟨hk.ne', hne⟩
  · rw [List.head?_take, if_neg hk.ne']
    exact head?_toDigits hn

/-! ### Numbers without sign -/

variable {sign : Sign} {whole fraction rest : List Char}

/-- A number with a point. -/
theorem decimal?_point (hw : Whole whole) (hf : ∀ c ∈ fraction, isDigit c = true)
    (hr : Stops rest) :
    decimal? sign (whole ++ '.' :: (fraction ++ rest)) =
      some (rawDecimal sign whole fraction ((spanExponent rest).1.getD 0),
        (spanExponent rest).2) := by
  have hstops : Stops ('.' :: (fraction ++ rest)) := by
    intro c hc
    cases hc
    rfl
  have hspan := spanDigits_append hw.isDigit hstops
  rw [decimal?, hspan]
  cases hw with
  | zero => simp [spanDigits_append hf hr]
  | digits hd hc => simp [hc, spanDigits_append hf hr]

/-- A number with an exponent and without a point. -/
theorem decimal?_exponent (hw : Whole whole) (e : ℤ) (hr : Stops rest) :
    decimal? sign (whole ++ (exponentText e ++ rest)) =
      some (rawDecimal sign whole [] e, rest) := by
  have hspan := spanDigits_append hw.isDigit (stops_exponentText e rest)
  have hpoint : ∀ after, exponentText e ++ rest ≠ '.' :: after := fun _ h => nomatch h
  rw [decimal?, hspan]
  cases hw with
  | zero => simp [spanExponent_exponentText e hr]
  | digits hd hc => simp [hc, spanExponent_exponentText e hr]

/-- A number with neither. -/
theorem decimal?_whole (hw : Whole whole) (hr : Ends rest) :
    decimal? sign (whole ++ rest) = some (rawWhole sign whole, rest) := by
  have hpoint : ∀ after, rest ≠ '.' :: after := by
    rintro after rfl
    rcases hr with h | ⟨c, after', h, rfl | rfl⟩ <;> cases h
  rw [decimal?, spanDigits_append hw.isDigit hr.stops]
  cases hw with
  | zero => simp [hr.spanExponent]
  | digits hd hc => simp [hc, hr.spanExponent]

/-- A number starts with a digit, and no digit stands for base sixteen. -/
theorem unsigned?_eq_decimal? (hw : Whole whole) (hr : ∀ c ∈ rest.head?, c ≠ 'x' ∧ c ≠ 'X') :
    unsigned? sign (whole ++ rest) = decimal? sign (whole ++ rest) := by
  cases hw with
  | zero =>
    cases rest with
    | nil => rfl
    | cons c rest =>
      obtain ⟨hx, hX⟩ := hr c rfl
      simp [unsigned?, hx, hX]
  | @digits c more hd hc =>
    have hI : c ≠ 'I' := by
      rintro rfl
      exact absurd (hd _ List.mem_cons_self) (by decide)
    have hN : c ≠ 'N' := by
      rintro rfl
      exact absurd (hd _ List.mem_cons_self) (by decide)
    simp [unsigned?, hc, hI, hN]

/-- A number behind the sign that it is written with. -/
theorem number?_signed (negative : Bool) (hw : Whole whole)
    (hr : ∀ c ∈ rest.head?, c ≠ 'x' ∧ c ≠ 'X') :
    number? (if negative then '-' :: (whole ++ rest) else whole ++ rest) =
      decimal? (if negative then .minus else .none) (whole ++ rest) := by
  rw [← unsigned?_eq_decimal? hw hr]
  cases negative with
  | true => rfl
  | false =>
    have hsign : spanSign (whole ++ rest) = (.none, whole ++ rest) := by
      cases hw with
      | zero => rfl
      | @digits c more hd hc =>
        have hplus : c ≠ '+' := by
          rintro rfl
          exact absurd (hd _ List.mem_cons_self) (by decide)
        have hminus : c ≠ '-' := by
          rintro rfl
          exact absurd (hd _ List.mem_cons_self) (by decide)
        simp [spanSign, hplus, hminus]
    rw [if_neg Bool.false_ne_true, if_neg Bool.false_ne_true, number?, hsign]

/-! ### Decimals -/

/-- Digits that read back to the size of a number are that number behind its
sign. -/
theorem rawDecimal_eq {x : Float} {e : ℤ} (hx : x.isFinite = true)
    (h : (⟨natOfDigits (whole ++ fraction), e - fraction.length⟩ : Digits).nearest = x.abs) :
    rawDecimal (if Decimal.isNegative x then .minus else .none) whole fraction e = .decimal x := by
  have habs : x.abs.isFinite = true := by
    obtain ⟨s, q, hq, hu⟩ := (Binary.isFinite_iff x).mp hx
    apply (Binary.isFinite_iff _).mpr
    exact ⟨_, q, hq, by rw [Binary.unpacked_abs]; exact hu.abs⟩
  have hsign : decide ((if Decimal.isNegative x then Sign.minus else .none) = .minus)
      = Decimal.isNegative x := by
    cases Decimal.isNegative x <;> rfl
  rw [rawDecimal]
  simp only [h, habs, if_true, hsign, Decimal.withSign_isNegative_abs hx]

/-- The texts of a number with a point, an exponent or both. -/
inductive Written (d : Digits) : List Char → Prop
  | point {whole fraction : List Char} (hw : Whole whole) (hf : ∀ c ∈ fraction, isDigit c = true)
      (hvalue : (⟨natOfDigits (whole ++ fraction), 0 - fraction.length⟩ : Digits).value = d.value) :
      Written d (whole ++ '.' :: fraction)
  | exponent {whole : List Char} {e : ℤ} (hw : Whole whole)
      (hvalue : (⟨natOfDigits (whole ++ []), e - 0⟩ : Digits).value = d.value) :
      Written d (whole ++ exponentText e)
  | both {whole fraction : List Char} {e : ℤ} (hw : Whole whole)
      (hf : ∀ c ∈ fraction, isDigit c = true)
      (hvalue : (⟨natOfDigits (whole ++ fraction), e - fraction.length⟩ : Digits).value = d.value) :
      Written d (whole ++ '.' :: (fraction ++ exponentText e))

/-- Each of them reads back to a number that the digits were chosen for. -/
theorem Written.number? {x : Float} {d : Digits} {size : List Char} (h : Written d size)
    (hx : x.isFinite = true) (hd : Decimal.shortest? .toEven x = some d) (hr : Ends rest) :
    number? ((if Decimal.isNegative x then '-' :: size else size) ++ rest) =
      some (.decimal x, rest) := by
  have hsplit : ∀ whole tail : List Char,
      (if Decimal.isNegative x then '-' :: (whole ++ tail) else whole ++ tail) ++ rest =
        if Decimal.isNegative x then '-' :: (whole ++ (tail ++ rest))
        else whole ++ (tail ++ rest) := by
    intro whole tail
    split_ifs <;> simp
  cases h with
  | point hw hf hvalue =>
    have hread := rawDecimal_eq hx (Decimal.nearest_of_value_eq hx hd hvalue)
    rw [hsplit, number?_signed _ hw (by intro c hc; cases hc; decide), List.cons_append,
      decimal?_point hw hf hr.stops, hr.spanExponent]
    exact congrArg (fun raw => some (raw, rest)) hread
  | exponent hw hvalue =>
    have hread := rawDecimal_eq hx (Decimal.nearest_of_value_eq hx hd hvalue)
    rw [hsplit, number?_signed _ hw (by intro c hc; cases hc; decide),
      decimal?_exponent hw _ hr.stops, hread]
  | @both whole fraction e hw hf hvalue =>
    have hread := rawDecimal_eq hx (Decimal.nearest_of_value_eq hx hd hvalue)
    rw [hsplit, number?_signed _ hw (by intro c hc; cases hc; decide), List.cons_append,
      List.append_assoc, decimal?_point hw hf (stops_exponentText e rest),
      spanExponent_exponentText _ hr.stops]
    exact congrArg (fun raw => some (raw, rest)) hread

/-- A number that is not whole has its point between digits, whatever would
stand behind a whole one. -/
theorem exists_plain_of_neg {d : Digits} (h0 : 0 < d.digits) (he : ¬ 0 ≤ d.exponent)
    (wholeEnd : List Char) :
    ∃ whole fraction, plain wholeEnd d = whole ++ '.' :: fraction ∧ Whole whole ∧
      (∀ c ∈ fraction, isDigit c = true) ∧
      (⟨natOfDigits (whole ++ fraction), 0 - fraction.length⟩ : Digits).value = d.value := by
  obtain ⟨m, e⟩ := d
  have hneg : ¬ 0 ≤ e := he
  have hlen : 0 < (Nat.toDigits 10 m).length := Nat.length_toDigits_pos
  unfold plain
  simp only [if_neg hneg]
  split_ifs with hpoint
  · -- the point between two digits
    rw [← Int.toNat_of_nonneg hpoint.le] at hpoint
    refine ⟨_, _, rfl, Whole.take h0 (by omega), ?_, ?_⟩
    · exact fun c hc => isDigit_of_mem_toDigits c (List.mem_of_mem_drop hc)
    · rw [List.take_append_drop, natOfDigits_toDigits, List.length_drop]
      congr 2
      omega
  · -- zeros behind the point
    refine ⟨['0'], _, rfl, .zero, ?_, ?_⟩
    · intro c hc
      rcases List.mem_append.mp hc with hc | hc
      · exact isDigit_of_mem_zeros c hc
      · exact isDigit_of_mem_toDigits c hc
    · have hzeros : (zeros (-(((Nat.toDigits 10 m).length : ℤ) + e)).toNat).length
          = (-(((Nat.toDigits 10 m).length : ℤ) + e)).toNat := List.length_replicate
      have hfirst : natOfDigits ['0'] = 0 := by decide
      rw [natOfDigits_append, hfirst, zero_mul, zero_add, List.append_eq,
        natOfDigits_zeros_append, natOfDigits_toDigits, List.length_append, hzeros]
      congr 2
      omega

/-- Digits with the point in its place. -/
theorem written_plain {d : Digits} (h0 : 0 < d.digits) : Written d (plain ['.', '0'] d) := by
  by_cases he : 0 ≤ d.exponent
  · -- zeros up to the point
    obtain ⟨m, e⟩ := d
    obtain ⟨n, rfl⟩ := Int.eq_ofNat_of_zero_le he
    unfold plain
    simp only [if_pos he]
    refine @Written.point _ (Nat.toDigits 10 m ++ zeros n) ['0']
      (Whole.toDigits_append h0 isDigit_of_mem_zeros) (List.forall_mem_singleton.mpr rfl) ?_
    have hlast : natOfDigits ['0'] = 0 := by decide
    rw [natOfDigits_append, natOfDigits_append_zeros, hlast]
    simp only [Digits.value, List.length_singleton]
    push_cast
    rw [add_zero, zpow_neg_one, mul_assoc, mul_inv_cancel₀ (by norm_num), mul_one, zpow_natCast]
  · obtain ⟨whole, fraction, htext, hw, hf, hvalue⟩ := exists_plain_of_neg h0 he ['.', '0']
    rw [htext]
    exact .point hw hf hvalue

/-- Digits with an exponent. -/
theorem written_scientific {d : Digits} (h0 : 0 < d.digits) : Written d (scientific d) := by
  obtain ⟨m, e⟩ := d
  have hwhole := Whole.take h0 one_pos
  have hdigits : ∀ c ∈ Nat.toDigits 10 m, isDigit c = true := isDigit_of_mem_toDigits
  have hvalue := natOfDigits_toDigits m
  unfold scientific
  simp only
  rcases hm : Nat.toDigits 10 m with _ | ⟨first, _ | ⟨second, more⟩⟩
  · exact absurd hm Nat.toDigits_ne_nil
  · rw [hm] at hwhole hvalue
    refine @Written.exponent _ [first] _ hwhole ?_
    rw [List.append_nil, hvalue]
    congr 2
    rw [List.length_singleton]
    omega
  · rw [hm] at hwhole hvalue hdigits
    refine @Written.both _ [first] (second :: more) _ hwhole ?_ ?_
    · exact fun c hc => hdigits c (List.mem_cons_of_mem _ hc)
    · rw [List.singleton_append, hvalue]
      congr 2
      simp only [List.length_cons]
      omega

/-- A finite decimal reads back to itself. -/
theorem number?_decimalText {x : Float} (hx : x.isFinite = true) {rest : List Char}
    (hr : Ends rest) : number? (Json.decimalText x ++ rest) = some (.decimal x, rest) := by
  rw [Json.decimalText, if_pos hx, Decimal.Layout.write]
  cases hd : Decimal.shortest? Json.decimalLayout.tie x with
  | none =>
    -- zero has no digits, and is written with those of its layout
    have hnearest : (⟨natOfDigits (['0'] ++ ['0']), 0 - ((['0'] : List Char).length : ℤ)⟩
        : Digits).nearest = x.abs := by
      rw [Decimal.abs_of_shortest?_eq_none hx hd]
      decide +kernel
    have hread := rawDecimal_eq hx hnearest
    have htext : ((if Decimal.isNegative x then '-' :: '0' :: Json.decimalLayout.wholeEnd
        else '0' :: Json.decimalLayout.wholeEnd) ++ rest) =
          if Decimal.isNegative x then '-' :: (['0'] ++ '.' :: (['0'] ++ rest))
          else ['0'] ++ '.' :: (['0'] ++ rest) := by
      split_ifs <;> rfl
    rw [htext, number?_signed _ .zero (by intro c hc; cases hc; decide),
      decimal?_point .zero (List.forall_mem_singleton.mpr rfl) hr.stops, hr.spanExponent]
    exact congrArg (fun raw => some (raw, rest)) hread
  | some d =>
    have h0 := Decimal.digits_pos_of_shortest? hx hd
    have hwritten : Written d
        (if Json.decimalLayout.isPlain (Decimal.digitCount d.digits + d.exponent - 1)
          then plain Json.decimalLayout.wholeEnd d else scientific d) := by
      split_ifs
      · exact written_plain h0
      · exact written_scientific h0
    exact hwritten.number? hx hd hr

/-! ### Whole numbers -/

theorem integerText_eq (n : Int64) : Json.integerText n =
    if decide (n.toInt < 0) then '-' :: Nat.toDigits 10 n.toInt.natAbs
    else Nat.toDigits 10 n.toInt.natAbs := by
  rw [Json.integerText, Int.toString_eq_repr, Int.repr_eq_if]
  by_cases h : n.toInt < 0
  · have habs : (-n.toInt).toNat = n.toInt.natAbs := by omega
    rw [if_neg (not_le.mpr h), decide_eq_true h, if_pos rfl, habs, String.toList_append,
      Nat.toList_repr]
    rfl
  · have habs : n.toInt.toNat = n.toInt.natAbs := by omega
    rw [if_pos (not_lt.mp h), decide_eq_false h, if_neg Bool.false_ne_true, habs, Nat.toList_repr]

/-- The whole numbers of 64 bits are read as such. -/
theorem integerOf?_toInt (n : Int64) : Value.integerOf? n.toInt = some n := by
  have hrange : (Int64.minValue.toInt ≤ n.toInt && n.toInt ≤ Int64.maxValue.toInt) = true := by
    rw [decide_eq_true n.minValue_le_toInt, decide_eq_true n.toInt_le]
    rfl
  rw [Value.integerOf?, if_pos hrange, Int64.ofInt_toInt]

/-- A whole number reads back to itself. -/
theorem number?_integerText (n : Int64) {rest : List Char} (hr : Ends rest) :
    number? (Json.integerText n ++ rest) = some (.integer n.toInt, rest) := by
  have htext : Json.integerText n ++ rest =
      if decide (n.toInt < 0) then '-' :: (Nat.toDigits 10 n.toInt.natAbs ++ rest)
      else Nat.toDigits 10 n.toInt.natAbs ++ rest := by
    rw [integerText_eq]
    split_ifs <;> rfl
  have hends : ∀ c ∈ rest.head?, c ≠ 'x' ∧ c ≠ 'X' := by
    rcases hr with rfl | ⟨c, after, rfl, rfl | rfl⟩ <;> intro c hc <;> cases hc <;> decide
  -- the sign that is read and the sign of the number are the same
  have hsize : (if (if decide (n.toInt < 0) then Sign.minus else .none) = .minus
      then -(n.toInt.natAbs : ℤ) else n.toInt.natAbs) = n.toInt := by
    by_cases h : n.toInt < 0
    · rw [decide_eq_true h, if_pos rfl, if_pos rfl]
      omega
    · rw [decide_eq_false h, if_neg Bool.false_ne_true, if_neg (by decide)]
      omega
  rw [htext, number?_signed _ (Whole.toDigits _) hends, decimal?_whole (Whole.toDigits _) hr,
    rawWhole, natOfDigits_toDigits]
  simp only [hsize, integerOf?_toInt]

end Settings.Json5
