/-
Settings/Proofs/Decimal/Shown.lean

Numbers between the texts that are shown and the reader for what people type.
A finite number is shown with digits that read back to it, so it can be typed
as it is shown:

    read? (shownText x)  =  x

Whole numbers are shown without a point, so there are two ways that digits
are set, and the reader does not mind which (`Typed`).  It tries the words for
infinity first; they do not start with a digit.
-/
import Settings.Decimal.Layout
import Settings.Proofs.Json5.Number
import Settings.Proofs.Text.Blank

namespace Settings.Decimal

open Json5 (Stops spanDigits_append isDigit_of_mem_toDigits isDigit_of_mem_zeros)

/-! ### Reading digits -/

variable {whole fraction size : List Char} {d : Digits} {x : Float}

theorem readUnsigned?_whole (hne : whole ≠ []) (hw : ∀ c ∈ whole, isDigit c = true) :
    readUnsigned? whole = some (Digits.nearest ⟨natOfDigits whole, 0⟩) := by
  have hspan : spanDigits (whole ++ []) = (whole, []) :=
    spanDigits_append hw fun _ hc => nomatch hc
  rw [List.append_nil] at hspan
  simp [readUnsigned?, hspan, spanFraction, hne, readExponent?]

theorem readUnsigned?_point (hne : whole ≠ []) (hw : ∀ c ∈ whole, isDigit c = true)
    (hf : ∀ c ∈ fraction, isDigit c = true) :
    readUnsigned? (whole ++ '.' :: fraction) =
      some (Digits.nearest ⟨natOfDigits (whole ++ fraction), 0 - fraction.length⟩) := by
  have hstops : Stops ('.' :: fraction) := by
    intro c hc
    cases hc
    rfl
  have hfraction : spanDigits (fraction ++ []) = (fraction, []) :=
    spanDigits_append hf fun _ hc => nomatch hc
  rw [List.append_nil] at hfraction
  simp [readUnsigned?, spanDigits_append hw hstops, spanFraction, hfraction, hne, readExponent?]

theorem lowerLatin_of_isDigit {c : Char} (hc : isDigit c = true) : lowerLatin c = c := by
  rw [isDigit, Bool.and_eq_true, decide_eq_true_iff, decide_eq_true_iff] at hc
  have hcapital : ¬ 'A' ≤ c := fun h => absurd (le_trans h hc.2) (by decide)
  simp [lowerLatin, hcapital]

/-- What starts with a digit is not a word that starts with a letter. -/
theorem ofList_map_lowerLatin_ne {c letter : Char} {more letters : List Char}
    (hc : isDigit c = true) (hl : isDigit letter = false) :
    String.ofList ((c :: more).map lowerLatin) ≠ String.ofList (letter :: letters) := by
  intro h
  rw [String.ofList_inj, List.map_cons, lowerLatin_of_isDigit hc, List.cons.injEq] at h
  rw [h.1, hl] at hc
  cases hc

/-- The sign in front of digits. -/
theorem spanSign_signed (negative : Bool) {c : Char} {more : List Char} (hc : isDigit c = true) :
    spanSign (if negative then '-' :: c :: more else c :: more) = (negative, c :: more) := by
  cases negative with
  | true => rfl
  | false =>
    have hplus : c ≠ '+' := by
      rintro rfl
      cases hc
    have hminus : c ≠ '-' := by
      rintro rfl
      cases hc
    simp [spanSign, hplus, hminus]

/-- What is read is the digits, behind the sign in front of them. -/
theorem read?_signed (negative : Bool) {c : Char} {more : List Char} (hc : isDigit c = true) :
    read? (if negative then '-' :: c :: more else c :: more) =
      (readUnsigned? (c :: more)).map (withSign negative) := by
  have hinf : String.ofList ((c :: more).map lowerLatin) ≠ "inf" :=
    @ofList_map_lowerLatin_ne c 'i' more ['n', 'f'] hc rfl
  have hinfinity : String.ofList ((c :: more).map lowerLatin) ≠ "infinity" :=
    @ofList_map_lowerLatin_ne c 'i' more ['n', 'f', 'i', 'n', 'i', 't', 'y'] hc rfl
  have hnan : String.ofList ((c :: more).map lowerLatin) ≠ "nan" :=
    @ofList_map_lowerLatin_ne c 'n' more ['a', 'n'] hc rfl
  rw [read?, spanSign_signed negative hc]
  simp only [hinf, hinfinity, hnan, decide_false, Bool.or_self, Bool.false_eq_true, if_false]

/-! ### Digits as they are shown -/

/-- The texts of a number without an exponent. -/
inductive Typed (d : Digits) : List Char → Prop
  | whole {whole : List Char} (hne : whole ≠ []) (hw : ∀ c ∈ whole, isDigit c = true)
      (hvalue : (⟨natOfDigits whole, 0⟩ : Digits).value = d.value) : Typed d whole
  | point {whole fraction : List Char} (hne : whole ≠ []) (hw : ∀ c ∈ whole, isDigit c = true)
      (hf : ∀ c ∈ fraction, isDigit c = true)
      (hvalue : (⟨natOfDigits (whole ++ fraction), 0 - fraction.length⟩ : Digits).value = d.value) :
      Typed d (whole ++ '.' :: fraction)

theorem Typed.readUnsigned?_eq {tie : Tie} (h : Typed d size) (hx : x.isFinite = true)
    (hd : shortest? tie x = some d) : readUnsigned? size = some x.abs := by
  cases h with
  | whole hne hw hvalue => rw [readUnsigned?_whole hne hw, nearest_of_value_eq hx hd hvalue]
  | point hne hw hf hvalue =>
    rw [readUnsigned?_point hne hw hf, nearest_of_value_eq hx hd hvalue]

/-- Such a text starts with a digit. -/
theorem Typed.exists_cons (h : Typed d size) : ∃ c more, size = c :: more ∧ isDigit c = true := by
  cases h with
  | @whole whole hne hw =>
    obtain ⟨c, more, rfl⟩ := List.exists_cons_of_ne_nil hne
    exact ⟨c, more, rfl, hw c List.mem_cons_self⟩
  | @point whole fraction hne hw hf =>
    obtain ⟨c, more, rfl⟩ := List.exists_cons_of_ne_nil hne
    exact ⟨c, more ++ '.' :: fraction, rfl, hw c List.mem_cons_self⟩

/-- Digits and a point. -/
theorem Typed.mem (h : Typed d size) : ∀ c ∈ size, isDigit c = true ∨ c = '.' := by
  intro c hc
  cases h with
  | whole hne hw => exact .inl (hw c hc)
  | point hne hw hf =>
    rcases List.mem_append.mp hc with hc | hc
    · exact .inl (hw c hc)
    · rcases List.mem_cons.mp hc with rfl | hc
      · exact .inr rfl
      · exact .inl (hf c hc)

/-- Digits with the point in its place, and none behind a whole number. -/
theorem typed_plain (h0 : 0 < d.digits) : Typed d (plain [] d) := by
  by_cases he : 0 ≤ d.exponent
  · obtain ⟨m, e⟩ := d
    obtain ⟨n, rfl⟩ := Int.eq_ofNat_of_zero_le he
    have hdigits : ∀ c ∈ Nat.toDigits 10 m ++ zeros n, isDigit c = true :=
      List.forall_mem_append.mpr ⟨isDigit_of_mem_toDigits, isDigit_of_mem_zeros⟩
    unfold plain
    simp only [if_pos he, List.append_nil]
    refine .whole (List.append_ne_nil_of_left_ne_nil Nat.toDigits_ne_nil _) hdigits ?_
    rw [Int.toNat_natCast, Json5.natOfDigits_append_zeros]
    simp [Digits.value]
  · obtain ⟨whole, fraction, htext, hw, hf, hvalue⟩ := Json5.exists_plain_of_neg h0 he []
    have hne : whole ≠ [] := by
      rintro rfl
      cases hw
    rw [htext]
    exact .point hne hw.isDigit hf hvalue

/-! ### Numbers as they are shown -/

theorem isInf_of_isFinite (hx : x.isFinite = true) : x.isInf = false := by
  obtain ⟨s, q, -, hu⟩ := (Binary.isFinite_iff x).mp hx
  show (Binary.unpacked x).isInf = false
  generalize Binary.unpacked x = u at hu
  cases hu <;> rfl

theorem toList_shownText (hx : x.isFinite = true) : (shownText x).toList = shown.write x := by
  rw [shownText, Binary.isNaN_of_isFinite hx, isInf_of_isFinite hx, if_neg Bool.false_ne_true,
    if_neg Bool.false_ne_true, String.toList_ofList]

/-- A finite number is shown as its size behind its sign. -/
theorem exists_shownText_eq (hx : x.isFinite = true) :
    ∃ size, (shownText x).toList = (if isNegative x then '-' :: size else size) ∧
      (∃ c more, size = c :: more ∧ isDigit c = true) ∧ (∀ c ∈ size, isDigit c = true ∨ c = '.') ∧
      readUnsigned? size = some x.abs := by
  rw [toList_shownText hx, Layout.write]
  cases hd : shortest? shown.tie x with
  | none =>
    refine ⟨['0'], rfl, ⟨'0', [], rfl, rfl⟩, List.forall_mem_singleton.mpr (.inl rfl), ?_⟩
    rw [abs_of_shortest?_eq_none hx hd]
    decide +kernel
  | some d =>
    have htyped := typed_plain (digits_pos_of_shortest? hx hd)
    exact ⟨plain [] d, rfl, htyped.exists_cons, htyped.mem, htyped.readUnsigned?_eq hx hd⟩

/-- **A finite number is read as it is shown.** -/
theorem read?_shownText (hx : x.isFinite = true) : read? (shownText x).toList = some x := by
  obtain ⟨size, htext, ⟨c, more, rfl, hc⟩, -, hread⟩ := exists_shownText_eq hx
  rw [htext, read?_signed _ hc, hread, Option.map_some, withSign_isNegative_abs hx]

theorem isBlank_of_isDigit {c : Char} (hc : isDigit c = true) : Text.isBlank c = false := by
  have hdigits : ∀ n < 10, Text.isBlank (Char.ofNat ('0'.toNat + n)) = false := by decide
  rw [isDigit, Bool.and_eq_true, decide_eq_true_iff, decide_eq_true_iff] at hc
  have hlower : '0'.toNat ≤ c.toNat := hc.1
  have hupper : c.toNat ≤ '9'.toNat := hc.2
  have hdigit := hdigits (c.toNat - '0'.toNat)
    (Nat.lt_succ_of_le (Nat.sub_le_sub_right hupper _))
  rwa [Nat.add_sub_cancel' hlower, Char.ofNat_toNat] at hdigit

/-- There is no white space in it. -/
theorem isBlank_of_mem_shownText (hx : x.isFinite = true) :
    ∀ c ∈ (shownText x).toList, Text.isBlank c = false := by
  obtain ⟨size, htext, -, hmem, -⟩ := exists_shownText_eq hx
  have hsize : ∀ c ∈ size, Text.isBlank c = false := by
    intro c hc
    rcases hmem c hc with hd | rfl
    · exact isBlank_of_isDigit hd
    · rfl
  rw [htext]
  split
  · exact List.forall_mem_cons.mpr ⟨rfl, hsize⟩
  · exact hsize

end Settings.Decimal
