/-
Settings/Proofs/Text/Normal.lean

Normal forms of texts with white space in them.  Lower-casing looks at the
neighbours of a character, and as far as there are case ignorable ones.  White
space is neither cased nor passed over, so that nothing is seen across it
(`startsCased_append_cons`), and each side gets the normal form that it has on
its own:

    normalChars (a ++ c :: b)  =  normalChars a ++ spaceForm c :: normalChars b

for white space `c`.  So a text can be put into normal form word by word
(`words_normalChars`).
-/
import Settings.Proofs.Text.Blank
import Settings.Text.Normal

namespace Settings.Text

variable {a b text : List Char} {c : Char}

/-! ### What the tables say of white space -/

/-- What holds of all white space in the list holds of all that there is. -/
theorem of_all_blanks {P : Char → Bool} (h : blanks.all P = true) (hc : isBlank c = true) :
    P c = true :=
  List.all_eq_true.mp h c (mem_blanks hc)

/-- White space in normal form.  Two of the wide spaces are written as others. -/
def spaceForm (c : Char) : Char :=
  if c = '\u2000' then '\u2002' else if c = '\u2001' then '\u2003' else c

theorem isBlank_spaceForm (h : isBlank c = true) : isBlank (spaceForm c) = true := by
  unfold spaceForm
  split
  · rfl
  · split
    · rfl
    · exact h

theorem not_isCased_of_isBlank (h : isBlank c = true) : isCased c = false := by
  have hall : blanks.all (fun c => !isCased c) = true := by decide +kernel
  simpa using of_all_blanks hall h

theorem not_isCaseIgnorable_of_isBlank (h : isBlank c = true) : isCaseIgnorable c = false := by
  have hall : blanks.all (fun c => !isCaseIgnorable c) = true := by decide +kernel
  simpa using of_all_blanks hall h

theorem lowerChar_of_isBlank (h : isBlank c = true) (before after : List Char) :
    lowerChar before c after = [c] := by
  have hall : blanks.all (fun c => c ≠ '\u0130' && c ≠ '\u03A3' && lowerAlone c = c) = true := by
    decide +kernel
  have hc := of_all_blanks hall h
  simp only [Bool.and_eq_true, decide_eq_true_iff] at hc
  rw [lowerChar, if_neg hc.1.1, if_neg hc.1.2, hc.2]

theorem decompose_of_isBlank (h : isBlank c = true) : decompose c = [spaceForm c] := by
  have hall : blanks.all (fun c => decompose c = [spaceForm c]) = true := by decide +kernel
  simpa using of_all_blanks hall h

theorem not_isMark_of_isBlank (h : isBlank c = true) : isMark c = false := by
  have hall : blanks.all (fun c => !isMark c) = true := by decide +kernel
  simpa using of_all_blanks hall h

/-! ### Lower-casing -/

/-- Nothing is seen across white space. -/
theorem startsCased_append_cons (hc : isBlank c = true) (a b : List Char) :
    startsCased (a ++ c :: b) = startsCased a := by
  have hstop : (c :: b).dropWhile isCaseIgnorable = c :: b :=
    List.dropWhile_cons_of_neg (by rw [not_isCaseIgnorable_of_isBlank hc]; exact Bool.false_ne_true)
  rw [startsCased, startsCased, List.dropWhile_append, hstop]
  cases a.dropWhile isCaseIgnorable with
  | nil => exact not_isCased_of_isBlank hc
  | cons d rest => rfl

theorem lowerChar_append_cons_right (hc : isBlank c = true) (before : List Char) (d : Char)
    (a b : List Char) : lowerChar before d (a ++ c :: b) = lowerChar before d a := by
  rw [lowerChar, lowerChar, startsCased_append_cons hc]

theorem lowerChar_append_cons_left (hc : isBlank c = true) (a b : List Char) (d : Char)
    (after : List Char) : lowerChar (a ++ c :: b) d after = lowerChar a d after := by
  rw [lowerChar, lowerChar, startsCased_append_cons hc]

/-- What stands before white space makes no difference behind it. -/
theorem lowerAfter_append_cons_left (hc : isBlank c = true) (a before text : List Char) :
    lowerAfter (a ++ c :: before) text = lowerAfter a text := by
  induction text generalizing a with
  | nil => rfl
  | cons d rest ih =>
    rw [lowerAfter, lowerAfter, lowerChar_append_cons_left hc, ← List.cons_append, ih]

theorem lowerAfter_append_cons (hc : isBlank c = true) (before a b : List Char) :
    lowerAfter before (a ++ c :: b) = lowerAfter before a ++ c :: lower b := by
  induction a generalizing before with
  | nil =>
    have hleft : lowerAfter (c :: before) b = lower b := lowerAfter_append_cons_left hc [] before b
    show lowerChar before c b ++ lowerAfter (c :: before) b = [c] ++ lower b
    rw [lowerChar_of_isBlank hc, hleft]
  | cons d rest ih =>
    rw [List.cons_append, lowerAfter, lowerAfter, lowerChar_append_cons_right hc, ih,
      List.append_assoc]

/-- Texts are lower-cased apart where white space stands between them. -/
theorem lower_append_cons (hc : isBlank c = true) (a b : List Char) :
    lower (a ++ c :: b) = lower a ++ c :: lower b :=
  lowerAfter_append_cons hc [] a b

/-! ### Normal forms -/

/-- **Normal forms part at white space.** -/
theorem normalChars_append_cons (hc : isBlank c = true) (a b : List Char) :
    normalChars (a ++ c :: b) = normalChars a ++ spaceForm c :: normalChars b := by
  have hspace : [spaceForm c].filter (!isMark ·) = [spaceForm c] :=
    List.filter_cons_of_pos (by rw [not_isMark_of_isBlank (isBlank_spaceForm hc)]; rfl)
  rw [normalChars, lower_append_cons hc, List.flatMap_append, List.flatMap_cons,
    decompose_of_isBlank hc, List.filter_append, List.filter_append, hspace]
  rfl

/-- The words of a normal form are those of the normal forms of the words. -/
theorem words_normalChars (text : List Char) :
    words (normalChars text) = (words text).flatMap fun word => words (normalChars word) := by
  induction text using parted_induction with
  | plain text h =>
    rw [words_of_plain h]
    split
    next hnil => subst hnil; rfl
    next => rw [List.flatMap_singleton]
  | parted a c b hc iha ihb =>
    rw [normalChars_append_cons hc, words_append_cons (isBlank_spaceForm hc),
      words_append_cons hc, List.flatMap_append, iha, ihb]

end Settings.Text
