/-
Settings/Proofs/Text/Blank.lean

White space and words.  White space parts the words before it from those
behind it,

    words (a ++ c :: b)  =  words a ++ words b        if isBlank c,

and a text without white space is one word, unless it is empty.  Both together
determine `words`, and every text can be taken apart that way
(`parted_induction`).  Taking white space off the ends of a text leaves the
words as they are, and never more of a part of the text than of the whole.
-/
import Settings.Text.Blank

namespace Settings.Text

variable {a b text : List Char} {c : Char}

/-! ### The characters -/

/-- All white space. -/
def blanks : List Char :=
  ['\t', '\n', '\x0b', '\x0c', '\r', ' ', '\u0085', '\u00A0', '\u1680', '\u2000', '\u2001',
    '\u2002', '\u2003', '\u2004', '\u2005', '\u2006', '\u2007', '\u2008', '\u2009', '\u200A',
    '\u2028', '\u2029', '\u202F', '\u205F', '\u3000']

/-- A character of a short range is among the given ones if all of the range
are. -/
theorem mem_of_mem_range {chars : List Char} (first size : Nat)
    (h : ∀ n < size, Char.ofNat (first + n) ∈ chars) (hc : first ≤ c.toNat)
    (hs : c.toNat - first < size) : c ∈ chars := by
  have hm := h (c.toNat - first) hs
  rwa [Nat.add_sub_cancel' hc, Char.ofNat_toNat] at hm

theorem mem_blanks (h : isBlank c = true) : c ∈ blanks := by
  simp only [isBlank, Bool.or_eq_true, Bool.and_eq_true, decide_eq_true_iff] at h
  by_cases hcontrol : 0x09 ≤ c.toNat ∧ c.toNat ≤ 0x0D
  · exact mem_of_mem_range 0x09 5 (by decide) hcontrol.1 (by omega)
  · by_cases hspace : 0x2000 ≤ c.toNat ∧ c.toNat ≤ 0x200A
    · exact mem_of_mem_range 0x2000 11 (by decide) hspace.1 (by omega)
    · simp only [hcontrol, hspace, or_false, or_assoc] at h
      rcases h with rfl | rfl | rfl | rfl | rfl | rfl | rfl | rfl | rfl <;> decide

/-! ### Texts with white space in them -/

/-- A text without white space, or two texts with white space between them. -/
theorem parted_induction {P : List Char → Prop}
    (plain : ∀ text, (∀ c ∈ text, isBlank c = false) → P text)
    (parted : ∀ a c b, isBlank c = true → P a → P b → P (a ++ c :: b)) (text : List Char) :
    P text := by
  -- what has been passed so far has no white space in it
  suffices h : ∀ passed : List Char, (∀ c ∈ passed, isBlank c = false) → P (passed ++ text) from
    h [] fun c hc => nomatch hc
  induction text with
  | nil =>
    intro passed hp
    rw [List.append_nil]
    exact plain passed hp
  | cons c rest ih =>
    intro passed hp
    cases hc : isBlank c with
    | true => exact parted passed c rest hc (plain passed hp) (ih [] fun c hc => nomatch hc)
    | false =>
      rw [List.append_cons]
      refine ih (passed ++ [c]) fun d hd => ?_
      rcases List.mem_append.mp hd with hd | hd
      · exact hp d hd
      · rwa [List.mem_singleton.mp hd]

/-! ### Words -/

theorem wordsFrom_append_cons (hc : isBlank c = true) (a b : List Char) :
    wordsFrom (a ++ c :: b) = ((wordsFrom a).1, (wordsFrom a).2 ++ words b) := by
  induction a with
  | nil => simp [wordsFrom, words, hc]
  | cons d rest ih =>
    rw [List.cons_append, wordsFrom, wordsFrom, ih]
    cases hd : isBlank d with
    | true => by_cases hn : (wordsFrom rest).1 = [] <;> simp [hn]
    | false => simp

/-- **White space parts words.** -/
theorem words_append_cons (hc : isBlank c = true) (a b : List Char) :
    words (a ++ c :: b) = words a ++ words b := by
  have hleft : words (a ++ c :: b) =
      if (wordsFrom a).1 = [] then (wordsFrom a).2 ++ words b
      else (wordsFrom a).1 :: ((wordsFrom a).2 ++ words b) := by
    rw [words, wordsFrom_append_cons hc]
  rw [hleft, words.eq_def a]
  by_cases hn : (wordsFrom a).1 = [] <;> simp [hn]

theorem wordsFrom_of_plain (h : ∀ c ∈ text, isBlank c = false) : wordsFrom text = (text, []) := by
  induction text with
  | nil => rfl
  | cons c rest ih =>
    rw [List.forall_mem_cons] at h
    simp [wordsFrom, ih h.2, h.1]

/-- A text without white space is one word, or none. -/
theorem words_of_plain (h : ∀ c ∈ text, isBlank c = false) :
    words text = if text = [] then [] else [text] := by
  rw [words, wordsFrom_of_plain h]

/-- White space alone has no words. -/
theorem words_of_blank (h : ∀ c ∈ text, isBlank c = true) : words text = [] := by
  induction text with
  | nil => rfl
  | cons c rest ih =>
    rw [List.forall_mem_cons] at h
    have hparted := words_append_cons h.1 [] rest
    rwa [ih h.2] at hparted

/-- White space in front of a text belongs to no word. -/
theorem words_append_of_blank_left (h : ∀ c ∈ a, isBlank c = true) : words (a ++ b) = words b := by
  induction a with
  | nil => rfl
  | cons c rest ih =>
    rw [List.forall_mem_cons] at h
    exact (words_append_cons h.1 [] (rest ++ b)).trans (ih h.2)

/-- Nor does white space behind it. -/
theorem words_append_of_blank_right (h : ∀ c ∈ b, isBlank c = true) :
    words (a ++ b) = words a := by
  cases b with
  | nil => rw [List.append_nil]
  | cons c rest =>
    rw [List.forall_mem_cons] at h
    rw [words_append_cons h.1, words_of_blank h.2, List.append_nil]

/-- A word stands in the text. -/
theorem infix_of_mem_words {word : List Char} (h : word ∈ words text) : word <:+: text := by
  induction text using parted_induction with
  | plain text hplain =>
    rw [words_of_plain hplain] at h
    split at h
    · cases h
    · obtain rfl := List.mem_singleton.mp h
      exact List.infix_refl word
  | parted a c b hc iha ihb =>
    rw [words_append_cons hc] at h
    rcases List.mem_append.mp h with h | h
    · exact (iha h).trans (List.prefix_append a _).isInfix
    · exact (ihb h).trans ((List.suffix_cons c b).trans (List.suffix_append a _)).isInfix

/-! ### The ends of a text -/

theorem isBlank_of_mem_takeWhile (h : c ∈ text.takeWhile isBlank) : isBlank c = true :=
  List.all_eq_true.mp List.all_takeWhile c h

/-- A text is what is left of it between white space. -/
theorem exists_eq_append_trim (text : List Char) :
    ∃ front back, text = front ++ (trim text ++ back) ∧
      (∀ c ∈ front, isBlank c = true) ∧ ∀ c ∈ back, isBlank c = true := by
  refine ⟨text.takeWhile isBlank, ((text.dropWhile isBlank).reverse.takeWhile isBlank).reverse,
    ?_, fun c hc => isBlank_of_mem_takeWhile hc,
    fun c hc => isBlank_of_mem_takeWhile (List.mem_reverse.mp hc)⟩
  rw [trim, trimEnd, ← List.reverse_append, List.takeWhile_append_dropWhile, List.reverse_reverse,
    List.takeWhile_append_dropWhile]

theorem dropWhile_of_plain (h : ∀ c ∈ text, isBlank c = false) : text.dropWhile isBlank = text := by
  cases text with
  | nil => rfl
  | cons c rest =>
    exact List.dropWhile_cons_of_neg (by rw [h c List.mem_cons_self]; exact Bool.false_ne_true)

/-- There is nothing to take off a text without white space. -/
theorem trim_of_plain (h : ∀ c ∈ text, isBlank c = false) : trim text = text := by
  rw [trim, dropWhile_of_plain h, trimEnd,
    dropWhile_of_plain fun c hc => h c (List.mem_reverse.mp hc), List.reverse_reverse]

/-- The text neither begins nor ends with white space. -/
def Tight (text : List Char) : Prop :=
  (∀ c ∈ text.head?, isBlank c = false) ∧ ∀ c ∈ text.getLast?, isBlank c = false

theorem dropWhile_eq_self_iff :
    text.dropWhile isBlank = text ↔ ∀ c ∈ text.head?, isBlank c = false := by
  cases text with
  | nil => exact iff_of_true rfl fun _ hc => nomatch hc
  | cons c rest =>
    have hhead : (∀ b ∈ (c :: rest).head?, isBlank b = false) ↔ isBlank c = false := by simp
    rw [hhead]
    cases hc : isBlank c with
    | false => simp [hc]
    | true =>
      -- without its first character the text is shorter
      have hlt : ((c :: rest).dropWhile isBlank).length < (c :: rest).length := by
        rw [List.dropWhile_cons_of_pos hc]
        exact Nat.lt_succ_of_le (List.dropWhile_suffix isBlank).length_le
      refine iff_of_false (fun h => ?_) (by simp)
      rw [h] at hlt
      exact Nat.lt_irrefl _ hlt

theorem trimEnd_eq_self_iff : trimEnd text = text ↔ ∀ c ∈ text.getLast?, isBlank c = false := by
  rw [← List.head?_reverse, ← dropWhile_eq_self_iff, trimEnd, List.reverse_eq_iff]

theorem length_trimEnd_le (text : List Char) : (trimEnd text).length ≤ text.length := by
  rw [trimEnd, List.length_reverse, ← text.length_reverse]
  exact (List.dropWhile_suffix isBlank).length_le

/-- There is nothing to take off a text exactly if it is tight. -/
theorem trim_eq_self_iff : trim text = text ↔ Tight text := by
  rw [trim, Tight, ← dropWhile_eq_self_iff, ← trimEnd_eq_self_iff]
  constructor
  · intro h
    have hle := length_trimEnd_le (text.dropWhile isBlank)
    rw [h] at hle
    have hfront : text.dropWhile isBlank = text :=
      (List.dropWhile_suffix isBlank).eq_of_length_le hle
    rw [hfront] at h
    exact ⟨hfront, h⟩
  · rintro ⟨hfront, hback⟩
    rw [hfront, hback]

/-- White space at the ends makes no difference to the words. -/
theorem words_trim (text : List Char) : words (trim text) = words text := by
  obtain ⟨front, back, htext, hfront, hback⟩ := exists_eq_append_trim text
  calc words (trim text) = words (trim text ++ back) := (words_append_of_blank_right hback).symm
    _ = words (front ++ (trim text ++ back)) := (words_append_of_blank_left hfront).symm
    _ = words text := by rw [← htext]

/-- As much is left of a text with something behind it. -/
theorem length_trimEnd_le_append (a b : List Char) :
    (trimEnd a).length ≤ (trimEnd (a ++ b)).length := by
  have ha := length_trimEnd_le a
  rw [trimEnd, List.length_reverse] at ha
  rw [trimEnd, trimEnd, List.reverse_append, List.dropWhile_append, List.length_reverse,
    List.length_reverse]
  split
  · exact Nat.le_refl _
  · rw [List.length_append, List.length_reverse]
    exact Nat.le_trans ha (Nat.le_add_left ..)

theorem length_trim_le_append (a b : List Char) : (trim a).length ≤ (trim (a ++ b)).length := by
  rw [trim, trim, List.dropWhile_append]
  split
  next h =>
    rw [List.isEmpty_iff.mp h]
    exact Nat.zero_le _
  next => exact length_trimEnd_le_append _ b

end Settings.Text
