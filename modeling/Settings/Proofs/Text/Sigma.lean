/-
Settings/Proofs/Text/Sigma.lean

Pieces of texts.  A piece is lower-cased where it stands (`lowerBetween`), and
only a capital sigma in it can come out otherwise than on its own: it becomes
the final sigma where a word ends, and whether one does depends on what stands
around.  So the normal form of a piece is a piece of the normal form

    front ++ piece ++ back,

unless a sigma ends a word in one of the two and not in the other
(`normalChars_infix`).

What can be seen from a sigma stops at the next letter.  Therefore only the
outermost letters of a piece matter: if these are not capital sigmas that a
letter next to the piece could change, the piece keeps its form in every text
(`sigmasKept_of_not_exposed`).  If they are, a single letter in front of the
piece or behind it makes another sigma of one of them
(`normalChars_cons_letter`, `normalChars_append_letter`).
-/
import Settings.Proofs.Text.Stable

namespace Settings.Text

variable {before after before' after' front piece back a b : List Char} {c : Char}

/-! ### Where words end -/

/-- Whether a word ends between two texts, the first of them read backwards. -/
def endsWord (before after : List Char) : Bool := startsCased before && !startsCased after

/-- The small form of a sigma between two texts. -/
def sigmaForm (before after : List Char) : Char :=
  if endsWord before after then '\u03C2' else '\u03C3'

theorem lowerChar_sigma (before after : List Char) :
    lowerChar before '\u03A3' after = [sigmaForm before after] := by
  rw [lowerChar, if_neg (by decide), if_pos rfl, sigmaForm, endsWord]
  split <;> rfl

/-- No other character looks around. -/
theorem lowerChar_congr (h : c = '\u03A3' → endsWord before after = endsWord before' after') :
    lowerChar before c after = lowerChar before' c after' := by
  by_cases hc : c = '\u03A3'
  · rw [hc, lowerChar_sigma, lowerChar_sigma, sigmaForm, h hc, sigmaForm]
  · rw [lowerChar, lowerChar, if_neg hc, if_neg hc]

/-- What is seen of a text is its first letter. -/
theorem startsCased_append (a b : List Char) :
    startsCased (a ++ b) = if a.all isCaseIgnorable then startsCased b else startsCased a := by
  induction a with
  | nil => rfl
  | cons c rest ih =>
    cases hc : isCaseIgnorable c with
    | true =>
      have hskip : ∀ text, startsCased (c :: text) = startsCased text := fun text => by
        rw [startsCased, startsCased, List.dropWhile_cons_of_pos hc]
      rw [List.cons_append, hskip, hskip, ih, List.all_cons, hc, Bool.true_and]
    | false =>
      have hstop : ∀ text, startsCased (c :: text) = isCased c := fun text => by
        rw [startsCased, List.dropWhile_cons_of_neg (by rw [hc]; exact Bool.false_ne_true)]
      rw [List.cons_append, hstop, hstop, List.all_cons, hc, Bool.false_and,
        if_neg Bool.false_ne_true]

theorem startsCased_of_all (h : a.all isCaseIgnorable = true) : startsCased a = false := by
  have hall := startsCased_append a []
  rw [List.append_nil, if_pos h] at hall
  exact hall

/-- The capital sigma and the letter that stands for all others are cased, and
not passed over. -/
theorem isCased_sigma : isCaseIgnorable '\u03A3' = false ∧ isCased '\u03A3' = true ∧
    startsCased ['a'] = true := by decide +kernel

theorem startsCased_sigma (a : List Char) : startsCased ('\u03A3' :: a) = true := by
  rw [startsCased, List.dropWhile_cons_of_neg (by rw [isCased_sigma.1]; exact Bool.false_ne_true)]
  exact isCased_sigma.2.1

/-- The capital sigma is a letter: nothing is seen behind it. -/
theorem startsCased_append_sigma (a b b' : List Char) :
    startsCased (a ++ '\u03A3' :: b) = startsCased (a ++ '\u03A3' :: b') := by
  rw [startsCased_append, startsCased_append, startsCased_sigma, startsCased_sigma]

/-! ### Lower-casing a piece -/

/-- A piece of a text, lower-cased between what stands before it, read
backwards, and what stands behind it. -/
def lowerBetween (before : List Char) : (piece after : List Char) → List Char
  | [], _ => []
  | c :: rest, after => lowerChar before c (rest ++ after) ++ lowerBetween (c :: before) rest after

theorem lowerBetween_nil (before piece : List Char) :
    lowerBetween before piece [] = lowerAfter before piece := by
  induction piece generalizing before with
  | nil => rfl
  | cons c rest ih => rw [lowerBetween, lowerAfter, List.append_nil, ih]

theorem lowerBetween_append (before a b after : List Char) :
    lowerBetween before (a ++ b) after =
      lowerBetween before a (b ++ after) ++ lowerBetween (a.reverse ++ before) b after := by
  induction a generalizing before with
  | nil => rfl
  | cons c rest ih =>
    rw [List.cons_append, lowerBetween, lowerBetween, ih, List.append_assoc, List.append_assoc,
      List.reverse_cons, List.append_assoc, List.singleton_append]

/-- Two surroundings do the same to a piece if they make ends of words of the
same sigmas. -/
theorem lowerBetween_congr
    (h : ∀ u v, piece = u ++ '\u03A3' :: v →
      endsWord (u.reverse ++ before) (v ++ after) = endsWord (u.reverse ++ before') (v ++ after')) :
    lowerBetween before piece after = lowerBetween before' piece after' := by
  induction piece generalizing before before' with
  | nil => rfl
  | cons c rest ih =>
    have hrest : lowerBetween (c :: before) rest after =
        lowerBetween (c :: before') rest after' := by
      refine ih fun u v hu => ?_
      have hmore := h (c :: u) v (by rw [hu, List.cons_append])
      simpa using hmore
    have hhead : lowerChar before c (rest ++ after) = lowerChar before' c (rest ++ after') :=
      lowerChar_congr fun hc => h [] rest (by rw [hc, List.nil_append])
    rw [lowerBetween, lowerBetween, hhead, hrest]

/-- A piece without a sigma is the same everywhere. -/
theorem lowerBetween_of_all (h : piece.all isCaseIgnorable = true)
    (before after before' after' : List Char) :
    lowerBetween before piece after = lowerBetween before' piece after' := by
  refine lowerBetween_congr fun u v hu => ?_
  rw [hu, List.all_append, List.all_cons, isCased_sigma.1, Bool.false_and,
    Bool.and_false] at h
  cases h

/-- A sigma hides what stands before it from what stands behind it, ... -/
theorem lowerBetween_cons_sigma (before before' piece after : List Char) :
    lowerBetween ('\u03A3' :: before) piece after =
      lowerBetween ('\u03A3' :: before') piece after :=
  lowerBetween_congr fun u v _ => by
    rw [endsWord, endsWord, startsCased_append_sigma u.reverse before before']

/-- ... and the other way round. -/
theorem lowerBetween_sigma_cons (before piece after after' : List Char) :
    lowerBetween before piece ('\u03A3' :: after) =
      lowerBetween before piece ('\u03A3' :: after') :=
  lowerBetween_congr fun u v _ => by
    rw [endsWord, endsWord, startsCased_append_sigma v after after']

/-! ### Normal forms of pieces -/

theorem normalChars_eq_lowerBetween (text : List Char) :
    normalChars text = bases (lowerBetween [] text []) := by
  rw [lowerBetween_nil, normalChars_eq_bases, lower]

/-- Each capital sigma of the piece ends a word in the text exactly if it ends
one in the piece. -/
def SigmasKept (front piece back : List Char) : Prop :=
  ∀ u v, piece = u ++ '\u03A3' :: v →
    endsWord (u.reverse ++ front.reverse) (v ++ back) = endsWord u.reverse v

/-- **The normal form of a piece is a piece of the normal form** where its
sigmas are kept. -/
theorem normalChars_infix (h : SigmasKept front piece back) :
    normalChars piece <:+: normalChars (front ++ (piece ++ back)) := by
  have hpiece : lowerBetween front.reverse piece back = lowerBetween [] piece [] :=
    lowerBetween_congr fun u v hu => by
      rw [h u v hu, List.append_nil, List.append_nil]
  have htext : normalChars (front ++ (piece ++ back)) =
      bases (lowerBetween [] front (piece ++ back)) ++
        (normalChars piece ++ bases (lowerBetween (piece.reverse ++ front.reverse) back [])) := by
    rw [normalChars_eq_lowerBetween, normalChars_eq_lowerBetween, lowerBetween_append,
      lowerBetween_append, List.append_nil, List.append_nil, List.append_nil, hpiece,
      bases_append, bases_append]
  rw [htext, ← List.append_assoc]
  exact List.infix_append _ _ _

/-! ### The letters at the ends -/

/-- The first letter of the piece is a capital sigma that would end a word if
there were a letter before it. -/
def opensWithSigma (piece : List Char) : Bool :=
  match piece.dropWhile isCaseIgnorable with
  | [] => false
  | c :: rest => c = '\u03A3' && !startsCased rest

/-- The last letter of the piece is a capital sigma that ends a word, and would
not if there were a letter behind it. -/
def closesWithSigma (piece : List Char) : Bool :=
  match piece.reverse.dropWhile isCaseIgnorable with
  | [] => false
  | c :: rest => c = '\u03A3' && startsCased rest

theorem dropWhile_append_sigma (h : a.all isCaseIgnorable = true) :
    (a ++ '\u03A3' :: b).dropWhile isCaseIgnorable = '\u03A3' :: b := by
  rw [List.dropWhile_append_of_pos fun c hc => List.all_eq_true.mp h c hc]
  exact List.dropWhile_cons_of_neg (by rw [isCased_sigma.1]; exact Bool.false_ne_true)

theorem opensWithSigma_append (h : a.all isCaseIgnorable = true) :
    opensWithSigma (a ++ '\u03A3' :: b) = !startsCased b := by
  rw [opensWithSigma, dropWhile_append_sigma h]
  rfl

theorem closesWithSigma_append (h : b.all isCaseIgnorable = true) :
    closesWithSigma (a ++ '\u03A3' :: b) = startsCased a.reverse := by
  rw [closesWithSigma, List.reverse_append, List.reverse_cons, List.append_assoc,
    List.singleton_append, dropWhile_append_sigma (by rw [List.all_reverse, h])]
  rfl

/-- A text that starts with a sigma, case ignorable characters passed over. -/
theorem exists_of_dropWhile_eq (h : piece.dropWhile isCaseIgnorable = c :: b) :
    ∃ a, piece = a ++ c :: b ∧ a.all isCaseIgnorable = true :=
  ⟨piece.takeWhile isCaseIgnorable, by rw [← h, List.takeWhile_append_dropWhile],
    List.all_takeWhile⟩

theorem exists_of_opensWithSigma (h : opensWithSigma piece = true) :
    ∃ a b, piece = a ++ '\u03A3' :: b ∧ a.all isCaseIgnorable = true ∧ startsCased b = false := by
  unfold opensWithSigma at h
  split at h
  · cases h
  next c rest hdrop =>
    simp only [Bool.and_eq_true, decide_eq_true_iff, Bool.not_eq_true'] at h
    obtain ⟨a, hpiece, hall⟩ := exists_of_dropWhile_eq hdrop
    exact ⟨a, rest, h.1 ▸ hpiece, hall, h.2⟩

theorem exists_of_closesWithSigma (h : closesWithSigma piece = true) :
    ∃ a b, piece = a ++ '\u03A3' :: b ∧ b.all isCaseIgnorable = true ∧
      startsCased a.reverse = true := by
  unfold closesWithSigma at h
  split at h
  · cases h
  next c rest hdrop =>
    simp only [Bool.and_eq_true, decide_eq_true_iff] at h
    obtain ⟨b, hpiece, hall⟩ := exists_of_dropWhile_eq hdrop
    refine ⟨rest.reverse, b.reverse, ?_, by rw [List.all_reverse, hall], ?_⟩
    · rw [← List.reverse_reverse piece, hpiece, h.1, List.reverse_append, List.reverse_cons,
        List.append_assoc, List.singleton_append]
    · rw [List.reverse_reverse, h.2]

/-- A sigma with letters of the piece on both sides sees no further, and at the
ends the two conditions say what is seen. -/
theorem sigmasKept_of_not_exposed (ho : opensWithSigma piece = false)
    (hc : closesWithSigma piece = false) (front back : List Char) :
    SigmasKept front piece back := by
  rintro u v rfl
  rw [endsWord, endsWord, startsCased_append, startsCased_append, List.all_reverse]
  by_cases hu : u.all isCaseIgnorable = true
  · -- the first letter: a letter follows in the piece, so that no word ends
    rw [opensWithSigma_append hu] at ho
    have hv : startsCased v = true := by simpa using ho
    have hletter : ¬ v.all isCaseIgnorable = true := fun hall =>
      Bool.false_ne_true ((startsCased_of_all hall).symm.trans hv)
    rw [if_neg hletter, hv, Bool.not_true, Bool.and_false, Bool.and_false]
  · rw [if_neg hu]
    by_cases hv : v.all isCaseIgnorable = true
    · -- the last letter: none stands before it that could make it an end
      rw [closesWithSigma_append hv] at hc
      rw [hc, Bool.false_and, Bool.false_and]
    · rw [if_neg hv]

/-! ### A letter next to the piece -/

/-- The letter and the small sigmas are base characters. -/
theorem bases_letter : lowerAlone 'a' = 'a' ∧ bases ['a'] = ['a'] ∧
    bases ['\u03C2'] = ['\u03C2'] ∧ bases ['\u03C3'] = ['\u03C3'] := by decide +kernel

theorem lowered_letter : Lowered 'a' := ⟨by decide, by decide, bases_letter.1⟩

theorem bases_sigmaForm (before after : List Char) :
    bases [sigmaForm before after] = [sigmaForm before after] := by
  unfold sigmaForm
  split
  · exact bases_letter.2.2.1
  · exact bases_letter.2.2.2

/-- A text taken apart at one of its sigmas. -/
theorem bases_lowerBetween_sigma (before a b after : List Char) :
    bases (lowerBetween before (a ++ '\u03A3' :: b) after) =
      bases (lowerBetween before a ('\u03A3' :: (b ++ after))) ++
        sigmaForm (a.reverse ++ before) (b ++ after) ::
          bases (lowerBetween ('\u03A3' :: (a.reverse ++ before)) b after) := by
  rw [lowerBetween_append, lowerBetween, lowerChar_sigma, bases_append, bases_append,
    bases_sigmaForm, List.singleton_append, List.cons_append]

theorem normalChars_sigma (a b : List Char) :
    normalChars (a ++ '\u03A3' :: b) =
      bases (lowerBetween [] a ('\u03A3' :: b)) ++
        sigmaForm a.reverse b :: bases (lowerBetween ('\u03A3' :: a.reverse) b []) := by
  rw [normalChars_eq_lowerBetween, bases_lowerBetween_sigma, List.append_nil, List.append_nil]

/-- With a letter before it the first sigma ends a word. -/
theorem normalChars_cons_letter (h : opensWithSigma piece = true) :
    ∃ a b, normalChars piece = a ++ '\u03C3' :: b ∧
      normalChars ('a' :: piece) = 'a' :: (a ++ '\u03C2' :: b) := by
  obtain ⟨a, b, rfl, ha, hb⟩ := exists_of_opensWithSigma h
  have hpiece : sigmaForm a.reverse b = '\u03C3' := by
    rw [sigmaForm, endsWord, startsCased_of_all (by rw [List.all_reverse, ha])]
    rfl
  have hletter : sigmaForm (a.reverse ++ ['a']) b = '\u03C2' := by
    rw [sigmaForm, endsWord, startsCased_append, List.all_reverse, if_pos ha, hb,
      isCased_sigma.2.2]
    rfl
  refine ⟨bases (lowerBetween [] a ('\u03A3' :: b)),
    bases (lowerBetween ('\u03A3' :: a.reverse) b []), ?_, ?_⟩
  · rw [normalChars_sigma, hpiece]
  · rw [normalChars_eq_lowerBetween, lowerBetween, lowerChar_of_lowered lowered_letter,
      bases_append, bases_letter.2.1, bases_lowerBetween_sigma, List.append_nil, hletter,
      lowerBetween_of_all ha _ _ [] _, lowerBetween_cons_sigma _ a.reverse]
    rfl

/-- With a letter behind it the last sigma ends none. -/
theorem normalChars_append_letter (h : closesWithSigma piece = true) :
    ∃ a b, normalChars piece = a ++ '\u03C2' :: b ∧
      normalChars (piece ++ ['a']) = a ++ '\u03C3' :: (b ++ ['a']) := by
  obtain ⟨a, b, rfl, hb, ha⟩ := exists_of_closesWithSigma h
  have hpiece : sigmaForm a.reverse b = '\u03C2' := by
    rw [sigmaForm, endsWord, ha, startsCased_of_all hb]
    rfl
  have hletter : sigmaForm a.reverse (b ++ ['a']) = '\u03C3' := by
    rw [sigmaForm, endsWord, startsCased_append, if_pos hb, ha, isCased_sigma.2.2]
    rfl
  refine ⟨bases (lowerBetween [] a ('\u03A3' :: b)),
    bases (lowerBetween ('\u03A3' :: a.reverse) b []), ?_, ?_⟩
  · rw [normalChars_sigma, hpiece]
  · have hlast : ∀ before, lowerBetween before ['a'] [] = ['a'] := fun before => by
      rw [lowerBetween, lowerChar_of_lowered lowered_letter]
      rfl
    rw [normalChars_eq_lowerBetween, lowerBetween_append, hlast, bases_append, bases_letter.2.1,
      List.append_nil, bases_lowerBetween_sigma, List.append_nil, hletter,
      lowerBetween_sigma_cons _ _ _ b, lowerBetween_of_all hb _ _ _ [], List.append_assoc]
    rfl

end Settings.Text
