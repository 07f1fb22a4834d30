/-
Settings/Proofs/Text/Stable.lean

The characters that normal forms are made of.  Lower-casing, taking apart and
dropping marks come one after the other, and each could undo what another one
has done: a part could have a lower-case form, and a lower-case form could be
composed of parts in its turn.  The tables exclude that.  Lower-casing leaves
only `Lowered` characters, and what these are composed of are marks and
`Stable` characters, which neither of the two changes:

    c ∈ normalChars text  →  Stable c.

Texts of such characters are their own normal forms (`normalChars_of_stable`),
so that a second time changes nothing (`normalChars_normalChars`).  What stands
around a character plays no part in that: the capital sigma, the only one that
looks at its neighbours, is not stable.
-/
import Settings.Proofs.Text.Normal

namespace Settings.Text

variable {c d : Char} {text : List Char}

/-- Lower-casing leaves the character as it is, wherever it stands. -/
def Lowered (c : Char) : Prop := c ≠ '\u0130' ∧ c ≠ '\u03A3' ∧ lowerAlone c = c

/-- Taking apart leaves it as it is, too. -/
def Stable (c : Char) : Prop := Lowered c ∧ decompose c = [c]

instance (c : Char) : Decidable (Lowered c) := inferInstanceAs (Decidable (_ ∧ _ ∧ _))

instance (c : Char) : Decidable (Stable c) := inferInstanceAs (Decidable (_ ∧ _))

/-! ### What the tables say -/

/-- The characters that the members of a run become. -/
def runForms (run : Stretch CaseRun) : List Char :=
  (List.range ((run.last - run.first) / run.value.stride + 1)).map fun k =>
    Char.ofNat (((run.first + run.value.stride * k : Nat) : Int) + run.value.distance).toNat

/-- They have no lower-case form of their own, and none is white space. -/
theorem lowered_of_mem_runForms {run : Stretch CaseRun} (hr : run ∈ caseRuns)
    (hc : c ∈ runForms run) : Lowered c ∧ isBlank c = false := by
  have hall : caseRuns.all (fun run => (runForms run).all fun c =>
      Lowered c && !isBlank c) = true := by decide +kernel
  have hform := List.all_eq_true.mp (List.all_eq_true.mp hall run hr) c hc
  simpa using hform

/-- A character with a lower-case form of its own is a member of a run. -/
theorem lowerAlone_mem_runForms (h : lowerAlone c ≠ c) :
    ∃ run ∈ caseRuns, lowerAlone c ∈ runForms run := by
  unfold lowerAlone at h ⊢
  split at h
  next => exact absurd rfl h
  next run hrun =>
    split at h
    next hmod =>
      obtain ⟨hmem, hfirst, hlast⟩ := RangeMap.find?_ofList hrun
      rw [if_pos hmod]
      refine ⟨run, hmem, List.mem_map.mpr
        ⟨(c.toNat - run.first) / run.value.stride, List.mem_range.mpr ?_, ?_⟩⟩
      · exact Nat.lt_succ_of_le (Nat.div_le_div_right (Nat.sub_le_sub_right hlast _))
      · have hsteps : run.first + run.value.stride * ((c.toNat - run.first) / run.value.stride)
            = c.toNat := by
          have hdiv := Nat.div_add_mod (c.toNat - run.first) run.value.stride
          omega
        rw [hsteps]
    next => exact absurd rfl h

/-- What the dotted capital I and the capital sigma become. -/
def fixedForms : List Char := ['i', '\u0307', '\u03C2', '\u03C3']

theorem lowered_of_mem_fixedForms (h : c ∈ fixedForms) : Lowered c ∧ isBlank c = false := by
  have hall : fixedForms.all (fun c => Lowered c && !isBlank c) = true := by decide +kernel
  simpa using List.all_eq_true.mp hall c h

/-- The parts of the Hangul syllables. -/
def hangulLetters : List Nat :=
  List.range' 0x1100 19 ++ List.range' 0x1161 21 ++ List.range' 0x11A7 28

theorem mem_hangulLetters {index part : Nat} (hi : index < 19 * 588)
    (h : part ∈ hangulParts index) : part ∈ hangulLetters := by
  simp only [hangulParts, List.cons_append, List.nil_append, List.mem_cons] at h
  simp only [hangulLetters, List.mem_append, List.mem_range'_1]
  rcases h with rfl | rfl | h
  · omega
  · omega
  · split at h
    · cases h
    · rw [List.mem_singleton] at h
      omega

theorem stable_of_mem_hangulLetters {part : Nat} (h : part ∈ hangulLetters) :
    Stable (Char.ofNat part) ∧ isBlank (Char.ofNat part) = false := by
  have hall : hangulLetters.all (fun part =>
      Stable (Char.ofNat part) && !isBlank (Char.ofNat part)) = true := by decide +kernel
  simpa using List.all_eq_true.mp hall part h

/-- The character of an entry, and what the parts are if lower-casing leaves it:
marks, or stable. -/
structure Composed (entry : Stretch (List Nat)) (c : Char) : Prop where
  last_eq : entry.last = entry.first
  stable : Lowered c → ∀ part ∈ entry.value,
    isMark (Char.ofNat part) = true ∨ Stable (Char.ofNat part)
  plain : isBlank c = false → ∀ part ∈ entry.value, isBlank (Char.ofNat part) = false

theorem composed_of_mem {entry : Stretch (List Nat)} (h : entry ∈ decompositions) :
    Composed entry (Char.ofNat entry.first) := by
  have hall : decompositions.all (fun entry => entry.last = entry.first &&
      (entry.value.all (fun part => isMark (Char.ofNat part) || Stable (Char.ofNat part)) ||
        !decide (Lowered (Char.ofNat entry.first))) &&
      (entry.value.all (fun part => !isBlank (Char.ofNat part)) ||
        isBlank (Char.ofNat entry.first))) = true := by decide +kernel
  have hentry := List.all_eq_true.mp hall entry h
  simp only [Bool.and_eq_true, Bool.or_eq_true, decide_eq_true_iff, List.all_eq_true,
    Bool.not_eq_true', decide_eq_false_iff_not] at hentry
  obtain ⟨⟨hlast, hstable⟩, hplain⟩ := hentry
  refine ⟨hlast, fun hl => hstable.resolve_right fun hn => hn hl, fun hc => ?_⟩
  exact hplain.resolve_right fun hb => Bool.false_ne_true (hc.symm.trans hb)

/-! ### Each stage -/

theorem lowered_lowerAlone (h : c ≠ '\u0130') (h' : c ≠ '\u03A3') : Lowered (lowerAlone c) := by
  by_cases hself : lowerAlone c = c
  · rw [hself]
    exact ⟨h, h', hself⟩
  · obtain ⟨run, hr, hmem⟩ := lowerAlone_mem_runForms hself
    exact (lowered_of_mem_runForms hr hmem).1

theorem not_isBlank_lowerAlone (h : isBlank c = false) : isBlank (lowerAlone c) = false := by
  by_cases hself : lowerAlone c = c
  · rw [hself, h]
  · obtain ⟨run, hr, hmem⟩ := lowerAlone_mem_runForms hself
    exact (lowered_of_mem_runForms hr hmem).2

/-- Lower-casing leaves nothing that has a lower-case form, and no more white
space than there has been. -/
theorem lowered_of_mem_lowerChar {before after : List Char} (h : d ∈ lowerChar before c after) :
    Lowered d ∧ (isBlank c = false → isBlank d = false) := by
  have hfixed : d ∈ fixedForms → Lowered d ∧ (isBlank c = false → isBlank d = false) :=
    fun hd => ⟨(lowered_of_mem_fixedForms hd).1, fun _ => (lowered_of_mem_fixedForms hd).2⟩
  unfold lowerChar at h
  split at h
  next => exact hfixed (List.mem_append_left ['\u03C2', '\u03C3'] h)
  next hdotted =>
    split at h
    next =>
      apply hfixed
      split at h <;> simp [List.mem_singleton.mp h, fixedForms]
    next hsigma =>
      rw [List.mem_singleton.mp h]
      exact ⟨lowered_lowerAlone hdotted hsigma, not_isBlank_lowerAlone⟩

theorem exists_of_mem_lowerAfter {before : List Char} (h : d ∈ lowerAfter before text) :
    ∃ c ∈ text, ∃ before after, d ∈ lowerChar before c after := by
  induction text generalizing before with
  | nil => cases h
  | cons c rest ih =>
    rcases List.mem_append.mp h with h | h
    · exact ⟨c, List.mem_cons_self, before, rest, h⟩
    · obtain ⟨e, he, hd⟩ := ih h
      exact ⟨e, List.mem_cons_of_mem c he, hd⟩

/-- What a character is composed of. -/
theorem mem_decompose (h : d ∈ decompose c) :
    (∃ part ∈ hangulLetters, d = Char.ofNat part) ∨ d = c ∧ decompose c = [c] ∨
      ∃ entry, Composed entry c ∧ ∃ part ∈ entry.value, d = Char.ofNat part := by
  unfold decompose at h
  split at h
  next hangul =>
    obtain ⟨part, hpart, rfl⟩ := List.mem_map.mp h
    simp only [Bool.and_eq_true, decide_eq_true_iff] at hangul
    exact .inl ⟨part, mem_hangulLetters (by omega) hpart, rfl⟩
  next hangul =>
    split at h
    next hnone =>
      refine .inr (.inl ⟨List.mem_singleton.mp h, ?_⟩)
      rw [decompose, if_neg hangul, hnone]
    next entry hentry =>
      obtain ⟨hmem, hfirst, hlast⟩ := RangeMap.find?_ofList hentry
      obtain ⟨part, hpart, rfl⟩ := List.mem_map.mp h
      have hc : c = Char.ofNat entry.first := by
        rw [(composed_of_mem hmem).last_eq] at hlast
        rw [Nat.le_antisymm hfirst hlast, Char.ofNat_toNat]
      exact .inr (.inr ⟨entry, hc ▸ composed_of_mem hmem, part, hpart, rfl⟩)

/-- Taking apart what lower-casing leaves gives nothing that could be changed
again, marks excepted. -/
theorem stable_of_mem_decompose (hc : Lowered c) (h : d ∈ decompose c) :
    isMark d = true ∨ Stable d := by
  rcases mem_decompose h with ⟨part, hpart, rfl⟩ | ⟨rfl, hself⟩ | ⟨entry, hentry, part, hpart, rfl⟩
  · exact .inr (stable_of_mem_hangulLetters hpart).1
  · exact .inr ⟨hc, hself⟩
  · exact hentry.stable hc part hpart

theorem not_isBlank_of_mem_decompose (hc : isBlank c = false) (h : d ∈ decompose c) :
    isBlank d = false := by
  rcases mem_decompose h with ⟨part, hpart, rfl⟩ | ⟨rfl, -⟩ | ⟨entry, hentry, part, hpart, rfl⟩
  · exact (stable_of_mem_hangulLetters hpart).2
  · exact hc
  · exact hentry.plain hc part hpart

/-! ### Normal forms -/

/-- The characters taken apart, without the marks. -/
def bases (text : List Char) : List Char := (text.flatMap decompose).filter (!isMark ·)

theorem normalChars_eq_bases (text : List Char) : normalChars text = bases (lower text) := rfl

theorem bases_append (a b : List Char) : bases (a ++ b) = bases a ++ bases b := by
  rw [bases, List.flatMap_append, List.filter_append, bases, bases]

/-- A character of a normal form comes from one of the text. -/
theorem exists_of_mem_normalChars (h : d ∈ normalChars text) :
    ∃ c ∈ text, ∃ before after e, e ∈ lowerChar before c after ∧ d ∈ decompose e := by
  obtain ⟨e, he, hd⟩ := List.mem_flatMap.mp (List.mem_filter.mp h).1
  obtain ⟨c, hc, before, after, hlower⟩ := exists_of_mem_lowerAfter he
  exact ⟨c, hc, before, after, e, hlower, hd⟩

/-- A normal form holds stable characters only. -/
theorem stable_of_mem_normalChars (h : d ∈ normalChars text) : Stable d := by
  obtain ⟨c, -, before, after, e, he, hd⟩ := exists_of_mem_normalChars h
  refine (stable_of_mem_decompose (lowered_of_mem_lowerChar he).1 hd).resolve_left fun hmark => ?_
  rw [not_isMark_of_mem_normalChars h] at hmark
  cases hmark

/-- Where a text holds no white space, its normal form holds none. -/
theorem not_isBlank_of_mem_normalChars (h : ∀ c ∈ text, isBlank c = false) :
    ∀ d ∈ normalChars text, isBlank d = false := by
  intro d hd
  obtain ⟨c, hc, before, after, e, he, hd⟩ := exists_of_mem_normalChars hd
  exact not_isBlank_of_mem_decompose ((lowered_of_mem_lowerChar he).2 (h c hc)) hd

theorem lowerChar_of_lowered (h : Lowered c) (before after : List Char) :
    lowerChar before c after = [c] := by
  rw [lowerChar, if_neg h.1, if_neg h.2.1, h.2.2]

theorem lowerAfter_of_lowered (h : ∀ c ∈ text, Lowered c) (before : List Char) :
    lowerAfter before text = text := by
  induction text generalizing before with
  | nil => rfl
  | cons c rest ih =>
    rw [List.forall_mem_cons] at h
    rw [lowerAfter, lowerChar_of_lowered h.1, ih h.2, List.singleton_append]

theorem bases_of_stable (h : ∀ c ∈ text, Stable c) (hm : ∀ c ∈ text, isMark c = false) :
    bases text = text := by
  have hparts : text.flatMap decompose = text := by
    rw [List.flatMap_def, List.map_congr_left fun c hc => (h c hc).2, ← List.flatMap_def]
    exact List.flatMap_singleton' text
  rw [bases, hparts]
  exact List.filter_eq_self.mpr fun c hc => by rw [hm c hc]; rfl

/-- Texts of stable characters, without marks, are their own normal forms. -/
theorem normalChars_of_stable (h : ∀ c ∈ text, Stable c) (hm : ∀ c ∈ text, isMark c = false) :
    normalChars text = text := by
  rw [normalChars_eq_bases, lower, lowerAfter_of_lowered fun c hc => (h c hc).1,
    bases_of_stable h hm]

/-- **Normal forms are stable**, and so is what is made of their characters. -/
theorem normalChars_of_subset {part : List Char} (h : part ⊆ normalChars text) :
    normalChars part = part :=
  normalChars_of_stable (fun _ hc => stable_of_mem_normalChars (h hc))
    fun _ hc => not_isMark_of_mem_normalChars (h hc)

theorem normalChars_normalChars (text : List Char) :
    normalChars (normalChars text) = normalChars text :=
  normalChars_of_subset (List.Subset.refl _)

end Settings.Text
