/-
Settings/Text/Blank.lean

White space, in the sense of the Unicode property of that name, and the two
things done with it: `trim` takes it off both ends of a text, and `words`
splits a text at it.  A word is never empty and never holds white space
(`ne_nil_of_mem_words`, `not_isBlank_of_mem_words`).
-/

namespace Settings.Text

/-! ### White space -/

/-- Whether the character is white space. -/
def isBlank (c : Char) : Bool :=
  c = ' ' || (0x09 ≤ c.toNat && c.toNat ≤ 0x0D) || c = '\u0085' || c = '\u00A0'
    || c = '\u1680' || (0x2000 ≤ c.toNat && c.toNat ≤ 0x200A) || c = '\u2028'
    || c = '\u2029' || c = '\u202F' || c = '\u205F' || c = '\u3000'

/-- The text without the white space at its end. -/
def trimEnd (text : List Char) : List Char := (text.reverse.dropWhile isBlank).reverse

/-- The text without the white space at both ends. -/
def trim (text : List Char) : List Char := trimEnd (text.dropWhile isBlank)

/-! ### Words -/

/-- The characters up to the first white space, and the words after it. -/
def wordsFrom : List Char → List Char × List (List Char)
  | [] => ([], [])
  | c :: rest =>
    let (word, others) := wordsFrom rest
    if isBlank c then ([], if word = [] then others else word :: others)
    else (c :: word, others)

/-- The words of a text, in order. -/
def words (text : List Char) : List (List Char) :=
  let (word, others) := wordsFrom text
  if word = [] then others else word :: others

theorem wordsFrom_sound (text : List Char) :
    (∀ c ∈ (wordsFrom text).1, isBlank c = false) ∧
      ∀ w ∈ (wordsFrom text).2, w ≠ [] ∧ ∀ c ∈ w, isBlank c = false := by
  induction text with
  | nil => simp [wordsFrom]
  | cons c rest ih =>
    obtain ⟨hw, ho⟩ := ih
    by_cases hc : isBlank c = true
    · refine ⟨by simp [wordsFrom, hc], ?_⟩
      by_cases hn : (wordsFrom rest).1 = []
      · simpa [wordsFrom, hc, hn] using ho
      · intro w hm
        simp only [wordsFrom, hc, if_true, hn, if_false, List.mem_cons] at hm
        rcases hm with rfl | hm
        · exact ⟨hn, hw⟩
        · exact ho w hm
    · have hc : isBlank c = false := by simpa using hc
      refine ⟨?_, by simpa [wordsFrom, hc] using ho⟩
      intro d hd
      simp only [wordsFrom, hc, Bool.false_eq_true, if_false, List.mem_cons] at hd
      rcases hd with rfl | hd
      · exact hc
      · exact hw d hd

theorem mem_words_sound {text word : List Char} (h : word ∈ words text) :
    word ≠ [] ∧ ∀ c ∈ word, isBlank c = false := by
  obtain ⟨hw, ho⟩ := wordsFrom_sound text
  by_cases hn : (wordsFrom text).1 = []
  · exact ho word (by simpa [words, hn] using h)
  · simp only [words, hn, if_false, List.mem_cons] at h
    rcases h with rfl | h
    · exact ⟨hn, hw⟩
    · exact ho word h

/-- A word is not empty. -/
theorem ne_nil_of_mem_words {text word : List Char} (h : word ∈ words text) : word ≠ [] :=
  (mem_words_sound h).1

/-- A word holds no white space. -/
theorem not_isBlank_of_mem_words {text word : List Char} (h : word ∈ words text) :
    ∀ c ∈ word, isBlank c = false :=
  (mem_words_sound h).2

end Settings.Text
