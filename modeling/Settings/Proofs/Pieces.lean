/-
Settings/Proofs/Pieces.lean

Pieces of titles and descriptions as queries.  A piece without white space is a
query of one word, its normal form, and a property is found if that stands in
the normal form of one of its texts.  This is so wherever the piece has its
capital sigmas lower-cased as the text has (`mem_search_of_sigmasKept`).

Pieces whose first or last letter is a capital sigma need not be found.  If
there is a letter in front of the one, or behind the other, the text can have
the other small sigma in its place, and so one less of the kind that the piece
has (`not_infix_cons_letter`, `not_infix_append_letter`).
-/
import Settings.Proofs.Keywords
import Settings.Proofs.Text.Sigma

namespace Settings

open Text

variable {p : Property} {properties : List Property} {piece : String}

/-- What can be asked for in one word: long enough, without white space, and
with a normal form that is not empty. -/
structure OneWord (piece : String) : Prop where
  long : 3 ≤ piece.toList.length
  plain : ∀ c ∈ piece.toList, isBlank c = false
  nonempty : normalChars piece.toList ≠ []

instance (piece : String) : Decidable (OneWord piece) :=
  decidable_of_iff (3 ≤ piece.toList.length ∧ piece.toList.all (!isBlank ·) = true ∧
      normalChars piece.toList ≠ [])
    ⟨fun h => ⟨h.1, by simpa using h.2.1, h.2.2⟩,
      fun h => ⟨h.long, by simpa using h.plain, h.nonempty⟩⟩

/-- The piece stands in the title or in the description. -/
def Property.Shows (p : Property) (piece : String) : Prop :=
  piece.toList <:+: p.label.title.toList ∨ piece.toList <:+: p.label.description.toList

/-- The piece stands there with its capital sigmas as they are on their own. -/
def Property.ShowsKept (p : Property) (piece : String) : Prop :=
  ∃ text ∈ [p.label.title, p.label.description], ∃ front back,
    text.toList = front ++ (piece.toList ++ back) ∧ SigmasKept front piece.toList back

/-! ### Queries of one word -/

theorem OneWord.queryWords_eq (h : OneWord piece) :
    queryWords piece.toList = [normalChars piece.toList] := by
  have hlong : ¬ piece.toList.length < shortestQuery := Nat.not_lt.mpr h.long
  rw [queryWords, trim_of_plain h.plain, if_neg hlong,
    words_of_plain (not_isBlank_of_mem_normalChars h.plain), if_neg h.nonempty]
  rfl

theorem OneWord.mem_search_iff (h : OneWord piece) :
    p ∈ search properties piece ↔ p ∈ properties ∧
      (normalChars piece.toList <:+: normalChars p.label.title.toList ∨
        normalChars piece.toList <:+: normalChars p.label.description.toList) := by
  have hspace : ' ' ∉ normalChars piece.toList := fun hmem =>
    absurd (not_isBlank_of_mem_normalChars h.plain ' ' hmem) (by decide)
  rw [Settings.mem_search_iff, h.queryWords_eq, p.toList_searchText]
  simp only [List.mem_singleton, exists_eq_left, infix_append_cons_iff hspace]

/-- A piece finds the properties that have its sigmas as it has them. -/
theorem OneWord.mem_search_of_sigmasKept (h : OneWord piece) (hp : p ∈ properties)
    (hshows : p.ShowsKept piece) : p ∈ search properties piece := by
  obtain ⟨text, htext, front, back, heq, hkept⟩ := hshows
  have hinfix : normalChars piece.toList <:+: normalChars text.toList := by
    rw [heq]
    exact normalChars_infix hkept
  refine h.mem_search_iff.mpr ⟨hp, ?_⟩
  rcases List.mem_pair.mp htext with rfl | rfl
  · exact .inl hinfix
  · exact .inr hinfix

theorem Property.ShowsKept.of_not_exposed (hopens : opensWithSigma piece.toList = false)
    (hcloses : closesWithSigma piece.toList = false) (h : p.Shows piece) : p.ShowsKept piece := by
  have hkept := sigmasKept_of_not_exposed hopens hcloses
  rcases h with ⟨front, back, heq⟩ | ⟨front, back, heq⟩
  · exact ⟨_, List.mem_cons_self, front, back, by rw [← heq, List.append_assoc], hkept front back⟩
  · exact ⟨_, List.mem_cons_of_mem _ List.mem_cons_self, front, back,
      by rw [← heq, List.append_assoc], hkept front back⟩

/-! ### Another letter -/

theorem not_infix_of_count_lt {word text : List Char} (c : Char)
    (h : text.count c < word.count c) : ¬ word <:+: text := fun hword =>
  Nat.not_le.mpr h (hword.sublist.count_le c)

theorem not_infix_cons_letter {piece : List Char} (h : opensWithSigma piece = true) :
    ¬ normalChars piece <:+: normalChars ('a' :: piece) := by
  obtain ⟨a, b, hpiece, htext⟩ := normalChars_cons_letter h
  refine not_infix_of_count_lt '\u03C3' ?_
  rw [hpiece, htext]
  simp [List.count_append]

theorem not_infix_append_letter {piece : List Char} (h : closesWithSigma piece = true) :
    ¬ normalChars piece <:+: normalChars (piece ++ ['a']) := by
  obtain ⟨a, b, hpiece, htext⟩ := normalChars_append_letter h
  refine not_infix_of_count_lt '\u03C2' ?_
  rw [hpiece, htext]
  simp [List.count_append]

/-- A piece that does not stand in the normal form of a text does not find the
property with that title. -/
theorem OneWord.not_mem_search_titled (h : OneWord piece) {text : List Char}
    (hnot : ¬ normalChars piece.toList <:+: normalChars text) :
    titled (String.ofList text) ∉ search [titled (String.ofList text)] piece := by
  rw [h.mem_search_iff]
  rintro ⟨-, htitle | hdescription⟩
  · rw [titled, String.toList_ofList] at htitle
    exact hnot htitle
  · exact h.nonempty (List.infix_nil.mp hdescription)

/-! ### Pieces of texts -/

end Settings
