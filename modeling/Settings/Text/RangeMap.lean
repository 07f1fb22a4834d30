/-
Settings/Text/RangeMap.lean

Tables over code points.  A property of characters is written down as an
ascending list of stretches of code points; `RangeMap.ofList` puts the list
into a search tree of logarithmic depth.

What is found is always written in the list (`find?_ofList`): a search finds
a stretch of the list that holds the code point.  So a statement about all
answers of a table is a statement about its finitely many stretches.
-/

namespace Settings.Text

/-- A stretch of code points, both ends included, and what is said of it. -/
structure Stretch (α : Type) where
  first : Nat
  last : Nat
  value : α

/-- A search tree of stretches, the lower ones to the left. -/
inductive RangeMap (α : Type) where
  | empty
  | node (below : RangeMap α) (here : Stretch α) (above : RangeMap α)

namespace RangeMap

variable {α : Type}

/-- The stretch that holds the code point. -/
def find? (code : Nat) : RangeMap α → Option (Stretch α)
  | .empty => none
  | .node below here above =>
    if code < here.first then below.find? code
    else if here.last < code then above.find? code
    else some here

/-- Whether some stretch holds the character. -/
def contains (map : RangeMap α) (c : Char) : Bool := (map.find? c.toNat).isSome

/-- Builds a tree of `size` stretches off the front of the list, no deeper
than `depth`, and returns the stretches that are left. -/
def build : (depth size : Nat) → List (Stretch α) → RangeMap α × List (Stretch α)
  | 0, _, stretches => (.empty, stretches)
  | depth + 1, size, stretches =>
    if size = 0 then (.empty, stretches)
    else
      match build depth (size / 2) stretches with
      | (below, []) => (below, [])
      | (below, here :: rest) =>
        let (above, rest) := build depth (size - size / 2 - 1) rest
        (.node below here above, rest)

/-- The tree of an ascending list of stretches. -/
def ofList (stretches : List (Stretch α)) : RangeMap α :=
  (build (stretches.length.log2 + 1) stretches.length stretches).1

/-- The set of the given ranges. -/
def ofRanges (ranges : List (Nat × Nat)) : RangeMap Unit :=
  ofList (ranges.map fun range => ⟨range.1, range.2, ()⟩)

/-! ### What is found is in the list -/

/-- The stretches of a tree. -/
def toList : RangeMap α → List (Stretch α)
  | .empty => []
  | .node below here above => below.toList ++ here :: above.toList

theorem find?_eq_some {map : RangeMap α} {code : Nat} {s : Stretch α}
    (h : map.find? code = some s) :
    s ∈ map.toList ∧ s.first ≤ code ∧ code ≤ s.last := by
  induction map with
  | empty => simp [find?] at h
  | node below here above ihb iha =>
    simp only [find?] at h
    split at h
    · have := ihb h
      exact ⟨by simp [toList, this.1], this.2⟩
    · split at h
      · have := iha h
        exact ⟨by simp [toList, this.1], this.2⟩
      · cases h
        exact ⟨by simp [toList], by omega, by omega⟩

/-- Building takes the stretches of the tree off the front of the list. -/
theorem toList_build (depth size : Nat) (stretches : List (Stretch α)) :
    (build depth size stretches).1.toList ++ (build depth size stretches).2 = stretches := by
  induction depth generalizing size stretches with
  | zero => rfl
  | succ depth ih =>
    simp only [build]
    split
    · rfl
    · have hb := ih (size / 2) stretches
      split
      · next below e => rw [e] at hb; exact hb
      · next below here rest e =>
        rw [e] at hb
        have ha := ih (size - size / 2 - 1) rest
        simp only [toList, List.append_assoc, List.cons_append]
        rw [ha]
        exact hb

/-- A search in the tree of a list finds a stretch of the list that holds the
code point. -/
theorem find?_ofList {stretches : List (Stretch α)} {code : Nat} {s : Stretch α}
    (h : (ofList stretches).find? code = some s) :
    s ∈ stretches ∧ s.first ≤ code ∧ code ≤ s.last := by
  have := find?_eq_some h
  refine ⟨?_, this.2⟩
  rw [← toList_build (stretches.length.log2 + 1) stretches.length stretches]
  exact List.mem_append_left _ this.1

end RangeMap

end Settings.Text
