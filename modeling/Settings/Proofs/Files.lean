/-
Settings/Proofs/Files.lean

A text that has been written to a path is read from it again
(`readText_writeText`).  The path leads to the same place afterwards: there
are only directories on the way, and a text never takes the place of one.

What is read does not depend on the order in which a tree keeps its nodes
(`readText_congr`).  Only the list of a directory does: it is the same up to the
order (`list_perm`), and there is no order that it cannot have
(`exists_list_eq_of_perm`).
-/
import Mathlib.Tactic.SplitIfs
import Settings.Files

namespace Settings.FileTree

variable {tree tree' : FileTree} {there : Location} {node : Node}

/-- What is not a directory is not the root. -/
theorem ne_nil_of_node? (hd : tree.node? there ≠ some .directory) : there ≠ [] := by
  rintro rfl
  exact hd rfl

/-- What is put in a place without a directory turns no path away. -/
theorem follow_put (hd : tree.node? there ≠ some .directory) :
    ∀ {parts : List String} {location target : Location},
      tree.follow location parts = .ok target →
        (tree.put there node).follow location parts = .ok target
  | [], _, _, h => h
  | part :: rest, location, target, h => by
    rw [follow] at h
    cases hn : tree.node? location with
    | none =>
      rw [hn] at h
      cases h
    | some n =>
      cases n with
      | file content =>
        rw [hn] at h
        cases h
      | directory =>
        -- the way goes through directories, and none of them is replaced
        have hne : location ≠ there := by
          rintro rfl
          exact hd hn
        have hput : (tree.put there node).node? location = some .directory := by
          rw [node?_put tree (ne_nil_of_node? hd), if_neg hne, hn]
        rw [hn] at h
        rw [follow, hput]
        simp only at h ⊢
        split_ifs at h ⊢
        · exact follow_put hd h
        · exact follow_put hd h
        · exact follow_put hd h

/-- So the path still leads there. -/
theorem locate_put {path : String} (h : tree.locate path = .ok there)
    (hd : tree.node? there ≠ some .directory) : (tree.put there node).locate path = .ok there := by
  unfold locate at h ⊢
  split_ifs at h ⊢
  exact follow_put hd h

/-- **A text that is written is read again.** -/
theorem readText_writeText {path text : String} (h : tree.writeText path text = .ok tree') :
    tree'.readText path = .ok text := by
  unfold writeText at h
  split at h
  · split at h <;> cases h
  · split at h
    · cases h
    next location hl =>
      split at h
      · cases h
      next hd =>
        cases h
        have hnode : (tree.put location (.file text.toUTF8)).node? location
            = some (.file text.toUTF8) := by
          rw [node?_put tree (ne_nil_of_node? hd), if_pos rfl]
        have hbytes :
            (tree.put location (.file text.toUTF8)).readBytes path = .ok text.toUTF8 := by
          unfold readBytes
          rw [locate_put hl hd]
          simp only [hnode]
        have hvalid : text.toUTF8.IsValidUTF8 := text.isValidUTF8
        have htext : String.fromUTF8? text.toUTF8 = some text := dif_pos hvalid
        unfold readText
        rw [hbytes]
        simp only [htext]

/-! ### The order of the nodes -/

/-- What is where does not depend on it. -/
theorem node?_eq_of_perm (h : tree'.nodes.Perm tree.nodes) : tree'.node? = tree.node? := by
  funext location
  simp only [node?, Fields.get?_perm tree'.unique h]

theorem follow_congr (h : tree'.node? = tree.node?) (location : Location) (parts : List String) :
    tree'.follow location parts = tree.follow location parts := by
  induction parts generalizing location with
  | nil => rfl
  | cons part rest ih => simp only [follow, h, ih]

theorem locate_congr (h : tree'.node? = tree.node?) (path : String) :
    tree'.locate path = tree.locate path := by
  simp only [locate, follow_congr h]

/-- Nor does what is read. -/
theorem readText_congr (h : tree'.node? = tree.node?) (path : String) :
    tree'.readText path = tree.readText path := by
  simp only [readText, readBytes, locate_congr h, h]

/-- The entries of a directory are the same, in some order. -/
theorem list_perm {path : String} {names : List String} (h : tree'.nodes.Perm tree.nodes)
    (hlist : tree.list path = .ok names) :
    ∃ names', tree'.list path = .ok names' ∧ names'.Perm names := by
  have hnode := node?_eq_of_perm h
  simp only [list, locate_congr hnode, hnode] at hlist ⊢
  split at hlist
  · cases hlist
  · split at hlist
    · cases hlist
    · cases hlist
    · cases hlist
      exact ⟨_, rfl, h.filterMap _⟩

/-- What is found in a list can be found in any order. -/
theorem exists_perm_filterMap {α β : Type} (f : α → Option β) :
    ∀ {xs : List α} {ys : List β}, ys.Perm (xs.filterMap f) →
      ∃ others : List α, others.Perm xs ∧ others.filterMap f = ys
  | [], ys, h => ⟨[], .refl _, h.eq_nil.symm⟩
  | x :: rest, ys, h => by
    cases hx : f x with
    | none =>
      rw [List.filterMap_cons_none hx] at h
      obtain ⟨others, hperm, hothers⟩ := exists_perm_filterMap f h
      exact ⟨x :: others, hperm.cons x, by rw [List.filterMap_cons_none hx, hothers]⟩
    | some y =>
      rw [List.filterMap_cons_some hx] at h
      -- the place of `y` is the place for `x`
      obtain ⟨front, back, rfl⟩ := List.append_of_mem (h.mem_iff.mpr List.mem_cons_self)
      obtain ⟨others, hperm, hothers⟩ :=
        exists_perm_filterMap f (List.perm_middle.symm.trans h).cons_inv
      obtain ⟨before, after, rfl, rfl, rfl⟩ := List.filterMap_eq_append_iff.mp hothers
      refine ⟨before ++ x :: after, List.perm_middle.trans (hperm.cons x), ?_⟩
      rw [List.filterMap_append, List.filterMap_cons_some hx]

/-- The same files can be listed in any order. -/
theorem exists_list_eq_of_perm {path : String} {names listed : List String}
    (hlist : tree.list path = .ok names) (hperm : listed.Perm names) :
    ∃ other : FileTree, other.nodes.Perm tree.nodes ∧ other.list path = .ok listed := by
  unfold list at hlist
  split at hlist
  · cases hlist
  next location hl =>
    split at hlist
    · cases hlist
    · cases hlist
    next hdir =>
      cases hlist
      obtain ⟨nodes, hnodes, hlisted⟩ := exists_perm_filterMap _ hperm
      have hunique : (Fields.keys nodes).Nodup := (hnodes.map _).nodup_iff.mpr tree.unique
      have hnode : node? ⟨nodes, hunique⟩ = tree.node? := node?_eq_of_perm hnodes
      refine ⟨⟨nodes, hunique⟩, hnodes, ?_⟩
      rw [list, locate_congr hnode, hnode, hl]
      simp only [hdir, hlisted]

end Settings.FileTree
