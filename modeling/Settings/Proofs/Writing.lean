/-
Settings/Proofs/Writing.lean

What writing a configuration comes to, whatever has been at the path before:
nothing, another text, bytes that are no text, a directory.  A file that holds
the text already is left alone, any other one is written; both end in the same
state, which is one where nothing is left to write (`write_again`).

The main statement is about writing in place, with files and configuration in
one state (`writeM_leaves`).  Success leaves what `Wrote` says.  A failure
means that the text was not there and could not be written, and leaves all as
it was.
-/
import Settings.Proofs.Footprint

namespace Settings

namespace FileTree

variable {tree : FileTree} {path text : String}

/-- A file that reads as a text holds the bytes of the text and nothing else. -/
theorem readBytes_of_readText (h : tree.readText path = .ok text) :
    tree.readBytes path = .ok text.toUTF8 := by
  unfold readText at h
  split at h
  · cases h
  next content hcontent =>
    split at h
    next read hread =>
      cases h
      unfold String.fromUTF8? at hread
      split at hread
      · cases hread
        exact hcontent
      · cases hread
    · cases h

end FileTree

namespace Configuration

open InPlace

variable {c d : Configuration} {tree tree' : FileTree} {path : String} {written : Bool} {e : Error}

/-- What is left where writing succeeds. -/
structure Wrote (c : Configuration) (tree : FileTree) (path : String) (written : Bool)
    (d : Configuration) (tree' : FileTree) : Prop where
  /-- The file holds the text, byte for byte. -/
  bytes_eq : tree'.readBytes path = .ok c.toText.toUTF8
  /-- It has been written unless the text was there. -/
  written_iff : written = true ↔ tree.readText path ≠ .ok c.toText
  tree_eq : written = false → tree' = tree
  path_eq : d.path = some path
  baseline_eq : d.baseline = values d.properties
  /-- Nothing else about the configuration has changed. -/
  kept : { d with path := c.path, baseline := c.baseline } = c
  /-- Nor has any other file. -/
  beside : tree.SameBeside path tree'
  /-- Writing once more finds the text there, and changes nothing. -/
  again : outcome (writeM path) (d, tree') = (.ok false, d, tree')

/-- What is left where writing fails. -/
structure Refused (c : Configuration) (tree : FileTree) (path : String) (e : Error)
    (d : Configuration) (tree' : FileTree) : Prop where
  configuration_eq : d = c
  tree_eq : tree' = tree
  /-- The text was not there. -/
  missing : tree.readText path ≠ .ok c.toText
  /-- And it could not be written. -/
  fault : ∃ fault, tree.writeText path c.toText = .error fault ∧ e = .io path fault

/-- What writing leaves, with the answer that it gives. -/
def Leaves (c : Configuration) (tree : FileTree) (path : String) :
    Except Error Bool × Configuration × FileTree → Prop
  | (.ok written, d, tree') => Wrote c tree path written d tree'
  | (.error e, d, tree') => Refused c tree path e d tree'

/-- A new text has been written exactly if the old one was another, or none. -/
theorem written_iff_of_write (h : c.write tree path = .ok (written, d, tree')) :
    (written = true ↔ tree.readText path ≠ .ok c.toText) ∧ (written = false → tree' = tree) := by
  rw [write_eq] at h
  split at h
  next hsame =>
    cases h
    exact ⟨iff_of_false Bool.false_ne_true fun hne => hne hsame, fun _ => rfl⟩
  next hother =>
    obtain ⟨saved, -, hd⟩ := exists_of_map_eq_ok h
    cases hd
    exact ⟨iff_of_true rfl hother, fun hf => nomatch hf⟩

/-- A configuration that has been written is written already. -/
theorem write_again (h : c.write tree path = .ok (written, d, tree')) :
    d.write tree' path = .ok (false, d, tree') := by
  have htext : tree'.readText path = .ok d.toText := by
    rw [readText_of_write h, write_eq_ok h]
    rfl
  have hd : rebase { d with path := some path } = d := by
    rw [write_eq_ok h]
    rfl
  rw [write_eq, if_pos htext, hd]

theorem wrote_of_write (h : c.write tree path = .ok (written, d, tree')) :
    Wrote c tree path written d tree' where
  bytes_eq := FileTree.readBytes_of_readText (readText_of_write h)
  written_iff := (written_iff_of_write h).1
  tree_eq := (written_iff_of_write h).2
  path_eq := by
    rw [write_eq_ok h]
    rfl
  baseline_eq := by
    rw [write_eq_ok h]
    rfl
  kept := by
    rw [write_eq_ok h]
    rfl
  beside := sameBeside_of_write h
  again := by
    rw [outcome_writeM, write_again h]
    rfl

theorem refused_of_write (h : c.write tree path = .error e) : Refused c tree path e c tree := by
  rw [write_eq] at h
  split at h
  · cases h
  next hother =>
    refine ⟨rfl, rfl, hother, ?_⟩
    cases hw : tree.writeText path c.toText with
    | error fault =>
      rw [hw] at h
      cases h
      exact ⟨fault, rfl, rfl⟩
    | ok saved =>
      rw [hw] at h
      cases h

/-- **What writing does**, to every configuration and all files. -/
theorem writeM_leaves (c : Configuration) (tree : FileTree) (path : String) :
    Leaves c tree path (outcome (writeM path) (c, tree)) := by
  rw [outcome_writeM]
  cases hw : c.write tree path with
  | ok result => exact wrote_of_write hw
  | error e => exact refused_of_write hw

end Configuration

end Settings
