/-
Settings/Proofs/Names.lean

The names of entries of a directory.  The path of an entry is the path of the
directory with the name behind it, and whatever the directory is called, the
name is found again at the end of the path:

    fileName? (join directory name)  =  some name.

A name falls into a stem and an extension around its last point, unless the
point stands first or is missing, so

    splitName name  =  (stem, some extension)   ↔   name  =  stem . extension

for a stem that is not empty and an extension without points.
-/
import Mathlib.Data.List.TakeWhile
import Settings.Path

namespace Settings.Path

/-! ### The parts of a path -/

/-- A slash ends a part. -/
theorem split_append_slash (front back : List Char) :
    split (front ++ '/' :: back) = split front ++ split back := by
  induction front with
  | nil => simp [split]
  | cons c rest ih =>
    by_cases hc : c = '/'
    · simp [split, hc, ih]
    · obtain ⟨part, parts, hsplit⟩ := List.exists_cons_of_ne_nil (split_ne_nil rest)
      simp [split, hc, ih, hsplit]

theorem split_of_not_mem {part : List Char} (h : '/' ∉ part) : split part = [part] := by
  induction part with
  | nil => rfl
  | cons c rest ih =>
    rw [List.mem_cons, not_or] at h
    simp [split, Ne.symm h.1, ih h.2]

/-- A name that an entry of a directory can have. -/
structure IsName (name : String) : Prop where
  ne_empty : name ≠ ""
  ne_here : name ≠ "."
  ne_above : name ≠ ".."
  noSlash : '/' ∉ name.toList

variable {name stem extension : String}

/-- The last part of the path of an entry is its name. -/
theorem exists_parts_join (directory : String) (h : '/' ∉ name.toList) :
    ∃ front, parts (join directory name) = front ++ [name] := by
  have hname : (split name.toList).map String.ofList = [name] := by
    rw [split_of_not_mem h, List.map_singleton, String.ofList_toList]
  -- what stands in front of the name is empty or ends with a slash
  have hslash : ∀ front : List Char, (split (front ++ '/' :: name.toList)).map String.ofList
      = (split front).map String.ofList ++ [name] := by
    intro front
    rw [split_append_slash, List.map_append, hname]
  by_cases hempty : directory = ""
  · refine ⟨[], ?_⟩
    simp [parts, join, hempty, hname]
  · by_cases hend : endsWithSlash directory = true
    · have hlast : directory.toList.getLast? = some '/' := by simpa [endsWithSlash] using hend
      obtain ⟨front, hfront⟩ := List.getLast?_eq_some_iff.mp hlast
      refine ⟨(split front).map String.ofList, ?_⟩
      simp [parts, join, hend, hfront, hslash]
    · refine ⟨(split directory.toList).map String.ofList, ?_⟩
      simp [parts, join, hempty, hend, hslash]

/-- **The name of an entry** is found at the end of its path. -/
theorem fileName?_join (directory : String) (h : IsName name) :
    fileName? (join directory name) = some name := by
  obtain ⟨front, hparts⟩ := exists_parts_join directory h.noSlash
  have hlast : (components (join directory name)).getLast? = some name := by
    cases front with
    | nil => simp [components, hparts, h.ne_empty]
    | cons first rest => simp [components, hparts, h.ne_empty, h.ne_here]
  simp [fileName?, hlast, h.ne_here, h.ne_above]

/-! ### Stem and extension -/

/-- A name is split at its last point, which is the first one from behind. -/
theorem splitName_of_reverse {after before : List Char}
    (h : name.toList.reverse = after ++ '.' :: before) (hafter : '.' ∉ after) :
    splitName name = if before = [] then (name, none)
      else (String.ofList before.reverse, some (String.ofList after.reverse)) := by
  have htake : (after ++ '.' :: before).takeWhile (fun c => decide (c ≠ '.')) = after := by
    rw [List.takeWhile_append_of_pos, List.takeWhile_cons_of_neg (by simp), List.append_nil]
    intro c hc
    exact decide_eq_true fun he => hafter (he ▸ hc)
  simp only [splitName, h, htake, List.drop_left]

theorem splitName_of_not_mem (h : '.' ∉ name.toList) : splitName name = (name, none) := by
  have htake : name.toList.reverse.takeWhile (fun c => decide (c ≠ '.')) = name.toList.reverse := by
    rw [List.takeWhile_eq_self_iff]
    intro c hc
    exact decide_eq_true fun he => h (he ▸ List.mem_reverse.mp hc)
  simp only [splitName, htake, List.drop_length]

/-- **Stem and extension** are what a name is made of. -/
theorem splitName_eq_iff (hext : '.' ∉ extension.toList) :
    splitName name = (stem, some extension) ↔ stem ≠ "" ∧ name = stem ++ "." ++ extension := by
  constructor
  · intro h
    by_cases hpoint : '.' ∈ name.toList
    · obtain ⟨after, before, hback, hafter⟩ :=
        List.eq_append_cons_of_mem (List.mem_reverse.mpr hpoint)
      rw [splitName_of_reverse hback hafter] at h
      split at h
      · cases h
      next hne =>
        cases h
        refine ⟨by simpa using hne, ?_⟩
        apply String.ext
        rw [← List.reverse_inj, hback]
        simp
    · rw [splitName_of_not_mem hpoint] at h
      cases h
  · rintro ⟨hstem, rfl⟩
    have hback : (stem ++ "." ++ extension).toList.reverse
        = extension.toList.reverse ++ '.' :: stem.toList.reverse := by simp
    rw [splitName_of_reverse hback (by simpa using hext), if_neg (by simpa using hstem)]
    simp

end Settings.Path
