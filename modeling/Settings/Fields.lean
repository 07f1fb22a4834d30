/-
Settings/Fields.lean

Entries with keys, in the order in which the keys were first mentioned.
Documents, enumerations, language tables and registries of schemas are kept
this way, with names as keys, and so are files, with locations as keys.

Three operations change such a list.  `insert` overwrites in place and adds
new keys at the end; `swapErase` takes an entry out and moves the last entry
into the gap; `ofList` enters a whole list, so that of several entries with
one key the last value stands at the first position.  `get?` is the view that
the lemmas are about:

    get? k (insert n v fields)  =  if n = k then some v else get? k fields
    get? k (swapErase n fields) =  if n = k then none else get? k fields
    get? k (ofList entries)     =  get? k entries.reverse

The second one needs that no key stands twice, which `insert` and `ofList`
make sure of.
-/

namespace Settings

/-- Named entries, in the order in which the names were first mentioned. -/
abbrev Fields (α : Type) := List (String × α)

namespace Fields

variable {κ α : Type} [DecidableEq κ]

/-! ### Looking up -/

/-- The value of the first entry with the given key. -/
def get? (key : κ) : List (κ × α) → Option α
  | [] => none
  | (other, value) :: rest => if other = key then some value else get? key rest

/-- The keys, in order. -/
def keys (fields : List (κ × α)) : List κ := fields.map Prod.fst

/-- Whether some entry has the given key. -/
def contains (key : κ) (fields : List (κ × α)) : Bool := (get? key fields).isSome

@[simp] theorem get?_nil (key : κ) : get? key ([] : List (κ × α)) = none := rfl

theorem get?_cons (key other : κ) (value : α) (rest : List (κ × α)) :
    get? key ((other, value) :: rest)
      = if other = key then some value else get? key rest := rfl

omit [DecidableEq κ] in
@[simp] theorem keys_cons (entry : κ × α) (rest : List (κ × α)) :
    keys (entry :: rest) = entry.1 :: keys rest := rfl

/-- A key has no value exactly when no entry carries it. -/
theorem get?_eq_none_iff {key : κ} {fields : List (κ × α)} :
    get? key fields = none ↔ key ∉ keys fields := by
  induction fields with
  | nil => simp [keys]
  | cons entry rest ih =>
    obtain ⟨other, value⟩ := entry
    by_cases h : other = key
    · simp [get?_cons, h]
    · simp only [get?_cons, h, if_false, ih, keys_cons, List.mem_cons, not_or]
      exact ⟨fun hr => ⟨fun e => h e.symm, hr⟩, fun hr => hr.2⟩

/-- Keys are found exactly when they occur. -/
theorem contains_iff {key : κ} {fields : List (κ × α)} :
    contains key fields = true ↔ key ∈ keys fields := by
  rw [contains, Option.isSome_iff_ne_none, ne_eq, get?_eq_none_iff, Classical.not_not]

/-- What is found is an entry. -/
theorem mem_of_get?_eq_some {key : κ} {value : α} {fields : List (κ × α)}
    (h : get? key fields = some value) : (key, value) ∈ fields := by
  induction fields with
  | nil => cases h
  | cons entry rest ih =>
    obtain ⟨other, old⟩ := entry
    by_cases hk : other = key
    · subst hk
      rw [get?_cons, if_pos rfl] at h
      cases h
      exact List.mem_cons_self
    · rw [get?_cons, if_neg hk] at h
      exact List.mem_cons_of_mem _ (ih h)

/-- Where no key stands twice, every entry is found. -/
theorem get?_eq_some_iff {key : κ} {value : α} {fields : List (κ × α)}
    (hn : (keys fields).Nodup) : get? key fields = some value ↔ (key, value) ∈ fields := by
  refine ⟨mem_of_get?_eq_some, fun h => ?_⟩
  induction fields with
  | nil => cases h
  | cons entry rest ih =>
    obtain ⟨other, old⟩ := entry
    rw [keys_cons, List.nodup_cons] at hn
    rcases List.mem_cons.mp h with e | hr
    · cases e
      rw [get?_cons, if_pos rfl]
    · have hk : other ≠ key := fun e => hn.1 (e ▸ List.mem_map.mpr ⟨_, hr, rfl⟩)
      rw [get?_cons, if_neg hk]
      exact ih hn.2 hr

/-- Where no key stands twice, the order of the entries does not matter. -/
theorem get?_perm {key : κ} {fields others : List (κ × α)} (hn : (keys fields).Nodup)
    (h : fields.Perm others) : get? key fields = get? key others := by
  have hn' : (keys others).Nodup := (h.map Prod.fst).nodup_iff.mp hn
  apply Option.ext
  intro value
  rw [get?_eq_some_iff hn, get?_eq_some_iff hn']
  exact h.mem_iff

/-! ### Entering -/

/-- Puts `value` under `key`: in place where the key is known, else at the
end. -/
def insert (key : κ) (value : α) : List (κ × α) → List (κ × α)
  | [] => [(key, value)]
  | (other, old) :: rest =>
    if other = key then (other, value) :: rest else (other, old) :: insert key value rest

/-- Entering a value changes the view at its key and nowhere else. -/
theorem get?_insert (key other : κ) (value : α) (fields : List (κ × α)) :
    get? other (insert key value fields)
      = if key = other then some value else get? other fields := by
  induction fields with
  | nil => rfl
  | cons entry rest ih =>
    obtain ⟨first, old⟩ := entry
    by_cases h : first = key
    · by_cases h' : key = other <;> simp [insert, get?_cons, h, h']
    · by_cases h' : first = other
      · subst h'
        have hne : ¬ key = first := fun e => h e.symm
        simp [insert, get?_cons, h, hne]
      · simp [insert, get?_cons, h, h', ih]

/-- Entering a value keeps the order of the keys and adds an unknown key at the
end. -/
theorem keys_insert (key : κ) (value : α) (fields : List (κ × α)) :
    keys (insert key value fields)
      = if key ∈ keys fields then keys fields else keys fields ++ [key] := by
  induction fields with
  | nil => rfl
  | cons entry rest ih =>
    obtain ⟨first, old⟩ := entry
    by_cases h : first = key
    · simp [insert, h]
    · have hne : ¬ key = first := fun e => h e.symm
      by_cases hm : key ∈ keys rest
      · simp [insert, h, ih, hm]
      · simp [insert, h, ih, hm, hne]

/-- Entering a value gives no key a second place. -/
theorem nodup_keys_insert {key : κ} {value : α} {fields : List (κ × α)}
    (hn : (keys fields).Nodup) : (keys (insert key value fields)).Nodup := by
  rw [keys_insert]
  by_cases hm : key ∈ keys fields
  · rwa [if_pos hm]
  · rw [if_neg hm, List.nodup_append]
    refine ⟨hn, by simp, ?_⟩
    intro a ha b hb e
    exact hm (List.mem_singleton.mp hb ▸ e ▸ ha)

/-- Enters the entries one after another: a repeated key keeps its first
position and takes its last value. -/
def ofList (entries : List (κ × α)) : List (κ × α) :=
  entries.foldl (fun fields entry => insert entry.1 entry.2 fields) []

/-- A list that is entered ends up with the last entry. -/
theorem ofList_concat (entries : List (κ × α)) (entry : κ × α) :
    ofList (entries ++ [entry]) = insert entry.1 entry.2 (ofList entries) := by
  rw [ofList, List.foldl_append]
  rfl

/-- Of several entries with one key the last one counts. -/
theorem get?_ofList (key : κ) (entries : List (κ × α)) :
    get? key (ofList entries) = get? key entries.reverse := by
  suffices h : ∀ back : List (κ × α), get? key (ofList back.reverse) = get? key back by
    rw [← h entries.reverse, List.reverse_reverse]
  intro back
  induction back with
  | nil => rfl
  | cons entry rest ih => rw [List.reverse_cons, ofList_concat, get?_insert, ih, get?_cons]

/-- No key stands twice in a list that has been entered. -/
theorem nodup_keys_ofList (entries : List (κ × α)) : (keys (ofList entries)).Nodup := by
  suffices h : ∀ back : List (κ × α), (keys (ofList back.reverse)).Nodup by
    rw [← List.reverse_reverse entries]
    exact h entries.reverse
  intro back
  induction back with
  | nil => exact List.nodup_nil
  | cons entry rest ih =>
    rw [List.reverse_cons, ofList_concat]
    exact nodup_keys_insert ih

/-! ### Taking out -/

/-- Takes out the entry with the given key; the last entry moves into the
gap. -/
def swapErase (key : κ) : List (κ × α) → List (κ × α)
  | [] => []
  | entry :: rest =>
    if entry.1 = key then
      match rest.getLast? with
      | none => []
      | some last => last :: rest.dropLast
    else entry :: swapErase key rest

/-- Up to the order, the first entry with the key is taken out. -/
theorem swapErase_perm (key : κ) (fields : List (κ × α)) :
    (swapErase key fields).Perm (fields.eraseP fun entry => entry.1 = key) := by
  induction fields with
  | nil => exact List.Perm.nil
  | cons entry rest ih =>
    by_cases h : entry.1 = key
    · rcases List.eq_nil_or_concat rest with hr | ⟨front, last, hr⟩
      · simp [swapErase, h, hr]
      · subst hr
        have e : swapErase key (entry :: front.concat last) = last :: front := by
          simp [swapErase, h]
        rw [e]
        simpa [h] using (List.perm_append_singleton last front).symm
    · simpa [swapErase, h] using ih

/-- Taking out an entry gives no key a second place. -/
theorem nodup_keys_swapErase {key : κ} {fields : List (κ × α)} (hn : (keys fields).Nodup) :
    (keys (swapErase key fields)).Nodup := by
  refine ((swapErase_perm key fields).map Prod.fst).nodup_iff.mpr ?_
  exact hn.sublist (List.eraseP_sublist.map Prod.fst)

/-- Taking out an entry changes the view at its key and nowhere else. -/
theorem get?_swapErase {key other : κ} {fields : List (κ × α)} (hn : (keys fields).Nodup) :
    get? other (swapErase key fields) = if key = other then none else get? other fields := by
  rw [get?_perm (nodup_keys_swapErase hn) (swapErase_perm key fields)]
  induction fields with
  | nil => simp
  | cons entry rest ih =>
    obtain ⟨first, value⟩ := entry
    rw [keys_cons, List.nodup_cons] at hn
    by_cases h : first = key
    · subst h
      rw [List.eraseP_cons_of_pos (by simp), get?_cons]
      by_cases ho : first = other
      · subst ho
        simpa using get?_eq_none_iff.mpr hn.1
      · simp [ho]
    · rw [List.eraseP_cons_of_neg (by simpa using h), get?_cons, get?_cons, ih hn.2]
      by_cases hf : first = other
      · subst hf
        have hne : ¬ key = first := fun e => h e.symm
        simp [hne]
      · simp [hf]

end Fields

end Settings
