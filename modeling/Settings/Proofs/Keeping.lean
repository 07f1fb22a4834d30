/-
Settings/Proofs/Keeping.lean

The entries of a document that the schema does not know.  Reading takes the
known entries out one after another, and each time the last entry moves into
the gap, so that the later ones are looked for in another order.  What is left
are the unknown entries all the same, each once (`keys_rest_perm`).

Operations leave them alone, and writing puts them behind the values of the
properties, where they never meet:

    c.toDocument  =  Fields.ofList (fields with values) ++ c.extra

The main statement says what this means for the document that has been read:
its unknown names come back, with the values that they had in it
(`unknown_kept`).  In which order they come back is said elsewhere.
-/
import Settings.Proofs.Reading

namespace Settings

/-! ### Entering names -/

namespace Fields

variable {κ α : Type} [DecidableEq κ]

/-- A list that is entered has its keys in the order in which they are first
mentioned. -/
theorem keys_ofList (entries : List (κ × α)) :
    keys (ofList entries) = (keys entries).eraseDups := by
  -- the entries are entered from the front, so the last one comes last
  induction entries using List.reverseRecOn with
  | nil => rfl
  | append_singleton rest entry ih =>
    have hkeys : keys (rest ++ [entry]) = keys rest ++ [entry.1] := List.map_append
    rw [ofList_concat, keys_insert, ih, hkeys, List.eraseDups_append]
    by_cases hm : entry.1 ∈ keys rest
    · rw [if_pos (List.mem_eraseDups.mpr hm)]
      simp [List.removeAll, hm]
    · rw [if_neg (fun h => hm (List.mem_eraseDups.mp h))]
      simp [List.removeAll, hm, List.eraseDups_cons]

/-- Entries with other keys, each once, are put behind the known ones. -/
theorem foldl_insert_of_disjoint {more known : List (κ × α)} (hn : (keys more).Nodup)
    (hd : ∀ key ∈ keys more, key ∉ keys known) :
    more.foldl (fun fields entry =>
      if contains entry.1 fields then fields else insert entry.1 entry.2 fields) known
        = known ++ more := by
  induction more generalizing known with
  | nil => simp
  | cons entry rest ih =>
    rw [keys_cons, List.nodup_cons] at hn
    have hfirst : entry.1 ∉ keys known := hd entry.1 List.mem_cons_self
    have hkeys : keys (known ++ [entry]) = keys known ++ [entry.1] := List.map_append
    rw [List.foldl_cons, if_neg (fun h => hfirst (contains_iff.mp h)), insert_of_not_mem hfirst,
      ih hn.2, List.append_assoc, List.singleton_append]
    -- the entry is known now, and it does not come again
    intro key hm
    rw [hkeys, List.mem_append, List.mem_singleton]
    rintro (hk | rfl)
    · exact hd key (List.mem_cons_of_mem _ hm) hk
    · exact hn.1 hm

/-! ### Taking out several entries -/

/-- Takes out the entries with some keys, one after another. -/
def swapEraseAll (taken : List κ) (fields : List (κ × α)) : List (κ × α) :=
  taken.foldl (fun fields key => swapErase key fields) fields

theorem swapEraseAll_cons (key : κ) (taken : List κ) (fields : List (κ × α)) :
    swapEraseAll (key :: taken) fields = swapEraseAll taken (swapErase key fields) := rfl

/-- Of keys that are all different one is taken out. -/
theorem mem_keys_swapErase {key other : κ} {fields : List (κ × α)} (hn : (keys fields).Nodup) :
    other ∈ keys (swapErase key fields) ↔ other ≠ key ∧ other ∈ keys fields := by
  rw [← not_iff_not, ← get?_eq_none_iff, get?_swapErase hn]
  by_cases hk : key = other
  · simp [hk]
  · simp [hk, Ne.symm hk, get?_eq_none_iff]

/-- Up to the order, the other keys are left. -/
theorem keys_swapEraseAll_perm {taken : List κ} {fields : List (κ × α)} (hn : (keys fields).Nodup) :
    (keys (swapEraseAll taken fields)).Perm ((keys fields).filter (· ∉ taken)) := by
  induction taken generalizing fields with
  | nil => simp [swapEraseAll]
  | cons key taken ih =>
    have hn' : (keys (swapErase key fields)).Nodup := nodup_keys_swapErase hn
    refine (ih hn').trans ((List.perm_ext_iff_of_nodup (hn'.filter _) (hn.filter _)).mpr ?_)
    intro other
    simp only [List.mem_filter, mem_keys_swapErase hn, List.mem_cons, not_or, decide_eq_true_iff]
    tauto

theorem get?_append (key : κ) (front back : List (κ × α)) :
    get? key (front ++ back) = (get? key front).or (get? key back) := by
  induction front with
  | nil => rfl
  | cons entry rest ih =>
    obtain ⟨other, value⟩ := entry
    rw [List.cons_append, get?_cons, get?_cons, ih]
    split <;> rfl

end Fields

namespace Configuration

/-! ### What reading leaves -/

variable {properties : List Property} {document : Document}

/-- What is left depends on the fields alone. -/
theorem rest_eq_swapEraseAll : (loadAll properties document).rest =
    Fields.swapEraseAll (properties.map (·.field)) document := by
  induction properties generalizing document with
  | nil => rfl
  | cons p rest ih => rw [rest_loadAll_cons, ih, List.map_cons, Fields.swapEraseAll_cons]

/-- Up to the order, the names that are no fields are left. -/
theorem keys_rest_perm (hd : (Fields.keys document).Nodup) :
    (Fields.keys (loadAll properties document).rest).Perm
      ((Fields.keys document).filter (· ∉ properties.map (·.field))) := by
  rw [rest_eq_swapEraseAll]
  exact Fields.keys_swapEraseAll_perm hd

theorem nodup_keys_rest (hd : (Fields.keys document).Nodup) :
    (Fields.keys (loadAll properties document).rest).Nodup :=
  (keys_rest_perm hd).nodup_iff.mpr (hd.filter _)

variable {schema : Schema} {c : Configuration}

/-! ### What operations leave -/

/-- Operations other than reading anew leave the further entries alone. -/
theorem extra_performAll {operations : List Operation}
    (h : ∀ operation ∈ operations, operation.rereads = false) :
    (c.performAll operations).extra = c.extra := by
  induction operations generalizing c with
  | nil => rfl
  | cons operation rest ih =>
    rw [List.forall_mem_cons] at h
    exact (ih h.2).trans (extra_perform h.1)

/-- Further entries with names of their own are written behind the values. -/
theorem toDocument_eq (hn : (Fields.keys c.extra).Nodup)
    (hd : ∀ key ∈ Fields.keys c.extra, key ∉ c.properties.map (·.field)) :
    c.toDocument = Fields.ofList (c.properties.map fun p => (p.field, p.exported)) ++ c.extra := by
  apply Fields.foldl_insert_of_disjoint hn
  intro key hm
  rw [Fields.keys_ofList, List.mem_eraseDups, Fields.keys, List.map_map]
  exact hd key hm

/-- After reading a document and any operations but reading anew, what is
written are the values of the properties and what reading has left. -/
theorem toDocument_performAll {tree : FileTree} {name path : String} {language : Language}
    (h : readWith tree name schema language path = .ok c) {operations : List Operation}
    (hops : ∀ operation ∈ operations, operation.rereads = false) :
    ∃ document, Document.read tree path = .ok document ∧
      ∃ values, Fields.keys values = (schema.properties.map (·.field)).eraseDups ∧
        (c.performAll operations).toDocument =
          values ++ (loadAll (ofDefaults name schema language).properties document).rest := by
  obtain ⟨document, hread, hextra⟩ := exists_of_readWith h
  have hd := nodup_keys_of_read hread
  have hfields := (Reachable.performAll (.read h) operations).fields_eq
  refine ⟨document, hread,
    Fields.ofList ((c.performAll operations).properties.map fun p => (p.field, p.exported)), ?_, ?_⟩
  · rw [Fields.keys_ofList, Fields.keys, List.map_map, ← hfields]
    rfl
  · rw [← hextra, ← extra_performAll hops]
    apply toDocument_eq
    · rw [extra_performAll hops, hextra]
      exact nodup_keys_rest hd
    · rw [extra_performAll hops, hextra, hfields]
      intro key hm
      have hm := (keys_rest_perm hd).subset hm
      rw [List.mem_filter, decide_eq_true_iff, fields_ofDefaults] at hm
      exact hm.2

/-! ### What comes back -/

/-- **Unknown entries survive.**  After reading a document and any operations
but reading anew, the object that is written has first the fields of the
schema, each once, and then the names of the document that are no fields, each
once and with the last value that it has in the document. -/
theorem unknown_kept {tree : FileTree} {registry : Registry} {name path : String}
    {language : Language} (hs : registry.get name = .ok schema)
    (h : read tree registry language path name = .ok c) {operations : List Operation}
    (hops : ∀ operation ∈ operations, operation.rereads = false) :
    ∃ text entries, tree.readText path = .ok text ∧ Document.written? text = some entries ∧
      (c.performAll operations).toText
        = (Json.object (c.performAll operations).toDocument).pretty ∧
      ∃ others, Fields.keys (c.performAll operations).toDocument
          = (schema.properties.map (·.field)).eraseDups ++ others ∧
        others.Perm
          ((Fields.keys entries).eraseDups.filter (· ∉ schema.properties.map (·.field))) ∧
        others.Nodup ∧
        ∀ key, key ∉ schema.properties.map (·.field) →
          Fields.get? key (c.performAll operations).toDocument
            = Fields.get? key entries.reverse := by
  rw [read, hs] at h
  obtain ⟨document, hread, values, hvalues, hwritten⟩ := toDocument_performAll h hops
  have hd := nodup_keys_of_read hread
  obtain ⟨text, htext, hdocument⟩ := Document.exists_of_read hread
  obtain ⟨entries, hentries, rfl⟩ := Document.written?_of_ofText hdocument
  have hfields := fields_ofDefaults name schema language
  refine ⟨text, entries, htext, hentries, rfl, Fields.keys
    (loadAll (ofDefaults name schema language).properties (Fields.ofList entries)).rest,
    ?_, ?_, nodup_keys_rest hd, ?_⟩
  · rw [hwritten, ← hvalues]
    exact List.map_append
  · rw [← Fields.keys_ofList, ← hfields]
    exact keys_rest_perm hd
  · intro key hk
    have hnone : Fields.get? key values = none := by
      rw [Fields.get?_eq_none_iff, hvalues, List.mem_eraseDups]
      exact hk
    rw [hwritten, Fields.get?_append, hnone, Option.none_or, get?_rest hd, hfields, if_neg hk,
      Fields.get?_ofList]

/-- A file with unknown names between the known ones, one of them twice. -/
def notedTree : FileTree :=
  ⟨[(["a.json5"], .file ("\x7b\"layout\": [1], \"fov\": 90, \"note\": \"x\", " ++
      "\"braid\": true, \"note\": null\x7d").toUTF8)],
    by decide⟩

/-- Its unknown names after a change and an enforced value. -/
theorem unknown_kept_notedTree :
    Registry.get [("sample", sampleSchema)] "sample" = .ok sampleSchema ∧
      ∃ c, read notedTree [("sample", sampleSchema)] [] "/a.json5" "sample" = .ok c ∧
        ∃ others, Fields.keys (c.performAll [.setValue "fov" (.integer 70),
            .setOverride "braid" (some (.boolean false)), .restoreDefaults]).toDocument
            = ["brightness", "braid", "fov", "menu"] ++ others ∧
          others.Perm ["layout", "note"] ∧ others.Nodup := by
  have hs : Registry.get [("sample", sampleSchema)] "sample" = .ok sampleSchema := rfl
  have hread : (read notedTree [("sample", sampleSchema)] [] "/a.json5" "sample").toOption.map
      (·.schemaName) = some "sample" := by decide +kernel
  obtain ⟨c, hc, -⟩ := exists_ok_of_toOption hread
  have htext : (notedTree.readText "/a.json5").toOption.map
      (fun text => (Document.written? text).map Fields.keys)
        = some (some ["layout", "fov", "note", "braid", "note"]) := by decide +kernel
  obtain ⟨text, htext, hkeys⟩ := exists_ok_of_toOption htext
  have hops : ∀ operation ∈ [Operation.setValue "fov" (.integer 70),
      .setOverride "braid" (some (.boolean false)), .restoreDefaults],
      operation.rereads = false := by decide
  obtain ⟨text', entries, htext', hentries, -, others, hothers, hperm, hnodup, -⟩ :=
    unknown_kept hs hc hops
  cases htext.symm.trans htext'
  have hnames : Fields.keys entries = ["layout", "fov", "note", "braid", "note"] := by
    rw [hentries] at hkeys
    exact Option.some.inj hkeys
  rw [hnames] at hperm
  exact ⟨hs, c, hc, others, hothers, hperm, hnodup⟩

end Configuration

end Settings
