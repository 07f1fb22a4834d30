/-
Settings/Proofs/Loading.lean

Between the properties of a configuration and the entries of a document.
Reading deals the entries out to the properties one after another; since the
fields are all different, this comes to the same as if each property looked
for its own entry (`Property.take`):

    (loadAll properties document).malformed = []
      ↔  ∀ p ∈ properties, ∃ q, p.take document = .ok q

What no property takes is left.  Writing puts both together again
(`get?_toDocument`), and they never meet: whatever is done to a configuration,
its further entries are none of its fields (`Reachable.foreign`).
-/
import Settings.Proofs.Document
import Settings.Proofs.Lookup

namespace Settings

/-- The property with what the document holds for it, if anything. -/
def Property.take (p : Property) (document : Document) : Except Malformed Property :=
  match Fields.get? p.field document with
  | none => .ok p
  | some entry => p.load entry

namespace Fields

variable {κ α : Type} [DecidableEq κ]

/-- A key that is not there is not taken out. -/
theorem swapErase_eq_self {key : κ} {fields : List (κ × α)} (h : get? key fields = none) :
    swapErase key fields = fields := by
  induction fields with
  | nil => rfl
  | cons entry rest ih =>
    rw [get?_cons] at h
    split at h
    · cases h
    next hne => rw [swapErase, if_neg hne, ih h]

end Fields

namespace Configuration

/-! ### Reading -/

variable {properties : List Property} {document : Document}

/-- One property after the other: it takes its entry, and the entry is gone. -/
theorem loadAll_cons (p : Property) (properties : List Property) (document : Document) :
    loadAll (p :: properties) document =
      let loaded := loadAll properties (Fields.swapErase p.field document)
      match p.take document with
      | .ok q => { loaded with properties := q :: loaded.properties }
      | .error e =>
        { loaded with
          properties := p :: loaded.properties, malformed := e :: loaded.malformed } := by
  rw [loadAll, Property.take]
  cases h : Fields.get? p.field document with
  | none => rw [Fields.swapErase_eq_self h]
  | some entry => rfl

/-- Another property's entry is not missed. -/
theorem take_swapErase {p : Property} {field : String} (hd : (Fields.keys document).Nodup)
    (h : field ≠ p.field) : p.take (Fields.swapErase field document) = p.take document := by
  rw [Property.take, Property.take, Fields.get?_swapErase hd, if_neg h]

/-- The entries are taken in turn as if they were taken at once. -/
theorem loadAll_spec (hp : (properties.map (·.field)).Nodup)
    (hd : (Fields.keys document).Nodup) :
    ((loadAll properties document).malformed = [] ↔
        ∀ p ∈ properties, ∃ q, p.take document = .ok q) ∧
      ((loadAll properties document).malformed = [] →
        List.Forall₂ (fun p q => p.take document = .ok q) properties
          (loadAll properties document).properties) := by
  induction properties generalizing document with
  | nil => simp [loadAll]
  | cons p rest ih =>
    rw [List.map_cons, List.nodup_cons] at hp
    -- the fields are different, so the others find their entries all the same
    have hsame : ∀ r ∈ rest, r.take (Fields.swapErase p.field document) = r.take document := by
      intro r hr
      apply take_swapErase hd
      intro he
      exact hp.1 (he ▸ List.mem_map_of_mem hr)
    have hd' : (Fields.keys (Fields.swapErase p.field document)).Nodup :=
      Fields.nodup_keys_swapErase hd
    obtain ⟨hnil, hall⟩ := ih hp.2 hd'
    rw [loadAll_cons]
    cases ht : p.take document with
    | ok q =>
      simp only [List.forall_mem_cons, ht, Except.ok.injEq, exists_eq', true_and]
      refine ⟨hnil.trans (forall₂_congr fun r hr => by rw [hsame r hr]), fun h => .cons ht ?_⟩
      exact (List.forall₂_and_left ..).mpr ⟨fun r hr => hr, hall h⟩ |>.imp
        fun r q hq => (hsame r hq.1).symm.trans hq.2
    | error e => simp [ht]

theorem rest_loadAll_cons (p : Property) (properties : List Property) (document : Document) :
    (loadAll (p :: properties) document).rest =
      (loadAll properties (Fields.swapErase p.field document)).rest := by
  rw [loadAll_cons]
  cases p.take document <;> rfl

/-- What no property takes is left. -/
theorem get?_rest (hd : (Fields.keys document).Nodup) (key : String) :
    Fields.get? key (loadAll properties document).rest =
      if key ∈ properties.map (·.field) then none else Fields.get? key document := by
  induction properties generalizing document with
  | nil => simp [loadAll]
  | cons p rest ih =>
    have hd' : (Fields.keys (Fields.swapErase p.field document)).Nodup :=
      Fields.nodup_keys_swapErase hd
    rw [rest_loadAll_cons, ih hd', Fields.get?_swapErase hd, List.map_cons]
    by_cases hk : key = p.field
    · subst hk
      simp
    · simp [hk, Ne.symm hk]

theorem mem_of_mem_rest {entry : String × Json}
    (h : entry ∈ (loadAll properties document).rest) : entry ∈ document := by
  induction properties generalizing document with
  | nil => exact h
  | cons p rest ih =>
    rw [rest_loadAll_cons] at h
    exact List.eraseP_sublist.subset ((Fields.swapErase_perm p.field document).subset (ih h))

/-! ### Writing -/

/-- Entries that are added where their names are free. -/
theorem get?_foldl (key : String) (more known : Document) :
    Fields.get? key (more.foldl (fun document entry =>
        if Fields.contains entry.1 document then document
        else Fields.insert entry.1 entry.2 document) known) =
      (Fields.get? key known).or (Fields.get? key more) := by
  induction more generalizing known with
  | nil => simp
  | cons entry rest ih =>
    obtain ⟨name, value⟩ := entry
    rw [List.foldl_cons, ih, Fields.get?_cons]
    by_cases hc : Fields.contains name known = true
    · rw [if_pos hc]
      by_cases hk : name = key
      · -- the entry that is there already stays
        subst hk
        obtain ⟨old, hold⟩ := Option.isSome_iff_exists.mp hc
        rw [hold]
        rfl
      · rw [if_neg hk]
    · rw [if_neg hc, Fields.get?_insert]
      by_cases hk : name = key
      · subst hk
        rw [Fields.contains, Option.not_isSome_iff_eq_none] at hc
        rw [if_pos rfl, if_pos rfl, hc]
        rfl
      · rw [if_neg hk, if_neg hk]

theorem nodup_keys_foldl (more known : Document) (hn : (Fields.keys known).Nodup) :
    (Fields.keys (more.foldl (fun document entry =>
      if Fields.contains entry.1 document then document
      else Fields.insert entry.1 entry.2 document) known)).Nodup := by
  induction more generalizing known with
  | nil => exact hn
  | cons entry rest ih =>
    rw [List.foldl_cons]
    apply ih
    split
    · exact hn
    · exact Fields.nodup_keys_insert hn

/-- The value that goes with a field. -/
theorem get?_ofList_map {α : Type} (f : Property → α) (hn : (properties.map (·.field)).Nodup)
    {p : Property} (hp : p ∈ properties) :
    Fields.get? p.field (Fields.ofList (properties.map fun p => (p.field, f p))) = some (f p) := by
  have hkeys : (Fields.keys (properties.map fun p => (p.field, f p))).Nodup := by
    rw [Fields.keys, List.map_map]
    exact hn
  rw [Fields.ofList_eq_self hkeys, Fields.get?_eq_some_iff hkeys]
  exact List.mem_map_of_mem (f := fun p : Property => (p.field, f p)) hp

variable {c : Configuration}

/-- What is written under a name: the value of the property, or else the
further entry. -/
theorem get?_toDocument (c : Configuration) (key : String) :
    Fields.get? key c.toDocument =
      (Fields.get? key (Fields.ofList (c.properties.map fun p => (p.field, p.exported)))).or
        (Fields.get? key c.extra) := get?_foldl ..

theorem nodup_keys_toDocument (c : Configuration) : (Fields.keys c.toDocument).Nodup :=
  nodup_keys_foldl _ _ (Fields.nodup_keys_ofList _)

/-- The value of a property is written under its field. -/
theorem get?_toDocument_field (hn : (c.properties.map (·.field)).Nodup) {p : Property}
    (hp : p ∈ c.properties) : Fields.get? p.field c.toDocument = some p.exported := by
  rw [get?_toDocument, get?_ofList_map Property.exported hn hp, Option.some_or]

/-- A further entry is written under its own name. -/
theorem get?_toDocument_extra {key : String} (h : key ∉ c.properties.map (·.field)) :
    Fields.get? key c.toDocument = Fields.get? key c.extra := by
  have hknown : Fields.get? key
      (Fields.ofList (c.properties.map fun p => (p.field, p.exported))) = none := by
    rw [Fields.get?_ofList, Fields.get?_eq_none_iff]
    simpa [Fields.keys] using h
  rw [get?_toDocument, hknown, Option.none_or]

/-! ### Further entries -/

/-- The entries are none of the schema's fields, and they are as reading
leaves them. -/
structure Foreign (schema : Schema) (extra : Document) : Prop where
  unknown : ∀ spec ∈ schema.properties, Fields.get? spec.field extra = none
  settled : ∀ entry ∈ extra, entry.2.IsSettled

variable {schema : Schema} {d : Configuration}

/-- Reading leaves what the schema does not know. -/
theorem foreign_of_readWith {tree : FileTree} {name path : String} {language : Language}
    (h : readWith tree name schema language path = .ok c) : Foreign schema c.extra := by
  unfold readWith at h
  split at h
  · cases h
  next document hd =>
    have hsettled : (Fields.keys document).Nodup ∧ ∀ entry ∈ document, entry.2.IsSettled := by
      unfold Document.read at hd
      split at hd
      · cases hd
      · exact Document.isSettled_of_ofText hd
    unfold ofDocument at h
    simp only at h
    split at h
    · cases h
      refine ⟨?_, fun entry hm => hsettled.2 entry (mem_of_mem_rest hm)⟩
      intro spec hm
      show Fields.get? spec.field (loadAll _ document).rest = none
      rw [get?_rest hsettled.1, if_pos]
      exact List.mem_map.mpr ⟨_, List.mem_map_of_mem hm, rfl⟩
    · cases h

/-- Only reading changes the further entries. -/
theorem extra_perform {operation : Operation} (h : operation.rereads = false) :
    (c.perform operation).extra = c.extra := by
  cases operation with
  | reload tree => cases h
  | write tree path =>
    refine orOld_of (P := fun d => d.extra = c.extra) rfl fun r hr => ?_
    rw [write_eq_ok hr]
    rfl
  | _ => exact Edited.extra_eq (edited_perform nofun nofun)

/-- The further entries stay apart from the properties. -/
theorem foreign_perform (hc : c.schema = schema) (h : Foreign schema c.extra)
    (operation : Operation) : Foreign schema (c.perform operation).extra := by
  by_cases hr : operation.rereads = false
  · rw [extra_perform hr]
    exact h
  · cases operation with
    | reload tree =>
      refine orOld_of (P := fun d => Foreign schema d.extra) h fun r hr => ?_
      unfold reload at hr
      split at hr
      · cases hr
      · split at hr
        · cases hr
        next fresh hf =>
          -- the configuration that is read anew has the same schema
          rw [hc] at hf
          have hfresh : Foreign schema fresh.extra := foreign_of_readWith hf
          split at hr
          · cases hr
          · cases hr
            exact hfresh
    | _ => exact absurd rfl hr

/-- Whatever is done, the further entries stay apart from the properties. -/
theorem Reachable.foreign (h : Reachable schema c) : Foreign schema c.extra := by
  induction h with
  | defaults name language => exact ⟨fun _ _ => rfl, fun entry hm => nomatch hm⟩
  | read hr => exact foreign_of_readWith hr
  | perform operation hc ih => exact foreign_perform hc.conforms.schema_eq ih operation

end Configuration

end Settings
