/-
Settings/Proofs/KeyOrder.lean

The order in which the unknown entries of a document come back.  Taking a
known entry out moves the last entry of the document into the gap.  If that is
an unknown one, it passes all that stand between the two; and where it ends up
depends on the order of the fields in the schema.

So the order is safe only where no unknown entry can pass another one: at most
one of them stands behind a known one (`AtMostOneBehind`).  The main statement
is that this is exact.  Otherwise the properties of the schema can be arranged
such that the same document is accepted and comes back in another order
(`unknown_order_iff`).  Unknown entries in front of all known ones never move.
-/
import Settings.Proofs.Keeping
import Settings.Proofs.Saving

namespace Settings

/-! ### Taking out several entries -/

namespace Fields

variable {κ α : Type} [DecidableEq κ]

theorem swapEraseAll_append_keys (taken others : List κ) (fields : List (κ × α)) :
    swapEraseAll (taken ++ others) fields = swapEraseAll others (swapEraseAll taken fields) :=
  List.foldl_append

/-- Entries before the one that is taken out stay where they are. -/
theorem swapErase_append {key : κ} {front : List (κ × α)} (h : key ∉ keys front)
    (back : List (κ × α)) : swapErase key (front ++ back) = front ++ swapErase key back := by
  induction front with
  | nil => rfl
  | cons entry rest ih =>
    rw [keys_cons, List.mem_cons, not_or] at h
    rw [List.cons_append, swapErase, if_neg (Ne.symm h.1), ih h.2, List.cons_append]

theorem swapEraseAll_append {taken : List κ} {front : List (κ × α)}
    (h : ∀ key ∈ taken, key ∉ keys front) (back : List (κ × α)) :
    swapEraseAll taken (front ++ back) = front ++ swapEraseAll taken back := by
  induction taken generalizing back with
  | nil => rfl
  | cons key taken ih =>
    rw [List.forall_mem_cons] at h
    rw [swapEraseAll_cons, swapErase_append h.1, ih h.2, swapEraseAll_cons]

/-- The last entry moves into the gap. -/
theorem swapErase_concat (entry last : κ × α) (between : List (κ × α)) :
    swapErase entry.1 (entry :: (between ++ [last])) = last :: between := by
  rw [swapErase, if_pos rfl, List.getLast?_concat, List.dropLast_concat]

/-- At most one key that is not taken out stands behind one that is. -/
def AtMostOneBehind (taken keys : List κ) : Prop :=
  ((keys.dropWhile (· ∉ taken)).filter (· ∉ taken)).length ≤ 1

/-- It does not matter in which order the keys are taken out. -/
theorem atMostOneBehind_congr {taken others keys : List κ} (h : ∀ key, key ∈ taken ↔ key ∈ others) :
    AtMostOneBehind taken keys ↔ AtMostOneBehind others keys := by
  simp only [AtMostOneBehind, h]

instance (taken keys : List κ) : Decidable (AtMostOneBehind taken keys) :=
  inferInstanceAs (Decidable (_ ≤ _))

theorem atMostOneBehind_cons {taken rest : List κ} {key : κ} :
    AtMostOneBehind taken (key :: rest) ↔
      if key ∈ taken then (rest.filter (· ∉ taken)).length ≤ 1 else AtMostOneBehind taken rest := by
  unfold AtMostOneBehind
  by_cases hk : key ∈ taken <;> simp [hk]

theorem swapEraseAll_nil (taken : List κ) : swapEraseAll taken ([] : List (κ × α)) = [] := by
  induction taken with
  | nil => rfl
  | cons key taken ih => exact ih

theorem swapEraseAll_eq_nil {taken : List κ} {fields : List (κ × α)} (hn : (keys fields).Nodup)
    (h : ∀ key ∈ keys fields, key ∈ taken) : swapEraseAll taken fields = [] := by
  have hnone : (keys fields).filter (· ∉ taken) = [] :=
    List.filter_eq_nil_iff.mpr (by simpa using h)
  have hperm : (keys (swapEraseAll taken fields)).Perm [] := hnone ▸ keys_swapEraseAll_perm hn
  exact List.map_eq_nil_iff.mp (List.perm_nil.mp hperm)

/-- Where one key at most could pass another one, none does. -/
theorem AtMostOneBehind.keys_swapEraseAll {taken : List κ} {fields : List (κ × α)}
    (h : AtMostOneBehind taken (keys fields)) (hn : (keys fields).Nodup) :
    keys (swapEraseAll taken fields) = (keys fields).filter (· ∉ taken) := by
  induction fields with
  | nil => rw [swapEraseAll_nil]; rfl
  | cons entry rest ih =>
    rw [keys_cons, atMostOneBehind_cons] at h
    by_cases hk : entry.1 ∈ taken
    · -- from here on there is one key to be left, wherever it goes
      rw [if_pos hk] at h
      have hperm : (keys (swapEraseAll taken (entry :: rest))).Perm _ := keys_swapEraseAll_perm hn
      rw [keys_cons, List.filter_cons_of_neg (by simpa using hk)] at hperm ⊢
      match hrest : (keys rest).filter (· ∉ taken), h with
      | [], _ => rwa [hrest, List.perm_nil] at hperm
      | [key], _ => rwa [hrest, List.perm_singleton] at hperm
    · -- a key in front of all that are taken out stays in front
      rw [if_neg hk] at h
      rw [keys_cons, List.nodup_cons] at hn
      have hfront : ∀ key ∈ taken, key ∉ keys [entry] := by
        intro key hm he
        exact hk (List.mem_singleton.mp he ▸ hm)
      have hsplit : swapEraseAll taken (entry :: rest) = entry :: swapEraseAll taken rest :=
        swapEraseAll_append hfront rest
      rw [hsplit, keys_cons, ih h hn.2, keys_cons, List.filter_cons_of_pos (by simpa using hk)]

/-- The entries around the last key that is left: one that is taken out stands
in front, another one that is left between the two, and none behind. -/
structure Passing (taken : List κ) (fields : List (κ × α)) where
  front : List (κ × α)
  first : κ × α
  between : List (κ × α)
  last : κ × α
  back : List (κ × α)
  fields_eq : fields = front ++ first :: (between ++ last :: back)
  front_left : ∀ entry ∈ front, entry.1 ∉ taken
  first_taken : first.1 ∈ taken
  between_left : (keys between).filter (· ∉ taken) ≠ []
  last_left : last.1 ∉ taken
  back_taken : ∀ entry ∈ back, entry.1 ∈ taken

/-- Two keys that are left behind one that is taken out: the last can pass. -/
theorem exists_passing {taken : List κ} {fields : List (κ × α)}
    (h : ¬ AtMostOneBehind taken (keys fields)) : Nonempty (Passing taken fields) := by
  induction fields with
  | nil => exact absurd (Nat.zero_le 1) h
  | cons entry rest ih =>
    rw [keys_cons, atMostOneBehind_cons] at h
    by_cases hk : entry.1 ∈ taken
    · rw [if_pos hk, keys, List.filter_map, List.length_map] at h
      -- the entries that are left are some first ones and the last one
      obtain ⟨others, last, hlast⟩ := List.eq_nil_or_concat
        (rest.filter ((fun key => decide (key ∉ taken)) ∘ Prod.fst)) |>.resolve_left (by
          intro hnil
          rw [hnil] at h
          exact h (Nat.zero_le 1))
      rw [List.concat_eq_append] at hlast
      rw [hlast] at h
      obtain ⟨before, after, rfl, hbefore, hafter⟩ := List.filter_eq_append_iff.mp hlast
      obtain ⟨skipped, back, rfl, hskipped, hleft, hback⟩ := List.filter_eq_cons_iff.mp hafter
      refine ⟨⟨[], entry, before ++ skipped, last, back, by simp, by simp, hk, ?_, ?_, ?_⟩⟩
      · intro hnil
        rw [keys, List.map_append, List.filter_append, List.append_eq_nil_iff, List.filter_map,
          hbefore, List.map_eq_nil_iff] at hnil
        rw [hnil.1] at h
        exact h (Nat.le_refl 1)
      · simpa using hleft
      · simpa using hback
    · rw [if_neg hk] at h
      obtain ⟨w⟩ := ih h
      exact ⟨{ w with
        front := entry :: w.front
        fields_eq := congrArg (entry :: ·) w.fields_eq
        front_left := List.forall_mem_cons.mpr ⟨hk, w.front_left⟩ }⟩

end Fields

/-! ### Other arrangements -/

/-- Some items before the others, and each part in the old order. -/
def bringForward {α : Type} (early : α → Bool) (items : List α) : List α :=
  items.filter early ++ items.filter (!early ·)

section

variable {α β : Type} {early : α → Bool} {items : List α}

theorem bringForward_perm : (bringForward early items).Perm items :=
  List.filter_append_perm early items

theorem mem_bringForward {a : α} : a ∈ bringForward early items ↔ a ∈ items :=
  bringForward_perm.mem_iff

theorem map_bringForward (early : α → Bool) (f : β → α) (items : List β) :
    (bringForward (fun item => early (f item)) items).map f
      = bringForward early (items.map f) := by
  rw [bringForward, bringForward, List.map_append, List.filter_map, List.filter_map]
  rfl

/-- An item that is there comes first once it is brought forward. -/
theorem bringForward_eq_cons [DecidableEq α] {a : α} (h : a ∈ items) :
    ∃ rest, bringForward (· = a) items = a :: rest := by
  have hm : a ∈ items.filter (· = a) := List.mem_filter.mpr ⟨h, by simp⟩
  cases hf : items.filter (· = a) with
  | nil =>
    rw [hf] at hm
    cases hm
  | cons b rest =>
    have hb : b ∈ items.filter (· = a) := hf ▸ List.mem_cons_self
    have hb : b = a := by simpa using (List.mem_filter.mp hb).2
    rw [bringForward, hf, hb]
    exact ⟨_, rfl⟩

theorem find?_filter_of_imp {kind : α → Bool} (h : ∀ a, kind a = true → early a = true) :
    (items.filter early).find? kind = items.find? kind := by
  rw [List.find?_filter]
  congr 1
  funext a
  by_cases hk : kind a = true <;> simp_all

theorem find?_filter_eq_none {kind : α → Bool} (h : ∀ a, kind a = true → early a = false) :
    (items.filter early).find? kind = none := by
  rw [List.find?_eq_none]
  intro a hm hk
  rw [List.mem_filter, h a hk] at hm
  exact Bool.false_ne_true hm.2

/-- The first item of a kind stays the first if all of the kind are brought
forward, or none. -/
theorem find?_bringForward {kind : α → Bool}
    (h : (∀ a, kind a = true → early a = true) ∨ ∀ a, kind a = true → early a = false) :
    (bringForward early items).find? kind = items.find? kind := by
  rw [bringForward, List.find?_append]
  rcases h with h | h
  · rw [find?_filter_of_imp h, find?_filter_eq_none fun a hk => by rw [h a hk]; rfl, Option.or_none]
  · rw [find?_filter_eq_none h, find?_filter_of_imp fun a hk => by rw [h a hk]; rfl, Option.none_or]

end

namespace Fields

variable {κ α : Type} [DecidableEq κ]

section

variable {β : Type} {taken : List κ} {fields : List (κ × α)}

/-- The arrangement of items by their keys in which the last entry passes: what
stands behind it is taken out before, and then at once the one whose gap it
takes. -/
def Passing.arrange (w : Passing taken fields) (key : β → κ) (items : List β) : List β :=
  bringForward (fun item => key item ∈ keys w.back)
    (bringForward (fun item => key item = w.first.1) items)

theorem Passing.arrange_perm (w : Passing taken fields) (key : β → κ) (items : List β) :
    (w.arrange key items).Perm items := bringForward_perm.trans bringForward_perm

/-- Arranging items is arranging their keys. -/
theorem Passing.map_arrange (w : Passing taken fields) (key : β → κ) (items : List β) :
    (w.arrange key items).map key = w.arrange id (items.map key) := by
  have hback := map_bringForward (fun k => decide (k ∈ keys w.back)) key
    (bringForward (fun item => decide (key item = w.first.1)) items)
  have hfirst := map_bringForward (fun k => decide (k = w.first.1)) key items
  exact hback.trans (congrArg _ hfirst)

/-- The first item with a key stays the first. -/
theorem Passing.find?_arrange (w : Passing taken fields) (key : β → κ) (items : List β) (k : κ) :
    (w.arrange key items).find? (key · = k) = items.find? (key · = k) := by
  have hsame : ∀ p : κ → Bool, (∀ item, decide (key item = k) = true → p (key item) = true) ∨
      ∀ item, decide (key item = k) = true → p (key item) = false := by
    intro p
    by_cases hp : p k = true
    · exact .inl fun item hi => by rwa [of_decide_eq_true hi]
    · exact .inr fun item hi => by rwa [of_decide_eq_true hi, ← Bool.not_eq_true]
  rw [Passing.arrange, find?_bringForward (hsame fun k => decide (k ∈ keys w.back)),
    find?_bringForward (hsame fun k => decide (k = w.first.1))]

/-- What is taken out in this arrangement before the last entry passes, and
what comes after that. -/
theorem Passing.arrange_eq (w : Passing taken fields) (hn : (keys fields).Nodup) :
    ∃ before after, w.arrange id taken = before ++ w.first.1 :: after ∧
      (∀ key, key ∈ before ↔ key ∈ taken ∧ key ∈ keys w.back) ∧ ∀ key ∈ after, key ∈ taken := by
  obtain ⟨others, hothers⟩ := bringForward_eq_cons w.first_taken
  have hfirst : w.first.1 ∉ keys w.back := by
    rw [w.fields_eq] at hn
    intro hm
    simp only [keys, List.map_append, List.map_cons, List.nodup_append, List.nodup_cons,
      List.mem_append, List.mem_cons] at hn
    exact hn.2.1.1 (.inr (.inr hm))
  refine ⟨(bringForward (· = w.first.1) taken).filter (· ∈ keys w.back),
    others.filter fun key => !decide (key ∈ keys w.back), ?_, ?_, ?_⟩
  · have hrest : (w.first.1 :: others).filter (fun key => !decide (key ∈ keys w.back))
        = w.first.1 :: others.filter fun key => !decide (key ∈ keys w.back) :=
      List.filter_cons_of_pos (by simpa using hfirst)
    rw [← hrest, ← hothers]
    rfl
  · intro key
    rw [List.mem_filter, mem_bringForward, decide_eq_true_iff]
  · intro key hm
    have hm : key ∈ bringForward (· = w.first.1) taken :=
      hothers ▸ List.mem_cons_of_mem _ (List.mem_filter.mp hm).1
    exact mem_bringForward.mp hm

/-- What stands behind the last entry is taken out and leaves no gap. -/
theorem Passing.swapEraseAll_back {before : List κ} (w : Passing taken fields)
    (hn : (keys fields).Nodup)
    (hbefore : ∀ key, key ∈ before ↔ key ∈ taken ∧ key ∈ keys w.back) :
    swapEraseAll before fields = w.front ++ w.first :: (w.between ++ [w.last]) := by
  have hsplit : fields = (w.front ++ w.first :: (w.between ++ [w.last])) ++ w.back := by
    simpa using w.fields_eq
  have hkeys : keys fields
      = keys (w.front ++ w.first :: (w.between ++ [w.last])) ++ keys w.back :=
    (congrArg keys hsplit).trans List.map_append
  rw [hkeys, List.nodup_append] at hn
  obtain ⟨-, hnback, hapart⟩ := hn
  have hdisjoint : ∀ key ∈ before, key ∉ keys (w.front ++ w.first :: (w.between ++ [w.last])) :=
    fun key hm he => hapart key he key ((hbefore key).mp hm).2 rfl
  have hall : ∀ key ∈ keys w.back, key ∈ before := by
    intro key hm
    obtain ⟨entry, hentry, rfl⟩ := List.mem_map.mp hm
    exact (hbefore entry.1).mpr ⟨w.back_taken entry hentry, hm⟩
  calc swapEraseAll before fields
      = swapEraseAll before ((w.front ++ w.first :: (w.between ++ [w.last])) ++ w.back) :=
        congrArg (swapEraseAll before) hsplit
    _ = (w.front ++ w.first :: (w.between ++ [w.last])) ++ swapEraseAll before w.back :=
        swapEraseAll_append hdisjoint w.back
    _ = w.front ++ w.first :: (w.between ++ [w.last]) := by
        rw [swapEraseAll_eq_nil hnback hall, List.append_nil]

theorem Passing.not_mem_front (w : Passing taken fields) {key : κ} (hk : key ∈ taken) :
    key ∉ keys w.front := by
  intro hm
  obtain ⟨entry, hentry, rfl⟩ := List.mem_map.mp hm
  exact w.front_left entry hentry hk

/-- Then the last entry takes the place of the first one. -/
theorem Passing.swapErase_first (w : Passing taken fields) :
    swapErase w.first.1 (w.front ++ w.first :: (w.between ++ [w.last]))
      = (w.front ++ [w.last]) ++ w.between := by
  rw [swapErase_append (w.not_mem_front w.first_taken), swapErase_concat, List.append_assoc,
    List.singleton_append]

/-- It keeps that place. -/
theorem Passing.swapEraseAll_between {after : List κ} (w : Passing taken fields)
    (hafter : ∀ key ∈ after, key ∈ taken) :
    swapEraseAll after ((w.front ++ [w.last]) ++ w.between)
      = (w.front ++ [w.last]) ++ swapEraseAll after w.between := by
  apply swapEraseAll_append
  intro key hm he
  have hkeys : keys (w.front ++ [w.last]) = keys w.front ++ [w.last.1] := List.map_append
  rw [hkeys, List.mem_append, List.mem_singleton] at he
  rcases he with he | rfl
  · exact w.not_mem_front (hafter key hm) he
  · exact w.last_left (hafter _ hm)

/-- In the old order it comes last. -/
theorem Passing.filter_keys (w : Passing taken fields) :
    (keys fields).filter (· ∉ taken)
      = keys w.front ++ ((keys w.between).filter (· ∉ taken) ++ [w.last.1]) := by
  have hfront : (keys w.front).filter (· ∉ taken) = keys w.front := by
    rw [List.filter_eq_self]
    intro key hm
    simpa using fun hk => w.not_mem_front hk hm
  have hback : (keys w.back).filter (· ∉ taken) = [] := by
    rw [List.filter_eq_nil_iff]
    intro key hm
    obtain ⟨entry, hentry, rfl⟩ := List.mem_map.mp hm
    simpa using w.back_taken entry hentry
  have hkeys : keys fields
      = keys w.front ++ w.first.1 :: (keys w.between ++ w.last.1 :: keys w.back) := by
    conv_lhs => rw [w.fields_eq]
    simp [keys]
  rw [hkeys, List.filter_append, hfront, List.filter_cons_of_neg (by simpa using w.first_taken),
    List.filter_append, List.filter_cons_of_pos (by simpa using w.last_left), hback]

/-- So the keys that are left are not in their order. -/
theorem Passing.keys_swapEraseAll_ne (w : Passing taken fields) (hn : (keys fields).Nodup) :
    keys (swapEraseAll (w.arrange id taken) fields) ≠ (keys fields).filter (· ∉ taken) := by
  obtain ⟨before, after, harrange, hbefore, hafter⟩ := w.arrange_eq hn
  rw [harrange, swapEraseAll_append_keys, swapEraseAll_cons, w.swapEraseAll_back hn hbefore,
    w.swapErase_first, w.swapEraseAll_between hafter, w.filter_keys]
  intro heq
  -- the first key between the two comes before the last one
  obtain ⟨key, others, hfilter⟩ := List.exists_cons_of_ne_nil w.between_left
  have hm : key ∈ keys w.between :=
    (List.mem_filter.mp (hfilter ▸ List.mem_cons_self : key ∈ (keys w.between).filter _)).1
  have hne : w.last.1 ≠ key := by
    rintro rfl
    rw [w.fields_eq] at hn
    simp only [keys, List.map_append, List.map_cons, List.nodup_append, List.nodup_cons] at hn
    exact hn.2.1.2.2.2 _ hm _ List.mem_cons_self rfl
  rw [hfilter, keys, List.map_append, List.map_append, List.append_assoc,
    ← keys, List.append_cancel_left_eq] at heq
  exact hne (List.cons.inj heq).1

end

end Fields

/-- The same settings in another arrangement. -/
structure Schema.Rearranges (other schema : Schema) : Prop where
  enums_eq : other.enums = schema.enums
  properties : other.properties.Perm schema.properties

namespace Schema

/-- The schema with its settings in another arrangement, in one category. -/
def arranged (schema : Schema) (properties : List PropertySpec) : Schema where
  categories := [⟨"", none, properties⟩]
  enums := schema.enums

theorem properties_arranged (schema : Schema) (specs : List PropertySpec) :
    (schema.arranged specs).properties = specs := by
  simp [Schema.properties, arranged]

end Schema

namespace Configuration

variable {schema other : Schema} {c : Configuration} {document : Document} {tree : FileTree}
  {name path : String} {language : Language}

/-- In the text that is written anywhere, the names that are no fields stand in
the order that they have in a document. -/
def KeepsOrder (c : Configuration) (fields : List String) (document : Document) : Prop :=
  ∀ tree path written d tree', c.write tree path = .ok (written, d, tree') →
    tree'.readText path = .ok (Json.object c.toDocument).pretty ∧
      (Fields.keys c.toDocument).filter (· ∉ fields)
        = (Fields.keys document).filter (· ∉ fields)

/-- The unknown names come back in the order in which taking out the fields
leaves them. -/
theorem filter_keys_toDocument (h : readWith tree name schema language path = .ok c)
    (hd : Document.read tree path = .ok document) {operations : List Operation}
    (hops : ∀ operation ∈ operations, operation.rereads = false) :
    (Fields.keys (c.performAll operations).toDocument).filter
        (· ∉ schema.properties.map (·.field)) =
      Fields.keys (Fields.swapEraseAll (schema.properties.map (·.field)) document) := by
  obtain ⟨document', hd', values, hvalues, hwritten⟩ := toDocument_performAll h hops
  cases hd.symm.trans hd'
  have hknown : (Fields.keys values).filter (· ∉ schema.properties.map (·.field)) = [] := by
    rw [List.filter_eq_nil_iff, hvalues]
    intro key hm
    simpa using List.mem_eraseDups.mp hm
  have hrest : (Fields.keys (Fields.swapEraseAll (schema.properties.map (·.field))
      document)).filter (· ∉ schema.properties.map (·.field)) =
        Fields.keys (Fields.swapEraseAll (schema.properties.map (·.field)) document) := by
    rw [List.filter_eq_self]
    intro key hm
    have hm := (Fields.keys_swapEraseAll_perm (nodup_keys_of_read hd)).subset hm
    exact (List.mem_filter.mp hm).2
  rw [rest_eq_swapEraseAll, fields_ofDefaults] at hwritten
  rw [hwritten, Fields.keys, List.map_append, List.filter_append]
  exact (congrArg (· ++ _) hknown).trans hrest

/-- Where the last unknown entry can pass another one, the settings can be
arranged such that it does. -/
theorem exists_rearranged (h : readWith tree name schema language path = .ok c)
    (hd : Document.read tree path = .ok document)
    (hn : ¬ Fields.AtMostOneBehind (schema.properties.map (·.field)) (Fields.keys document)) :
    ∃ other d, other.Rearranges schema ∧ readWith tree name other language path = .ok d ∧
      Fields.keys (Fields.swapEraseAll (other.properties.map (·.field)) document) ≠
        (Fields.keys document).filter (· ∉ schema.properties.map (·.field)) := by
  obtain ⟨w⟩ := Fields.exists_passing hn
  have hspecs : (schema.arranged (w.arrange (·.field) schema.properties)).properties
      = w.arrange (·.field) schema.properties := schema.properties_arranged _
  -- the first settings with each field are the same, so the document is accepted
  obtain ⟨d, hread⟩ : ∃ d, readWith tree name
      (schema.arranged (w.arrange (·.field) schema.properties)) language path = .ok d := by
    obtain ⟨document', hd', htake⟩ := exists_readWith_iff.mp ⟨c, h⟩
    refine exists_readWith_iff.mpr ⟨document', hd', fun field spec hspec => ?_⟩
    rw [hspecs, w.find?_arrange] at hspec
    exact htake field spec hspec
  refine ⟨schema.arranged (w.arrange (·.field) schema.properties), d, ⟨rfl, ?_⟩, hread, ?_⟩
  · rw [hspecs]
    exact w.arrange_perm _ _
  · rw [hspecs, w.map_arrange]
    exact w.keys_swapEraseAll_ne (nodup_keys_of_read hd)

/-- **The order of unknown names** is kept under every arrangement of the
settings exactly if one of them at most stands behind a known one in the
document. -/
theorem unknown_order_iff {registry : Registry} (hs : registry.get name = .ok schema)
    (h : read tree registry language path name = .ok c)
    (hd : Document.read tree path = .ok document) :
    (∀ other, other.Rearranges schema → ∀ others : Registry, others.get name = .ok other →
        ∀ d, read tree others language path name = .ok d →
          ∀ operations, (∀ operation ∈ operations, operation.rereads = false) →
            (d.performAll operations).KeepsOrder (schema.properties.map (·.field)) document) ↔
      Fields.AtMostOneBehind (schema.properties.map (·.field)) (Fields.keys document) := by
  rw [read, hs] at h
  have hsame : ∀ {other : Schema}, other.Rearranges schema → ∀ key,
      key ∈ other.properties.map (·.field) ↔ key ∈ schema.properties.map (·.field) :=
    fun hother key => (hother.properties.map _).mem_iff
  constructor
  · intro hall
    by_contra hn
    obtain ⟨other, d, hother, hread, hne⟩ := exists_rearranged h hd hn
    have hregistry : Registry.get [(name, other)] name = .ok other := by
      simp [Registry.get, Fields.get?]
    have hread' : read tree [(name, other)] language path name = .ok d := by
      rw [read, hregistry]
      exact hread
    have hnone : ∀ operation ∈ ([] : List Operation), operation.rereads = false :=
      List.forall_mem_nil _
    obtain ⟨written, e, tree', hw⟩ := exists_write (d.performAll [])
    have hkept := (hall other hother _ hregistry d hread' [] hnone _ _ _ _ _ hw).2
    have hwritten := filter_keys_toDocument hread hd hnone
    simp only [hsame hother] at hwritten
    exact hne (hwritten.symm.trans hkept)
  · intro hone other hother others hregistry d hread operations hops tree' path' written e tree'' hw
    rw [read, hregistry] at hread
    have hwritten := filter_keys_toDocument hread hd hops
    have hkept := ((Fields.atMostOneBehind_congr (hsame hother)).mpr hone).keys_swapEraseAll
      (nodup_keys_of_read hd)
    simp only [hsame hother] at hwritten hkept
    exact ⟨readText_of_write hw, hwritten.trans hkept⟩

/-- In the sample only one unknown name stands behind a known one. -/
theorem unknown_order_notedTree :
    Registry.get [("sample", sampleSchema)] "sample" = .ok sampleSchema ∧
      ∃ c document, read notedTree [("sample", sampleSchema)] [] "/a.json5" "sample" = .ok c ∧
        Document.read notedTree "/a.json5" = .ok document ∧
        Fields.keys document = ["layout", "fov", "note", "braid"] ∧
        (c.performAll [.restoreDefaults]).KeepsOrder ["brightness", "braid", "fov", "menu"]
          document := by
  have hs : Registry.get [("sample", sampleSchema)] "sample" = .ok sampleSchema := rfl
  have hread : (read notedTree [("sample", sampleSchema)] [] "/a.json5" "sample").toOption.map
      (·.schemaName) = some "sample" := by decide +kernel
  obtain ⟨c, hc, -⟩ := exists_ok_of_toOption hread
  have hdocument : (Document.read notedTree "/a.json5").toOption.map Fields.keys
      = some ["layout", "fov", "note", "braid"] := by decide +kernel
  obtain ⟨document, hd, hkeys⟩ := exists_ok_of_toOption hdocument
  have hone : Fields.AtMostOneBehind (sampleSchema.properties.map (·.field))
      (Fields.keys document) := by
    rw [hkeys]
    decide
  have hrefl : Schema.Rearranges sampleSchema sampleSchema := ⟨rfl, List.Perm.refl _⟩
  exact ⟨hs, c, document, hc, hd, hkeys,
    (unknown_order_iff hs hc hd).mpr hone _ hrefl _ hs _ hc _ (by decide)⟩

/-- A file with two unknown names behind a known one. -/
def passedTree : FileTree :=
  ⟨[(["a.json5"], .file "\x7b\"braid\": true, \"a\": 1, \"b\": 2\x7d".toUTF8)], by decide⟩

/-- There they come back the other way round. -/
theorem unknown_reordered : ¬ ∀ (schema : Schema) (registry : Registry) (language : Language)
    (tree : FileTree) (path name : String) (c : Configuration) (document : Document),
    registry.get name = .ok schema → read tree registry language path name = .ok c →
      Document.read tree path = .ok document →
        c.KeepsOrder (schema.properties.map (·.field)) document := by
  intro h
  have hread : (read passedTree [("sample", sampleSchema)] [] "/a.json5" "sample").toOption.map
      (fun c => Fields.keys c.toDocument)
        = some ["brightness", "braid", "fov", "menu", "b", "a"] := by decide +kernel
  obtain ⟨c, hc, hwritten⟩ := exists_ok_of_toOption hread
  have hdocument : (Document.read passedTree "/a.json5").toOption.map Fields.keys
      = some ["braid", "a", "b"] := by decide +kernel
  obtain ⟨document, hd, hkeys⟩ := exists_ok_of_toOption hdocument
  obtain ⟨written, d, tree', hw⟩ := exists_write c
  have hkept := (h sampleSchema [("sample", sampleSchema)] [] _ _ _ c document rfl hc hd _ _ _ _ _
    hw).2
  rw [hwritten, hkeys] at hkept
  revert hkept
  decide

end Configuration

end Settings
