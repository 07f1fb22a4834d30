/-
Settings/Proofs/Document.lean

Documents between being written and being read.  Values that have been read
from a text have no name twice in an object and no decimal that is not finite
(`isSettled_of_toJson?`).  A document with no name twice is read back as it
was, up to the decimals that have no text, unless a separator stands in it
(`ofText_pretty`):

    ofText path (pretty document)  =  .ok (storedEntries document)
-/
import Mathlib.Data.List.Induction
import Mathlib.Data.List.TakeWhile
import Settings.Document
import Settings.Proofs.Json5.Pretty

namespace Settings

/-! ### Entering distinct names -/

namespace Fields

variable {κ α : Type} [DecidableEq κ]

theorem insert_of_not_mem {key : κ} {value : α} {fields : List (κ × α)}
    (h : key ∉ keys fields) : insert key value fields = fields ++ [(key, value)] := by
  induction fields with
  | nil => rfl
  | cons entry rest ih =>
    rw [keys_cons, List.mem_cons, not_or] at h
    rw [insert, if_neg (Ne.symm h.1), ih h.2]
    rfl

/-- A list in which no key stands twice is entered as it is. -/
theorem ofList_eq_self {entries : List (κ × α)} (hn : (keys entries).Nodup) :
    ofList entries = entries := by
  -- the entries are entered from the front, so the last one comes last
  induction entries using List.reverseRecOn with
  | nil => rfl
  | append_singleton rest entry ih =>
    rw [keys, List.map_append, List.nodup_append] at hn
    rw [ofList_concat, ih hn.1]
    apply insert_of_not_mem
    intro hm
    exact hn.2.2 _ hm _ (List.mem_singleton.mpr rfl) rfl

/-- What has been entered was in the list. -/
theorem mem_of_mem_insert {key : κ} {value : α} {entry : κ × α} {fields : List (κ × α)}
    (h : entry ∈ insert key value fields) : entry.2 = value ∨ entry ∈ fields := by
  induction fields with
  | nil => exact .inl (congrArg Prod.snd (List.mem_singleton.mp h))
  | cons first rest ih =>
    rw [insert] at h
    split at h
    · rcases List.mem_cons.mp h with rfl | h
      · exact .inl rfl
      · exact .inr (List.mem_cons_of_mem _ h)
    · rcases List.mem_cons.mp h with rfl | h
      · exact .inr List.mem_cons_self
      · exact (ih h).imp_right (List.mem_cons_of_mem _)

theorem mem_of_mem_ofList {entries : List (κ × α)} {entry : κ × α} (h : entry ∈ ofList entries) :
    ∃ other ∈ entries, entry.2 = other.2 := by
  induction entries using List.reverseRecOn with
  | nil => cases h
  | append_singleton rest last ih =>
    rw [ofList_concat] at h
    rcases mem_of_mem_insert h with he | hm
    · exact ⟨last, List.mem_append_right _ (List.mem_singleton.mpr rfl), he⟩
    · obtain ⟨other, hm, he⟩ := ih hm
      exact ⟨other, List.mem_append_left _ hm, he⟩

end Fields

/-! ### Values that are read -/

namespace Json

mutual

/-- The value that is left of it in a file: decimals that are not finite become
`null`. -/
def stored : Json → Json
  | .decimal value => if value.isFinite then .decimal value else .null
  | .array items => .array (storedItems items)
  | .object entries => .object (storedEntries entries)
  | j => j

/-- What is left of items. -/
def storedItems : List Json → List Json
  | [] => []
  | item :: rest => stored item :: storedItems rest

/-- What is left of entries. -/
def storedEntries : List (String × Json) → List (String × Json)
  | [] => []
  | (name, value) :: rest => (name, stored value) :: storedEntries rest

end

mutual

/-- No object in the value has a name twice. -/
def IsDistinct : Json → Prop
  | .array items => AreItemsDistinct items
  | .object entries => (Fields.keys entries).Nodup ∧ AreEntriesDistinct entries
  | _ => True

/-- No object in the items has a name twice. -/
def AreItemsDistinct : List Json → Prop
  | [] => True
  | item :: rest => IsDistinct item ∧ AreItemsDistinct rest

/-- No object in the values of the entries has a name twice. -/
def AreEntriesDistinct : List (String × Json) → Prop
  | [] => True
  | (_, value) :: rest => IsDistinct value ∧ AreEntriesDistinct rest

end

theorem storedItems_eq_map (items : List Json) : storedItems items = items.map stored := by
  induction items with
  | nil => rfl
  | cons item rest ih => rw [storedItems, ih, List.map_cons]

theorem storedEntries_eq_map (entries : List (String × Json)) :
    storedEntries entries = entries.map fun entry => (entry.1, entry.2.stored) := by
  induction entries with
  | nil => rfl
  | cons entry rest ih => rw [storedEntries, ih, List.map_cons]

theorem areItemsDistinct_iff {items : List Json} :
    AreItemsDistinct items ↔ ∀ item ∈ items, item.IsDistinct := by
  induction items with
  | nil => simp [AreItemsDistinct]
  | cons item rest ih => simp [AreItemsDistinct, ih]

theorem areEntriesDistinct_iff {entries : List (String × Json)} :
    AreEntriesDistinct entries ↔ ∀ entry ∈ entries, entry.2.IsDistinct := by
  induction entries with
  | nil => simp [AreEntriesDistinct]
  | cons entry rest ih => simp [AreEntriesDistinct, ih]

/-- The names of entries are kept. -/
theorem keys_storedEntries (entries : List (String × Json)) :
    Fields.keys (storedEntries entries) = Fields.keys entries := by
  rw [storedEntries_eq_map, Fields.keys, List.map_map]
  rfl

theorem get?_storedEntries (key : String) (entries : List (String × Json)) :
    Fields.get? key (storedEntries entries) = (Fields.get? key entries).map stored := by
  induction entries with
  | nil => rfl
  | cons entry rest ih =>
    obtain ⟨name, value⟩ := entry
    rw [storedEntries, Fields.get?_cons, Fields.get?_cons, ih]
    split <;> rfl

mutual

/-- A value is made of its tree again, as far as it has been stored. -/
theorem toJson?_raw : ∀ {j : Json}, j.IsDistinct → j.raw.toJson? = some j.stored
  | .null, _ => rfl
  | .boolean _, _ => rfl
  | .integer n, _ => by
    rw [raw, Raw.toJson?, Json5.integerOf?_toInt]
    rfl
  | .decimal x, _ => by
    rw [raw, stored]
    split
    next hx => rw [Raw.toJson?, if_pos hx]
    next => rfl
  | .string _, _ => rfl
  | .array items, h => by
    rw [IsDistinct] at h
    rw [raw, Raw.toJson?, itemsToJson?_raw h]
    rfl
  | .object entries, h => by
    rw [IsDistinct] at h
    have hn : (Fields.keys (storedEntries entries)).Nodup := by
      rw [keys_storedEntries]
      exact h.1
    rw [raw, Raw.toJson?, entriesToJson?_raw h.2, Option.map_some, Fields.ofList_eq_self hn]
    rfl

theorem itemsToJson?_raw : ∀ {items : List Json}, AreItemsDistinct items →
    Raw.itemsToJson? (rawItems items) = some (storedItems items)
  | [], _ => rfl
  | item :: rest, h => by
    rw [AreItemsDistinct] at h
    rw [rawItems, Raw.itemsToJson?, toJson?_raw h.1, itemsToJson?_raw h.2]
    rfl

theorem entriesToJson?_raw : ∀ {entries : List (String × Json)}, AreEntriesDistinct entries →
    Raw.entriesToJson? (rawEntries entries) = some (storedEntries entries)
  | [], _ => rfl
  | (name, value) :: rest, h => by
    rw [AreEntriesDistinct] at h
    rw [rawEntries, Raw.entriesToJson?, toJson?_raw h.1, entriesToJson?_raw h.2]
    rfl

end

/-- A value as reading leaves it: without a name that stands twice, and such
that nothing is lost when it is stored. -/
def IsSettled (j : Json) : Prop := j.IsDistinct ∧ j.stored = j

mutual

/-- What is read from a text is settled. -/
theorem isSettled_of_toJson? : ∀ {raw : Raw} {j : Json}, raw.toJson? = some j → j.IsSettled
  | .null, j, h => by
    cases h
    exact ⟨trivial, rfl⟩
  | .boolean _, j, h => by
    cases h
    exact ⟨trivial, rfl⟩
  | .integer n, j, h => by
    rw [Raw.toJson?] at h
    obtain ⟨m, -, rfl⟩ := Option.map_eq_some_iff.mp h
    exact ⟨trivial, rfl⟩
  | .decimal x, j, h => by
    rw [Raw.toJson?] at h
    cases h
    split
    next hx => exact ⟨trivial, by rw [stored, if_pos hx]⟩
    next => exact ⟨trivial, rfl⟩
  | .string _, j, h => by
    cases h
    exact ⟨trivial, rfl⟩
  | .array items, j, h => by
    rw [Raw.toJson?] at h
    obtain ⟨values, hv, rfl⟩ := Option.map_eq_some_iff.mp h
    have hs := isSettled_of_itemsToJson? hv
    refine ⟨?_, ?_⟩
    · rw [IsDistinct]
      exact areItemsDistinct_iff.mpr fun item hm => (hs item hm).1
    · rw [stored, storedItems_eq_map, List.map_congr_left fun item hm => (hs item hm).2,
        List.map_id']
  | .object entries, j, h => by
    rw [Raw.toJson?] at h
    obtain ⟨values, hv, rfl⟩ := Option.map_eq_some_iff.mp h
    have hs : ∀ entry ∈ Fields.ofList values, entry.2.IsSettled := by
      intro entry hm
      obtain ⟨other, hother, he⟩ := Fields.mem_of_mem_ofList hm
      rw [he]
      exact isSettled_of_entriesToJson? hv other hother
    -- of a name that stands twice only one entry is left
    refine ⟨?_, ?_⟩
    · rw [IsDistinct]
      exact ⟨Fields.nodup_keys_ofList _,
        areEntriesDistinct_iff.mpr fun entry hm => (hs entry hm).1⟩
    · -- the names are kept, and the values do not change
      have hentry : ∀ entry ∈ Fields.ofList values, (entry.1, entry.2.stored) = entry := by
        intro entry hm
        rw [(hs entry hm).2]
      rw [stored, storedEntries_eq_map, List.map_congr_left hentry, List.map_id']

theorem isSettled_of_itemsToJson? : ∀ {items : List Raw} {values : List Json},
    Raw.itemsToJson? items = some values → ∀ item ∈ values, item.IsSettled
  | [], values, h => by
    cases h
    exact fun item hm => nomatch hm
  | item :: rest, values, h => by
    rw [Raw.itemsToJson?] at h
    split at h
    next value others hv ho =>
      cases h
      intro j hm
      rcases List.mem_cons.mp hm with rfl | hm
      · exact isSettled_of_toJson? hv
      · exact isSettled_of_itemsToJson? ho j hm
    next => cases h

theorem isSettled_of_entriesToJson? : ∀ {entries : List (String × Raw)}
    {values : List (String × Json)}, Raw.entriesToJson? entries = some values →
      ∀ entry ∈ values, entry.2.IsSettled
  | [], values, h => by
    cases h
    exact fun entry hm => nomatch hm
  | (name, raw) :: rest, values, h => by
    rw [Raw.entriesToJson?] at h
    split at h
    next value others hv ho =>
      cases h
      intro entry hm
      rcases List.mem_cons.mp hm with rfl | hm
      · exact isSettled_of_toJson? hv
      · exact isSettled_of_entriesToJson? ho entry hm
    next => cases h

end

end Json

/-! ### Documents -/

namespace Document

/-- What is left of a text that starts with something else than white space. -/
theorem trim_ne_nil {c : Char} (h : Text.isBlank c = false) (rest : List Char) :
    Text.trim (c :: rest) ≠ [] := by
  intro hnil
  rw [Text.trim, List.dropWhile_cons_of_neg (by rw [h]; exact Bool.false_ne_true), Text.trimEnd,
    List.reverse_eq_nil_iff, List.dropWhile_eq_nil_iff] at hnil
  have hc := hnil c (List.mem_reverse.mpr List.mem_cons_self)
  rw [h] at hc
  exact Bool.false_ne_true hc

/-- The text of a value is read, unless a separator stands in it. -/
theorem read?_pretty (j : Json) :
    Json5.read? j.pretty = if j.isPlain then some j.raw else none := by
  have hskip := (Json5.skipGap_prettyChars 0 j []).1
  rw [List.append_nil] at hskip
  have hends : Json5.Ends [] := .inl rfl
  have hread := Json5.value?_prettyChars 0 hends j _
    (show (j.prettyChars 0).length < 2 * (j.prettyChars 0).length + 2 by omega)
  rw [List.append_nil] at hread
  rw [Json5.read?, Raw.Grammar.read?, Json5.skip_eq, Json.pretty, String.toList_ofList, hskip,
    hread]
  cases j.isPlain <;> rfl

/-- **A document that is written is read back**, with `null` for the decimals
that are not finite, unless a separator stands in it. -/
theorem ofText_pretty (path : String) {document : Document}
    (h : (Json.object document).IsDistinct) :
    ofText path (Json.object document).pretty =
      if (Json.object document).isPlain then .ok (Json.storedEntries document)
      else .error (.parse path (.illFormed "not a JSON5 document")) := by
  have htrim : Text.trim (Json.object document).pretty.toList ≠ [] := by
    obtain ⟨c, tail, htext, hc⟩ : ∃ c tail, (Json.object document).prettyChars 0 = c :: tail ∧
        Text.isBlank c = false := by
      cases document with
      | nil => exact ⟨'{', _, rfl, by decide⟩
      | cons entry document => exact ⟨'{', _, rfl, by decide⟩
    rw [Json.pretty, String.toList_ofList, htext]
    exact trim_ne_nil hc tail
  rw [ofText, if_neg htrim, read?_pretty]
  cases (Json.object document).isPlain with
  | true =>
    simp only [if_true, Option.bind_some, Json.toJson?_raw h]
    rfl
  | false => rfl

/-- The values of a document that has been read are settled. -/
theorem isSettled_of_ofText {path text : String} {document : Document}
    (h : ofText path text = .ok document) :
    (Fields.keys document).Nodup ∧ ∀ entry ∈ document, entry.2.IsSettled := by
  rw [ofText] at h
  split at h
  · cases h
    exact ⟨List.nodup_nil, fun entry hm => nomatch hm⟩
  · split at h
    · cases h
    next entries he =>
      have hentries : entries = document := Except.ok.inj h
      subst hentries
      obtain ⟨raw, -, hraw⟩ := Option.bind_eq_some_iff.mp he
      obtain ⟨hd, hs⟩ := Json.isSettled_of_toJson? hraw
      rw [Json.IsDistinct] at hd
      rw [Json.stored, Json.object.injEq] at hs
      refine ⟨hd.1, fun entry hm => ⟨Json.areEntriesDistinct_iff.mp hd.2 entry hm, ?_⟩⟩
      -- the document is the same when it is stored, so each of its values is
      have hvalue := Json.get?_storedEntries entry.1 entries
      rw [hs, (Fields.get?_eq_some_iff hd.1).mpr hm] at hvalue
      exact (Option.some.inj hvalue).symm
    · cases h

end Document

end Settings
