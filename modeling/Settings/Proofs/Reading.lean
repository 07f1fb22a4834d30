/-
Settings/Proofs/Reading.lean

Which files are read.  A file must hold a document, and the properties must
take what is there for them.  Of several properties with one field only the
first finds an entry; so it is the first ones that count
(`exists_readWith_iff`), and their order does not.

`Document.written?` is the document as the text says it, each name as often as
it stands there; reading enters these entries one after another.
-/
import Settings.Proofs.Loading

namespace Settings

/-- A computation with a known outcome succeeds. -/
theorem exists_ok_of_toOption {ε α β : Type} {result : Except ε α} {view : α → β} {b : β}
    (h : result.toOption.map view = some b) : ∃ a, result = .ok a ∧ view a = b := by
  cases result with
  | error e => cases h
  | ok a => exact ⟨a, rfl, Option.some.inj h⟩

/-! ### Documents as they are written -/

/-- The entries that a text says a document has, each name as often as it
stands there. -/
def Document.written? (text : String) : Option (List (String × Json)) :=
  if Text.trim text.toList = [] then some []
  else
    match Json5.read? text with
    | some (.object entries) => Raw.entriesToJson? entries
    | _ => none

/-- A document that has been read is that of the text in the file. -/
theorem Document.exists_of_read {tree : FileTree} {path : String} {document : Document}
    (h : read tree path = .ok document) :
    ∃ text, tree.readText path = .ok text ∧ ofText path text = .ok document := by
  unfold read at h
  split at h
  · cases h
  next text htext => exact ⟨text, htext, h⟩

/-- Reading enters the entries of the text one after another. -/
theorem Document.written?_of_ofText {path text : String} {document : Document}
    (h : ofText path text = .ok document) :
    ∃ entries, written? text = some entries ∧ document = Fields.ofList entries := by
  unfold ofText at h
  unfold written?
  split at h
  next hblank =>
    cases h
    exact ⟨[], if_pos hblank, rfl⟩
  next hblank =>
    rw [if_neg hblank]
    split at h
    · cases h
    next entries hread =>
      cases h
      obtain ⟨raw, hraw, hjson⟩ := Option.bind_eq_some_iff.mp hread
      rw [hraw]
      -- only an object becomes an object
      cases raw with
      | object rawEntries =>
        rw [Raw.toJson?] at hjson
        obtain ⟨written, hwritten, heq⟩ := Option.map_eq_some_iff.mp hjson
        exact ⟨written, hwritten, (Json.object.inj heq).symm⟩
      | integer n =>
        rw [Raw.toJson?] at hjson
        obtain ⟨m, -, hm⟩ := Option.map_eq_some_iff.mp hjson
        cases hm
      | decimal x =>
        rw [Raw.toJson?] at hjson
        split at hjson <;> cases hjson
      | array items =>
        rw [Raw.toJson?] at hjson
        obtain ⟨values, -, hv⟩ := Option.map_eq_some_iff.mp hjson
        cases hv
      | _ => cases hjson
    · cases h

namespace Configuration

/-! ### Which documents are read -/

variable {properties : List Property} {document : Document} {schema : Schema} {c : Configuration}

/-- What has been read comes out of the document in the file. -/
theorem exists_of_readWith {tree : FileTree} {name path : String} {language : Language}
    (h : readWith tree name schema language path = .ok c) :
    ∃ document, Document.read tree path = .ok document ∧
      c.extra = (loadAll (ofDefaults name schema language).properties document).rest := by
  unfold readWith at h
  split at h
  · cases h
  next document hd =>
    unfold ofDocument at h
    simp only at h
    split at h
    · cases h
      exact ⟨document, hd, rfl⟩
    · cases h

/-- The names in a document that has been read are all different. -/
theorem nodup_keys_of_read {tree : FileTree} {path : String}
    (h : Document.read tree path = .ok document) : (Fields.keys document).Nodup := by
  obtain ⟨text, -, hdocument⟩ := Document.exists_of_read h
  exact (Document.isSettled_of_ofText hdocument).1

/-- The first property with a field takes the entry, and the others with that
field find none. -/
theorem malformed_eq_nil_iff (hd : (Fields.keys document).Nodup) :
    (loadAll properties document).malformed = [] ↔
      ∀ field p, properties.find? (·.field = field) = some p → ∃ q, p.take document = .ok q := by
  induction properties generalizing document with
  | nil => simp [loadAll]
  | cons p rest ih =>
    have hd' : (Fields.keys (Fields.swapErase p.field document)).Nodup :=
      Fields.nodup_keys_swapErase hd
    have hgone : ∀ r : Property, r.field = p.field →
        r.take (Fields.swapErase p.field document) = .ok r := by
      intro r hr
      rw [Property.take, Fields.get?_swapErase hd, if_pos hr.symm]
    have hrest : (loadAll rest (Fields.swapErase p.field document)).malformed = [] ↔
        ∀ field r, field ≠ p.field → rest.find? (·.field = field) = some r →
          ∃ q, r.take document = .ok q := by
      rw [ih hd']
      refine forall_congr' fun field => forall_congr' fun r => ⟨?_, ?_⟩
      · intro h hne hr
        have hfield : r.field = field := field_of_find? hr
        rw [← take_swapErase hd (show p.field ≠ r.field from fun e => hne (hfield ▸ e.symm))]
        exact h hr
      · intro h hr
        have hfield : r.field = field := field_of_find? hr
        by_cases he : field = p.field
        · exact ⟨r, hgone r (hfield.trans he)⟩
        · rw [take_swapErase hd (show p.field ≠ r.field from fun e => he (hfield ▸ e.symm))]
          exact h he hr
    have hcons : (loadAll (p :: rest) document).malformed = [] ↔
        (∃ q, p.take document = .ok q) ∧
          (loadAll rest (Fields.swapErase p.field document)).malformed = [] := by
      rw [loadAll_cons]
      cases p.take document <;> simp
    rw [hcons, hrest]
    constructor
    · rintro ⟨hp, h⟩ field r hr
      by_cases he : p.field = field
      · rw [List.find?_cons_of_pos (by simpa using he)] at hr
        exact Option.some.inj hr ▸ hp
      · rw [List.find?_cons_of_neg (by simpa using he)] at hr
        exact h field r (Ne.symm he) hr
    · intro h
      refine ⟨h p.field p (List.find?_cons_of_pos (by simp)), fun field r hne hr => ?_⟩
      apply h field r
      rwa [List.find?_cons_of_neg (by simpa using Ne.symm hne)]

/-- The first fresh property with a field is that of the first specification. -/
theorem find?_ofDefaults (name : String) (schema : Schema) (language : Language) (field : String) :
    (ofDefaults name schema language).properties.find? (·.field = field) =
      (schema.properties.find? (·.field = field)).map (freshProperty schema.enums language) := by
  show (schema.properties.map (freshProperty schema.enums language)).find? _ = _
  rw [List.find?_map]
  rfl

/-- A file is read if it holds a document and the first property with each
field takes what is there for it. -/
theorem exists_readWith_iff {tree : FileTree} {name path : String} {language : Language} :
    (∃ c, readWith tree name schema language path = .ok c) ↔
      ∃ document, Document.read tree path = .ok document ∧
        ∀ field spec, schema.properties.find? (·.field = field) = some spec →
          ∃ q, (freshProperty schema.enums language spec).take document = .ok q := by
  have hdoc : ∀ document, Document.read tree path = .ok document →
      ((loadAll (ofDefaults name schema language).properties document).malformed = [] ↔
        ∀ field spec, schema.properties.find? (·.field = field) = some spec →
          ∃ q, (freshProperty schema.enums language spec).take document = .ok q) := by
    intro document hd
    rw [malformed_eq_nil_iff (nodup_keys_of_read hd)]
    simp [find?_ofDefaults]
  unfold readWith
  cases hread : Document.read tree path with
  | error e => simp
  | ok document =>
    simp only [Except.ok.injEq, exists_eq_left', ofDocument, ← hdoc document hread]
    split
    next hm => simp [hm]
    next hm => simp [hm]

end Configuration

end Settings
