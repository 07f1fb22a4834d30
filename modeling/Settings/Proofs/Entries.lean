/-
Settings/Proofs/Entries.lean

What reading makes of a document, property by property.  The properties take
their entries out of the document one after another, each of them moves the
last entry into the gap, and a refusal does not stop the others.  Since the
fields are all different, none of this shows: each property gets what the
document holds under its field (`loadAll_eq`),

    (loadAll properties document).properties  =  properties.map (·.taken document)
    (loadAll properties document).malformed   =  properties.filterMap (·.refusal? document)

and where the document holds nothing the property is a fresh one, which has
its default.  So the order of the document does not matter.

The main statement is `read_pointwise`.  It does not ask for a valid schema:
it is enough that the fields are different.
-/
import Settings.Proofs.Bare
import Settings.Proofs.Keeping

namespace Settings

/-! ### Fresh properties -/

/-- Resetting leaves the default, unless another value is there that equals it. -/
theorem Slot.value_reset {α : Type} [BEq α] {slot : Slot α}
    (h : slot.value = slot.default ∨ (slot.value == slot.default) = false) :
    slot.reset.value = slot.reset.default := by
  unfold reset put
  split
  next heq =>
    refine h.resolve_right fun hne => ?_
    rw [heq] at hne
    cases hne
  next => rfl

/-- A default that has been brought within its constraints is left. -/
theorem Slot.value_reset_fitted {α : Type} [BEq α] [PartialEquivBEq α] (default fitted : α) :
    (if fitted == default then Slot.mk default default else ⟨default, fitted⟩).reset.value =
      (if fitted == default then Slot.mk default default
        else ⟨default, fitted⟩).reset.default := by
  apply value_reset
  split
  next => exact .inl rfl
  next hne => exact .inr (BEq.comm.trans (Bool.eq_false_iff.mpr hne))

/-- A setting that has been made ready for use has its default. -/
theorem Domain.value_fresh (enums : Fields (List String)) (domain : Domain) :
    (domain.fresh enums).value = (domain.fresh enums).default := by
  cases domain with
  | boolean default => exact congrArg Value.boolean (Slot.value_reset (.inl rfl))
  | integer default bounds =>
    exact congrArg Value.integer (Slot.value_reset_fitted default (bounds.clamp default))
  | decimal default bounds places =>
    exact congrArg Value.decimal
      (Slot.value_reset_fitted default (Setting.fitDecimal bounds places default))
  | choice default key =>
    refine congrArg Value.choice (Slot.value_reset ?_)
    rw [beq_eq_false_iff_ne]
    exact em _

namespace Property

variable {p q : Property} {document other : Document} {entry : Json} {m : Malformed}

/-! ### What a property makes of its entry -/

/-- The property with what the document holds for it, or as it was where that
is refused. -/
def taken (document : Document) (p : Property) : Property := (p.take document).toOption.getD p

/-- Why the property refuses what the document holds for it, if it does. -/
def refusal? (document : Document) (p : Property) : Option Malformed :=
  match p.take document with
  | .ok _ => none
  | .error m => some m

/-- A property takes what it loads, and stays as it is where there is nothing. -/
theorem take_eq_ok_iff : p.take document = .ok q ↔
    (∀ entry, Fields.get? p.field document = some entry → p.load entry = .ok q) ∧
      (Fields.get? p.field document = none → q = p) := by
  unfold take
  cases Fields.get? p.field document <;> simp [eq_comm]

theorem exists_take_iff : (∃ q, p.take document = .ok q) ↔
    ∀ entry, Fields.get? p.field document = some entry → ∃ q, p.load entry = .ok q := by
  unfold take
  cases Fields.get? p.field document <;> simp

theorem refusal?_eq_none_iff :
    p.refusal? document = none ↔ ∃ q, p.take document = .ok q := by
  unfold refusal?
  cases p.take document <;> simp

/-- Only an entry can be refused. -/
theorem refusal?_eq_some_iff : p.refusal? document = some m ↔
    ∃ entry, Fields.get? p.field document = some entry ∧ p.load entry = .error m := by
  unfold refusal? take
  cases Fields.get? p.field document with
  | none => simp
  | some entry => cases hl : p.load entry <;> simp [hl]

/-- A refusal names the field. -/
theorem field_of_load (h : p.load entry = .error m) : m.field = p.field := by
  unfold load at h
  split at h
  · cases h
    rfl
  · cases h

/-- The order of the document does not matter. -/
theorem take_perm (hn : (Fields.keys document).Nodup) (h : other.Perm document) (p : Property) :
    p.take other = p.take document := by
  unfold take
  rw [Fields.get?_perm hn h.symm]

end Property

namespace Configuration

/-- What a function finds in a list goes with the members in which it finds
something, in order. -/
theorem forall₂_filterMap {α β : Type} {f : α → Option β} {R : α → β → Prop}
    (h : ∀ a b, f a = some b → R a b) (as : List α) :
    List.Forall₂ R (as.filter fun a => (f a).isSome) (as.filterMap f) := by
  induction as with
  | nil => exact .nil
  | cons a rest ih =>
    rw [List.filter_cons, List.filterMap_cons]
    cases hf : f a with
    | none => exact ih
    | some b => exact .cons (h a b hf) ih

/-! ### Loading all properties -/

variable {properties : List Property} {document : Document}

/-- **Loading is pointwise**: no entry is missed, used twice, or taken for
another field. -/
theorem loadAll_eq (hp : (properties.map (·.field)).Nodup) (hd : (Fields.keys document).Nodup) :
    (loadAll properties document).properties = properties.map (·.taken document) ∧
      (loadAll properties document).malformed = properties.filterMap (·.refusal? document) := by
  induction properties generalizing document with
  | nil => exact ⟨rfl, rfl⟩
  | cons p rest ih =>
    rw [List.map_cons, List.nodup_cons] at hp
    -- the others find in what is left what they would find in the document
    have htake : ∀ r ∈ rest, r.take (Fields.swapErase p.field document) = r.take document := by
      intro r hr
      apply take_swapErase hd
      intro he
      exact hp.1 (he ▸ List.mem_map_of_mem hr)
    have hrest : (Fields.keys (Fields.swapErase p.field document)).Nodup :=
      Fields.nodup_keys_swapErase hd
    obtain ⟨hproperties, hmalformed⟩ := ih hp.2 hrest
    have htaken : rest.map (·.taken (Fields.swapErase p.field document))
        = rest.map (·.taken document) :=
      List.map_congr_left fun r hr => by rw [Property.taken, Property.taken, htake r hr]
    have hrefused : rest.filterMap (·.refusal? (Fields.swapErase p.field document))
        = rest.filterMap (·.refusal? document) :=
      List.filterMap_congr fun r hr => by rw [Property.refusal?, Property.refusal?, htake r hr]
    rw [htaken] at hproperties
    rw [hrefused] at hmalformed
    rw [loadAll_cons, List.map_cons, List.filterMap_cons]
    cases ht : p.take document with
    | ok q =>
      have hq : p.taken document = q := by rw [Property.taken, ht]; rfl
      have hnone : p.refusal? document = none := by rw [Property.refusal?, ht]
      simp only [hq, hnone, hproperties, hmalformed, and_self]
    | error m =>
      have hself : p.taken document = p := by rw [Property.taken, ht]; rfl
      have hsome : p.refusal? document = some m := by rw [Property.refusal?, ht]
      simp only [hself, hsome, hproperties, hmalformed, and_self]

/-! ### Reading -/

variable {schema : Schema} {tree : FileTree} {registry : Registry} {language : Language}
  {path name : String}

/-- The refusals of a document, in the order of the specifications. -/
def refusals (schema : Schema) (language : Language) (document : Document) : List Malformed :=
  schema.properties.filterMap fun spec =>
    (freshProperty schema.enums language spec).refusal? document

/-- Reading as a function of what the document holds under each field. -/
theorem map_properties_read (language : Language) (hs : registry.get name = .ok schema)
    (hn : (schema.properties.map (·.field)).Nodup) (hd : Document.read tree path = .ok document) :
    (read tree registry language path name).map (·.properties) =
      if refusals schema language document = [] then
        .ok (schema.properties.map fun spec =>
          (freshProperty schema.enums language spec).taken document)
      else .error (.invalidValues path (refusals schema language document)) := by
  have hfields : ((ofDefaults name schema language).properties.map (·.field)).Nodup := by
    rwa [fields_ofDefaults]
  have hfresh : (ofDefaults name schema language).properties
      = schema.properties.map (freshProperty schema.enums language) := rfl
  obtain ⟨hproperties, hmalformed⟩ := loadAll_eq hfields (nodup_keys_of_read hd)
  have hrefusals : (loadAll (ofDefaults name schema language).properties document).malformed
      = refusals schema language document := by
    rw [hmalformed, hfresh, List.filterMap_map]
    rfl
  rw [read, hs]
  simp only [readWith, hd, ofDocument, hrefusals]
  split
  · show Except.ok (loadAll _ document).properties = _
    rw [hproperties, hfresh, List.map_map]
    rfl
  · rfl

end Configuration

/-- What the property of a specification is after a document has been read:
what it loads from its entry, or where it has none a fresh one with its default;
and nothing is enforced. -/
structure PropertySpec.ReadAs (enums : Fields (List String)) (language : Language)
    (document : Document) (spec : PropertySpec) (p : Property) : Prop where
  loaded : ∀ entry, Fields.get? spec.field document = some entry →
    (Configuration.freshProperty enums language spec).load entry = .ok p
  fresh : Fields.get? spec.field document = none →
    p = Configuration.freshProperty enums language spec ∧ p.value = p.default
  override_eq : p.override = none

/-- The entry of the specification is refused, and the refusal says so. -/
structure PropertySpec.RefusedAs (enums : Fields (List String)) (language : Language)
    (document : Document) (spec : PropertySpec) (m : Malformed) : Prop where
  field_eq : m.field = spec.field
  refused : ∃ entry, Fields.get? spec.field document = some entry ∧
    (Configuration.freshProperty enums language spec).load entry = .error m

namespace Configuration

variable {schema : Schema} {tree : FileTree} {registry : Registry} {language : Language}
  {path name : String} {document : Document}

/-- What is taken without a refusal is what should be read. -/
theorem readAs_taken {spec : PropertySpec}
    (h : (freshProperty schema.enums language spec).refusal? document = none) :
    spec.ReadAs schema.enums language document
      ((freshProperty schema.enums language spec).taken document) := by
  obtain ⟨q, hq⟩ := Property.refusal?_eq_none_iff.mp h
  have htaken : (freshProperty schema.enums language spec).taken document = q := by
    rw [Property.taken, hq]
    rfl
  obtain ⟨hload, hnone⟩ := Property.take_eq_ok_iff.mp hq
  rw [htaken]
  refine ⟨hload, fun hfield => ?_, ?_⟩
  · have hfresh := hnone hfield
    rw [hfresh]
    exact ⟨rfl, spec.domain.value_fresh schema.enums⟩
  · cases hentry : Fields.get? spec.field document with
    | none => rw [hnone hentry]; rfl
    | some entry =>
      obtain ⟨-, w, -, -, rfl⟩ := Property.load_eq_ok_iff.mp (hload entry hentry)
      rfl

/-- Nothing is refused exactly if every entry is loaded. -/
theorem refusals_eq_nil_iff : refusals schema language document = [] ↔
    ∀ spec ∈ schema.properties, ∀ entry, Fields.get? spec.field document = some entry →
      ∃ q, (freshProperty schema.enums language spec).load entry = .ok q := by
  rw [refusals, List.filterMap_eq_nil_iff]
  refine forall₂_congr fun spec _ => ?_
  rw [Property.refusal?_eq_none_iff, Property.exists_take_iff]
  rfl

/-- The order of the document does not matter to any property. -/
theorem refusals_perm (schema : Schema) (language : Language) {other : Document}
    (hn : (Fields.keys document).Nodup) (h : other.Perm document) :
    refusals schema language other = refusals schema language document ∧
      ∀ spec : PropertySpec, (freshProperty schema.enums language spec).taken other
        = (freshProperty schema.enums language spec).taken document := by
  refine ⟨List.filterMap_congr fun spec _ => ?_, fun spec => ?_⟩
  · rw [Property.refusal?, Property.refusal?, Property.take_perm hn h]
  · rw [Property.taken, Property.taken, Property.take_perm hn h]

/-- One refusal for each specification whose entry is refused, in order. -/
theorem forall₂_refusals (schema : Schema) (language : Language) (document : Document) :
    List.Forall₂ (PropertySpec.RefusedAs schema.enums language document)
      (schema.properties.filter fun spec =>
        ((freshProperty schema.enums language spec).refusal? document).isSome)
      (refusals schema language document) := by
  refine forall₂_filterMap ?_ schema.properties
  intro spec m hm
  obtain ⟨entry, hentry, hload⟩ := Property.refusal?_eq_some_iff.mp hm
  exact ⟨Property.field_of_load hload, entry, hentry, hload⟩

/-- **Reading is pointwise.**  For a schema with different fields and a file
that holds a document, in which the last value of each name counts:  the file
is read exactly if each property whose field is in the document loads its
entry.  Then each property is what it loads, or has its default where there is
no entry, and nothing is enforced.  Otherwise the error has one refusal for
each property whose entry is refused, in the order of the schema.  A file with
the same entries in another order gives the same properties or the same error. -/
theorem read_pointwise (language : Language) (hs : registry.get name = .ok schema)
    (hn : (schema.properties.map (·.field)).Nodup) (hd : Document.read tree path = .ok document) :
    (∃ text entries, tree.readText path = .ok text ∧ Document.written? text = some entries ∧
      ∀ key, Fields.get? key document = Fields.get? key entries.reverse) ∧
    ((∃ c, read tree registry language path name = .ok c) ↔
      ∀ spec ∈ schema.properties, ∀ entry, Fields.get? spec.field document = some entry →
        ∃ q, (freshProperty schema.enums language spec).load entry = .ok q) ∧
    (∀ c, read tree registry language path name = .ok c →
      List.Forall₂ (PropertySpec.ReadAs schema.enums language document)
        schema.properties c.properties) ∧
    ((¬ ∃ c, read tree registry language path name = .ok c) →
      ∃ malformed, read tree registry language path name = .error (.invalidValues path malformed) ∧
        List.Forall₂ (PropertySpec.RefusedAs schema.enums language document)
          (schema.properties.filter fun spec =>
            ((freshProperty schema.enums language spec).refusal? document).isSome)
          malformed) ∧
    ∀ tree' document', Document.read tree' path = .ok document' → document'.Perm document →
      (read tree' registry language path name).map (·.properties)
        = (read tree registry language path name).map (·.properties) := by
  have hread := map_properties_read language hs hn hd
  have hiff : (∃ c, read tree registry language path name = .ok c) ↔
      refusals schema language document = [] := by
    constructor
    · rintro ⟨c, hc⟩
      by_contra hne
      rw [hc, if_neg hne] at hread
      cases hread
    · intro hnil
      rw [if_pos hnil] at hread
      obtain ⟨c, hc, -⟩ := InPlace.exists_of_map_eq_ok hread
      exact ⟨c, hc⟩
  refine ⟨?_, hiff.trans refusals_eq_nil_iff, ?_, ?_, ?_⟩
  · obtain ⟨text, htext, hdocument⟩ := Document.exists_of_read hd
    obtain ⟨entries, hentries, rfl⟩ := Document.written?_of_ofText hdocument
    exact ⟨text, entries, htext, hentries, fun key => Fields.get?_ofList key entries⟩
  · intro c hc
    have hnil := hiff.mp ⟨c, hc⟩
    rw [hc, if_pos hnil] at hread
    have hproperties : c.properties = _ := Except.ok.inj hread
    rw [hproperties, List.forall₂_map_right_iff, List.forall₂_same]
    exact fun spec hm => readAs_taken (List.filterMap_eq_nil_iff.mp hnil spec hm)
  · intro hno
    refine ⟨refusals schema language document, ?_, forall₂_refusals schema language document⟩
    rw [if_neg (mt hiff.mpr hno)] at hread
    cases hr : read tree registry language path name with
    | ok c => exact absurd ⟨c, hr⟩ hno
    | error e =>
      rw [hr] at hread
      exact congrArg _ (Except.error.inj hread)
  · intro tree' document' hd' hperm
    obtain ⟨hrefusals, htaken⟩ :=
      refusals_perm schema language (nodup_keys_of_read hd) hperm
    rw [hread, map_properties_read language hs hn hd', hrefusals]
    simp only [htaken]

/-- A file with a value that is out of bounds, one of another kind, and a
choice that is none. -/
def refusedTree : FileTree :=
  ⟨[(["a.json5"], .file ("\x7b\"menu\": \"n64\", \"fov\": 500, \"x\": 1, " ++
      "\"braid\": 1\x7d").toUTF8)],
    by decide⟩

/-- The first is brought within its bounds, and the others are refused in the
order of the schema. -/
theorem read_pointwise_refusedTree :
    Registry.get [("sample", sampleSchema)] "sample" = .ok sampleSchema ∧
      (sampleSchema.properties.map (·.field)).Nodup ∧
      ∃ document, Document.read refusedTree "/a.json5" = .ok document ∧
        ∃ malformed, read refusedTree [("sample", sampleSchema)] [] "/a.json5" "sample"
            = .error (.invalidValues "/a.json5" malformed) ∧
          malformed.map (·.field) = ["braid", "menu"] := by
  have hs : Registry.get [("sample", sampleSchema)] "sample" = .ok sampleSchema := rfl
  have hn : (sampleSchema.properties.map (·.field)).Nodup := by decide
  have hrefused : (Document.read refusedTree "/a.json5").toOption.map (fun document =>
      (sampleSchema.properties.filter fun spec =>
        ((freshProperty sampleSchema.enums [] spec).refusal? document).isSome).map (·.field))
      = some ["braid", "menu"] := by decide +kernel
  have hfails : (read refusedTree [("sample", sampleSchema)] [] "/a.json5" "sample").isOk
      = false := by decide +kernel
  obtain ⟨document, hd, hfields⟩ := exists_ok_of_toOption hrefused
  obtain ⟨-, -, -, herror, -⟩ := read_pointwise [] hs hn hd
  obtain ⟨malformed, hread, hmalformed⟩ := herror fun ⟨c, hc⟩ => by
    rw [hc] at hfails
    cases hfails
  refine ⟨hs, hn, document, hd, malformed, hread, ?_⟩
  rw [← hfields]
  exact map_eq_map_of_forall₂ (hmalformed.flip.imp fun _ _ h => h.field_eq)

end Configuration

end Settings
