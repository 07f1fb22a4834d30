/-
Settings/Proofs/Overrides.lean

What enforcing a file makes of a configuration.  It is done in two passes: the
first decodes the entries and the second goes through the properties and these
values side by side.  The first pass leaves out what it cannot decode,

    (decodeAll entries properties).1
      =  (properties.filter (!·.rejects entries)).map (·.decoded? entries)

so the values stand beside their own properties only if there is nothing to
leave out, and else there is no second pass.  In the second pass what is told
about a property is the difference between what it was and what it is
(`changes_of_setOverride`), so what is told in all is the difference between
the two configurations.

The main statement is `applyEnforced_pointwise`.  It is about any configuration
and does not ask for a schema.
-/
import Settings.Proofs.Entries
import Settings.Proofs.Reloading

namespace Settings

/-! ### What a file enforces -/

/-- The file enforces the entries: those of the member if the file is there and
has it, and else none. -/
inductive Document.Enforces (tree : FileTree) (path : String) : Document → Prop
  | noFile {missing : String} (h : Document.read tree path = .error (.fileNotFound missing)) :
    Enforces tree path []
  | noMember {document : Document} (hd : Document.read tree path = .ok document)
    (h : Fields.get? enforcedKey document = none) : Enforces tree path []
  | member {document entries : Document} (hd : Document.read tree path = .ok document)
    (h : Fields.get? enforcedKey document = some (.object entries)) : Enforces tree path entries

theorem Document.readEnforced_eq_ok_iff {tree : FileTree} {path : String} {entries : Document} :
    readEnforced tree path = .ok entries ↔ Enforces tree path entries := by
  constructor
  · intro h
    unfold readEnforced at h
    split at h
    next missing hd =>
      cases h
      exact .noFile hd
    next => cases h
    next document hd =>
      unfold enforced at h
      split at h
      next hmember =>
        cases h
        exact .noMember hd hmember
      next hmember =>
        cases h
        exact .member hd hmember
      next => cases h
  · intro h
    cases h with
    | noFile hd => simp only [readEnforced, hd]
    | noMember hd hmember => simp only [readEnforced, hd, enforced, hmember]
    | member hd hmember => simp only [readEnforced, hd, enforced, hmember]

namespace Property

variable {p q : Property} {entries : Document} {entry : Json} {m : Malformed}

/-! ### Decoding -/

/-- The entries hold something for the property that it cannot decode. -/
def rejects (entries : Document) (p : Property) : Bool :=
  (Fields.get? p.field entries).any fun entry => !(p.decode entry).isOk

/-- The value that the entries hold for the property, if there is one. -/
def decoded? (entries : Document) (p : Property) : Option Value :=
  (Fields.get? p.field entries).bind fun entry => (p.decode entry).toOption

/-- What cannot be decoded is what cannot be loaded, for the same reason. -/
theorem decode_eq_error_iff : p.decode entry = .error m ↔ p.load entry = .error m := by
  unfold decode load
  cases p.setting.decode entry with
  | error mismatch => simp [Except.bind]
  | ok v =>
    simp only [Except.bind, Setting.fit]
    cases p.setting.store v <;> simp [Except.map]

theorem isSome_refusal? : (p.refusal? entries).isSome = p.rejects entries := by
  unfold refusal? take rejects
  cases Fields.get? p.field entries with
  | none => rfl
  | some entry =>
    rw [Option.any_some]
    dsimp only
    cases hd : p.decode entry with
    | error m =>
      rw [decode_eq_error_iff.mp hd]
      rfl
    | ok u =>
      cases hl : p.load entry with
      | ok q => rfl
      | error m => cases (decode_eq_error_iff.mpr hl).symm.trans hd

/-! ### The difference that is told -/

/-- The difference between the enforced values of a property before and after:
whether there is another one, and whether there is one. -/
def overrideDiff (p q : Property) : List Change :=
  (if p.override == q.override then [] else [⟨p.field, .override⟩]) ++
    if p.isEnabled = q.isEnabled then [] else [⟨p.field, .enabled⟩]

/-- A value that equals something equals itself, and none does. -/
theorem override_beq_self {next : Option Value} (h : (p.override == next) = true) :
    (p.override == p.override) = true := by
  cases ho : p.override with
  | none => rfl
  | some v =>
    rw [ho] at h
    cases next with
    | none => cases h
    | some w => exact Value.beq_self_of_beq (v := w) h

theorem changes_withOverride (p : Property) (next : Option Value) :
    (p.withOverride next).2 = p.overrideDiff (p.withOverride next).1 := by
  unfold withOverride overrideChanges overrideDiff
  by_cases heq : (p.override == next) = true
  · rw [if_pos heq, if_pos heq, override_beq_self heq, if_pos rfl, if_pos rfl, List.append_nil]
  · rw [if_neg heq, if_neg heq]
    show _ = (if (p.override == next) = true then [] else _) ++
      if p.override.isNone = next.isNone then _ else _
    rw [if_neg heq, List.singleton_append]

/-- What enforcing tells is the difference. -/
theorem changes_of_setOverride {value : Option Value} {changes : List Change}
    (h : p.setOverride value = .ok (q, changes)) : changes = p.overrideDiff q := by
  obtain ⟨next, hnext⟩ : ∃ next, p.withOverride next = (q, changes) := by
    unfold setOverride at h
    split at h
    next => exact ⟨none, Except.ok.inj h⟩
    next =>
      split at h
      · cases h
      next fitted _ => exact ⟨some fitted, Except.ok.inj h⟩
  have hchanges := changes_withOverride p next
  rwa [hnext] at hchanges

theorem eq_of_setOverride_none {changes : List Change}
    (h : p.setOverride none = .ok (q, changes)) : q = { p with override := none } := by
  have hq : (p.withOverride none).1 = q := congrArg Prod.fst (Except.ok.inj h)
  have hnone : q.override = none := hq ▸ override_withOverride_none p
  have hbare : q.bare = p.bare := bare_of_setOverride h
  rw [← bare_eq_self hnone, hbare, bare]

/-- What a property is after the entries have been enforced: what enforcing its
own entry on it alone would leave, or without an enforced value where it has no
entry; and otherwise as it was. -/
structure EnforcedAs (entries : Document) (p q : Property) : Prop where
  named : ∀ entry, Fields.get? p.field entries = some entry →
    ∃ u changes, p.decode entry = .ok u ∧ p.setOverride (some u) = .ok (q, changes)
  unnamed : Fields.get? p.field entries = none → q = { p with override := none }
  bare_eq : q.bare = p.bare

/-- The entry of the property cannot be decoded, and the refusal says so. -/
structure RejectedAs (entries : Document) (p : Property) (m : Malformed) : Prop where
  field_eq : m.field = p.field
  rejected : ∃ entry, Fields.get? p.field entries = some entry ∧ p.decode entry = .error m

/-- Enforcing what has been decoded. -/
theorem enforcedAs_of_setOverride {changes : List Change} (hr : p.rejects entries = false)
    (h : p.setOverride (p.decoded? entries) = .ok (q, changes)) : EnforcedAs entries p q where
  named := by
    intro entry hentry
    rw [rejects, hentry, Option.any_some] at hr
    rw [decoded?, hentry, Option.bind_some] at h
    cases hu : p.decode entry with
    | error m =>
      rw [hu] at hr
      cases hr
    | ok u =>
      rw [hu] at h
      exact ⟨u, changes, rfl, h⟩
  unnamed := by
    intro hentry
    rw [decoded?, hentry, Option.bind_none] at h
    exact eq_of_setOverride_none h
  bare_eq := bare_of_setOverride h

theorem rejectedAs_of_refusal? (h : p.refusal? entries = some m) : RejectedAs entries p m := by
  obtain ⟨entry, hentry, hload⟩ := refusal?_eq_some_iff.mp h
  exact ⟨field_of_load hload, entry, hentry, decode_eq_error_iff.mpr hload⟩

end Property

namespace Configuration

variable {properties after : List Property} {entries others : Document}

/-! ### The two passes -/

/-- The first pass: the values of those that can be decoded, and the refusals
of the others. -/
theorem decodeAll_eq (entries : Document) (properties : List Property) :
    decodeAll entries properties =
      ((properties.filter (!·.rejects entries)).map (·.decoded? entries),
        properties.filterMap (·.refusal? entries)) := by
  induction properties with
  | nil => rfl
  | cons p rest ih =>
    rw [decodeAll, ih, List.filter_cons, List.filterMap_cons, ← Property.isSome_refusal?]
    cases hentry : Fields.get? p.field entries with
    | none =>
      have hrefusal : p.refusal? entries = none :=
        Property.refusal?_eq_none_iff.mpr ⟨p, Property.take_eq_ok_iff.mpr (by simp [hentry])⟩
      have hdecoded : p.decoded? entries = none := by rw [Property.decoded?, hentry]; rfl
      simp [hrefusal, hdecoded]
    | some entry =>
      cases hd : p.decode entry with
      | error m =>
        have hrefusal : p.refusal? entries = some m :=
          Property.refusal?_eq_some_iff.mpr ⟨entry, hentry, Property.decode_eq_error_iff.mp hd⟩
        simp [hrefusal, hd]
      | ok u =>
        have hrefusal : p.refusal? entries = none := by
          rw [← Option.not_isSome_iff_eq_none, Property.isSome_refusal?, Property.rejects, hentry,
            Option.any_some, hd]
          exact Bool.false_ne_true
        have hdecoded : p.decoded? entries = some u := by
          rw [Property.decoded?, hentry, Option.bind_some, hd]
          rfl
        simp [hrefusal, hdecoded, hd]

/-- The first pass looks only at the entries that the properties name. -/
theorem decodeAll_congr
    (h : ∀ p ∈ properties, Fields.get? p.field others = Fields.get? p.field entries) :
    decodeAll others properties = decodeAll entries properties := by
  induction properties with
  | nil => rfl
  | cons p rest ih =>
    obtain ⟨hp, hrest⟩ := List.forall_mem_cons.mp h
    rw [decodeAll, decodeAll, ih hrest, hp]

/-- The second pass: each property takes its own value, and the difference is
told. -/
theorem forall₂_of_enforceAll {value : Property → Option Value} {changes : List Change}
    (h : enforceAll properties (properties.map value) = (.ok changes, after)) :
    List.Forall₂ (fun p q => ∃ told, p.setOverride (value p) = .ok (q, told)) properties after ∧
      changes = (List.zipWith Property.overrideDiff properties after).flatten := by
  induction properties generalizing changes after with
  | nil =>
    cases h
    exact ⟨.nil, rfl⟩
  | cons p rest ih =>
    obtain ⟨q, first, more, after, hq, hrest, rfl, rfl⟩ := enforceAll_cons_eq_ok_iff.mp h
    obtain ⟨hall, rfl⟩ := ih hrest
    refine ⟨.cons ⟨first, hq⟩ hall, ?_⟩
    rw [List.zipWith_cons_cons, List.flatten_cons, Property.changes_of_setOverride hq]

/-! ### Enforcing -/

variable {c d : Configuration} {tree tree' : FileTree} {path : String}

theorem applyEnforced_of_enforces (h : Document.Enforces tree path entries) :
    c.applyEnforced tree path = c.enforce path entries := by
  simp only [applyEnforced, Document.readEnforced_eq_ok_iff.mpr h]

/-- What is enforced when it is enforced. -/
theorem enforced_of_enforce {changes : List Change}
    (h : c.enforce path entries = (.ok changes, d)) :
    List.Forall₂ (Property.EnforcedAs entries) c.properties d.properties ∧
      d = { c with properties := d.properties } ∧
      changes = (List.zipWith Property.overrideDiff c.properties d.properties).flatten := by
  rw [enforce, decodeAll_eq] at h
  dsimp only at h
  split at h
  next hnil =>
    have hkeeps : ∀ p ∈ c.properties, p.rejects entries = false := by
      intro p hp
      rw [← Property.isSome_refusal?, List.filterMap_eq_nil_iff.mp hnil p hp]
      rfl
    -- nothing is left out, so the values stand beside their properties
    have hall : c.properties.filter (!·.rejects entries) = c.properties :=
      List.filter_eq_self.mpr fun p hp => by rw [hkeeps p hp]; rfl
    rw [hall] at h
    cases he : enforceAll c.properties (c.properties.map (·.decoded? entries)) with
    | mk result after =>
      rw [he] at h
      cases result with
      | error e => cases h
      | ok told =>
        cases h
        obtain ⟨hpairs, hchanges⟩ := forall₂_of_enforceAll he
        refine ⟨?_, rfl, hchanges⟩
        refine ((List.forall₂_and_left ..).mpr ⟨hkeeps, hpairs⟩).imp ?_
        intro p q h
        obtain ⟨hr, told, hq⟩ := h
        exact Property.enforcedAs_of_setOverride hr hq
  next => cases h

/-- What is refused when something cannot be decoded. -/
theorem rejected_of_enforce (h : ∃ p ∈ c.properties, p.rejects entries = true) :
    ∃ malformed, c.enforce path entries = (.error (.invalidValues path malformed), c) ∧
      List.Forall₂ (Property.RejectedAs entries)
        (c.properties.filter (·.rejects entries)) malformed := by
  refine ⟨c.properties.filterMap (·.refusal? entries), ?_, ?_⟩
  · have hne : c.properties.filterMap (·.refusal? entries) ≠ [] := by
      intro hnil
      obtain ⟨p, hp, hr⟩ := h
      rw [← Property.isSome_refusal?, List.filterMap_eq_nil_iff.mp hnil p hp] at hr
      cases hr
    rw [enforce, decodeAll_eq]
    dsimp only
    rw [if_neg hne]
  · simp only [← Property.isSome_refusal?]
    exact forall₂_filterMap (fun p m => Property.rejectedAs_of_refusal?) c.properties

/-- **Enforcing a file is pointwise.**  If it succeeds, then each property that
the file names is as enforcing its entry on it alone would leave it; each other
property has no enforced value; values, baseline, path and unknown entries are
as they were; and the changes are, in the order of the properties, that a
property has another enforced value, then that it can or cannot be edited any
more, each told exactly if it is so.  If an entry cannot be decoded the error
has one refusal for each such property, in order.  Names that no property has
make no difference. -/
theorem applyEnforced_pointwise (c : Configuration) (tree : FileTree) (path : String) :
    (∀ changes d, c.applyEnforced tree path = (.ok changes, d) →
      ∃ entries, Document.Enforces tree path entries ∧
        List.Forall₂ (Property.EnforcedAs entries) c.properties d.properties ∧
        d = { c with properties := d.properties } ∧
        changes = (List.zipWith Property.overrideDiff c.properties d.properties).flatten) ∧
    (∀ entries, Document.Enforces tree path entries →
      (∃ p ∈ c.properties, p.rejects entries = true) →
      ∃ malformed, c.applyEnforced tree path = (.error (.invalidValues path malformed), c) ∧
        List.Forall₂ (Property.RejectedAs entries)
          (c.properties.filter (·.rejects entries)) malformed) ∧
    ∀ tree' entries others, Document.Enforces tree path entries →
      Document.Enforces tree' path others →
      (∀ p ∈ c.properties, Fields.get? p.field others = Fields.get? p.field entries) →
      c.applyEnforced tree' path = c.applyEnforced tree path := by
  refine ⟨?_, ?_, ?_⟩
  · intro changes d h
    cases hentries : Document.readEnforced tree path with
    | error e =>
      simp only [applyEnforced, hentries] at h
      cases h
    | ok entries =>
      have henforces := Document.readEnforced_eq_ok_iff.mp hentries
      rw [applyEnforced_of_enforces henforces] at h
      exact ⟨entries, henforces, enforced_of_enforce h⟩
  · intro entries henforces hrejects
    rw [applyEnforced_of_enforces henforces]
    exact rejected_of_enforce hrejects
  · intro tree' entries others henforces hothers hsame
    rw [applyEnforced_of_enforces henforces, applyEnforced_of_enforces hothers, enforce, enforce,
      decodeAll_congr hsame]

/-- A file that enforces two values of the sample and something unknown. -/
def overridingTree : FileTree :=
  ⟨[(["a.json5"], .file ("\x7b\"enforced_config\": \x7b\"fov\": 500, \"x\": 1, " ++
      "\"braid\": true\x7d\x7d").toUTF8)],
    by decide⟩

/-- The two are enforced, and the choice that was enforced before is not. -/
theorem applyEnforced_pointwise_sampleEdited :
    ∃ changes d, sampleEdited.applyEnforced overridingTree "/a.json5" = (.ok changes, d) ∧
      d.properties.map (·.override) = [none, some (.boolean true), some (.integer 150), none] ∧
      changes = (List.zipWith Property.overrideDiff sampleEdited.properties d.properties).flatten ∧
      changes = ["braid", "fov", "menu"].flatMap fun field =>
        [⟨field, .override⟩, ⟨field, .enabled⟩] := by
  have hresult : (sampleEdited.applyEnforced overridingTree "/a.json5").1.toOption
      = some (["braid", "fov", "menu"].flatMap fun field =>
          [⟨field, .override⟩, ⟨field, .enabled⟩]) := by decide +kernel
  have hoverrides : (sampleEdited.applyEnforced overridingTree "/a.json5").2.properties.map
      (·.override) = [none, some (.boolean true), some (.integer 150), none] := by decide +kernel
  cases h : sampleEdited.applyEnforced overridingTree "/a.json5" with
  | mk result d =>
    rw [h] at hresult hoverrides
    cases result with
    | error e => cases hresult
    | ok changes =>
      obtain ⟨-, -, -, -, hdiff⟩ :=
        (applyEnforced_pointwise sampleEdited overridingTree "/a.json5").1 changes d h
      exact ⟨changes, d, rfl, hoverrides, hdiff, Option.some.inj hresult⟩

end Configuration

end Settings
