/-
Settings/Proofs/Operation.lean

Runs of operations on a configuration.  `Configuration.perform` does one
operation; where it fails it leaves what the failure leaves.  A configuration
is `Reachable` with a schema if it comes out of the defaults or out of a
successful reading by operations in any order, with any arguments and with
any files at the time.

Apart from reading again and writing, one operation edits properties in their
places and does nothing else (`edited_perform`).

The main statement is that no run changes anything about the properties but
their values (`Reachable.conforms`): they are edits of the properties that the
schema gives at first, one for one.
-/
import Mathlib.Data.List.Forall2
import Settings.Proofs.Edit
import Settings.Configuration

namespace Settings

/-- What can be done to a configuration. -/
inductive Operation where
  | setValue (field : String) (value : Value)
  | setOverride (field : String) (value : Option Value)
  | applyEnforced (tree : FileTree) (path : String)
  | restoreDefaults
  | reload (tree : FileTree)
  | write (tree : FileTree) (path : String)
  /-- Puts what an entry of a document holds into one property. -/
  | load (field : String) (entry : Json)
  /-- Puts one property back to its default. -/
  | restoreDefault (field : String)

/-- Whether the file is read again, and its further entries with it. -/
def Operation.rereads : Operation → Bool
  | .reload _ => true
  | _ => false

namespace Configuration

/-- What an operation leaves that fails without effect. -/
def orOld {α : Type} (c : Configuration) (result : Except Error α)
    (new : α → Configuration) : Configuration :=
  match result with
  | .ok result => new result
  | .error _ => c

/-- The configuration after an operation, be it successful or not. -/
def perform (c : Configuration) : Operation → Configuration
  | .setValue field value => c.orOld (c.setValue field value) (·.1)
  | .setOverride field value => c.orOld (c.setOverride field value) (·.1)
  | .applyEnforced tree path => (c.applyEnforced tree path).2
  | .restoreDefaults => c.restoreDefaults.1
  | .reload tree => c.orOld (c.reload tree) id
  | .write tree path => c.orOld (c.write tree path) (·.2.1)
  | .load field entry => c.orOld (c.modify field fun p => (p.load entry).map (·, ())) (·.1)
  | .restoreDefault field => c.orOld (c.modify field fun p => .ok p.restoreDefault) (·.1)

/-- The configuration after operations, one after another. -/
def performAll (c : Configuration) (operations : List Operation) : Configuration :=
  operations.foldl perform c

/-- The configurations that operations can lead to. -/
inductive Reachable (schema : Schema) : Configuration → Prop
  | defaults (name : String) (language : Language) :
      Reachable schema (ofDefaults name schema language)
  | read {tree : FileTree} {name path : String} {language : Language} {c : Configuration} :
      readWith tree name schema language path = .ok c → Reachable schema c
  | perform {c : Configuration} (operation : Operation) :
      Reachable schema c → Reachable schema (c.perform operation)

/-! ### Lists of properties -/

/-- Lists whose items have the same image one by one have the same image. -/
theorem map_eq_map_of_forall₂ {α β γ : Type} {f : α → γ} {g : β → γ} {as : List α} {bs : List β}
    (h : List.Forall₂ (fun a b => f a = g b) as bs) : as.map f = bs.map g := by
  rwa [← List.forall₂_eq_eq_eq, List.forall₂_map_left_iff, List.forall₂_map_right_iff]

/-- Where two lists go together, relations that come to the same there hold of
the lists alike. -/
theorem iff_of_forall₂ {α β : Type} {S R T : α → β → Prop} {as : List α} {bs : List β}
    (h : List.Forall₂ S as bs) (hiff : ∀ a b, S a b → (R a b ↔ T a b)) :
    List.Forall₂ R as bs ↔ List.Forall₂ T as bs := by
  induction h with
  | nil => simp
  | cons hab _ ih => rw [List.forall₂_cons, List.forall₂_cons, ih, hiff _ _ hab]

/-- Where a relation holds of two lists exactly as a property of the first says. -/
theorem forall₂_and_iff {α β : Type} {F R : α → β → Prop} {P : α → Prop} {as : List α}
    {bs : List β} (h : List.Forall₂ (fun a b => F a b ∧ (R a b ↔ P a)) as bs) :
    List.Forall₂ (fun a b => F a b ∧ R a b) as bs ↔ ∀ a ∈ as, P a := by
  induction h with
  | nil => simp
  | cons hab _ ih => rw [List.forall₂_cons, ih, List.forall_mem_cons, hab.2, and_iff_right hab.1]

/-- Two lists that go together also do so by another relation exactly if each
member of the second says so. -/
theorem forall₂_iff_right {α β : Type} {S R : α → β → Prop} {P : β → Prop} {as : List α}
    {bs : List β} (h : List.Forall₂ S as bs) (hiff : ∀ a b, S a b → (R a b ↔ P b)) :
    List.Forall₂ R as bs ↔ ∀ b ∈ bs, P b := by
  induction h with
  | nil => simp
  | cons hab _ ih => rw [List.forall₂_cons, ih, List.forall_mem_cons, hiff _ _ hab]

/-- What goes with something by a relation has what follows from it. -/
theorem forall_mem_of_forall₂ {α β : Type} {R : α → β → Prop} {P : β → Prop} {as : List α}
    {bs : List β} (h : List.Forall₂ R as bs) (hP : ∀ a b, R a b → P b) : ∀ b ∈ bs, P b :=
  (forall₂_iff_right h fun a b hab => iff_of_true hab (hP a b hab)).mp h

/-- The second list holds edits of the properties of the first. -/
abbrev Edits : List Property → List Property → Prop := List.Forall₂ Property.Edit

theorem Edits.refl (properties : List Property) : Edits properties properties :=
  List.forall₂_same.mpr fun p _ => Property.Edit.refl p

theorem Edits.trans {ps qs rs : List Property} (h : Edits ps qs) (h' : Edits qs rs) :
    Edits ps rs := by
  induction h generalizing rs with
  | nil =>
    cases h'
    exact .nil
  | cons hpq _ ih =>
    cases h' with
    | cons hqr ht => exact .cons (hpq.trans hqr) (ih ht)

/-- With a property in the place of the first one with its field, only that one
has to be compared. -/
theorem forall₂_replace_iff {R : Property → Property → Prop} {field : String} {p q : Property} :
    ∀ {properties : List Property}, (∀ r ∈ properties, R r r) →
      properties.find? (·.field = field) = some p →
      (List.Forall₂ R properties (replace field q properties) ↔ R p q)
  | [], _, hf => by cases hf
  | first :: rest, hr, hf => by
    rw [List.forall_mem_cons] at hr
    by_cases hfield : first.field = field
    · -- replacing and looking up stop at the same property
      have hp : first = p := by simpa [List.find?_cons, hfield] using hf
      rw [replace, if_pos hfield, hp, List.forall₂_cons]
      exact and_iff_left (List.forall₂_same.mpr hr.2)
    · have hf' : rest.find? (·.field = field) = some p := by
        simpa [List.find?_cons, hfield] using hf
      rw [replace, if_neg hfield, List.forall₂_cons, forall₂_replace_iff hr.2 hf']
      exact and_iff_right hr.1

/-- Putting an edit of the first property with a field in its place. -/
theorem edits_replace {field : String} {p q : Property} (h : Property.Edit p q)
    {properties : List Property} (hf : properties.find? (·.field = field) = some p) :
    Edits properties (replace field q properties) :=
  (forall₂_replace_iff (fun r _ => Property.Edit.refl r) hf).mpr h

/-- Enforcing values one after another, wherever it stops. -/
theorem edits_enforceAll : ∀ (properties : List Property) (values : List (Option Value)),
    Edits properties (enforceAll properties values).2
  | [], _ => .nil
  | p :: rest, [] => Edits.refl (p :: rest)
  | p :: rest, value :: values => by
    unfold enforceAll
    split
    · exact Edits.refl _
    next q changes hq =>
      exact .cons (Property.edit_of_setOverride hq) (edits_enforceAll rest values)

/-- Loading the entries of a document. -/
theorem edits_loadAll : ∀ (properties : List Property) (document : Document),
    Edits properties (loadAll properties document).properties
  | [], _ => .nil
  | p :: rest, document => by
    unfold loadAll
    split
    · exact .cons (Property.Edit.refl p) (edits_loadAll rest _)
    · split
      next q hq => exact .cons (Property.edit_of_load hq) (edits_loadAll rest _)
      next => exact .cons (Property.Edit.refl p) (edits_loadAll rest _)

/-! ### What one operation does -/

variable {schema : Schema} {c d : Configuration}

/-- The other configuration has edits of the properties in their places, and
everything else is the same. -/
def Edited (c d : Configuration) : Prop :=
  ∃ properties, Edits c.properties properties ∧ d = { c with properties }

theorem Edited.refl (c : Configuration) : c.Edited c := ⟨c.properties, Edits.refl _, rfl⟩

theorem Edited.extra_eq (h : c.Edited d) : d.extra = c.extra := by
  obtain ⟨properties, -, rfl⟩ := h
  rfl

/-- What a successful change of a property does. -/
theorem exists_of_modify {α : Type} {field : String} {r : α}
    {change : Property → Except Malformed (Property × α)}
    (h : c.modify field change = .ok (d, r)) :
    ∃ p q, c.property? field = some p ∧ change p = .ok (q, r) ∧
      d = { c with properties := replace field q c.properties } := by
  unfold Configuration.modify at h
  split at h
  · cases h
  next p hp =>
    split at h
    · cases h
    next q r' hq =>
      cases h
      exact ⟨p, q, hp, hq, rfl⟩

/-- Where a failure changes nothing, only success needs to be looked at. -/
theorem orOld_of {α : Type} {P : Configuration → Prop} {result : Except Error α}
    {new : α → Configuration} (h : P c) (hr : ∀ r, result = .ok r → P (new r)) :
    P (c.orOld result new) := by
  cases result with
  | error e => exact h
  | ok r => exact hr r rfl

theorem edited_modify {α : Type} {field : String}
    {change : Property → Except Malformed (Property × α)}
    (hc : ∀ {p q r}, change p = .ok (q, r) → Property.Edit p q) :
    c.Edited (c.orOld (c.modify field change) (·.1)) := by
  refine orOld_of (Edited.refl c) ?_
  rintro ⟨d, r⟩ hm
  obtain ⟨p, q, hp, hq, hd⟩ := exists_of_modify hm
  exact ⟨replace field q c.properties, edits_replace (hc hq) hp, hd⟩

theorem properties_restoreDefaults (c : Configuration) :
    c.restoreDefaults.1.properties = c.properties.map fun p => p.restoreDefault.1 := by
  show (c.properties.map _).map _ = _
  rw [List.map_map]
  rfl

theorem edited_restoreDefaults (c : Configuration) : c.Edited c.restoreDefaults.1 := by
  refine ⟨c.restoreDefaults.1.properties, ?_, rfl⟩
  rw [properties_restoreDefaults, Edits, List.forall₂_map_right_iff, List.forall₂_same]
  exact fun p _ => Property.edit_restoreDefault p

theorem edited_enforce (c : Configuration) (path : String) (entries : Document) :
    c.Edited (c.enforce path entries).2 := by
  unfold Configuration.enforce
  simp only
  split
  · exact ⟨_, edits_enforceAll _ _, rfl⟩
  · exact Edited.refl c

theorem edited_applyEnforced (c : Configuration) (tree : FileTree) (path : String) :
    c.Edited (c.applyEnforced tree path).2 := by
  unfold Configuration.applyEnforced
  split
  · exact Edited.refl c
  · exact edited_enforce ..

/-- **One operation** that neither reads anew nor writes, be it successful or
not. -/
theorem edited_perform {operation : Operation} (hr : ∀ tree, operation ≠ .reload tree)
    (hw : ∀ tree path, operation ≠ .write tree path) : c.Edited (c.perform operation) := by
  cases operation with
  | setValue field value => exact edited_modify Property.edit_of_setValue
  | setOverride field value => exact edited_modify Property.edit_of_setOverride
  | load field entry => exact edited_modify Property.edit_of_map_load
  | restoreDefault field => exact edited_modify Property.edit_of_restoreDefault
  | restoreDefaults => exact edited_restoreDefaults c
  | applyEnforced tree path => exact edited_applyEnforced ..
  | reload tree => exact absurd rfl (hr tree)
  | write tree path => exact absurd rfl (hw tree path)

/-- What a successful write leaves: the same configuration, with a path and a
baseline of its own. -/
theorem write_eq_ok {tree tree' : FileTree} {path : String} {written : Bool}
    (h : c.write tree path = .ok (written, d, tree')) :
    d = rebase { c with path := some path } := by
  unfold Configuration.write at h
  simp only at h
  split at h
  · split at h
    · cases h
      rfl
    · unfold write.save at h
      split at h <;> cases h
      rfl
  · unfold write.save at h
    split at h <;> cases h
    rfl

/-! ### What operations leave alone -/

/-- The configuration has the properties of the schema, with some values. -/
structure Conforms (schema : Schema) (c : Configuration) : Prop where
  schema_eq : c.schema = schema
  groups_eq : c.groups = (ofDefaults c.schemaName schema c.language).groups
  edits : Edits (ofDefaults c.schemaName schema c.language).properties c.properties

theorem Conforms.edited (h : Conforms schema c) (he : c.Edited d) : Conforms schema d := by
  obtain ⟨properties, he, rfl⟩ := he
  exact ⟨h.schema_eq, h.groups_eq, h.edits.trans he⟩

theorem conforms_ofDefaults (name : String) (schema : Schema) (language : Language) :
    Conforms schema (ofDefaults name schema language) := ⟨rfl, rfl, Edits.refl _⟩

theorem conforms_of_readWith {tree : FileTree} {name path : String} {language : Language}
    (h : readWith tree name schema language path = .ok c) : Conforms schema c := by
  unfold readWith at h
  split at h
  · cases h
  next document _ =>
    unfold ofDocument at h
    simp only at h
    split at h
    · cases h
      exact ⟨rfl, rfl, edits_loadAll _ _⟩
    · cases h

theorem Conforms.reload {tree : FileTree} (h : Conforms schema c)
    (hr : c.reload tree = .ok d) : Conforms schema d := by
  unfold Configuration.reload at hr
  split at hr
  · cases hr
  · split at hr
    · cases hr
    next fresh hf =>
      -- the file is read with the old schema, and the old enforced values are put in
      have hfresh : Conforms schema fresh := conforms_of_readWith (h.schema_eq ▸ hf)
      split at hr
      · cases hr
      next changes properties he =>
        cases hr
        have hp := edits_enforceAll fresh.properties (c.properties.map (·.override))
        rw [he] at hp
        exact hfresh.edited ⟨properties, hp, rfl⟩

theorem Conforms.write {tree tree' : FileTree} {path : String} {written : Bool}
    (h : Conforms schema c) (hw : c.write tree path = .ok (written, d, tree')) :
    Conforms schema d := by
  rw [write_eq_ok hw]
  exact ⟨h.schema_eq, h.groups_eq, h.edits⟩

/-- One operation. -/
theorem Conforms.perform (h : Conforms schema c) (operation : Operation) :
    Conforms schema (c.perform operation) := by
  cases operation with
  | reload tree => exact orOld_of h fun r hr => h.reload hr
  | write tree path => exact orOld_of h fun r hr => h.write hr
  | _ => exact h.edited (edited_perform nofun nofun)

/-- Operations lead on from what is reachable. -/
theorem Reachable.performAll (h : Reachable schema c) (operations : List Operation) :
    Reachable schema (c.performAll operations) := by
  induction operations generalizing c with
  | nil => exact h
  | cons operation rest ih => exact ih (.perform operation h)

/-- Any run of operations. -/
theorem Reachable.conforms (h : Reachable schema c) : Conforms schema c := by
  induction h with
  | defaults name language => exact conforms_ofDefaults name schema language
  | read hr => exact conforms_of_readWith hr
  | perform operation _ ih => exact ih.perform operation

end Configuration

end Settings
