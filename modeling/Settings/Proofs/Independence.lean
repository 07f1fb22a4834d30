/-
Settings/Proofs/Independence.lean

Edits of different fields.  An edit looks for the first property with its
field, category after category, and works on that one where it stands
(`editIn`).  What it answers and what it leaves there depends on this property
alone, and no other property is touched:

    (c.edit f e).2.property? g  =  c.property? g        for g ≠ f.

So an edit of another field finds what it would have found without the first
one, and gives the same answer.  Since the two of them write to different
places, they leave the same configuration in either order.

The main statement is `Fills.edits_independent`, for all configurations of a
schema and whatever the edits come to: a field may be unknown, and a value may
be refused.  It does not ask for fields that are all different, for the first
property with a field stays the first one.
-/
import Settings.Proofs.Changes
import Settings.Proofs.Lookup

namespace Settings.Configuration

open InPlace

variable {α β τ : Type}

/-! ### Edits -/

/-- The answer of an operation on the property with a field, and the
configuration that is left. -/
def edit (c : Configuration) (field : String) :
    Property.Operation → Except Error (List Change) × Configuration
  | .setValue value => wholly c ((c.setValue field value).map fun r => (r.1, r.2.toList))
  | .restoreDefault =>
    wholly c ((c.modify field fun p => .ok p.restoreDefault).map fun r => (r.1, r.2.toList))
  | .setOverride value => wholly c (c.setOverride field value)

/-- Works on the first item that there is work on, where it stands. -/
def onFirst (work : τ → Option (β × τ)) : List τ → Option (β × List τ)
  | [] => none
  | x :: rest =>
    match work x with
    | some (answer, y) => some (answer, y :: rest)
    | none => (onFirst work rest).map fun r => (r.1, x :: r.2)

/-- Works on a property with the field, and on no other one. -/
def workOn (field : String) (m : InPlace Property Malformed α) (p : Property) :
    Option (Except Malformed α × Property) :=
  if p.field = field then some (outcome m p) else none

/-- Works on the first property of a category that has the field. -/
def workIn (field : String) (m : InPlace Property Malformed α)
    (category : Group × List Property) : Option (Except Malformed α × (Group × List Property)) :=
  (onFirst (workOn field m) category.2).map fun r => (r.1, (category.1, r.2))

/-- The answer of an operation on the first property with a field, and what it
leaves in the categories. -/
def editIn (field : String) (operation : Property.Operation)
    (categories : List (Group × List Property)) :
    Except Error (List Change) × List (Group × List Property) :=
  match onFirst (workIn field operation.run) categories with
  | some (answer, categories) => (answer.mapError .malformed, categories)
  | none => (.error (.unknownProperty field), categories)

/-- The configuration has a property for each setting of the schema, in its
categories and in order.  Nothing is said of what the properties hold. -/
structure Fills (schema : Schema) (c : Configuration) : Prop where
  sizes_eq : c.groups.map (·.size) = schema.categories.map (·.properties.length)
  fields_eq : c.properties.map (·.field) = schema.properties.map (·.field)

/-- At most the property that the field leads to is another one. -/
structure Spares (field : String) (c d : Configuration) : Prop where
  rest : d = { c with properties := d.properties }
  others : ∀ other, other ≠ field → d.property? other = c.property? other
  /-- Every property stands where it has stood, and only one of them can have
  changed. -/
  places : List.Forall₂ (fun before after => after.1 = before.1 ∧
    List.Forall₂ (fun p q => q.field = p.field ∧ (c.property? field ≠ some p → q = p))
      before.2 after.2) c.categories d.categories

/-! ### Searching the categories -/

/-- The search for a property stops at the one that is looked up. -/
theorem onFirst_workOn (field : String) (m : InPlace Property Malformed α)
    (properties : List Property) :
    onFirst (workOn field m) properties = (properties.find? (·.field = field)).map fun p =>
      ((outcome m p).1, replace field (outcome m p).2 properties) := by
  induction properties with
  | nil => rfl
  | cons first rest ih =>
    by_cases hf : first.field = field
    · simp [onFirst, workOn, replace, hf]
    · have hwork : workOn field m first = none := if_neg hf
      simp [onFirst, hwork, ih, replace, hf, Function.comp_def]

theorem onFirst_append (work : τ → Option (β × τ)) (xs ys : List τ) :
    onFirst work (xs ++ ys) =
      ((onFirst work xs).map fun r => (r.1, r.2 ++ ys)).or
        ((onFirst work ys).map fun r => (r.1, xs ++ r.2)) := by
  induction xs with
  | nil => simp [onFirst]
  | cons x rest ih =>
    rw [List.cons_append, onFirst, onFirst]
    rcases work x with - | ⟨answer, y⟩
    · simp [ih, Option.map_or, Function.comp_def]
    · rfl

theorem length_onFirst {work : τ → Option (β × τ)} {answer : β} {xs ys : List τ}
    (h : onFirst work xs = some (answer, ys)) : ys.length = xs.length := by
  induction xs generalizing ys with
  | nil => cases h
  | cons x rest ih =>
    rw [onFirst] at h
    split at h
    · cases h
      rfl
    · obtain ⟨⟨answer, zs⟩, hzs, hr⟩ := Option.map_eq_some_iff.mp h
      cases hr
      exact congrArg (· + 1) (ih hzs)

/-- Searching category after category comes to searching all properties, if the
categories hold them all. -/
theorem onFirst_deal (field : String) (m : InPlace Property Malformed α) (groups : List Group) :
    ∀ properties : List Property, properties.length = (groups.map (·.size)).sum →
      onFirst (workIn field m) (deal groups properties)
        = (onFirst (workOn field m) properties).map fun r => (r.1, deal groups r.2) := by
  induction groups with
  | nil =>
    intro properties hl
    rw [List.eq_nil_of_length_eq_zero hl]
    rfl
  | cons group groups ih =>
    intro properties hl
    rw [List.map_cons, List.sum_cons] at hl
    have hfront : (properties.take group.size).length = group.size :=
      List.length_take_of_le (by omega)
    have hback : (properties.drop group.size).length = (groups.map (·.size)).sum := by
      rw [List.length_drop]
      omega
    -- the properties of the first group, and those of the others
    have hsplit := onFirst_append (workOn field m) (properties.take group.size)
      (properties.drop group.size)
    rw [List.take_append_drop] at hsplit
    rw [deal, onFirst, workIn, ih _ hback, hsplit]
    cases hx : onFirst (workOn field m) (properties.take group.size) with
    | some r =>
      have hr : r.2.length = group.size := (length_onFirst hx).trans hfront
      simp [deal, ← hr]
    | none =>
      simp [deal, Function.comp_def, hfront]

/-! ### What an edit does -/

variable {schema : Schema} {c d : Configuration} {field other : String} {p q : Property}
  {operation : Property.Operation}

theorem Fills.length_eq (h : c.Fills schema) : c.properties.length = (c.groups.map (·.size)).sum := by
  have hl := congrArg List.length h.fields_eq
  rw [List.length_map, List.length_map] at hl
  rw [hl, h.sizes_eq, Schema.properties, List.length_flatMap]

theorem Conforms.fills (h : Conforms schema c) : c.Fills schema := by
  constructor
  · rw [h.groups_eq]
    show (schema.categories.map _).map _ = _
    rw [List.map_map]
    rfl
  · rw [← fields_ofDefaults c.schemaName schema c.language]
    exact map_eq_map_of_forall₂ (h.edits.imp fun _ _ he => he.field).flip

/-- What does all or nothing with a property and keeps its field. -/
theorem field_wholly {r : Except Malformed (Property × α)}
    (h : ∀ q a, r = .ok (q, a) → q.field = p.field) : (wholly p r).2.field = p.field := by
  cases r with
  | error e => rfl
  | ok result => exact h result.1 result.2 rfl

/-- No operation changes the field. -/
theorem field_outcome_run (operation : Property.Operation) (p : Property) :
    (outcome operation.run p).2.field = p.field := by
  cases operation with
  | setValue value =>
    rw [Property.Operation.run, outcome_map_wholly _ (Property.outcome_setValueM p value)]
    apply field_wholly
    intro q changes h
    obtain ⟨⟨q, change⟩, hset, hq⟩ := exists_of_map_eq_ok h
    cases hq
    exact (Property.edit_of_setValue hset).field
  | restoreDefault =>
    rw [Property.Operation.run, outcome_map_wholly _ (Property.outcome_restoreDefaultM p)]
    rfl
  | setOverride value =>
    rw [Property.Operation.run, Property.outcome_setOverrideM]
    apply field_wholly
    intro q changes h
    exact (Property.edit_of_setOverride h).field

/-- Other answers of a change. -/
theorem modify_map (f : α → β) (change : Property → Except Malformed (Property × α)) :
    c.modify field (fun p => (change p).map fun r => (r.1, f r.2))
      = (c.modify field change).map fun r => (r.1, f r.2) := by
  simp only [modify]
  cases c.property? field with
  | none => rfl
  | some p =>
    simp only
    cases change p <;> rfl

/-- An edit works on the property where it stands. -/
theorem edit_eq_outcome (c : Configuration) (field : String) (operation : Property.Operation) :
    c.edit field operation = outcome (onPropertyM field operation.run) c := by
  cases operation with
  | setValue value =>
    rw [edit, setValue, ← modify_map Option.toList]
    exact (outcome_onPropertyM (fun p =>
      outcome_map_wholly Option.toList (Property.outcome_setValueM p value)) field c).symm
  | restoreDefault =>
    rw [edit, ← modify_map Option.toList]
    exact (outcome_onPropertyM (fun p =>
      outcome_map_wholly Option.toList (Property.outcome_restoreDefaultM p)) field c).symm
  | setOverride value =>
    exact (outcome_onPropertyM (fun p => Property.outcome_setOverrideM p value) field c).symm

theorem edit_of_none (hp : c.property? field = none) :
    c.edit field operation = (.error (.unknownProperty field), c) := by
  rw [edit_eq_outcome, onPropertyM, outcome_bind, outcome_get]
  simp only [hp]
  rfl

theorem edit_of_some (hp : c.property? field = some p) :
    c.edit field operation
      = ((outcome operation.run p).1.mapError .malformed, c.assign (outcome operation.run p).2) := by
  have hfield : (outcome operation.run p).2.field = field :=
    (field_outcome_run operation p).trans (field_of_find? hp)
  rw [edit_eq_outcome, onPropertyM, outcome_bind, outcome_get, assign, hfield]
  simp only [hp]
  rfl

/-- The answer depends on the property alone. -/
theorem edit_answer_congr (h : c.property? field = d.property? field) :
    (c.edit field operation).1 = (d.edit field operation).1 := by
  cases hp : d.property? field with
  | none => rw [edit_of_none (h.trans hp), edit_of_none hp]
  | some p => rw [edit_of_some (h.trans hp), edit_of_some hp]

/-- The search through the categories finds what is looked up. -/
theorem Fills.editIn_categories (hc : c.Fills schema) (field : String)
    (operation : Property.Operation) :
    editIn field operation c.categories
      = ((c.edit field operation).1, (c.edit field operation).2.categories) := by
  rw [editIn, categories, onFirst_deal field operation.run c.groups c.properties hc.length_eq,
    onFirst_workOn]
  cases hp : c.properties.find? (·.field = field) with
  | none =>
    rw [edit_of_none hp]
    rfl
  | some p =>
    have hfield : (outcome operation.run p).2.field = field :=
      (field_outcome_run operation p).trans (field_of_find? hp)
    rw [edit_of_some hp, assign, hfield]
    rfl

/-! ### What an edit leaves alone -/

/-- Lists that go together are dealt out to categories that go together. -/
theorem forall₂_deal {R : Property → Property → Prop} (groups : List Group) :
    ∀ {ps qs : List Property}, List.Forall₂ R ps qs →
      List.Forall₂ (fun before after => after.1 = before.1 ∧ List.Forall₂ R before.2 after.2)
        (deal groups ps) (deal groups qs) := by
  induction groups with
  | nil => exact fun _ => .nil
  | cons group groups ih =>
    intro ps qs h
    exact .cons ⟨rfl, List.forall₂_take group.size h⟩ (ih (List.forall₂_drop group.size h))

theorem Spares.refl (field : String) (c : Configuration) : c.Spares field c where
  rest := rfl
  others := fun _ _ => rfl
  places := forall₂_deal c.groups (List.forall₂_same.mpr fun _ _ => ⟨rfl, fun _ => rfl⟩)

theorem spares_assign (hp : c.property? field = some p) (hq : q.field = p.field) :
    c.Spares field (c.assign q) where
  rest := rfl
  others := fun other hne => by
    apply property?_assign_of_ne
    rwa [hq, field_of_find? hp, ne_comm]
  places := by
    apply forall₂_deal c.groups
    have hf : q.field = field := hq.trans (field_of_find? hp)
    show List.Forall₂ _ c.properties (replace q.field q c.properties)
    rw [hf, forall₂_replace_iff (fun r _ => ⟨rfl, fun _ => rfl⟩) hp]
    exact ⟨hq, fun hne => absurd hp hne⟩

/-- An edit, be it successful or not. -/
theorem spares_edit (c : Configuration) (field : String) (operation : Property.Operation) :
    c.Spares field (c.edit field operation).2 := by
  cases hp : c.property? field with
  | none =>
    rw [edit_of_none hp]
    exact .refl field c
  | some p =>
    rw [edit_of_some hp]
    exact spares_assign hp (field_outcome_run operation p)

/-- The order does not matter to what is left. -/
theorem edit_edit_comm (hne : field ≠ other) (operation operation' : Property.Operation) :
    ((c.edit field operation).2.edit other operation').2
      = ((c.edit other operation').2.edit field operation).2 := by
  have hother := (spares_edit c field operation).others other hne.symm
  have hfield := (spares_edit c other operation').others field hne
  cases hp : c.property? field with
  | none =>
    have hleft : (c.edit field operation).2 = c := by rw [edit_of_none hp]
    rw [hleft, edit_of_none (hfield.trans hp)]
  | some p =>
    cases hq : c.property? other with
    | none =>
      have hleft : (c.edit other operation').2 = c := by rw [edit_of_none hq]
      rw [hleft, edit_of_none (hother.trans hq)]
    | some q =>
      rw [edit_of_some (hother.trans hq), edit_of_some (hfield.trans hp), edit_of_some hp,
        edit_of_some hq]
      apply assign_comm
      rwa [field_outcome_run, field_outcome_run, field_of_find? hp, field_of_find? hq]

/-- **Edits of different fields are independent.**  Done in place, category after
category, an edit comes to what its function says.  Two of them leave the same
configuration in either order, and each answers what it answers alone.  Each one
spares all properties but the one that its field leads to. -/
theorem Fills.edits_independent (hc : c.Fills schema) {f g : String} (hne : f ≠ g)
    (e e' : Property.Operation) :
    (editIn f e c.categories = ((c.edit f e).1, (c.edit f e).2.categories) ∧
      editIn g e' c.categories = ((c.edit g e').1, (c.edit g e').2.categories)) ∧
    (∃ d, (c.edit f e).2.edit g e' = ((c.edit g e').1, d) ∧
      (c.edit g e').2.edit f e = ((c.edit f e).1, d)) ∧
    c.Spares f (c.edit f e).2 ∧ c.Spares g (c.edit g e').2 := by
  have hf := spares_edit c f e
  have hg := spares_edit c g e'
  refine ⟨⟨hc.editIn_categories f e, hc.editIn_categories g e'⟩,
    ⟨((c.edit f e).2.edit g e').2, ?_, ?_⟩, hf, hg⟩
  · exact Prod.ext (edit_answer_congr (hf.others g hne.symm)) rfl
  · exact Prod.ext (edit_answer_congr (hg.others f hne)) (edit_edit_comm hne.symm e' e)

/-- Setting one field of the edited sample and unlocking another one. -/
theorem edits_independent_sampleEdited :
    sampleEdited.Fills sampleSchema ∧ "fov" ≠ "menu" ∧ ∃ d,
      (sampleEdited.edit "fov" (.setValue (.integer 90))).2.edit "menu" (.setOverride none)
        = (.ok [⟨"menu", .override⟩, ⟨"menu", .enabled⟩], d) ∧
      (sampleEdited.edit "menu" (.setOverride none)).2.edit "fov" (.setValue (.integer 90))
        = (.ok [⟨"fov", .value⟩], d) := by
  have hc : sampleEdited.Fills sampleSchema := reachable_sampleEdited.conforms.fills
  have hne : "fov" ≠ "menu" := by decide
  have hfov : (sampleEdited.edit "fov" (.setValue (.integer 90))).1 = .ok [⟨"fov", .value⟩] := rfl
  have hmenu : (sampleEdited.edit "menu" (.setOverride none)).1
      = .ok [⟨"menu", .override⟩, ⟨"menu", .enabled⟩] := rfl
  obtain ⟨-, ⟨d, hfirst, hsecond⟩, -⟩ :=
    hc.edits_independent hne (.setValue (.integer 90)) (.setOverride none)
  rw [hmenu] at hfirst
  rw [hfov] at hsecond
  exact ⟨hc, hne, d, hfirst, hsecond⟩

end Settings.Configuration
