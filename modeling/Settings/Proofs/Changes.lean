/-
Settings/Proofs/Changes.lean

What the operations on a property tell.  Each of them writes either the value
or the enforced value, leaves the rest alone, and tells the difference that it
has made to what it writes:

    outcome operation.run p = (.ok changes, q)  →
      q = operation.written p q  ∧  changes = operation.diff p q.

That is all the difference there is between `p` and `q`, if what the operation
spares equals itself.  A decimal that is not a number does not: compared before
and after it differs, and nothing is told of it.

A failure, of these operations or of loading, leaves the property as it was.
The main statement is `Operation.leaves`.
-/
import Settings.Proofs.Overrides

namespace Settings

open InPlace

/-! ### Settings -/

namespace Setting

@[simp] theorem withValue_value (s : Setting) : s.withValue s.value = s := by cases s <;> rfl

/-- Whether the value put in is taken or the old one stays, it is all that is
written. -/
theorem put_eq_withValue {s : Setting} {v : Value} (h : v.kind = s.kind) :
    s.put v = s.withValue (s.put v).value := by
  unfold put
  split
  · exact (withValue_value s).symm
  · rw [value_withValue h]

theorem eq_withValue_of_store {s t : Setting} {v : Value} (h : s.store v = .ok t) :
    t = s.withValue t.value := by
  obtain ⟨w, hw, rfl⟩ := store_eq_ok_iff.mp h
  exact put_eq_withValue (kind_of_fitted hw)

theorem reset_eq_withValue (s : Setting) : s.reset = s.withValue s.reset.value := by
  rw [reset_eq]
  exact put_eq_withValue (kind_default s)

end Setting

namespace Property

variable {p q : Property} {changes : List Change}

/-! ### Differences -/

/-- The difference between the values of a property before and after. -/
def valueDiff (p q : Property) : List Change :=
  if p.value == q.value then [] else [⟨p.field, .value⟩]

/-- All differences: of the values, of the enforced values, and of whether the
property can be edited. -/
def diff (p q : Property) : List Change := p.valueDiff q ++ p.overrideDiff q

theorem valueDiff_eq_nil_iff : p.valueDiff q = [] ↔ (p.value == q.value) = true := by
  unfold valueDiff
  split <;> simp [*]

/-- The same enforced value makes a difference only if it differs from itself. -/
theorem overrideDiff_eq_nil_iff (h : q.override = p.override) :
    p.overrideDiff q = [] ↔ (p.override == p.override) = true := by
  rw [overrideDiff, h, isEnabled, isEnabled, h, if_pos rfl, List.append_nil]
  split <;> simp [*]

theorem toList_valueChange (p q : Property) : (p.valueChange q.value).toList = p.valueDiff q := by
  unfold valueChange valueDiff
  split <;> rfl

/-! ### The operations -/

/-- The operations that tell what they have changed. -/
inductive Operation where
  | setValue (value : Value)
  | restoreDefault
  | setOverride (value : Option Value)

namespace Operation

/-- Does the operation, and lists the changes. -/
def run : Operation → InPlace Property Malformed (List Change)
  | setValue value => Option.toList <$> setValueM value
  | restoreDefault => Option.toList <$> restoreDefaultM
  | setOverride value => setOverrideM value

/-- The property with what the operation writes as another one has it. -/
def written : Operation → Property → Property → Property
  | setOverride _, p, q => { p with override := q.override }
  | _, p, q => { p with setting := p.setting.withValue q.value }

/-- The difference that the operation can make. -/
def diff : Operation → Property → Property → List Change
  | setOverride _ => overrideDiff
  | _ => valueDiff

/-- Which of the values the operation spares. -/
def spared : Operation → Property → Option Value
  | setOverride _, p => some p.value
  | _, p => p.override

/-- The operation has changed nothing but what it writes, and tells what the
difference is. -/
structure Tells (operation : Operation) (p q : Property) (changes : List Change) : Prop where
  rest : q = operation.written p q
  changes_eq : changes = operation.diff p q
  /-- There is no other difference, if what is spared equals itself. -/
  all_iff : changes = p.diff q ↔ (operation.spared p == operation.spared p) = true

/-- What the operation leaves, with the answer that it gives. -/
def Leaves (operation : Operation) (p : Property) :
    Except Malformed (List Change) × Property → Prop
  | (.ok changes, q) => operation.Tells p q changes
  | (.error _, q) => q = p

end Operation

/-! ### What they tell -/

/-- A difference of values is all there is, if the enforced value has stayed. -/
theorem valueDiff_eq_diff_iff (h : q.override = p.override) :
    p.valueDiff q = p.diff q ↔ (p.override == p.override) = true := by
  rw [diff, List.self_eq_append_right, overrideDiff_eq_nil_iff h]

/-- A difference of enforced values is all there is, if the value has stayed. -/
theorem overrideDiff_eq_diff_iff (h : q.value = p.value) :
    p.overrideDiff q = p.diff q ↔ (p.value == p.value) = true := by
  rw [diff, List.self_eq_append_left, valueDiff_eq_nil_iff, h]

/-- What writes the value and tells of it. -/
theorem tells_of_withValue (value : Value) {s : Setting}
    (hs : s = p.setting.withValue s.value) :
    (Operation.setValue value).Tells p { p with setting := s } (p.valueChange s.value).toList where
  rest := congrArg (fun setting => { p with setting }) hs
  changes_eq := toList_valueChange p { p with setting := s }
  all_iff := by
    have hchanges := toList_valueChange p { p with setting := s }
    exact hchanges ▸ valueDiff_eq_diff_iff rfl

theorem tells_of_setValue {value : Value} {change : Option Change}
    (h : p.setValue value = .ok (q, change)) :
    (Operation.setValue value).Tells p q change.toList := by
  unfold setValue at h
  split at h
  · cases h
  next s hs =>
    cases h
    exact tells_of_withValue value (Setting.eq_withValue_of_store hs)

theorem tells_restoreDefault (p : Property) :
    Operation.restoreDefault.Tells p p.restoreDefault.1 p.restoreDefault.2.toList := by
  obtain ⟨hrest, hchanges, hall⟩ :=
    tells_of_withValue p.default (Setting.reset_eq_withValue p.setting)
  exact ⟨hrest, hchanges, hall⟩

theorem eq_withOverride_of_bare_eq (h : q.bare = p.bare) : q = { p with override := q.override } :=
  congrArg (fun r : Property => { r with override := q.override }) h

theorem tells_of_setOverride {value : Option Value} (h : p.setOverride value = .ok (q, changes)) :
    (Operation.setOverride value).Tells p q changes where
  rest := eq_withOverride_of_bare_eq (bare_of_setOverride h)
  changes_eq := changes_of_setOverride h
  all_iff := by
    have hvalue : q.value = p.value := by rw [← value_bare, bare_of_setOverride h, value_bare]
    rw [changes_of_setOverride h]
    exact overrideDiff_eq_diff_iff hvalue

/-! ### Loading -/

/-- Puts in what an entry of a document holds. -/
def loadM (entry : Json) : InPlace Property Malformed Unit := do
  let p ← get
  let value ← liftM ((p.setting.decode entry).mapError (·.at p.field))
  (fun _ => ()) <$> onSettingM (Setting.storeM value)

theorem outcome_loadM (p : Property) (entry : Json) :
    outcome (loadM entry) p = wholly p ((p.load entry).map fun q => (q, ())) := by
  have hstore := fun value => outcome_map_wholly (fun _ => ())
    (outcome_onSettingM (Setting.outcome_storeM p.setting value))
  rw [loadM, outcome_bind, outcome_get]
  dsimp only
  rw [outcome_lift_bind hstore, load]
  cases p.setting.decode entry with
  | error mismatch => rfl
  | ok value =>
    rw [show (Except.ok value).bind p.setting.store = p.setting.store value from rfl]
    simp only [Except.mapError, ok_bind]
    cases p.setting.store value <;> rfl

/-! ### All operations -/

/-- What does all or nothing need only tell where it succeeds. -/
theorem leaves_wholly {operation : Operation} {r : Except Malformed (Property × List Change)}
    (h : ∀ q changes, r = .ok (q, changes) → operation.Tells p q changes) :
    operation.Leaves p (wholly p r) := by
  cases r with
  | error e => rfl
  | ok result => exact h result.1 result.2 rfl

/-- **Operations tell what they change.**  What they write is all that changes,
and the difference is told.  Where one fails, nothing has changed, and so it is
where loading fails. -/
theorem Operation.leaves (operation : Operation) (p : Property) (entry : Json) :
    operation.Leaves p (outcome operation.run p) ∧
      ((outcome (loadM entry) p).1.isOk = true ∨ (outcome (loadM entry) p).2 = p) := by
  constructor
  · cases operation with
    | setValue value =>
      rw [run, outcome_map_wholly _ (outcome_setValueM p value)]
      refine leaves_wholly fun q changes h => ?_
      obtain ⟨⟨q, change⟩, hset, hq⟩ := exists_of_map_eq_ok h
      cases hq
      exact tells_of_setValue hset
    | restoreDefault =>
      rw [run, outcome_map_wholly _ (outcome_restoreDefaultM p)]
      exact tells_restoreDefault p
    | setOverride value =>
      rw [run, outcome_setOverrideM]
      exact leaves_wholly fun q changes h => tells_of_setOverride h
  · rw [outcome_loadM]
    cases p.load entry with
    | error e => exact .inr rfl
    | ok q => exact .inl rfl

/-- Rounding to so many places does not give a number, not even for zero. -/
def unnumbered : Property :=
  (ofSpec [] ⟨"gain", .decimal 0.0 ⟨none, none⟩ 400⟩).initialise []

/-- What is told of enforcing a number on it is not all that differs. -/
theorem Operation.spared_not_told :
    ∃ changes q, outcome (setOverride (some (.decimal 1.0))).run unnumbered = (.ok changes, q) ∧
      (unnumbered.value == q.value) = false ∧ ⟨"gain", .value⟩ ∉ changes := by
  have hresult : (unnumbered.setOverride (some (.decimal 1.0))).toOption.map
      (fun r => (unnumbered.value == r.1.value, r.2)) =
        some (false, [⟨"gain", .override⟩, ⟨"gain", .enabled⟩]) := by decide +kernel
  obtain ⟨⟨q, changes⟩, hset, hdiff⟩ := exists_ok_of_toOption hresult
  obtain ⟨hvalue, rfl⟩ := Prod.mk.inj hdiff
  refine ⟨[⟨"gain", .override⟩, ⟨"gain", .enabled⟩], q, ?_, hvalue, by decide⟩
  rw [run, outcome_setOverrideM, wholly_eq_ok_iff]
  exact hset

end Property

end Settings
