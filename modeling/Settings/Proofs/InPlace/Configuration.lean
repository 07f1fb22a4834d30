/-
Settings/Proofs/InPlace/Configuration.lean

Configurations that are changed in place, together with the files.  A property
is changed where it stands; writing changes the file first and the
configuration afterwards; reading again builds a new configuration beside the
old one and replaces it at the end.

Each operation does what the function of the same name says, or nothing.  The
exception is enforcing, which leaves what it has done when it is refused.
-/
import Settings.Configuration
import Settings.Proofs.InPlace.Property

namespace Settings.Configuration

open InPlace

variable {α : Type} {c : Configuration} {tree : FileTree}

/-! ### Lists of properties -/

/-- Putting the property back that has been found. -/
theorem replace_self {field : String} {p : Property} :
    ∀ {properties : List Property}, properties.find? (·.field = field) = some p →
      replace field p properties = properties
  | [], _ => rfl
  | first :: rest, h => by
    by_cases hf : first.field = field
    · have hp : first = p := by simpa [List.find?_cons, hf] using h
      rw [replace, if_pos hf, hp]
    · have hrest : rest.find? (·.field = field) = some p := by
        simpa [List.find?_cons, hf] using h
      rw [replace, if_neg hf, replace_self hrest]

/-- A change of a property to itself changes nothing. -/
theorem eq_of_modify {d : Configuration} {field : String} {a : α}
    {change : Property → Except Malformed (Property × α)}
    (hchange : ∀ {p q}, change p = .ok (q, a) → q = p) (h : c.modify field change = .ok (d, a)) :
    d = c := by
  unfold modify at h
  split at h
  · cases h
  next p hp =>
    split at h
    · cases h
    next q a' hq =>
      cases h
      rw [hchange hq, replace_self hp]

/-! ### Changing properties -/

/-- Lends the property with a field. -/
def onPropertyM (field : String) (m : InPlace Property Malformed α) :
    InPlace Configuration Error α := do
  let c ← get
  match c.property? field with
  | none => throw (.unknownProperty field)
  | some p =>
    ExceptT.adapt .malformed
      (lend p (fun q => { c with properties := replace field q c.properties }) m)

/-- Puts every property back to its default. -/
def restoreDefaultsM : InPlace Configuration Error (List Change) := do
  let c ← get
  let (c, changes) := c.restoreDefaults
  set c
  return changes

theorem outcome_onPropertyM {m : InPlace Property Malformed α}
    {change : Property → Except Malformed (Property × α)}
    (hm : ∀ p, outcome m p = wholly p (change p)) (field : String) (c : Configuration) :
    outcome (onPropertyM field m) c = wholly c (c.modify field change) := by
  simp only [onPropertyM, outcome_bind, outcome_get, modify]
  cases hp : c.property? field with
  | none => rfl
  | some p =>
    -- the property is put back where it has been found
    have hback : { c with properties := replace field p c.properties } = c := by
      rw [replace_self hp]
    have hlend : outcome
        (lend p (fun q => { c with properties := replace field q c.properties }) m) c
          = wholly c ((change p).map fun r =>
              ({ c with properties := replace field r.1 c.properties }, r.2)) :=
      outcome_lend hback (hm p)
    refine (outcome_adapt_wholly Error.malformed hlend).trans ?_
    simp only
    cases change p <;> rfl

theorem outcome_restoreDefaultsM (c : Configuration) :
    outcome restoreDefaultsM c = wholly c (.ok c.restoreDefaults) := rfl

/-! ### Files -/

/-- Lends the configuration, the files apart. -/
def besideFilesM (m : InPlace Configuration Error α) :
    InPlace (Configuration × FileTree) Error α := do
  let (c, tree) ← get
  lend c (·, tree) m

/-- Writes a text to a path. -/
def saveM (path text : String) : InPlace (Configuration × FileTree) Error Unit := do
  let (c, tree) ← get
  let tree ← ((tree.writeText path text).mapError (.io path) : Except Error FileTree)
  set (c, tree)

/-- Writes a text to a path, unless it is there already.  Tells whether it has
been written. -/
def updateM (path text : String) : InPlace (Configuration × FileTree) Error Bool := do
  let (_, tree) ← get
  if tree.readText path = .ok text then return false
  else do
    saveM path text
    return true

/-- Takes a file as the configuration's own, and its values as the baseline. -/
def settleM (path : String) : InPlace Configuration Error Unit := do
  let c ← get
  set { c with path := some path }
  let c ← get
  set c.rebase

/-- Writes the configuration to a file, which becomes its own. -/
def writeM (path : String) : InPlace (Configuration × FileTree) Error Bool := do
  let (c, _) ← get
  let written ← updateM path c.toText
  besideFilesM (settleM path)
  return written

/-- Reads the file again and keeps the enforced values. -/
def reloadM : InPlace (Configuration × FileTree) Error Unit := do
  let (c, tree) ← get
  match c.path with
  | none => throw (.schema .noBackingFile)
  | some path => do
    let fresh ← readWith tree c.schemaName c.schema c.language path
    -- values are enforced on the new configuration only
    let (result, properties) := enforceAll fresh.properties (c.properties.map (·.override))
    let _ ← (result.mapError .malformed : Except Error (List Change))
    set ({ fresh with properties }, tree)

/-- Enforces what a file says. -/
def applyEnforcedM (path : String) : InPlace (Configuration × FileTree) Error (List Change) := do
  let (c, tree) ← get
  let (result, c) := c.applyEnforced tree path
  set (c, tree)
  result

theorem outcome_besideFilesM {m : InPlace Configuration Error α}
    {r : Except Error (Configuration × α)} (hm : outcome m c = wholly c r) (tree : FileTree) :
    outcome (besideFilesM m) (c, tree)
      = wholly (c, tree) (r.map fun p => ((p.1, tree), p.2)) := by
  rw [besideFilesM, outcome_bind, outcome_get]
  exact outcome_lend rfl hm

/-- The file is only changed where writing succeeds. -/
theorem outcome_saveM (path text : String) (c : Configuration) (tree : FileTree) :
    outcome (saveM path text) (c, tree)
      = wholly (c, tree) (((tree.writeText path text).mapError (.io path)).map
          fun tree => ((c, tree), ())) := by
  simp only [saveM, outcome_bind, outcome_get, outcome_lift]
  cases tree.writeText path text <;> rfl

theorem outcome_updateM (path text : String) (c : Configuration) (tree : FileTree) :
    outcome (updateM path text) (c, tree)
      = wholly (c, tree) (if tree.readText path = .ok text then .ok ((c, tree), false)
          else ((tree.writeText path text).mapError (.io path)).map
            fun tree => ((c, tree), true)) := by
  simp only [updateM, outcome_bind, outcome_get]
  by_cases hsame : tree.readText path = .ok text
  · simp only [if_pos hsame, outcome_pure, wholly_ok]
  · rw [if_neg hsame, if_neg hsame, outcome_bind_wholly (outcome_saveM path text c tree)
      fun _ _ => outcome_pure _ _]
    cases tree.writeText path text <;> rfl

/-- What is left to do when the file holds the text cannot fail. -/
theorem outcome_settleM (path : String) (written : Bool) (x : Configuration × FileTree) :
    outcome (do
        besideFilesM (settleM path)
        return written) x
      = (.ok written, (rebase { x.1 with path := some path }, x.2)) := rfl

/-- What writing comes to. -/
theorem write_eq (c : Configuration) (tree : FileTree) (path : String) :
    c.write tree path =
      if tree.readText path = .ok c.toText then
        .ok (false, rebase { c with path := some path }, tree)
      else ((tree.writeText path c.toText).mapError (.io path)).map
        fun tree => (true, rebase { c with path := some path }, tree) := by
  have hsave : ∀ written, write.save tree path c.toText written
      = ((tree.writeText path c.toText).mapError (.io path)).map fun tree => (true, written, tree) := by
    intro written
    unfold write.save
    cases tree.writeText path c.toText <;> rfl
  simp only [write, hsave]
  cases tree.readText path with
  | error fault => rfl
  | ok old => simp only [Except.ok.injEq]

theorem outcome_writeM (path : String) (c : Configuration) (tree : FileTree) :
    outcome (writeM path) (c, tree)
      = wholly (c, tree) ((c.write tree path).map fun r => ((r.2.1, r.2.2), r.1)) := by
  refine (outcome_bind_wholly (outcome_updateM path c.toText c tree) (outcome_settleM path)).trans ?_
  rw [write_eq]
  by_cases hsame : tree.readText path = .ok c.toText
  · rw [if_pos hsame, if_pos hsame]
    rfl
  · rw [if_neg hsame, if_neg hsame]
    cases tree.writeText path c.toText <;> rfl

theorem outcome_reloadM (c : Configuration) (tree : FileTree) :
    outcome reloadM (c, tree)
      = wholly (c, tree) ((c.reload tree).map fun d => ((d, tree), ())) := by
  simp only [reloadM, outcome_bind, outcome_get, reload]
  cases c.path with
  | none => rfl
  | some path =>
    simp only
    cases readWith tree c.schemaName c.schema c.language path with
    | error e => rfl
    | ok fresh =>
      -- the old configuration has not been touched so far
      simp only [outcome_bind, outcome_lift, outcome_set]
      generalize enforceAll fresh.properties (c.properties.map (·.override)) = enforced
      obtain ⟨e | changes, properties⟩ := enforced <;> rfl

/-- Enforcing leaves what it has done, in either case. -/
theorem outcome_applyEnforcedM (path : String) (c : Configuration) (tree : FileTree) :
    outcome (applyEnforcedM path) (c, tree)
      = ((c.applyEnforced tree path).1, ((c.applyEnforced tree path).2, tree)) := by
  simp only [applyEnforcedM, outcome_bind, outcome_get, outcome_set, outcome_lift]

end Settings.Configuration
