/-
Settings/Proofs/InPlace/Session.lean

A session that is changed in place, together with the files.  The session
lends its open configuration to what is done to it, and each operation decides
by itself when the flags are computed again.  A configuration that is being
opened is not yet the session's: it is dropped where opening fails, while a
file that has been written stays written.

Each operation but enforcing does what the function on sessions of the same
name says, or nothing.
-/
import Settings.Session
import Settings.Proofs.InPlace.Configuration

namespace Settings

open InPlace

/-- A session and the files around it. -/
structure World where
  session : Session
  tree : FileTree

/-- Another open configuration and other files; the flags stay. -/
def World.withOpen (w : World) (c : Configuration) (tree : FileTree) : World :=
  { session := { w.session with configuration := some c }, tree }

namespace Session

variable {α ε : Type} {w : World}

/-! ### Parts of a session -/

/-- Computes the flags again. -/
def refreshM : InPlace World ε Unit := modify fun w => { w with session := w.session.refresh }

/-- Lends the open configuration and the files. -/
def onOpenM (m : InPlace (Configuration × FileTree) Error α) : InPlace World Error α := do
  let w ← get
  match w.session.configuration with
  | none => throw (.schema .nothingOpen)
  | some c => lend (c, w.tree) (fun part => w.withOpen part.1 part.2) m

/-- Lends the property with a field of the open configuration. -/
def onPropertyM (field : String) (m : InPlace Property Malformed α) : InPlace World Error α :=
  onOpenM (Configuration.besideFilesM (Configuration.onPropertyM field m))

/-- Opens a configuration. -/
def adoptM (c : Configuration) : InPlace World ε Unit := do
  let w ← get
  set (w.withOpen c w.tree)
  refreshM

/-- Writes a configuration to a file and opens it.  It is not open yet when it is
written, but the files are those of the world. -/
def createM (path : String) (c : Configuration) : InPlace World Error Unit := do
  let w ← get
  let (result, c, tree) := outcome (Configuration.writeM path) (c, w.tree)
  set { w with tree }
  let _ ← result
  adoptM c

/-- The path of the open file. -/
def ownPathM : InPlace (Configuration × FileTree) Error String := do
  let (c, _) ← get
  match c.path with
  | none => throw (.schema .noBackingFile)
  | some path => return path

/-- Computes the flags again for every change. -/
def notifyM : List Change → InPlace World ε Unit
  | [] => return
  | _ :: changes => do
    refreshM
    notifyM changes

/-! ### Operations -/

/-- Opens a file. -/
def openFileM (path name : String) : InPlace World Error Unit := do
  let w ← get
  let c ← Configuration.read w.tree w.session.registry w.session.language path name
  let c ← w.session.enforceOnOpening w.tree c
  adoptM c

/-- Opens a configuration of defaults and writes it to a file. -/
def openDefaultM (path name : String) : InPlace World Error Unit := do
  let w ← get
  let schema ← w.session.registry.get name
  let c ← w.session.enforceOnOpening w.tree
    (Configuration.ofDefaults name schema w.session.language)
  createM path c

/-- Reads the open file again. -/
def reloadM : InPlace World Error Unit := do
  onOpenM Configuration.reloadM
  refreshM

/-- Writes the open configuration to a file, which becomes its own. -/
def saveAsM (path : String) : InPlace World Error Bool := do
  let written ← onOpenM (Configuration.writeM path)
  refreshM
  return written

/-- Writes the open configuration to its file. -/
def saveM : InPlace World Error Bool := do
  let path ← onOpenM ownPathM
  saveAsM path

/-- Puts every property back to its default. -/
def restoreDefaultsM : InPlace World Error (List Change) := do
  let changes ← onOpenM (Configuration.besideFilesM Configuration.restoreDefaultsM)
  refreshM
  return changes

/-- Puts a value into the property with a field. -/
def setValueM (field : String) (value : Value) : InPlace World Error (Option Change) := do
  let change ← onPropertyM field (Property.setValueM value)
  notifyM change.toList
  return change

/-- Enforces what a file says. -/
def applyEnforcedM (path : String) : InPlace World Error (List Change) := do
  let changes ← onOpenM (Configuration.applyEnforcedM path)
  refreshM
  return changes

/-- Changes one property directly, and tells the session of every change. -/
def editM (field : String) (m : InPlace Property Malformed (List Change)) :
    InPlace World Error Unit := do
  let changes ← onPropertyM field m
  notifyM changes

/-- The same as a function on sessions. -/
def edit (s : Session) (field : String)
    (change : Property → Except Malformed (Property × List Change)) : Except Error Session := do
  let c ← s.current
  let (c, changes) ← c.modify field change
  return changes.foldl (fun s _ => s.refresh) { s with configuration := some c }

/-! ### What the parts do -/

theorem withOpen_self {c : Configuration} (h : w.session.configuration = some c) :
    w.withOpen c w.tree = w := by
  obtain ⟨s, tree⟩ := w
  simp only [World.withOpen, ← h]

theorem current_eq_ok_iff {s : Session} {c : Configuration} :
    s.current = .ok c ↔ s.configuration = some c := by
  unfold current
  cases s.configuration <;> simp

/-- Putting in a value in a session is putting it into the configuration. -/
theorem setValue_eq {session : Session} {c : Configuration}
    (hopen : session.configuration = some c) (field : String) (v : Value) :
    ∃ adopt : Configuration × Option Change → Session,
      (∀ r, (adopt r).configuration = some r.1) ∧
      session.setValue field v = (c.setValue field v).map fun r => (adopt r, r.2) := by
  refine ⟨fun r => if r.2.isSome then refresh { session with configuration := some r.1 }
    else { session with configuration := some r.1 }, fun r => ?_, ?_⟩
  · simp only
    split <;> rfl
  · unfold Session.setValue
    rw [current_eq_ok_iff.mpr hopen, ok_bind]
    cases c.setValue field v <;> rfl

theorem outcome_refreshM (w : World) :
    outcome (refreshM : InPlace World ε Unit) w
      = (.ok (), { w with session := w.session.refresh }) := rfl

theorem outcome_refreshM_return (a : α) (w : World) :
    outcome (do
        refreshM
        return a : InPlace World ε α) w
      = (.ok a, { w with session := w.session.refresh }) := rfl

theorem outcome_adoptM (c : Configuration) (w : World) :
    outcome (adoptM c : InPlace World ε Unit) w
      = (.ok (), { w with session := w.session.withConfiguration c }) := rfl

theorem outcome_createM (path : String) (c : Configuration) (w : World) :
    outcome (createM path c) w = wholly w ((c.write w.tree path).map fun r =>
      (⟨w.session.withConfiguration r.2.1, r.2.2⟩, ())) := by
  simp only [createM, outcome_bind, outcome_get, Configuration.outcome_writeM, outcome_set,
    outcome_lift, outcome_adoptM]
  cases c.write w.tree path <;> rfl

theorem outcome_notifyM (changes : List Change) (w : World) :
    outcome (notifyM changes : InPlace World ε Unit) w
      = (.ok (), { w with session := changes.foldl (fun s _ => s.refresh) w.session }) := by
  induction changes generalizing w with
  | nil => rfl
  | cons change rest ih =>
    rw [notifyM, outcome_bind, outcome_refreshM]
    exact ih _

/-- What is done to the open configuration is done to the session. -/
theorem outcome_onOpenM {m : InPlace (Configuration × FileTree) Error α}
    {f : Configuration → FileTree → Except Error ((Configuration × FileTree) × α)}
    (hm : ∀ c tree, outcome m (c, tree) = wholly (c, tree) (f c tree)) (w : World) :
    outcome (onOpenM m) w = wholly w (w.session.current.bind fun c =>
      (f c w.tree).map fun p => (w.withOpen p.1.1 p.1.2, p.2)) := by
  simp only [onOpenM, outcome_bind, outcome_get, current]
  cases hc : w.session.configuration with
  | none => rfl
  | some c => exact outcome_lend (withOpen_self hc) (hm c w.tree)

theorem outcome_onPropertyM {m : InPlace Property Malformed α}
    {change : Property → Except Malformed (Property × α)}
    (hm : ∀ p, outcome m p = wholly p (change p)) (field : String) (w : World) :
    outcome (onPropertyM field m) w = wholly w (w.session.current.bind fun c =>
      (c.modify field change).map fun r => (w.withOpen r.1 w.tree, r.2)) := by
  refine (outcome_onOpenM (fun c tree => Configuration.outcome_besideFilesM
    (Configuration.outcome_onPropertyM hm field c) tree) w).trans ?_
  congr 2
  funext c
  cases c.modify field change <;> rfl

theorem outcome_ownPathM (c : Configuration) (tree : FileTree) :
    outcome ownPathM (c, tree) = wholly (c, tree)
      (match c.path with
      | none => .error (.schema .noBackingFile)
      | some path => .ok ((c, tree), path)) := by
  simp only [ownPathM, outcome_bind, outcome_get]
  cases c.path <;> rfl

/-! ### What the operations do -/

/-- All that can fail comes before the session is touched. -/
theorem outcome_openFileM (path name : String) (w : World) :
    outcome (openFileM path name) w = wholly w
      ((w.session.openFile w.tree path name).map fun s => ({ w with session := s }, ())) := by
  have hadopt : ∀ c, outcome (adoptM c : InPlace World Error Unit) w
      = wholly w (.ok ({ w with session := w.session.withConfiguration c }, ())) :=
    fun c => outcome_adoptM c w
  refine (outcome_lift_bind fun c => outcome_lift_bind hadopt).trans ?_
  unfold openFile
  cases Configuration.read w.tree w.session.registry w.session.language path name with
  | error e => rfl
  | ok c =>
    simp only [ok_bind]
    cases w.session.enforceOnOpening w.tree c <;> rfl

/-- The file is written last, when nothing else can fail. -/
theorem outcome_openDefaultM (path name : String) (w : World) :
    outcome (openDefaultM path name) w = wholly w
      ((w.session.openDefault w.tree path name).map fun r => (⟨r.1, r.2⟩, ())) := by
  refine (outcome_lift_bind fun schema => outcome_lift_bind fun c =>
    outcome_createM path c w).trans ?_
  unfold openDefault
  cases w.session.registry.get name with
  | error e => rfl
  | ok schema =>
    simp only [ok_bind]
    cases w.session.enforceOnOpening w.tree
        (Configuration.ofDefaults name schema w.session.language) with
    | error e => rfl
    | ok c =>
      simp only [ok_bind]
      cases c.write w.tree path <;> rfl

theorem outcome_reloadM (w : World) :
    outcome reloadM w = wholly w
      ((w.session.reload w.tree).map fun s => ({ w with session := s }, ())) := by
  refine (outcome_bind_wholly (outcome_onOpenM Configuration.outcome_reloadM w)
    fun _ => outcome_refreshM).trans ?_
  unfold reload
  cases w.session.current with
  | error e => rfl
  | ok c =>
    simp only [ok_bind, Except.bind]
    cases c.reload w.tree <;> rfl

theorem outcome_saveAsM (path : String) (w : World) :
    outcome (saveAsM path) w = wholly w
      ((w.session.saveAs w.tree path).map fun r => (⟨r.2.1, r.2.2⟩, r.1)) := by
  refine (outcome_bind_wholly (outcome_onOpenM (Configuration.outcome_writeM path) w)
    outcome_refreshM_return).trans ?_
  unfold saveAs
  cases w.session.current with
  | error e => rfl
  | ok c =>
    simp only [ok_bind, Except.bind]
    cases c.write w.tree path <;> rfl

/-- Looking up the path leaves everything as it is. -/
theorem outcome_saveM (w : World) :
    outcome saveM w = wholly w
      ((w.session.save w.tree).map fun r => (⟨r.2.1, r.2.2⟩, r.1)) := by
  rw [saveM, outcome_bind, outcome_onOpenM outcome_ownPathM]
  unfold save
  cases hc : w.session.current with
  | error e => rfl
  | ok c =>
    simp only [ok_bind, Except.bind]
    cases c.path with
    | none => rfl
    | some path =>
      have hself : w.withOpen c w.tree = w := withOpen_self (current_eq_ok_iff.mp hc)
      simp only [Except.map, wholly_ok, hself]
      exact outcome_saveAsM path w

theorem outcome_restoreDefaultsM (w : World) :
    outcome restoreDefaultsM w = wholly w
      (w.session.restoreDefaults.map fun r => ({ w with session := r.1 }, r.2)) := by
  refine (outcome_bind_wholly (outcome_onOpenM (fun c tree => Configuration.outcome_besideFilesM
    (Configuration.outcome_restoreDefaultsM c) tree) w) outcome_refreshM_return).trans ?_
  unfold restoreDefaults
  cases w.session.current <;> rfl

/-- Without a change the flags are not computed again. -/
theorem outcome_setValueM (field : String) (value : Value) (w : World) :
    outcome (setValueM field value) w = wholly w
      ((w.session.setValue field value).map fun r => ({ w with session := r.1 }, r.2)) := by
  have hrest : ∀ (change : Option Change) (w : World), outcome (do
      notifyM change.toList
      return change : InPlace World Error (Option Change)) w
        = (.ok change, { w with session :=
            if change.isSome then w.session.refresh else w.session }) := by
    intro change w
    cases change <;> rfl
  refine (outcome_bind_wholly (outcome_onPropertyM (fun p => Property.outcome_setValueM p value)
    field w) hrest).trans ?_
  unfold setValue Configuration.setValue
  cases w.session.current with
  | error e => rfl
  | ok c =>
    simp only [ok_bind, Except.bind]
    cases c.modify field (·.setValue value) <;> rfl

/-- Enforcing that is refused leaves what it has done, and the flags. -/
theorem outcome_applyEnforcedM (path : String) (w : World) :
    outcome (applyEnforcedM path) w =
      ((w.session.applyEnforced w.tree path).1,
        { w with session := (w.session.applyEnforced w.tree path).2 }) := by
  simp only [applyEnforcedM, onOpenM, outcome_bind, outcome_get, applyEnforced]
  cases w.session.configuration with
  | none => rfl
  | some c =>
    simp only [lend, outcome_bind, Configuration.outcome_applyEnforcedM, outcome_set, outcome_lift]
    obtain ⟨e | changes, d⟩ := c.applyEnforced w.tree path <;> rfl

theorem outcome_editM {m : InPlace Property Malformed (List Change)}
    {change : Property → Except Malformed (Property × List Change)}
    (hm : ∀ p, outcome m p = wholly p (change p)) (field : String) (w : World) :
    outcome (editM field m) w = wholly w
      ((w.session.edit field change).map fun s => ({ w with session := s }, ())) := by
  refine (outcome_bind_wholly (outcome_onPropertyM hm field w) outcome_notifyM).trans ?_
  unfold edit
  cases w.session.current with
  | error e => rfl
  | ok c =>
    simp only [ok_bind, Except.bind]
    cases c.modify field change <;> rfl

end Session

end Settings
