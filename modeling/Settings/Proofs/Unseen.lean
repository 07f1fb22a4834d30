/-
Settings/Proofs/Unseen.lean

Enforced values are seen neither by what is asked of a configuration nor on the
disk.  A run asks things of a configuration, and in between values are enforced
on it from any files, with success or without.  For each request the run keeps
what can be observed: the reply, the values and flags afterwards, and the files.

Requests do the same on a bare configuration, and enforcing leaves the bare
configuration as it is.  So a run observes what its requests alone observe on
the bare configuration:

    run (c with enforcing)  =  run (c.bare, requests only)

and two runs with the same requests, from configurations that are equal up to
enforced values, observe the same (`run_unseen`).
-/
import Settings.Proofs.Bare
import Settings.Proofs.Invariant

namespace Settings

namespace Configuration

/-- What is asked of a configuration that is not about enforced values. -/
inductive Request where
  | setValue (field : String) (value : Value)
  | restoreDefaults
  /-- Puts one property back to its default. -/
  | restoreDefault (field : String)
  | text
  | write (path : String)

/-- What enforces values.  The files may be those that the run writes to, or
any others. -/
inductive Enforcement where
  | setOverride (field : String) (value : Option Value)
  | applyEnforced (tree : FileTree) (path : String)

/-- What a run does. -/
inductive Action where
  | request (request : Request)
  | enforce (enforcement : Enforcement)

/-- The request, if the action is one. -/
def Action.request? : Action → Option Request
  | .request asked => some asked
  | .enforce _ => none

/-- What a request returns. -/
inductive Reply where
  | change (result : Except Error (Option Change))
  | changes (changes : List Change)
  | text (text : String)
  | written (result : Except Error Bool)

/-- What can be seen of the values of a configuration. -/
structure View where
  /-- The fields with their values. -/
  values : List (String × Value)
  /-- For each property whether it has its default. -/
  defaults : List Bool
  isDirty : Bool
  isDefault : Bool
deriving DecidableEq

/-- The view of a configuration. -/
def view (c : Configuration) : View where
  values := c.properties.map fun p => (p.field, p.value)
  defaults := c.properties.map (·.isDefault)
  isDirty := c.isDirty
  isDefault := c.isDefault

/-- What is observed of a request. -/
structure Observation where
  reply : Reply
  /-- The values and flags afterwards. -/
  view : View
  /-- The files afterwards. -/
  tree : FileTree

/-- The changed configuration with the reply, or the old one. -/
def edited (c : Configuration) (tree : FileTree)
    (result : Except Error (Configuration × Option Change)) : Reply × Configuration × FileTree :=
  (.change (result.map (·.2)), c.orOld result (·.1), tree)

/-- Does what is asked for. -/
def answer (c : Configuration) (tree : FileTree) : Request → Reply × Configuration × FileTree
  | .setValue field value => c.edited tree (c.setValue field value)
  | .restoreDefaults => (.changes c.restoreDefaults.2, c.restoreDefaults.1, tree)
  | .restoreDefault field => c.edited tree (c.modify field fun p => .ok p.restoreDefault)
  | .text => (.text c.toText, c, tree)
  | .write path =>
    match c.write tree path with
    | .ok (written, d, after) => (.written (.ok written), d, after)
    | .error e => (.written (.error e), c, tree)

/-- Enforces values.  A file that is refused leaves what it has done so far. -/
def obey (c : Configuration) : Enforcement → Configuration
  | .setOverride field value => c.orOld (c.setOverride field value) (·.1)
  | .applyEnforced tree path => (c.applyEnforced tree path).2

/-- A run: what is observed, and the configuration and the files at the end. -/
def run (c : Configuration) (tree : FileTree) :
    List Action → List Observation × Configuration × FileTree
  | [] => ([], c, tree)
  | .request request :: rest =>
    let (reply, d, after) := c.answer tree request
    let (observations, last) := run d after rest
    (⟨reply, d.view, after⟩ :: observations, last)
  | .enforce enforcement :: rest => run (c.obey enforcement) tree rest

variable {c d : Configuration} {tree : FileTree}

/-! ### One action -/

theorem view_bare (c : Configuration) : c.bare.view = c.view := by
  have hvalues : c.bare.properties.map (fun p => (p.field, p.value))
      = c.properties.map fun p => (p.field, p.value) :=
    map_eq_of_bare_eq (fun _ => rfl) (bare_bare c)
  have hdefaults : c.bare.properties.map (·.isDefault) = c.properties.map (·.isDefault) :=
    map_eq_of_bare_eq (fun _ => rfl) (bare_bare c)
  rw [view, hvalues, hdefaults, isDirty_bare, isDefault_bare]
  rfl

theorem edited_bare {result : Except Error (Configuration × Option Change)}
    {other : Except Error (Configuration × Option Change)}
    (h : other = result.map fun r => (r.1.bare, r.2)) :
    c.bare.edited tree other
      = ((c.edited tree result).1, (c.edited tree result).2.1.bare, tree) := by
  rw [h]
  cases result <;> rfl

/-- A request does the same on the bare configuration. -/
theorem answer_bare (c : Configuration) (tree : FileTree) (request : Request) :
    c.bare.answer tree request = ((c.answer tree request).1, (c.answer tree request).2.1.bare,
      (c.answer tree request).2.2) := by
  cases request with
  | setValue field value => exact edited_bare (c.setValue_bare field value)
  | restoreDefaults => simp only [answer, restoreDefaults_bare]
  | restoreDefault field => exact edited_bare (modify_bare fun _ => rfl)
  | text => simp only [answer, toText_bare]
  | write path =>
    simp only [answer, write_bare]
    cases c.write tree path <;> rfl

/-- Enforcing leaves the bare configuration. -/
theorem bare_obey (c : Configuration) (enforcement : Enforcement) :
    (c.obey enforcement).bare = c.bare := by
  cases enforcement with
  | setOverride field value =>
    exact orOld_of (P := fun d => d.bare = c.bare) rfl fun _ hd => bare_of_setOverride hd
  | applyEnforced tree path => exact bare_applyEnforced c tree path

/-! ### Runs -/

/-- A run observes what its requests observe on the bare configuration. -/
theorem run_eq (c : Configuration) (tree : FileTree) (actions : List Action) :
    c.bare.run tree ((actions.filterMap Action.request?).map .request)
      = ((c.run tree actions).1, (c.run tree actions).2.1.bare, (c.run tree actions).2.2) := by
  induction actions generalizing c tree with
  | nil => rfl
  | cons action rest ih =>
    cases action with
    | request request =>
      show c.bare.run tree (.request request :: (rest.filterMap Action.request?).map .request) = _
      simp only [run, answer_bare, view_bare, ih]
    | enforce enforcement =>
      show c.bare.run tree ((rest.filterMap Action.request?).map .request) = _
      rw [← bare_obey c enforcement, ih]
      rfl

/-- **Enforced values are not seen.**  Two runs that ask for the same, from the
same files and from configurations that are equal up to enforced values, get
the same replies and see the same values, flags and files after each request
and at the end, whatever is enforced in between. -/
theorem run_unseen (h : c.bare = d.bare) (tree : FileTree) {actions others : List Action}
    (hsame : actions.filterMap Action.request? = others.filterMap Action.request?) :
    (c.run tree actions).1 = (d.run tree others).1 ∧
      (c.run tree actions).2.1.view = (d.run tree others).2.1.view ∧
      (c.run tree actions).2.2 = (d.run tree others).2.2 := by
  have hrun : ((c.run tree actions).1, (c.run tree actions).2.1.bare, (c.run tree actions).2.2)
      = ((d.run tree others).1, (d.run tree others).2.1.bare, (d.run tree others).2.2) := by
    rw [← run_eq, ← run_eq, h, hsame]
  simp only [Prod.mk.injEq] at hrun
  obtain ⟨hobservations, hbare, htree⟩ := hrun
  refine ⟨hobservations, ?_, htree⟩
  rw [← view_bare, hbare, view_bare]

/-- In the one run a value is enforced before anything is asked for, in the
other one a value of the wrong kind is refused in between. -/
theorem run_unseen_sample :
    (ofDefaults "sample" sampleSchema []).bare
        = ((ofDefaults "sample" sampleSchema []).perform
            (.setOverride "fov" (some (.integer 90)))).bare ∧
      ((ofDefaults "sample" sampleSchema []).run .empty
          [.enforce (.setOverride "braid" (some (.boolean true))),
            .request (.setValue "fov" (.integer 500)), .request (.write "/a.json5")]).1
        = (((ofDefaults "sample" sampleSchema []).perform
            (.setOverride "fov" (some (.integer 90)))).run .empty
          [.request (.setValue "fov" (.integer 500)),
            .enforce (.setOverride "menu" (some (.integer 1))),
            .request (.write "/a.json5")]).1 := by
  have hbare : (ofDefaults "sample" sampleSchema []).bare
      = ((ofDefaults "sample" sampleSchema []).perform
          (.setOverride "fov" (some (.integer 90)))).bare :=
    (bare_obey _ (.setOverride "fov" (some (.integer 90)))).symm
  exact ⟨hbare, (run_unseen hbare .empty rfl).1⟩

end Configuration

end Settings
