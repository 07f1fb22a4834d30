/-
Settings/Proofs/InPlace/CommandLine.lean

A run that changes the files in place.  What a run does first only looks at
them.  Then it has a session of its own, and with it the files are changed as
the session goes along: where a later step fails, what an earlier one has
written stays.

The main statement is that this is what `run` says, for every list of
arguments:

    outcome (runM arguments) tree  =  ((run arguments tree).result, (run arguments tree).tree)

So nothing is lost by saying it with functions, and what holds of the files
of `run` holds of the files that a run leaves, wherever it ends.
-/
import Settings.CommandLine
import Settings.Proofs.InPlace.Session

namespace Settings.CommandLine

open InPlace

/-! ### Steps of a run -/

/-- Opens the file of a run, or makes it where there is none. -/
def openConfigM (request : Request) : InPlace World Failure Unit := do
  let w ← get
  if w.tree.pathExists request.config then
    ExceptT.adapt (.during ("Failed to open " ++ request.config))
      (Session.openFileM request.config request.schema)
  else ExceptT.adapt .error (Session.openDefaultM request.config request.schema)

/-- Saves what has been changed. -/
def saveM : InPlace World Failure (List String) := do
  let _ ← (ExceptT.adapt .error Session.saveM : InPlace World Failure Bool)
  return []

/-- Does what a command says in an open session, and returns the lines. -/
def executeM : Command → InPlace World Failure (List String)
  | .list => do
    let w ← get
    match w.session.configuration with
    | none => throw (.refused SchemaFault.nothingOpen.message)
    | some c =>
      return c.categories.flatMap categoryLines
        ++ (if w.session.flags.hasReadOnly then legend else [])
  | .search words => do
    let w ← get
    match w.session.search (String.intercalate " " words) with
    | [] => return ["no matches for " ++ Text.quote (String.intercalate " " words)]
    | found => return found.map propertyLine
  | .set field text => do
    let w ← get
    match w.session.configuration.bind (·.property? field) with
    | none => throw (.refused (Error.unknownProperty field).message)
    | some p =>
      match Value.parse? p.value.kind text with
      | none =>
        throw (.refused (Text.quote text ++ " is not a valid " ++ p.value.kind.name
          ++ " value for " ++ field))
      | some value => do
        let _ ← (ExceptT.adapt .error (Session.setValueM field value) :
          InPlace World Failure (Option Change))
        saveM
  | .reset => do
    let _ ← (ExceptT.adapt .error Session.restoreDefaultsM : InPlace World Failure (List Change))
    saveM
  | .schemas => return []

/-- Runs a command.  The session ends with the run, and the files stay as it
leaves them. -/
def requestM (request : Request) : InPlace FileTree Failure (List String) := do
  let tree ← get
  let registry ← ((Registry.loadDirectory tree request.schemaDirectory).mapError
    (.during ("Failed to load schemas from " ++ request.schemaDirectory)) : Except Failure Registry)
  if request.command = .schemas then return registry.names
  else do
    let language ← loadLanguage tree request.language
    lend ⟨Session.start registry language request.enforced, tree⟩ World.tree do
      openConfigM request
      executeM request.command

/-- Runs the program. -/
def runM (arguments : List String) : InPlace FileTree Ending (List String) :=
  match Arguments.read arguments with
  | .run request => ExceptT.adapt .failure (requestM request)
  | .version => return [versionLine]
  | .help => return helpLines
  | .misuse => throw .misuse

/-- The lines of a run that succeeds, or how else it ends. -/
def Outcome.result (o : Outcome) : Except Ending (List String) :=
  match o.ending with
  | .success => .ok o.lines
  | ending => .error ending

/-! ### What the steps do -/

variable {σ τ ε α : Type}

/-- A part that is lent comes back as it has been left. -/
theorem outcome_lend_eq (part : τ) (back : τ → σ) (m : InPlace τ ε α) (s : σ) :
    outcome (lend part back m) s = ((outcome m part).1, back (outcome m part).2) := rfl

theorem outcome_openConfigM (request : Request) (w : World) :
    outcome (openConfigM request) w
      = wholly w ((openConfig w.session w.tree request).map fun r => (⟨r.1, r.2⟩, ())) := by
  simp only [openConfigM, outcome_bind, outcome_get, openConfig]
  split
  · refine (outcome_adapt_wholly _ (Session.outcome_openFileM _ _ w)).trans ?_
    cases w.session.openFile w.tree request.config request.schema <;> rfl
  · refine (outcome_adapt_wholly _ (Session.outcome_openDefaultM _ _ w)).trans ?_
    cases w.session.openDefault w.tree request.config request.schema <;> rfl

/-- What a command gives, and the files that it leaves. -/
def executed (session : Session) (tree : FileTree) (command : Command) :
    Except Failure (List String) × FileTree :=
  match execute session tree command with
  | (some failure, _, tree) => (.error failure, tree)
  | (none, lines, tree) => (.ok lines, tree)

/-- What saving gives at the end of a command, and the files that it leaves. -/
def saved (session : Session) (tree : FileTree) : Except Failure (List String) × FileTree :=
  match session.save tree with
  | .error e => (.error (.error e), tree)
  | .ok (_, _, tree) => (.ok [], tree)

theorem executed_set {field text : String} {session : Session} {tree : FileTree} {p : Property}
    {value : Value} (hp : session.configuration.bind (·.property? field) = some p)
    (hv : Value.parse? p.value.kind text = some value) :
    executed session tree (.set field text) =
      match session.setValue field value with
      | .error e => (.error (.error e), tree)
      | .ok (session, _) => saved session tree := by
  simp only [executed, execute, hp, hv]
  cases session.setValue field value with
  | error e => rfl
  | ok r =>
    simp only [saved]
    cases r.1.save tree <;> rfl

theorem executed_reset (session : Session) (tree : FileTree) :
    executed session tree .reset =
      match session.restoreDefaults with
      | .error e => (.error (.error e), tree)
      | .ok (session, _) => saved session tree := by
  simp only [executed, execute]
  cases session.restoreDefaults with
  | error e => rfl
  | ok r =>
    simp only [saved]
    cases r.1.save tree <;> rfl

theorem outcome_saveM (w : World) :
    ((outcome saveM w).1, (outcome saveM w).2.tree) = saved w.session w.tree := by
  simp only [saveM, outcome_bind, outcome_adapt, Session.outcome_saveM, saved]
  cases w.session.save w.tree <;> rfl

/-- A command does what the function says.  Where saving fails after a change,
the session is not as before, but the files are. -/
theorem outcome_executeM (command : Command) (w : World) :
    ((outcome (executeM command) w).1, (outcome (executeM command) w).2.tree)
      = executed w.session w.tree command := by
  cases command with
  | list =>
    simp only [executeM, outcome_bind, outcome_get, executed, execute]
    cases w.session.configuration <;> rfl
  | search words =>
    simp only [executeM, outcome_bind, outcome_get, executed, execute]
    cases w.session.search (String.intercalate " " words) <;> rfl
  | set field text =>
    simp only [executeM, outcome_bind, outcome_get]
    cases hp : w.session.configuration.bind (·.property? field) with
    | none =>
      rw [executed, execute, hp]
      rfl
    | some p =>
      simp only
      cases hv : Value.parse? p.value.kind text with
      | none =>
        simp only [executed, execute, hp, hv]
        rfl
      | some value =>
        rw [executed_set hp hv]
        simp only [outcome_bind, outcome_adapt, Session.outcome_setValueM]
        cases w.session.setValue field value with
        | error e => rfl
        | ok r => exact outcome_saveM { w with session := r.1 }
  | reset =>
    rw [executed_reset]
    simp only [executeM, outcome_bind, outcome_adapt, Session.outcome_restoreDefaultsM]
    cases w.session.restoreDefaults with
    | error e => rfl
    | ok r => exact outcome_saveM { w with session := r.1 }
  | schemas => rfl

/-! ### Runs -/

theorem outcome_requestM (request : Request) (tree : FileTree) :
    outcome (ExceptT.adapt .failure (requestM request) : InPlace FileTree Ending (List String)) tree
      = ((runRequest tree request).result, (runRequest tree request).tree) := by
  simp only [requestM, outcome_adapt, outcome_bind, outcome_get, outcome_lift, runRequest]
  cases Registry.loadDirectory tree request.schemaDirectory with
  | error e => rfl
  | ok registry =>
    by_cases hschemas : request.command = .schemas
    · simp only [Except.mapError, if_pos hschemas]
      rfl
    · simp only [Except.mapError, if_neg hschemas, outcome_bind, outcome_lift]
      cases loadLanguage tree request.language with
      | error failure => rfl
      | ok language =>
        simp only [outcome_lend_eq, outcome_bind, outcome_openConfigM]
        cases openConfig (Session.start registry language request.enforced) tree request with
        | error failure => rfl
        | ok r =>
          -- from here on the files are those that opening has left
          have hexecute := outcome_executeM request.command ⟨r.1, r.2⟩
          obtain ⟨hresult, htree⟩ := Prod.mk.inj hexecute
          simp only [Except.map, wholly_ok, hresult, htree]
          rcases execute r.1 r.2 request.command with ⟨- | failure, lines, tree⟩ <;> rfl

/-- A run in place does what the function says. -/
theorem outcome_runM (arguments : List String) (tree : FileTree) :
    outcome (runM arguments) tree = ((run arguments tree).result, (run arguments tree).tree) := by
  unfold runM run
  cases Arguments.read arguments with
  | run request => exact outcome_requestM request tree
  | _ => rfl

end Settings.CommandLine
