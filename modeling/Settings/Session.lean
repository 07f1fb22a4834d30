/-
Settings/Session.lean

An editing session around one open configuration.  The session keeps what a
window shows of the configuration: three flags, computed again after every
operation that succeeds and may have changed them.

An operation that fails leaves the session as it was.  Again `applyEnforced`
is the exception: where it fails the flags stay, but properties before the
one that refused may have changed.
-/
import Settings.Configuration

namespace Settings

/-- What a window shows of the open configuration. -/
structure Flags where
  isDirty : Bool
  isDefault : Bool
  hasReadOnly : Bool
deriving DecidableEq

/-- The flags of what is open; none is set where nothing is. -/
def Flags.of : Option Configuration → Flags
  | none => ⟨false, false, false⟩
  | some c => ⟨c.isDirty, c.isDefault, c.hasReadOnly⟩

/-- Where a session stands. -/
inductive SessionState where
  | closed
  | opened (dirty : Bool)
deriving DecidableEq

/-- An editing session. -/
structure Session where
  registry : Registry
  language : Language
  /-- The file whose values are enforced on every opening. -/
  enforcedPath : Option String
  configuration : Option Configuration
  flags : Flags

namespace Session

/-- A session in which nothing is open yet. -/
def start (registry : Registry) (language : Language) (enforcedPath : Option String) : Session :=
  ⟨registry, language, enforcedPath, none, Flags.of none⟩

/-- Computes the flags again. -/
def refresh (s : Session) : Session := { s with flags := Flags.of s.configuration }

/-- Opens a configuration. -/
def withConfiguration (s : Session) (c : Configuration) : Session :=
  refresh { s with configuration := some c }

/-! ### Views -/

/-- Where the session stands. -/
def state (s : Session) : SessionState :=
  match s.configuration with
  | none => .closed
  | some _ => .opened s.flags.isDirty

/-- The name of the open file, with a star while there are unsaved changes. -/
def windowTitle? (s : Session) : Option String :=
  match (s.configuration.bind (·.path)).bind Path.fileName? with
  | none => none
  | some name => some (if s.flags.isDirty then name ++ "*" else name)

/-- The properties that match a query; none where nothing is open. -/
def search (s : Session) (query : String) : List Property :=
  match s.configuration with
  | none => []
  | some c => c.search query

/-- The open configuration. -/
def current (s : Session) : Except Error Configuration :=
  match s.configuration with
  | none => .error (.schema .nothingOpen)
  | some c => .ok c

/-! ### Opening -/

/-- A configuration with the values that are enforced on every opening. -/
def enforceOnOpening (s : Session) (tree : FileTree) (c : Configuration) :
    Except Error Configuration :=
  match s.enforcedPath with
  | none => .ok c
  | some path =>
    match c.applyEnforced tree path with
    | (.error e, _) => .error e
    | (.ok _, c) => .ok c

/-- Opens a file. -/
def openFile (s : Session) (tree : FileTree) (path name : String) : Except Error Session := do
  let c ← Configuration.read tree s.registry s.language path name
  let c ← s.enforceOnOpening tree c
  return s.withConfiguration c

/-- Opens a configuration of defaults and writes it to a file. -/
def openDefault (s : Session) (tree : FileTree) (path name : String) :
    Except Error (Session × FileTree) := do
  let schema ← s.registry.get name
  let c ← s.enforceOnOpening tree (Configuration.ofDefaults name schema s.language)
  let (_, c, tree) ← c.write tree path
  return (s.withConfiguration c, tree)

/-- Reads the open file again. -/
def reload (s : Session) (tree : FileTree) : Except Error Session := do
  let c ← s.current
  let c ← c.reload tree
  return s.withConfiguration c

/-! ### Saving -/

/-- Writes the open configuration to a file, which becomes its own. -/
def saveAs (s : Session) (tree : FileTree) (path : String) :
    Except Error (Bool × Session × FileTree) := do
  let c ← s.current
  let (written, c, tree) ← c.write tree path
  return (written, s.withConfiguration c, tree)

/-- Writes the open configuration to its file. -/
def save (s : Session) (tree : FileTree) : Except Error (Bool × Session × FileTree) := do
  let c ← s.current
  match c.path with
  | none => .error (.schema .noBackingFile)
  | some path => s.saveAs tree path

/-! ### Editing -/

/-- Puts every property back to its default. -/
def restoreDefaults (s : Session) : Except Error (Session × List Change) := do
  let c ← s.current
  let (c, changes) := c.restoreDefaults
  return (s.withConfiguration c, changes)

/-- Puts a value into the property with a field. -/
def setValue (s : Session) (field : String) (value : Value) :
    Except Error (Session × Option Change) := do
  let c ← s.current
  let (c, change) ← c.setValue field value
  let s := { s with configuration := some c }
  return (if change.isSome then s.refresh else s, change)

/-- Enforces what a file says. -/
def applyEnforced (s : Session) (tree : FileTree) (path : String) :
    Except Error (List Change) × Session :=
  match s.configuration with
  | none => (.error (.schema .nothingOpen), s)
  | some c =>
    match c.applyEnforced tree path with
    | (.error e, c) => (.error e, { s with configuration := some c })
    | (.ok changes, c) => (.ok changes, s.withConfiguration c)

end Session

end Settings
