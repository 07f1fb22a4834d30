/-
Settings/CommandLine.lean

The command line as a function: from arguments and files to what is printed,
how the run ends, and the files afterwards.
-/
import Settings.Session
import Settings.Arguments

namespace Settings.CommandLine

/-- Why a run fails. -/
inductive Failure where
  /-- An error while doing something that is named first. -/
  | during (activity : String) (cause : Error)
  /-- An error of its own. -/
  | error (e : Error)
  /-- Words to the user. -/
  | refused (text : String)

namespace Failure

/-- The text of a failure. -/
def message : Failure → String
  | .during activity _ => activity
  | .error e => e.message
  | .refused text => text

/-- The text of a failure without words from elsewhere. -/
def summary : Failure → String
  | .error e => e.summary
  | failure => failure.message

/-- The texts of what is behind a failure, the nearest first. -/
def causes : Failure → List String
  | .during _ cause => cause.message :: cause.system?.toList
  | .error e => e.system?.toList
  | .refused _ => []

/-- The text of what is directly behind a failure, without words from elsewhere
beyond it. -/
def causeSummary? : Failure → Option String
  | .during _ cause => some cause.summary
  | .error e => e.system?
  | .refused _ => none

/-- The lines of the causes.  Several causes are numbered. -/
def causeLines (failure : Failure) : List String :=
  match failure.causes with
  | [] => []
  | [cause] => ["", "Caused by:", "    " ++ cause]
  | causes =>
    "" :: "Caused by:" :: causes.mapIdx fun i cause => "    " ++ toString i ++ ": " ++ cause

/-- The lines that tell about a failure. -/
def lines (failure : Failure) : List String := ("Error: " ++ failure.message) :: failure.causeLines

end Failure

/-- How a run ends. -/
inductive Ending where
  | success
  | failure (failure : Failure)
  /-- The arguments make no sense. -/
  | misuse

/-- The exit code of a run. -/
def Ending.code : Ending → Nat
  | .success => 0
  | .failure _ => 1
  | .misuse => 2

/-- What a run does. -/
structure Outcome where
  ending : Ending
  /-- The lines that are printed. -/
  lines : List String
  tree : FileTree

/-! ### Lines -/

/-- The text with blanks after it, up to a width. -/
def pad (width : Nat) (text : String) : String :=
  text ++ String.ofList (List.replicate (width - text.length) ' ')

/-- The line of a property: whether it is locked, whether it has been changed,
its field, its value and its title. -/
def propertyLine (p : Property) : String :=
  "  " ++ (if p.isEnabled then " " else "!") ++ (if p.isDefault then " " else "*") ++ " "
    ++ pad 36 p.field ++ " " ++ pad 12 p.effective.text ++ " " ++ p.label.title

/-- The lines of a category. -/
def categoryLines (category : Group × List Property) : List String :=
  (category.1.title ++ " [" ++ category.1.image ++ "]") :: category.2.map propertyLine

/-- The lines under a list with locked properties. -/
def legend : List String := ["", "! = enforced by the gameflow, * = changed from default"]

/-- The line that tells the version. -/
def versionLine : String := "trx-config 0.1.0"

/-- The lines that tell how to use the program.  This is a summary of its own,
with the names of the commands and options, and not the help text that a library
for arguments would print: the words and the layout of that are left open. -/
def helpLines : List String :=
  ["Inspect and edit TRX game settings", "",
    "Usage: trx-config [OPTIONS] [CONFIG] <COMMAND>", "",
    "Commands: show, search <QUERY>..., set <FIELD> <VALUE>, reset, schemas, help",
    "Options: --schema-dir <DIR>, --schema <NAME>, --lang <FILE>, --enforced <FILE>"]

/-! ### Runs -/

/-- The language table of a run; an empty one where there is no such file. -/
def loadLanguage (tree : FileTree) (path : String) : Except Failure Language :=
  if tree.pathExists path then
    (Language.load tree path).mapError (.during ("Failed to load language table " ++ path))
  else .ok []

/-- Opens the file of a run, or makes it where there is none. -/
def openConfig (session : Session) (tree : FileTree) (request : Request) :
    Except Failure (Session × FileTree) :=
  if tree.pathExists request.config then
    match session.openFile tree request.config request.schema with
    | .ok session => .ok (session, tree)
    | .error e => .error (.during ("Failed to open " ++ request.config) e)
  else (session.openDefault tree request.config request.schema).mapError .error

/-- Does what a command says in an open session: the failure, if there is one,
the lines and the files afterwards. -/
def execute (session : Session) (tree : FileTree) : Command → Option Failure × List String × FileTree
  | .list =>
    match session.configuration with
    | none => (some (.refused SchemaFault.nothingOpen.message), [], tree)
    | some c =>
      let lines := c.categories.flatMap categoryLines
      (none, lines ++ (if session.flags.hasReadOnly then legend else []), tree)
  | .search words =>
    let query := String.intercalate " " words
    match session.search query with
    | [] => (none, ["no matches for " ++ Text.quote query], tree)
    | found => (none, found.map propertyLine, tree)
  | .set field text =>
    match session.configuration.bind (·.property? field) with
    | none => (some (.refused (Error.unknownProperty field).message), [], tree)
    | some p =>
      match Value.parse? p.value.kind text with
      | none =>
        (some (.refused (Text.quote text ++ " is not a valid " ++ p.value.kind.name
          ++ " value for " ++ field)), [], tree)
      | some value =>
        match session.setValue field value with
        | .error e => (some (.error e), [], tree)
        | .ok (session, _) =>
          match session.save tree with
          | .error e => (some (.error e), [], tree)
          | .ok (_, _, tree) => (none, [], tree)
  | .reset =>
    match session.restoreDefaults with
    | .error e => (some (.error e), [], tree)
    | .ok (session, _) =>
      match session.save tree with
      | .error e => (some (.error e), [], tree)
      | .ok (_, _, tree) => (none, [], tree)
  | .schemas => (none, [], tree)

/-- A run that fails without having changed a file. -/
def fail (tree : FileTree) (failure : Failure) : Outcome := ⟨.failure failure, [], tree⟩

/-- Runs a command. -/
def runRequest (tree : FileTree) (request : Request) : Outcome :=
  match Registry.loadDirectory tree request.schemaDirectory with
  | .error e =>
    fail tree (.during ("Failed to load schemas from " ++ request.schemaDirectory) e)
  | .ok registry =>
    if request.command = .schemas then ⟨.success, registry.names, tree⟩
    else
      match loadLanguage tree request.language with
      | .error failure => fail tree failure
      | .ok language =>
        match openConfig (Session.start registry language request.enforced) tree request with
        | .error failure => fail tree failure
        | .ok (session, tree) =>
          match execute session tree request.command with
          | (some failure, lines, tree) => ⟨.failure failure, lines, tree⟩
          | (none, lines, tree) => ⟨.success, lines, tree⟩

/-- Runs the program. -/
def run (arguments : List String) (tree : FileTree) : Outcome :=
  match Arguments.read arguments with
  | .run request => runRequest tree request
  | .version => ⟨.success, [versionLine], tree⟩
  | .help => ⟨.success, helpLines, tree⟩
  | .misuse => ⟨.misuse, [], tree⟩

end Settings.CommandLine
