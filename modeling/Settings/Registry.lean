/-
Settings/Registry.lean

Schemas by name.  A directory of schema files makes a registry in which every
schema has the stem of its file's name.
-/
import Settings.Schema.Reader

namespace Settings

/-- Schemas by name. -/
abbrev Registry := Fields Schema

namespace Registry

/-- The schema with a name. -/
def get (registry : Registry) (name : String) : Except Error Schema :=
  match Fields.get? name registry with
  | some schema => .ok schema
  | none => .error (.unknownSchema name)

/-- The names, in ascending order. -/
def names (registry : Registry) : List String :=
  (Fields.keys registry).mergeSort fun a b => decide (a ≤ b)

/-- The name of the schema in a file, if the file's name is that of a schema
file. -/
def schemaName? (path : String) : Option String :=
  if Path.extension path = "toml" || Path.extension path = "json" then Path.stem? path else none

/-- Loads the schema file at a path into a registry; other files are passed
over. -/
def loadFile (tree : FileTree) (registry : Registry) (path : String) : Except Error Registry :=
  match schemaName? path with
  | none => .ok registry
  | some name => (Schema.load tree path).map fun schema => Fields.insert name schema registry

/-- Loads all schema files of a directory, in the order of its list. -/
def loadDirectory (tree : FileTree) (directory : String) : Except Error Registry :=
  match tree.list directory with
  | .error fault => .error (.ofFileFault directory fault)
  | .ok names => (names.map (Path.join directory)).foldlM (loadFile tree) []

end Registry

end Settings
