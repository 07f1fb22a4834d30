/-
Settings/Configuration.lean

A configuration: the properties of a schema with the values of one document.

The properties stand in one list in the order of the schema, and `groups`
says how the list falls into categories.  Entries of the document that the
schema does not know are kept and written back after the others.  The values
that were last read or written are the `baseline`; a configuration is dirty
while some value differs from it.

Every operation that fails leaves the configuration as it was, with one
exception: enforcing values stops at the first property that refuses its
value, and the properties before it keep theirs.  So `applyEnforced` returns
a configuration in either case.
-/
import Settings.Document
import Settings.Registry
import Settings.Search

namespace Settings

/-- A category of a configuration, without its properties. -/
structure Group where
  title : String
  image : String
  /-- The number of properties. -/
  size : Nat
deriving DecidableEq

/-- The image of categories that name none. -/
def defaultImage : String := "default.jpg"

/-- The settings of one document. -/
structure Configuration where
  schemaName : String
  schema : Schema
  language : Language
  /-- The file that was last read or written. -/
  path : Option String
  groups : List Group
  properties : List Property
  /-- The values that were last read or written. -/
  baseline : Fields Value
  /-- The entries of the document that the schema does not know. -/
  extra : Document

namespace Configuration

/-! ### Views -/

/-- Deals out a list of properties to groups. -/
def deal : List Group → List Property → List (Group × List Property)
  | [], _ => []
  | group :: groups, properties =>
    (group, properties.take group.size) :: deal groups (properties.drop group.size)

/-- The categories with their properties. -/
def categories (c : Configuration) : List (Group × List Property) := deal c.groups c.properties

/-- The values by field. -/
def values (properties : List Property) : Fields Value :=
  Fields.ofList (properties.map fun p => (p.field, p.value))

/-- The property with a field. -/
def property? (c : Configuration) (field : String) : Option Property :=
  c.properties.find? (·.field = field)

/-- Whether some value differs from the baseline. -/
def isDirty (c : Configuration) : Bool :=
  c.properties.any fun p => Fields.get? p.field c.baseline != some p.value

/-- Whether every value is its default. -/
def isDefault (c : Configuration) : Bool := c.properties.all (·.isDefault)

/-- Whether some property cannot be edited. -/
def hasReadOnly (c : Configuration) : Bool := c.properties.any (!·.isEnabled)

/-- The properties that match a query. -/
def search (c : Configuration) (query : String) : List Property :=
  Settings.search c.properties query

/-! ### Making and reading -/

/-- Takes the present values as the baseline. -/
def rebase (c : Configuration) : Configuration := { c with baseline := values c.properties }

/-- The configuration that has all defaults. -/
def ofDefaults (name : String) (schema : Schema) (language : Language) : Configuration :=
  rebase {
    schemaName := name
    schema
    language
    path := none
    groups := schema.categories.map fun spec =>
      ⟨(language.label spec.title).title, spec.image.getD defaultImage, spec.properties.length⟩
    properties := schema.properties.map fun spec =>
      (Property.ofSpec language spec).initialise schema.enums
    baseline := []
    extra := [] }

/-- What becomes of properties and a document when each property takes its
entry out of it. -/
structure Loaded where
  properties : List Property
  /-- The rejected values, in the order of the properties. -/
  malformed : List Malformed
  /-- What is left of the document. -/
  rest : Document

/-- Every property takes its entry out of the document, in order. -/
def loadAll : List Property → Document → Loaded
  | [], document => ⟨[], [], document⟩
  | p :: properties, document =>
    match Fields.get? p.field document with
    | none =>
      let loaded := loadAll properties document
      { loaded with properties := p :: loaded.properties }
    | some entry =>
      let loaded := loadAll properties (Fields.swapErase p.field document)
      match p.load entry with
      | .ok p => { loaded with properties := p :: loaded.properties }
      | .error e =>
        { loaded with properties := p :: loaded.properties, malformed := e :: loaded.malformed }

/-- The configuration with the values of a document. -/
def ofDocument (name : String) (schema : Schema) (language : Language) (path : String)
    (document : Document) : Except Error Configuration :=
  let fresh := ofDefaults name schema language
  let loaded := loadAll fresh.properties document
  if loaded.malformed = [] then
    .ok (rebase
      { fresh with properties := loaded.properties, extra := loaded.rest, path := some path })
  else .error (.invalidValues path loaded.malformed)

/-- Reads a configuration with a given schema. -/
def readWith (tree : FileTree) (name : String) (schema : Schema) (language : Language)
    (path : String) : Except Error Configuration :=
  match Document.read tree path with
  | .error e => .error e
  | .ok document => ofDocument name schema language path document

/-- Reads a configuration with the schema of a registry. -/
def read (tree : FileTree) (registry : Registry) (language : Language) (path name : String) :
    Except Error Configuration :=
  match registry.get name with
  | .error e => .error e
  | .ok schema => readWith tree name schema language path

/-! ### Writing -/

/-- The document that is written: the properties in order, then the entries
that the schema does not know. -/
def toDocument (c : Configuration) : Document :=
  let known := Fields.ofList (c.properties.map fun p => (p.field, p.exported))
  c.extra.foldl (fun document entry =>
    if Fields.contains entry.1 document then document
    else Fields.insert entry.1 entry.2 document) known

/-- The text that is written. -/
def toText (c : Configuration) : String := (Json.object c.toDocument).pretty

/-- Writes the configuration to a file, which becomes its own, unless the file
holds the text already.  Returns whether it has written. -/
def write (c : Configuration) (tree : FileTree) (path : String) :
    Except Error (Bool × Configuration × FileTree) :=
  let text := c.toText
  let written := rebase { c with path := some path }
  match tree.readText path with
  | .ok old => if old = text then .ok (false, written, tree) else save text written
  | .error _ => save text written
where
  /-- Writes the text and returns the configuration that goes with it. -/
  save (text : String) (written : Configuration) :
      Except Error (Bool × Configuration × FileTree) :=
    match tree.writeText path text with
    | .ok tree => .ok (true, written, tree)
    | .error fault => .error (.io path fault)

/-! ### Editing -/

/-- Puts a changed property in the place of the first one with its field. -/
def replace (field : String) (changed : Property) : List Property → List Property
  | [] => []
  | p :: rest => if p.field = field then changed :: rest else p :: replace field changed rest

/-- Changes the property with a field. -/
def modify {α : Type} (c : Configuration) (field : String)
    (change : Property → Except Malformed (Property × α)) : Except Error (Configuration × α) :=
  match c.property? field with
  | none => .error (.unknownProperty field)
  | some p =>
    match change p with
    | .error e => .error (.malformed e)
    | .ok (p, result) => .ok ({ c with properties := replace field p c.properties }, result)

/-- Puts a value into the property with a field. -/
def setValue (c : Configuration) (field : String) (value : Value) :
    Except Error (Configuration × Option Change) :=
  c.modify field (·.setValue value)

/-- Enforces a value, or none, for the property with a field. -/
def setOverride (c : Configuration) (field : String) (value : Option Value) :
    Except Error (Configuration × List Change) :=
  c.modify field (·.setOverride value)

/-- Puts every property back to its default. -/
def restoreDefaults (c : Configuration) : Configuration × List Change :=
  let results := c.properties.map (·.restoreDefault)
  ({ c with properties := results.map (·.1) }, results.filterMap (·.2))

/-! ### Enforced values -/

/-- Enforces one value after another, each for the property in the same place.
Stops at the first that is refused. -/
def enforceAll : List Property → List (Option Value) →
    Except Malformed (List Change) × List Property
  | p :: properties, value :: values =>
    match p.setOverride value with
    | .error e => (.error e, p :: properties)
    | .ok (p, changes) =>
      let (result, rest) := enforceAll properties values
      (result.map (changes ++ ·), p :: rest)
  | properties, _ => (.ok [], properties)

/-- The values that some entries hold for the properties, none where there is
no entry, and the rejections. -/
def decodeAll (entries : Document) :
    List Property → List (Option Value) × List Malformed
  | [] => ([], [])
  | p :: properties =>
    let (values, malformed) := decodeAll entries properties
    match Fields.get? p.field entries with
    | none => (none :: values, malformed)
    | some entry =>
      match p.decode entry with
      | .ok value => (some value :: values, malformed)
      | .error e => (values, e :: malformed)

/-- Enforces the entries for the properties that they name, and nothing for
the others. -/
def enforce (c : Configuration) (path : String) (entries : Document) :
    Except Error (List Change) × Configuration :=
  let (values, malformed) := decodeAll entries c.properties
  if malformed = [] then
    let (result, properties) := enforceAll c.properties values
    (result.mapError .malformed, { c with properties })
  else (.error (.invalidValues path malformed), c)

/-- Enforces what a file says. -/
def applyEnforced (c : Configuration) (tree : FileTree) (path : String) :
    Except Error (List Change) × Configuration :=
  match Document.readEnforced tree path with
  | .error e => (.error e, c)
  | .ok entries => c.enforce path entries

/-! ### Reading again -/

/-- Reads the file again and keeps the enforced values. -/
def reload (c : Configuration) (tree : FileTree) : Except Error Configuration :=
  match c.path with
  | none => .error (.schema .noBackingFile)
  | some path =>
    match readWith tree c.schemaName c.schema c.language path with
    | .error e => .error e
    | .ok fresh =>
      match enforceAll fresh.properties (c.properties.map (·.override)) with
      | (.error e, _) => .error (.malformed e)
      | (.ok _, properties) => .ok { fresh with properties }

end Configuration

end Settings
