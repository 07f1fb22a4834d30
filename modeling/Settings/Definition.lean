/-
Settings/Definition.lean

Definition files: schemas and language tables, written in one of three
formats.  The extension of a file's name tells the format.

A structure is written as an object, or as an array of its members in order.
The formats differ in what they do with the parts that nobody asks for: the
value of an unknown name, and items of an array beyond the last member.  Only
what is looked at must be readable, and in strict JSON only what is looked at
counts towards the limit of nesting.
-/
import Settings.Error
import Settings.Json.Reader
import Settings.Toml.Reader
import Settings.Json5

namespace Settings

/-- The formats of definition files. -/
inductive Format where
  | toml
  | json
  | json5
deriving DecidableEq

namespace Format

/-- The format of files with an extension. -/
def ofExtension? (extension : String) : Option Format :=
  if extension = "toml" then some .toml
  else if extension = "json" then some .json
  else if extension = "json5" then some .json5
  else none

/-- The name of a format. -/
def name : Format → String
  | .toml => "TOML"
  | .json => "JSON"
  | .json5 => "JSON5"

/-- Reads a text in a format. -/
def read? (format : Format) (text : String) : Option Raw :=
  match format with
  | .toml => Toml.read? text
  | .json => Json.read? text
  | .json5 => Json5.read? text

/-- How many levels deep a text may be nested where it is looked at. -/
def levels : Format → Option Nat
  | .json => some 127
  | _ => none

/-- Whether the value of an unknown name may stand there. -/
def passesOver (format : Format) (value : Raw) : Bool :=
  match format with
  | .json => true
  | _ => value.fits none

/-- Whether an array may have items beyond the members of a structure. -/
def allowsMore : Format → Bool
  | .json => false
  | _ => true

/-- Whether a whole number is told apart from other numbers by having no
sign. -/
def countsUnsigned : Format → Bool
  | .json => true
  | _ => false

end Format

namespace Definition

/-! ### Members of structures -/

/-- The value of a name that occurs at most once: none if it is repeated. -/
def single? (name : String) (entries : List (String × Raw)) : Option (Option Raw) :=
  match entries.filter (·.1 = name) with
  | [] => some none
  | [(_, value)] => some (some value)
  | _ => none

/-- The members of a structure that is written as an object or as an array.  A
member can be missing. -/
def members? (format : Format) (names : List String) (raw : Raw) : Option (List (Option Raw)) :=
  match raw with
  | .object entries =>
    if entries.all fun entry => names.contains entry.1 || format.passesOver entry.2 then
      names.mapM fun name => single? name entries
    else none
  | .array items =>
    if names.length < items.length && !format.allowsMore then none
    else some ((List.range names.length).map fun i => items[i]?)
  | _ => none

/-! ### Values of members -/

/-- A text. -/
def text? : Raw → Option String
  | .string text => some text
  | _ => none

/-- An array whose items are all accepted. -/
def list? {α : Type} (item? : Raw → Option α) : Raw → Option (List α)
  | .array items => items.mapM item?
  | _ => none

/-- An object whose values are all accepted.  A repeated name keeps its last
value. -/
def table? {α : Type} (value? : Raw → Option α) : Raw → Option (Fields α)
  | .object entries =>
    (entries.mapM fun entry => (value? entry.2).map (entry.1, ·)).map Fields.ofList
  | _ => none

/-- A member that must be there. -/
def required? {α : Type} (value? : Raw → Option α) (member : Option Raw) : Option α :=
  member.bind value?

/-- A member that may be missing. -/
def orElse? {α : Type} (default : α) (value? : Raw → Option α) (member : Option Raw) :
    Option α :=
  match member with
  | none => some default
  | some raw => value? raw

/-- A member that may be missing or null. -/
def optional? {α : Type} (value? : Raw → Option α) (member : Option Raw) : Option (Option α) :=
  match member with
  | none => some none
  | some .null => some none
  | some raw => (value? raw).map some

/-! ### Files -/

/-- Reads a definition file. -/
def load {α : Type} (decode? : Format → Raw → Option α) (tree : FileTree) (path : String) :
    Except Error α :=
  match tree.readText path with
  | .error fault => .error (.ofFileFault path fault)
  | .ok text =>
    match Format.ofExtension? (Path.extension path) with
    | none => .error (.schema (.unknownExtension (Path.extension path) path))
    | some format =>
      match (format.read? text).bind (decode? format) with
      | some value => .ok value
      | none => .error (.parse path (.illFormed ("not a definition in " ++ format.name)))

end Definition

end Settings
