/-
Settings/Error.lean

What can go wrong, by its cause, and the texts that tell people.  Two of the
causes carry words from elsewhere: a file fault says what the system says, and
a text that is not well formed says what its reader says.
-/
import Settings.Files
import Settings.Value
import Settings.Json.Printer
import Settings.Text.Quoted

namespace Settings

/-! ### Values -/

/-- A value that a field does not accept. -/
structure Malformed where
  field : String
  /-- What would be accepted. -/
  expected : String
  /-- What was found. -/
  actual : String
deriving DecidableEq

/-- The text of a rejection. -/
def Malformed.message (m : Malformed) : String :=
  m.field ++ ": expected " ++ m.expected ++ ", got " ++ m.actual

/-- Why a value is not accepted. -/
inductive Mismatch where
  /-- The value is of another kind. -/
  | wrongKind (expected : Kind) (found : Value)
  /-- A document holds something else. -/
  | wrongEntry (expected : Kind) (found : Json)
  /-- A decimal is infinite or not a number. -/
  | notFinite (found : Float)
  /-- The identifier is not in the list. -/
  | notAChoice (choices : List String) (found : String)

/-- What documents hold for a kind of value. -/
def Kind.entryName : Kind → String
  | .boolean => "boolean"
  | .integer => "integer"
  | .decimal => "number"
  | .choice => "string"

/-- What would be accepted. -/
def Mismatch.expected : Mismatch → String
  | .wrongKind expected _ => expected.name
  | .wrongEntry expected _ => expected.entryName
  | .notFinite _ => "finite number"
  | .notAChoice choices _ => "one of: " ++ Text.quoteList choices

/-- What was found. -/
def Mismatch.actual : Mismatch → String
  | .wrongKind _ found => found.kind.name ++ " " ++ found.text
  | .wrongEntry _ found => found.compact
  | .notFinite found => Decimal.shownText found
  | .notAChoice _ found => found

/-- The rejection of a value by a field. -/
def Mismatch.at (field : String) (mismatch : Mismatch) : Malformed :=
  ⟨field, mismatch.expected, mismatch.actual⟩

/-! ### Definitions -/

/-- What is wrong with a schema, or with the state that an operation needs. -/
inductive SchemaFault where
  | duplicateField (field : String)
  | boundsCrossed (field : String) (min max : Value)
  | defaultOutside (field : String) (value : Value)
  | defaultTooFine (field : String) (value : Float) (places : UInt32)
  | choicesMissing (field enumKey : String)
  | unknownExtension (extension path : String)
  | noBackingFile
  | nothingOpen
  | other (text : String)
deriving DecidableEq

/-- The text of a fault. -/
def SchemaFault.message : SchemaFault → String
  | .duplicateField field => "duplicate field `" ++ field ++ "`"
  | .boundsCrossed field min max =>
    "`" ++ field ++ "`: min " ++ min.text ++ " exceeds max " ++ max.text
  | .defaultOutside field value =>
    "`" ++ field ++ "`: default " ++ value.text ++ " is outside its bounds"
  | .defaultTooFine field value places =>
    "`" ++ field ++ "`: default " ++ Decimal.shownText value ++ " has more than "
      ++ toString places.toNat ++ " decimal places"
  | .choicesMissing field enumKey =>
    "`" ++ field ++ "`: enum `" ++ enumKey ++ "` is undefined or empty"
  | .unknownExtension extension path =>
    "unsupported file extension " ++ Text.quote extension ++ ": " ++ path
  | .noBackingFile => "configuration has no backing file"
  | .nothingOpen => "no configuration is open"
  | .other text => text

/-! ### Texts in files -/

/-- The member of a document that holds the enforced values. -/
def enforcedKey : String := "enforced_config"

/-- Why the text of a file is not accepted. -/
inductive ParseFault where
  /-- The text is not well formed; the words are those of its reader. -/
  | illFormed (text : String)
  /-- A document is something other than an object. -/
  | notAnObject (found : Json)
  /-- The enforced values are something other than an object. -/
  | enforcedNotAnObject (found : Json)

/-- The text of a fault. -/
def ParseFault.message : ParseFault → String
  | .illFormed text => text
  | .notAnObject found => "expected a JSON object at the root, got " ++ found.compact
  | .enforcedNotAnObject found =>
    "`" ++ enforcedKey ++ "` must be an object, got " ++ found.compact

/-! ### Errors -/

/-- What an operation can fail with. -/
inductive Error where
  | fileNotFound (path : String)
  | io (path : String) (fault : FileFault)
  | parse (path : String) (fault : ParseFault)
  | invalidValues (path : String) (values : List Malformed)
  | malformed (value : Malformed)
  | schema (fault : SchemaFault)
  | unknownSchema (name : String)
  | unknownProperty (field : String)

namespace Error

/-- The error of a path that cannot be read: a missing file is told apart. -/
def ofFileFault (path : String) (fault : FileFault) : Error :=
  if fault = .notFound then .fileNotFound path else .io path fault

/-- Whether the error reports the contents of a file. -/
def isParseError : Error → Bool
  | .parse .. => true
  | .invalidValues .. => true
  | _ => false

/-- What the system says, where the error comes from there. -/
def system? : Error → Option String
  | .io _ fault => some fault.message
  | _ => none

/-- The words from elsewhere that the text of the error ends with. -/
def borrowed? : Error → Option String
  | .parse _ (.illFormed text) => some text
  | e => e.system?

/-- The text of the error without words from elsewhere. -/
def summary : Error → String
  | .fileNotFound path => "file not found: " ++ path
  | .io path _ => "I/O error on " ++ path
  | .parse path (.illFormed _) => "failed to parse " ++ path
  | .parse path fault => "failed to parse " ++ path ++ ": " ++ fault.message
  | .invalidValues path values =>
    "invalid values in " ++ path ++ ": " ++ String.intercalate "; " (values.map Malformed.message)
  | .malformed value => value.message
  | .schema fault => "schema error: " ++ fault.message
  | .unknownSchema name => "unknown schema: " ++ name
  | .unknownProperty field => "unknown property: " ++ field

/-- The text of the error. -/
def message (e : Error) : String :=
  match e.borrowed? with
  | some text => e.summary ++ ": " ++ text
  | none => e.summary

end Error

end Settings
