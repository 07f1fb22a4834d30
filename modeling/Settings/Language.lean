/-
Settings/Language.lean

Language tables: the texts that are shown for the names in a schema.  A name
that a table does not know is shown as it is.
-/
import Settings.Definition

namespace Settings

/-- What is shown for a name. -/
structure Label where
  title : String
  description : String
deriving DecidableEq

/-- The labels of names. -/
abbrev Language := Fields Label

open Definition

/-- The label of a name; the name itself where the table does not know it. -/
def Language.label (language : Language) (name : String) : Label :=
  (Fields.get? name language).getD ⟨name, ""⟩

/-- A label as it is written. -/
def Label.ofRaw? (format : Format) (raw : Raw) : Option Label := do
  match ← members? format ["title", "description"] raw with
  | [title, description] =>
    let title ← required? text? title
    let description ← orElse? "" text? description
    return ⟨title, description⟩
  | _ => none

/-- A language table as it is written. -/
def Language.ofRaw? (format : Format) (raw : Raw) : Option Language :=
  table? (Label.ofRaw? format) raw

/-- Loads a language table from a file. -/
def Language.load (tree : FileTree) (path : String) : Except Error Language :=
  Definition.load Language.ofRaw? tree path

end Settings
