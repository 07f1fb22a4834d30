/-
Settings/Document.lean

Documents in files.  A document is JSON5 with an object at its root; a file
of nothing but white space is an empty document.
-/
import Settings.Error
import Settings.Json5

namespace Settings.Document

/-- The document that a text holds; `path` is for the error. -/
def ofText (path text : String) : Except Error Document :=
  if Text.trim text.toList = [] then .ok []
  else
    match (Json5.read? text).bind Raw.toJson? with
    | none => .error (.parse path (.illFormed "not a JSON5 document"))
    | some (.object entries) => .ok entries
    | some other => .error (.parse path (.notAnObject other))

/-- Reads the document in a file. -/
def read (tree : FileTree) (path : String) : Except Error Document :=
  match tree.readText path with
  | .error fault => .error (.ofFileFault path fault)
  | .ok text => ofText path text

/-- The entries that a document enforces; none where it does not say. -/
def enforced (path : String) (document : Document) : Except Error Document :=
  match Fields.get? enforcedKey document with
  | none => .ok []
  | some (.object entries) => .ok entries
  | some other => .error (.parse path (.enforcedNotAnObject other))

/-- Reads the entries that a file enforces.  A file that is not there enforces
nothing. -/
def readEnforced (tree : FileTree) (path : String) : Except Error Document :=
  match read tree path with
  | .error (.fileNotFound _) => .ok []
  | .error e => .error e
  | .ok document => enforced path document

end Settings.Document
