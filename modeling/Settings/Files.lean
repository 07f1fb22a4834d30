/-
Settings/Files.lean

Files as a value.  A `FileTree` says for every location whether there is a
file or a directory; reading looks a path up in it, and writing returns a new
tree.  So what a program does to files is a function from trees to trees.

A path is followed part by part, and every part but the last must be a
directory.  The main statement is that writing is seen at its own location
and nowhere else:

    (tree.put l n).node? l'  =  if l' = l then some n else tree.node? l'
-/
import Settings.Fields
import Settings.Path

namespace Settings

/-- Where something is: the names on the way from the root. -/
abbrev Location := List String

/-- The contents of files are compared by their bytes. -/
instance instDecidableEqByteArray : DecidableEq ByteArray := ByteArray.instDecidableEq

/-- What is at a location. -/
inductive Node where
  | directory
  | file (content : ByteArray)
deriving DecidableEq

/-- Why a file cannot be read or written. -/
inductive FileFault where
  | notFound
  | notADirectory
  | isADirectory
  | nameTooLong
  | zeroInName
  | notText
  | other (text : String)
deriving DecidableEq

/-- What the system says about a fault. -/
def FileFault.message : FileFault → String
  | .notFound => "No such file or directory (os error 2)"
  | .notADirectory => "Not a directory (os error 20)"
  | .isADirectory => "Is a directory (os error 21)"
  | .nameTooLong => "File name too long (os error 36)"
  | .zeroInName => "file name contained an unexpected NUL byte"
  | .notText => "stream did not contain valid UTF-8"
  | .other text => text

/-- All files and directories, the root apart. -/
structure FileTree where
  nodes : List (Location × Node)
  /-- No location is given twice. -/
  unique : (Fields.keys nodes).Nodup

namespace FileTree

/-! ### Locations -/

/-- No files at all. -/
def empty : FileTree := ⟨[], List.nodup_nil⟩

/-- What is at a location.  The root is a directory. -/
def node? (tree : FileTree) (location : Location) : Option Node :=
  if location = [] then some .directory else Fields.get? location tree.nodes

/-- Puts a node at a location. -/
def put (tree : FileTree) (location : Location) (node : Node) : FileTree :=
  ⟨Fields.insert location node tree.nodes, Fields.nodup_keys_insert tree.unique⟩

/-- Takes away what is at a location. -/
def erase (tree : FileTree) (location : Location) : FileTree :=
  ⟨tree.nodes.filter fun entry => entry.1 ≠ location,
    tree.unique.sublist (List.filter_sublist.map Prod.fst)⟩

/-- Writing is seen at its own location and nowhere else. -/
theorem node?_put (tree : FileTree) {location : Location} (h : location ≠ []) (node : Node)
    (other : Location) :
    (tree.put location node).node? other
      = if other = location then some node else tree.node? other := by
  by_cases ho : other = []
  · subst ho
    rw [if_neg (Ne.symm h)]
    rfl
  · rw [node?, if_neg ho, put, Fields.get?_insert, node?, if_neg ho]
    by_cases hl : other = location
    · rw [if_pos hl, if_pos hl.symm]
    · rw [if_neg hl, if_neg (Ne.symm hl)]

/-! ### Following a path -/

/-- Follows the parts of a path from a location on.  Every location that is
left again must be a directory. -/
def follow (tree : FileTree) : Location → List String → Except FileFault Location
  | location, [] => .ok location
  | location, part :: rest =>
    match tree.node? location with
    | none => .error .notFound
    | some (.file _) => .error .notADirectory
    | some .directory =>
      if part = "" || part = "." then tree.follow location rest
      else if part = ".." then tree.follow location.dropLast rest
      else if 255 < part.utf8ByteSize then .error .nameTooLong
      else tree.follow (location ++ [part]) rest

/-- The location of a path. -/
def locate (tree : FileTree) (path : String) : Except FileFault Location :=
  if path = "" then .error .notFound
  else if path.toList.contains '\x00' then .error .zeroInName
  else if 4096 ≤ path.utf8ByteSize then .error .nameTooLong
  else tree.follow [] (Path.parts path)

/-- Whether there is something at a path. -/
def pathExists (tree : FileTree) (path : String) : Bool :=
  match tree.locate path with
  | .ok location => (tree.node? location).isSome
  | .error _ => false

/-! ### Reading and writing -/

/-- The bytes of the file at a path. -/
def readBytes (tree : FileTree) (path : String) : Except FileFault ByteArray :=
  match tree.locate path with
  | .error fault => .error fault
  | .ok location =>
    match tree.node? location with
    | none => .error .notFound
    | some .directory => .error .isADirectory
    | some (.file content) => .ok content

/-- The text of the file at a path. -/
def readText (tree : FileTree) (path : String) : Except FileFault String :=
  match tree.readBytes path with
  | .error fault => .error fault
  | .ok content =>
    match String.fromUTF8? content with
    | some text => .ok text
    | none => .error .notText

/-- Writes a text to a path; its directory must be there.  A slash at the end
asks for a directory, whatever is there, and no text is written to that. -/
def writeText (tree : FileTree) (path text : String) : Except FileFault FileTree :=
  if Path.endsWithSlash path then
    match tree.locate (Path.dropEndSlashes path) with
    | .error fault => .error fault
    | .ok _ => .error .isADirectory
  else
    match tree.locate path with
    | .error fault => .error fault
    | .ok location =>
      if tree.node? location = some .directory then .error .isADirectory
      else .ok (tree.put location (.file text.toUTF8))

/-- The name of a location within a directory, if it is an entry of it. -/
def entryName? (directory location : Location) : Option String :=
  match location.getLast? with
  | some name => if location = directory ++ [name] then some name else none
  | none => none

/-- The names in the directory at a path, in the order of the tree. -/
def list (tree : FileTree) (path : String) : Except FileFault (List String) :=
  match tree.locate path with
  | .error fault => .error fault
  | .ok location =>
    match tree.node? location with
    | none => .error .notFound
    | some (.file _) => .error .notADirectory
    | some .directory => .ok (tree.nodes.filterMap fun entry => entryName? location entry.1)

/-! ### Preparing a tree -/

/-- Makes the directories on the way along some parts, as far as nothing else
is there. -/
def makeDirectories (tree : FileTree) : Location → List String → FileTree
  | _, [] => tree
  | location, part :: rest =>
    if part = "" || part = "." then tree.makeDirectories location rest
    else if part = ".." then tree.makeDirectories location.dropLast rest
    else
      let location := location ++ [part]
      match tree.node? location with
      | none => (tree.put location .directory).makeDirectories location rest
      | some .directory => tree.makeDirectories location rest
      | some (.file _) => tree

/-- Puts a node at a path, making the directories on the way.  Where that is
not possible the tree stays as it is. -/
def plant (tree : FileTree) (path : String) (node : Node) : FileTree :=
  match node with
  | .directory => tree.makeDirectories [] (Path.parts path)
  | .file _ =>
    let tree := tree.makeDirectories [] (Path.parts path).dropLast
    match tree.locate path with
    | .error _ => tree
    | .ok location =>
      if tree.node? location = some .directory then tree else tree.put location node

/-- Takes away the file at a path, if there is one. -/
def remove (tree : FileTree) (path : String) : FileTree :=
  match tree.locate path with
  | .error _ => tree
  | .ok location =>
    match tree.node? location with
    | some (.file _) => tree.erase location
    | _ => tree

end FileTree

end Settings
