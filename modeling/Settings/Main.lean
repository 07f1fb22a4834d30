/-
Settings/Main.lean

The program.  It takes down what a run may look at: the files that the
arguments name, the entries of the directory of schemas, and what stands on
the way to them.  `CommandLine.run` works on that tree; afterwards its lines
are printed, and the configuration file is written if the run has changed it.
-/
import Settings.CommandLine

namespace Settings.Main

/-- Takes down what is at a path, if anything. -/
def takeNode (tree : FileTree) (path : String) : IO FileTree := do
  let file := (← IO.currentDir) / path
  if ← file.isDir then
    return tree.plant path .directory
  else if ← file.pathExists then
    return tree.plant path (.file (← IO.FS.readBinFile file))
  else
    return tree

/-- Takes down what is at a path and on the way to it. -/
def takePath (tree : FileTree) (path : String) : IO FileTree := do
  let parts := Path.parts path
  let mut tree := tree
  for n in List.range parts.length do
    tree ← takeNode tree (String.intercalate "/" (parts.take (n + 1)))
  return tree

/-- Takes down a directory with its entries. -/
def takeDirectory (tree : FileTree) (path : String) : IO FileTree := do
  let mut tree ← takePath tree path
  let directory := (← IO.currentDir) / path
  if ← directory.isDir then
    for entry in ← directory.readDir do
      tree ← takeNode tree (Path.join path entry.fileName)
  return tree

/-- Takes down what a request may look at. -/
def takeRequest (request : Request) : IO FileTree := do
  let mut tree ← takeDirectory FileTree.empty request.schemaDirectory
  for path in [request.config, request.language] ++ request.enforced.toList do
    tree ← takePath tree path
  return tree

/-- Writes the file at a path if it is not the same in both trees. -/
def keep (before after : FileTree) (path : String) : IO Unit := do
  match before.readBytes path, after.readBytes path with
  | .ok old, .ok new => if old ≠ new then IO.FS.writeBinFile path new
  | .error _, .ok new => IO.FS.writeBinFile path new
  | _, .error _ => return ()

/-- The lines about a run that does not succeed.  Whatever is wrong with the
arguments, what is told is how to use the program. -/
def complaints : CommandLine.Ending → List String
  | .success => []
  | .failure failure => failure.lines
  | .misuse => CommandLine.helpLines

/-- Runs the program on the files of the system. -/
def run (arguments : List String) : IO UInt32 := do
  let invocation := Arguments.read arguments
  let before ← match invocation with
    | .run request => takeRequest request
    | _ => pure FileTree.empty
  let outcome := CommandLine.run arguments before
  for line in outcome.lines do
    IO.println line
  if let .run request := invocation then
    keep before outcome.tree request.config
  for line in complaints outcome.ending do
    IO.eprintln line
  return UInt32.ofNat outcome.ending.code

end Settings.Main

def main (arguments : List String) : IO UInt32 := Settings.Main.run arguments
