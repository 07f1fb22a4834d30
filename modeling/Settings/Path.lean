/-
Settings/Path.lean

Paths as texts, with slashes between their parts, and the names in them: the
name of the file, and its stem and extension around the last point.  A point
that starts the name belongs to the stem.
-/

namespace Settings.Path

/-- The parts of a path, as many as there are slashes and one more. -/
def split : List Char → List (List Char)
  | [] => [[]]
  | c :: rest =>
    if c = '/' then [] :: split rest
    else
      match split rest with
      | [] => [[c]]
      | part :: parts => (c :: part) :: parts

/-- A path always has a part. -/
theorem split_ne_nil (path : List Char) : split path ≠ [] := by
  cases path with
  | nil => simp [split]
  | cons c rest =>
    by_cases h : c = '/'
    · simp [split, h]
    · simp only [split, h, if_false]
      split <;> simp

/-- The parts of a path. -/
def parts (path : String) : List String := (split path.toList).map String.ofList

/-- The parts that name something: not the empty ones, and a single point
only at the start. -/
def components (path : String) : List String :=
  match parts path with
  | [] => []
  | first :: rest =>
    (if first = "" then [] else [first]) ++ rest.filter fun part => part ≠ "" && part ≠ "."

/-- The name of the file, if the path ends with one. -/
def fileName? (path : String) : Option String :=
  match (components path).getLast? with
  | some name => if name = "." || name = ".." then none else some name
  | none => none

/-- A name before and after its last point.  There is no second part without a
point, or where the point stands first. -/
def splitName (name : String) : String × Option String :=
  let backwards := name.toList.reverse
  let after := backwards.takeWhile (· ≠ '.')
  match backwards.drop after.length with
  | [] => (name, none)
  | _ :: before =>
    if before = [] then (name, none)
    else (String.ofList before.reverse, some (String.ofList after.reverse))

/-- The stem of the file's name. -/
def stem? (path : String) : Option String := (fileName? path).map fun name => (splitName name).1

/-- The extension of the file's name; empty if there is none. -/
def extension (path : String) : String :=
  ((fileName? path).bind fun name => (splitName name).2).getD ""

/-- Whether the path ends with a slash. -/
def endsWithSlash (path : String) : Bool := path.toList.getLast? = some '/'

/-- The path without the slashes at its end; slashes alone stay. -/
def dropEndSlashes (path : String) : String :=
  match path.toList.reverse.dropWhile (· = '/') with
  | [] => path
  | backwards => String.ofList backwards.reverse

/-- The path of an entry of a directory. -/
def join (directory name : String) : String :=
  if directory = "" || endsWithSlash directory then directory ++ name
  else directory ++ "/" ++ name

end Settings.Path
