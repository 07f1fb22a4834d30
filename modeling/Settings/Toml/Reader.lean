/-
Settings/Toml/Reader.lean

Reading a TOML text: lines with a pair, a header or a comment.  A value in
brackets may be nested 79 deep, and a dotted name may have 79 parts.
-/
import Settings.Toml.Leaf
import Settings.Toml.Table

namespace Settings.Toml

/-! ### Names -/

/-- Whether the character may stand in a name without quotation marks. -/
def isBare (c : Char) : Bool :=
  ('A' ≤ c && c ≤ 'Z') || ('a' ≤ c && c ≤ 'z') || Decimal.isDigit c || c = '_' || c = '-'

/-- Reads one part of a name. -/
def part? (text : List Char) : Option (String × List Char) :=
  match text with
  | '"' :: rest =>
    (basicBody? (rest.length + 1) rest).map fun (part, rest) => (String.ofList part, rest)
  | '\'' :: rest => (literalBody? rest).map fun (part, rest) => (String.ofList part, rest)
  | text =>
    let part := text.takeWhile isBare
    if part = [] then none else some (String.ofList part, text.drop part.length)

/-- Reads a name: its first parts, its last one, and what follows.  Blanks may
stand around every part. -/
def name? : (fuel : Nat) → List Char → Option (List String × String × List Char)
  | 0, _ => none
  | fuel + 1, text =>
    match part? (skipBlanks text) with
    | none => none
    | some (part, rest) =>
      match skipBlanks rest with
      | '.' :: rest =>
        (name? fuel rest).map fun (path, last, rest) => (part :: path, last, rest)
      | rest => some ([], part, rest)

/-- The number of parts that a name has at most, and of brackets around a
value. -/
def nestingLimit : Nat := 79

/-- Reads a name of at most as many parts as allowed. -/
def dotted? (text : List Char) : Option (List String × String × List Char) :=
  match name? (text.length + 1) text with
  | none => none
  | some (path, name, rest) => if path.length < nestingLimit then some (path, name, rest) else none

/-! ### Values -/

/-- Drops a comment that the text starts with, but not the end of the line. -/
def skipComment : List Char → List Char
  | '#' :: rest => rest.dropWhile isPlain
  | text => text

/-- Drops blanks, comments and line ends. -/
def skipGap : (fuel : Nat) → List Char → List Char
  | 0, text => text
  | fuel + 1, text =>
    let text := skipBlanks text
    match newline? (skipComment text) with
    | some rest => skipGap fuel rest
    | none => text

/-- Drops what may stand between the items of an array. -/
def skip (text : List Char) : List Char := skipGap text.length text

mutual

/-- Reads a value, in at most `depth` brackets. -/
def value? : (fuel depth : Nat) → List Char → Option (Raw × List Char)
  | 0, _, _ => none
  | fuel + 1, depth, '[' :: rest =>
    if depth = 0 then none
    else
      match skip rest with
      | ']' :: rest => some (.array [], rest)
      | rest =>
        (items? fuel (depth - 1) rest).map fun (items, rest) => (.array items, rest)
  | fuel + 1, depth, '{' :: rest =>
    if depth = 0 then none
    else
      match skipBlanks rest with
      | '}' :: rest => some (.object [], rest)
      | rest =>
        match pairs? fuel (depth - 1) rest with
        | none => none
        | some (pairs, rest) =>
          (pairs.foldlM addPair []).map fun entries => (.object (closeEntries entries), rest)
  | _ + 1, _, text => leaf? text

/-- Reads one item or more, and the bracket that closes them. -/
def items? : (fuel depth : Nat) → List Char → Option (List Raw × List Char)
  | 0, _, _ => none
  | fuel + 1, depth, text =>
    match value? fuel depth text with
    | none => none
    | some (item, rest) =>
      match skip rest with
      | ']' :: rest => some ([item], rest)
      | ',' :: rest =>
        match skip rest with
        | ']' :: rest => some ([item], rest)
        | rest => (items? fuel depth rest).map fun (items, rest) => (item :: items, rest)
      | _ => none

/-- Reads one pair or more on one line, and the brace that closes them. -/
def pairs? : (fuel depth : Nat) → List Char → Option (List Pair × List Char)
  | 0, _, _ => none
  | fuel + 1, depth, text =>
    match dotted? text with
    | some (path, name, '=' :: rest) =>
      match value? fuel depth (skipBlanks rest) with
      | none => none
      | some (value, rest) =>
        match skipBlanks rest with
        | '}' :: rest => some ([⟨path, name, value⟩], rest)
        | ',' :: rest =>
          (pairs? fuel depth rest).map fun (pairs, rest) => (⟨path, name, value⟩ :: pairs, rest)
        | _ => none
    | _ => none

end

/-! ### Lines -/

/-- Drops blanks and a comment up to and with the end of the line, or the end
of the text. -/
def lineEnd? (text : List Char) : Option (List Char) :=
  let rest := skipComment (skipBlanks text)
  if rest = [] then some [] else newline? rest

/-- What a line says. -/
inductive Line where
  | pair (pair : Pair)
  | header (isArray : Bool) (path : List String) (name : String)

/-- Reads a header after its first brackets. -/
def header? (isArray : Bool) (text : List Char) : Option (Line × List Char) :=
  match dotted? text with
  | some (path, name, ']' :: rest) =>
    if isArray then
      (Raw.dropWord? [']'] rest).map fun rest => (.header true path name, rest)
    else some (.header false path name, rest)
  | _ => none

/-- Reads a line that says something, without its end. -/
def line? (text : List Char) : Option (Line × List Char) :=
  match text with
  | '[' :: '[' :: rest => header? true rest
  | '[' :: rest => header? false rest
  | text =>
    match dotted? text with
    | some (path, name, '=' :: rest) =>
      (value? (2 * rest.length + 2) nestingLimit (skipBlanks rest)).map fun (value, rest) =>
        (.pair ⟨path, name, value⟩, rest)
    | _ => none

/-- Reads all lines. -/
def lines? : (fuel : Nat) → List Char → Option (List Line)
  | 0, _ => none
  | fuel + 1, text =>
    match skipBlanks text with
    | [] => some []
    | text =>
      match lineEnd? text with
      | some rest => lines? fuel rest
      | none =>
        match line? text with
        | none => none
        | some (line, rest) =>
          match lineEnd? rest with
          | none => none
          | some rest => (lines? fuel rest).map (line :: ·)

/-- The pairs up to the first header, and the parts that start with one. -/
def sections : List Line → List Pair × List Section
  | [] => ([], [])
  | .pair pair :: rest =>
    let (pairs, parts) := sections rest
    (pair :: pairs, parts)
  | .header isArray path name :: rest =>
    let (pairs, parts) := sections rest
    ([], ⟨isArray, path, name, pairs⟩ :: parts)

/-- The text without the mark of its byte order. -/
def dropByteOrderMark : List Char → List Char
  | '\uFEFF' :: rest => rest
  | text => text

/-- Reads a text. -/
def read? (text : String) : Option Raw :=
  let text := dropByteOrderMark text.toList
  match lines? (text.length + 1) text with
  | none => none
  | some lines =>
    let (pairs, parts) := sections lines
    match pairs.foldlM addPair [] with
    | none => none
    | some root => (parts.foldlM addSection root).map fun root => .object (closeEntries root)

end Settings.Toml
