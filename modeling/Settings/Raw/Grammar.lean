/-
Settings/Raw/Grammar.lean

Reading nested values in brackets.  The formats differ in what stands between
the tokens, in their leaves and in the names of objects; a `Grammar` says
these, and the brackets, commas and colons are the same for all.

The readers take what they read off the front of the text and return the
rest.  Each call has one unit of fuel less than its caller, and a text of `n`
characters never needs more than `2 * n + 2` of them.
-/
import Settings.Raw

namespace Settings.Raw

/-- What distinguishes a format of nested values. -/
structure Grammar where
  /-- Drops what may stand between two tokens. -/
  skip : List Char → List Char
  /-- Reads a value without brackets. -/
  leaf? : List Char → Option (Raw × List Char)
  /-- Reads the name of an entry; the name is missing if it is unreadable. -/
  name? : List Char → Option (Option String × List Char)
  /-- Whether a comma may stand after the last item. -/
  lastComma : Bool

namespace Grammar

variable (grammar : Grammar)

mutual

/-- Reads the value that the text starts with. -/
def value? : (fuel : Nat) → List Char → Option (Raw × List Char)
  | 0, _ => none
  | fuel + 1, '[' :: rest =>
    match grammar.skip rest with
    | ']' :: rest => some (.array [], rest)
    | rest => (items? fuel rest).map fun (items, rest) => (.array items, rest)
  | fuel + 1, '{' :: rest =>
    match grammar.skip rest with
    | '}' :: rest => some (.object [], rest)
    | rest => (entries? fuel rest).map fun (entries, rest) => (ofEntries entries, rest)
  | _ + 1, text => grammar.leaf? text

/-- Reads one item or more, and the bracket that closes them. -/
def items? : (fuel : Nat) → List Char → Option (List Raw × List Char)
  | 0, _ => none
  | fuel + 1, text =>
    match value? fuel text with
    | none => none
    | some (item, rest) =>
      match grammar.skip rest with
      | ']' :: rest => some ([item], rest)
      | ',' :: rest =>
        match grammar.skip rest with
        | ']' :: rest => if grammar.lastComma then some ([item], rest) else none
        | rest => (items? fuel rest).map fun (items, rest) => (item :: items, rest)
      | _ => none

/-- Reads one entry or more, and the brace that closes them. -/
def entries? : (fuel : Nat) → List Char → Option (List (Option String × Raw) × List Char)
  | 0, _ => none
  | fuel + 1, text =>
    match grammar.name? text with
    | none => none
    | some (name, rest) =>
      match grammar.skip rest with
      | ':' :: rest =>
        match value? fuel (grammar.skip rest) with
        | none => none
        | some (value, rest) =>
          match grammar.skip rest with
          | '}' :: rest => some ([(name, value)], rest)
          | ',' :: rest =>
            match grammar.skip rest with
            | '}' :: rest => if grammar.lastComma then some ([(name, value)], rest) else none
            | rest =>
              (entries? fuel rest).map fun (entries, rest) => ((name, value) :: entries, rest)
          | _ => none
      | _ => none

end

/-- Reads a text that holds one value and nothing else. -/
def read? (text : List Char) : Option Raw :=
  match value? grammar (2 * text.length + 2) (grammar.skip text) with
  | some (value, rest) => if grammar.skip rest = [] then some value else none
  | none => none

end Grammar

/-! ### Words -/

/-- Drops a word that the text starts with. -/
def dropWord? : (word text : List Char) → Option (List Char)
  | [], text => some text
  | _ :: _, [] => none
  | c :: word, d :: text => if c = d then dropWord? word text else none

/-- Reads a word that stands for a value. -/
def word? (word : String) (value : Raw) (text : List Char) : Option (Raw × List Char) :=
  (dropWord? word.toList text).map (value, ·)

/-! ### Strings with escapes -/

/-- A piece of a string as it is written: a character, or a number of 16 bits
that may be half of a surrogate pair. -/
inductive Piece where
  | char (c : Char)
  | unit (n : Nat)

/-- Whether the number is the first half of a pair. -/
def isLeading (n : Nat) : Bool := 0xD800 ≤ n && n < 0xDC00

/-- Whether the number is the second half of a pair. -/
def isTrailing (n : Nat) : Bool := 0xDC00 ≤ n && n < 0xE000

/-- The characters of the pieces.  `join` makes a code point of the two halves
of a pair, ten bits each; a half alone has no character. -/
def joinPieces? (join : Nat → Nat → Nat) : List Piece → Option (List Char)
  | [] => some []
  | .char c :: rest => (joinPieces? join rest).map (c :: ·)
  | .unit n :: .unit m :: rest =>
    if isLeading n && isTrailing m then
      (joinPieces? join rest).map (Char.ofNat (join (n - 0xD800) (m - 0xDC00)) :: ·)
    else if isLeading n || isTrailing n then none
    else (joinPieces? join (.unit m :: rest)).map (Char.ofNat n :: ·)
  | .unit n :: rest =>
    if isLeading n || isTrailing n then none
    else (joinPieces? join rest).map (Char.ofNat n :: ·)

/-- The value of a digit of base sixteen. -/
def hexValue? (c : Char) : Option Nat :=
  if '0' ≤ c && c ≤ '9' then some (c.toNat - '0'.toNat)
  else if 'a' ≤ c && c ≤ 'f' then some (c.toNat - 'a'.toNat + 10)
  else if 'A' ≤ c && c ≤ 'F' then some (c.toNat - 'A'.toNat + 10)
  else none

/-- Reads the given number of digits of base sixteen. -/
def readHex? (count : Nat) (text : List Char) : Option (Nat × List Char) :=
  let digits := text.take count
  if digits.length < count then none
  else
    (digits.mapM hexValue?).map fun values =>
      (values.foldl (fun n value => 16 * n + value) 0, text.drop count)

end Settings.Raw
