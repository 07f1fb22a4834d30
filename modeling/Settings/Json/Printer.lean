/-
Settings/Json/Printer.lean

The texts of JSON values: `compact` on one line without spaces, as messages
show them, and `pretty` with one item per line, indented by two spaces, as
files hold them.

In strings only the quotation mark, the backslash and the controls below the
space are escaped.  Numbers that are not finite have no text of their own and
are written as `null`.
-/
import Settings.Json
import Settings.Decimal.Layout

namespace Settings.Json

/-! ### Leaves -/

/-- The letter that stands for a digit of base sixteen. -/
def hexDigit (n : Nat) : Char := if n < 10 then Char.ofNat (48 + n) else Char.ofNat (87 + n)

/-- How a character stands in a string. -/
def escapeChar (c : Char) : List Char :=
  match c with
  | '"' => ['\\', '"']
  | '\\' => ['\\', '\\']
  | '\x08' => ['\\', 'b']
  | '\x0c' => ['\\', 'f']
  | '\n' => ['\\', 'n']
  | '\r' => ['\\', 'r']
  | '\t' => ['\\', 't']
  | c =>
    if c < ' ' then ['\\', 'u', '0', '0', hexDigit (c.toNat / 16), hexDigit (c.toNat % 16)]
    else [c]

/-- A string in quotation marks. -/
def stringText (text : String) : List Char :=
  '"' :: text.toList.flatMap escapeChar ++ ['"']

/-- Numbers in files: whole numbers keep a point, and an exponent is used
below `1e-5` and from `1e16` on.  On a tie the even digit is written. -/
def decimalLayout : Decimal.Layout := ⟨.toEven, fun e => -5 ≤ e && e < 16, ['.', '0']⟩

/-- A number with a fractional part; `null` where it is not finite. -/
def decimalText (x : Float) : List Char :=
  if x.isFinite then decimalLayout.write x else "null".toList

/-- A whole number. -/
def integerText (n : Int64) : List Char := (toString n.toInt).toList

/-! ### On one line -/

mutual

/-- The characters of the text without any spaces. -/
def compactChars : Json → List Char
  | .null => "null".toList
  | .boolean value => (if value then "true" else "false").toList
  | .integer value => integerText value
  | .decimal value => decimalText value
  | .string value => stringText value
  | .array items => '[' :: compactItems items ++ [']']
  | .object entries => '{' :: compactEntries entries ++ ['}']

/-- Items with commas between them. -/
def compactItems : List Json → List Char
  | [] => []
  | [item] => compactChars item
  | item :: rest => compactChars item ++ ',' :: compactItems rest

/-- Entries with commas between them. -/
def compactEntries : List (String × Json) → List Char
  | [] => []
  | [(name, value)] => stringText name ++ ':' :: compactChars value
  | (name, value) :: rest =>
    stringText name ++ ':' :: compactChars value ++ ',' :: compactEntries rest

end

/-- The text on one line. -/
def compact (json : Json) : String := String.ofList json.compactChars

/-! ### One item per line -/

/-- The start of a line at the given depth. -/
def newline (depth : Nat) : List Char := '\n' :: List.replicate (2 * depth) ' '

mutual

/-- The characters of the text with one item per line, in a container at the
given depth. -/
def prettyChars (depth : Nat) : Json → List Char
  | .null => "null".toList
  | .boolean value => (if value then "true" else "false").toList
  | .integer value => integerText value
  | .decimal value => decimalText value
  | .string value => stringText value
  | .array items =>
    if items.isEmpty then ['[', ']']
    else '[' :: prettyItems (depth + 1) items ++ newline depth ++ [']']
  | .object entries =>
    if entries.isEmpty then ['{', '}']
    else '{' :: prettyEntries (depth + 1) entries ++ newline depth ++ ['}']

/-- Items on lines of their own, with commas between them. -/
def prettyItems (depth : Nat) : List Json → List Char
  | [] => []
  | [item] => newline depth ++ prettyChars depth item
  | item :: rest => newline depth ++ prettyChars depth item ++ ',' :: prettyItems depth rest

/-- Entries on lines of their own, with commas between them. -/
def prettyEntries (depth : Nat) : List (String × Json) → List Char
  | [] => []
  | [(name, value)] => newline depth ++ stringText name ++ ':' :: ' ' :: prettyChars depth value
  | (name, value) :: rest =>
    newline depth ++ stringText name ++ ':' :: ' ' :: prettyChars depth value
      ++ ',' :: prettyEntries depth rest

end

/-- The text with one item per line. -/
def pretty (json : Json) : String := String.ofList (json.prettyChars 0)

end Settings.Json
