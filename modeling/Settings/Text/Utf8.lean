/-
Settings/Text/Utf8.lean

Reading bytes as text even where they are none: every stretch of bytes that
could be the beginning of a character and does not become one is read as the
replacement character.
-/

namespace Settings.Text

/-- The character that stands for bytes that are no text. -/
def replacement : Char := '\uFFFD'

/-- The bounds of the second byte and the number of further bytes after a
first byte; none if no character of several bytes starts with it. -/
def sequenceOf? (first : Nat) : Option (Nat × Nat × Nat) :=
  if 0xC2 ≤ first && first ≤ 0xDF then some (0x80, 0xBF, 1)
  else if first = 0xE0 then some (0xA0, 0xBF, 2)
  else if first = 0xED then some (0x80, 0x9F, 2)
  else if 0xE1 ≤ first && first ≤ 0xEF then some (0x80, 0xBF, 2)
  else if first = 0xF0 then some (0x90, 0xBF, 3)
  else if 0xF1 ≤ first && first ≤ 0xF3 then some (0x80, 0xBF, 3)
  else if first = 0xF4 then some (0x80, 0x8F, 3)
  else none

/-- Reads the bytes that go on with a character: its code point if all are
there, and the bytes after them. -/
def sequenceTail : (low high count code : Nat) → List Nat → Option Nat × List Nat
  | _, _, 0, code, bytes => (some code, bytes)
  | _, _, _ + 1, _, [] => (none, [])
  | low, high, count + 1, code, byte :: rest =>
    if low ≤ byte && byte ≤ high then sequenceTail 0x80 0xBF count (64 * code + byte % 64) rest
    else (none, byte :: rest)

/-- The bits of the first byte that belong to the code point. -/
def leadBits (first count : Nat) : Nat := first % Nat.pow 2 (6 - count)

/-- Reads bytes as text; `fuel` is at least their number. -/
def readLossy : (fuel : Nat) → List Nat → List Char
  | 0, _ => []
  | _ + 1, [] => []
  | fuel + 1, first :: rest =>
    if first < 0x80 then Char.ofNat first :: readLossy fuel rest
    else
      match sequenceOf? first with
      | none => replacement :: readLossy fuel rest
      | some (low, high, count) =>
        match sequenceTail low high count (leadBits first count) rest with
        | (some code, rest) => Char.ofNat code :: readLossy fuel rest
        | (none, rest) => replacement :: readLossy fuel rest

/-- The text of some bytes. -/
def ofBytesLossy (bytes : ByteArray) : String :=
  String.ofList (readLossy bytes.size (bytes.toList.map UInt8.toNat))

end Settings.Text
