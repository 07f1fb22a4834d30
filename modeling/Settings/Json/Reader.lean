/-
Settings/Json/Reader.lean

Reading strict JSON.  Only four characters are white space, names and strings
stand in quotation marks and hold no controls, and no comma follows the last
item.

The nearest number to a decimal is not looked for here.  As many digits as
fit into 64 bits are scaled by one power of ten after another, each step
rounding, and what is lost on the way stays lost; `-0` is a decimal, and so
is a whole number that fits neither 64 bits without sign nor 64 bits with
one.
-/
import Settings.Raw.Grammar
import Settings.Decimal.Reader

namespace Settings.Json

open Raw (Piece hexValue? readHex?)

/-! ### Blanks and strings -/

/-- Whether the character is white space between tokens. -/
def isSpace (c : Char) : Bool := c = ' ' || c = '\n' || c = '\t' || c = '\r'

/-- Reads the escape after a backslash. -/
def escape? : List Char → Option (Piece × List Char)
  | '"' :: rest => some (.char '"', rest)
  | '\\' :: rest => some (.char '\\', rest)
  | '/' :: rest => some (.char '/', rest)
  | 'b' :: rest => some (.char '\x08', rest)
  | 'f' :: rest => some (.char '\x0c', rest)
  | 'n' :: rest => some (.char '\n', rest)
  | 'r' :: rest => some (.char '\r', rest)
  | 't' :: rest => some (.char '\t', rest)
  | 'u' :: rest => (readHex? 4 rest).map fun (n, rest) => (.unit n, rest)
  | _ => none

/-- Reads the pieces of a string up to the closing quotation mark. -/
def stringBody? : (fuel : Nat) → List Char → Option (List Piece × List Char)
  | 0, _ => none
  | _ + 1, [] => none
  | _ + 1, '"' :: rest => some ([], rest)
  | fuel + 1, '\\' :: rest =>
    match escape? rest with
    | none => none
    | some (piece, rest) =>
      (stringBody? fuel rest).map fun (pieces, rest) => (piece :: pieces, rest)
  | fuel + 1, c :: rest =>
    if c < ' ' then none
    else (stringBody? fuel rest).map fun (pieces, rest) => (.char c :: pieces, rest)

/-- The code point of a surrogate pair, from ten bits of each half. -/
def joinHalves (leading trailing : Nat) : Nat := 0x10000 + 1024 * leading + trailing

/-- Reads a string with its quotation marks. -/
def string? : List Char → Option (Option String × List Char)
  | '"' :: rest =>
    (stringBody? (rest.length + 1) rest).map fun (pieces, rest) =>
      ((Raw.joinPieces? joinHalves pieces).map String.ofList, rest)
  | _ => none

/-! ### Numbers -/

/-- The digits of a number so far: as many as fit into 64 bits, and the
exponent that the others have left. -/
structure Mantissa where
  digits : Nat
  exponent : Int
  /-- Whether a digit has been dropped. -/
  full : Bool

/-- Whether another digit still fits into 64 bits. -/
def Mantissa.hasRoom (m : Mantissa) (digit : Nat) : Bool :=
  !m.full && 10 * m.digits + digit < UInt64.size

/-- Takes up a digit before the point. -/
def Mantissa.pushWhole (m : Mantissa) (c : Char) : Mantissa :=
  let digit := c.toNat - '0'.toNat
  if m.hasRoom digit then { m with digits := 10 * m.digits + digit }
  else { m with exponent := m.exponent + 1, full := true }

/-- Takes up a digit after the point. -/
def Mantissa.pushFraction (m : Mantissa) (c : Char) : Mantissa :=
  let digit := c.toNat - '0'.toNat
  if m.hasRoom digit then
    { m with digits := 10 * m.digits + digit, exponent := m.exponent - 1 }
  else { m with full := true }

/-- Scales a number by a power of ten; none if the result is too large. -/
def scale? : (fuel : Nat) → Float → Int → Option Float
  | 0, _, _ => none
  | fuel + 1, x, exponent =>
    if exponent.natAbs ≤ 308 then
      let power := Float.ofScientific 1 false exponent.natAbs
      if exponent < 0 then some (x / power)
      else if (x * power).isInf then none
      else some (x * power)
    else if x == 0.0 then some x
    else if 0 ≤ exponent then none
    else scale? fuel (x / Float.ofScientific 1 false 308) (exponent + 308)

/-- The largest number of 31 bits; an exponent beyond it is not looked at
further. -/
def exponentLimit : Nat := 0x7FFFFFFF

/-- The number that a mantissa and a written exponent stand for; none if it is
too large. -/
def decimalOf? (m : Mantissa) (negative : Bool) (digits : List Char) : Option Float :=
  let size := Decimal.natOfDigits digits
  if exponentLimit < size then
    if m.digits ≠ 0 && !negative then none else some 0.0
  else
    let exponent := if negative then m.exponent - size else m.exponent + size
    let exponent := max (-0x80000000) (min exponent exponentLimit)
    scale? 16 (Float.ofNat m.digits) exponent

/-- An exponent, if the text goes on with one: whether it is negative, its
digits, and what follows. -/
def exponent? : List Char → Option (Bool × List Char × List Char)
  | c :: rest =>
    if c = 'e' || c = 'E' then
      let (negative, rest) := Decimal.spanSign rest
      let (digits, rest) := Decimal.spanDigits rest
      if digits = [] then none else some (negative, digits, rest)
    else some (false, [], c :: rest)
  | [] => some (false, [], [])

/-- A whole number, a decimal if it does not fit. -/
def wholeNumber (negative : Bool) (digits : Nat) : Raw :=
  if negative then
    if digits = 0 || 0x8000000000000000 < digits then .decimal (-Float.ofNat digits) else .integer (-digits)
  else .integer digits

/-- A decimal, unreadable if it is too large. -/
def rawDecimal (negative : Bool) (x : Option Float) : Raw :=
  match x with
  | some x => .decimal (Decimal.withSign negative x)
  | none => .unreadable

/-- Reads a number without its sign. -/
def unsigned? (negative : Bool) (text : List Char) : Option (Raw × List Char) :=
  let (whole, rest) := Decimal.spanDigits text
  if whole = [] || (whole.length ≠ 1 && whole.head? = some '0') then none
  else
    let m := whole.foldl Mantissa.pushWhole ⟨0, 0, false⟩
    match rest with
    | '.' :: rest =>
      let (fraction, rest) := Decimal.spanDigits rest
      if fraction = [] then none
      else
        -- the digits after the point may fit again where the last one did not
        let m := fraction.foldl Mantissa.pushFraction { m with full := false }
        (exponent? rest).map fun (down, digits, rest) =>
          (rawDecimal negative (decimalOf? m down digits), rest)
    | rest =>
      (exponent? rest).map fun (down, digits, after) =>
        if digits = [] && !m.full then (wholeNumber negative m.digits, after)
        else (rawDecimal negative (decimalOf? m down digits), after)

/-- Reads a number. -/
def number? : List Char → Option (Raw × List Char)
  | '-' :: rest => unsigned? true rest
  | text => unsigned? false text

/-! ### Values -/

/-- Reads a value without brackets. -/
def leaf? : List Char → Option (Raw × List Char)
  | 'n' :: rest => Raw.word? "null" .null ('n' :: rest)
  | 't' :: rest => Raw.word? "true" (.boolean true) ('t' :: rest)
  | 'f' :: rest => Raw.word? "false" (.boolean false) ('f' :: rest)
  | '"' :: rest =>
    (string? ('"' :: rest)).map fun (text, rest) => (.ofText text, rest)
  | text => number? text

/-- The grammar of strict JSON. -/
def strict : Raw.Grammar where
  skip := (·.dropWhile isSpace)
  leaf? := leaf?
  name? := string?
  lastComma := false

/-- Reads a text that holds one value. -/
def read? (text : String) : Option Raw := strict.read? text.toList

end Settings.Json
