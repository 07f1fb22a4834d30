/-
Settings/Decimal/Reader.lean

Reading numbers.  `read?` reads the texts that people type: a sign, digits
with or without a point, an exponent, or one of the words for infinity and for
what is not a number, in any case of letters.  The value is the floating point
number nearest to the digits.
-/
import Settings.Decimal.Digits

namespace Settings.Decimal

/-- `x` with a sign in front. -/
def withSign (negative : Bool) (x : Float) : Float := if negative then -x else x

/-! ### Digits -/

/-- Whether the character is one of the ten digits. -/
def isDigit (c : Char) : Bool := '0' ≤ c && c ≤ '9'

/-- The digits that a text starts with, and what follows them. -/
def spanDigits (text : List Char) : List Char × List Char :=
  (text.takeWhile isDigit, text.dropWhile isDigit)

/-- The number that the digits write in base ten. -/
def natOfDigits (digits : List Char) : Nat :=
  digits.foldl (fun n c => 10 * n + (c.toNat - '0'.toNat)) 0

/-- The sign that a text may start with, and what follows it. -/
def spanSign : List Char → Bool × List Char
  | '-' :: rest => (true, rest)
  | '+' :: rest => (false, rest)
  | text => (false, text)

/-! ### Numbers as people type them -/

/-- An exponent to the end of the text: nothing, or the letter, a sign and at
least one digit. -/
def readExponent? : List Char → Option Int
  | [] => some 0
  | c :: rest =>
    if c = 'e' || c = 'E' then
      let (negative, rest) := spanSign rest
      let (digits, rest) := spanDigits rest
      if digits = [] || rest ≠ [] then none
      else some (if negative then -natOfDigits digits else natOfDigits digits)
    else none

/-- The digits after a point, if there is a point, and what follows. -/
def spanFraction : List Char → List Char × List Char
  | '.' :: rest => spanDigits rest
  | text => ([], text)

/-- Reads a number without sign: digits on at least one side of the point,
and an exponent. -/
def readUnsigned? (text : List Char) : Option Float :=
  let (whole, rest) := spanDigits text
  let (fraction, rest) := spanFraction rest
  if whole = [] && fraction = [] then none
  else
    (readExponent? rest).map fun exponent =>
      Digits.nearest ⟨natOfDigits (whole ++ fraction), exponent - fraction.length⟩

/-- The small letter for a capital one of the Latin alphabet. -/
def lowerLatin (c : Char) : Char :=
  if 'A' ≤ c && c ≤ 'Z' then Char.ofNat (c.toNat + 32) else c

/-- Reads a number as people type it. -/
def read? (text : List Char) : Option Float :=
  let (negative, rest) := spanSign text
  let word := String.ofList (rest.map lowerLatin)
  let size :=
    if word = "inf" || word = "infinity" then some (1.0 / 0.0)
    else if word = "nan" then some (0.0 / 0.0)
    else readUnsigned? rest
  size.map (withSign negative)

end Settings.Decimal
