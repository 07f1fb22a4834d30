/-
Settings/Decimal/Layout.lean

The layout of written numbers.  Digits are chosen by `shortest?`; a `Layout`
says how they are set: for which sizes the point is written in its place, and
whether whole numbers keep a point.  Outside these sizes the number is
written with an exponent that always carries its sign.
-/
import Settings.Decimal.Shortest

namespace Settings.Decimal

/-- How a finite number is set. -/
structure Layout where
  /-- Which of two equally near neighbours is written. -/
  tie : Tie
  /-- Whether a number is written without exponent, by the exponent of its
  first digit. -/
  isPlain : Int → Bool
  /-- What follows the digits of a whole number written without exponent. -/
  wholeEnd : List Char

/-- `count` zeros. -/
def zeros (count : Nat) : List Char := List.replicate count '0'

/-- The digits of a positive number with the point in its place. -/
def plain (wholeEnd : List Char) (d : Digits) : List Char :=
  let digits := Nat.toDigits 10 d.digits
  let point := digits.length + d.exponent
  if 0 ≤ d.exponent then digits ++ zeros d.exponent.toNat ++ wholeEnd
  else if 0 < point then digits.take point.toNat ++ '.' :: digits.drop point.toNat
  else '0' :: '.' :: zeros (-point).toNat ++ digits

/-- The digits of a positive number with the point after the first one, and
the exponent. -/
def scientific (d : Digits) : List Char :=
  let digits := Nat.toDigits 10 d.digits
  let exponent := digits.length + d.exponent - 1
  let mantissa := match digits with
    | first :: second :: rest => first :: '.' :: second :: rest
    | digits => digits
  mantissa ++ 'e' :: (if exponent < 0 then '-' else '+') :: Nat.toDigits 10 exponent.natAbs

/-- Sets a finite number. -/
def Layout.write (layout : Layout) (x : Float) : List Char :=
  let size := match shortest? layout.tie x with
    | none => '0' :: layout.wholeEnd
    | some d =>
      if layout.isPlain (digitCount d.digits + d.exponent - 1) then plain layout.wholeEnd d
      else scientific d
  if isNegative x then '-' :: size else size

/-- Numbers as they are shown to people: never an exponent, and no point after
a whole number.  On a tie the number farther from zero is shown. -/
def shown : Layout := ⟨.away, fun _ => true, []⟩

/-- The number as it is shown to people. -/
def shownText (x : Float) : String :=
  if x.isNaN then "NaN"
  else if x.isInf then (if isNegative x then "-inf" else "inf")
  else String.ofList (shown.write x)

end Settings.Decimal
