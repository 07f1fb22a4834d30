/-
Settings/Decimal/Shortest.lean

The fewest decimal digits that read back to a floating point number.

For one digit, two digits and so on, the value has a neighbour below it and
one above it among the numbers with that many digits.  The first count of
digits for which one of the two reads back wins; if both do, the nearer is
taken, and on an exact tie the writer's rule decides.  Seventeen digits are
always enough; the exact value stands behind them as a last resort, so that
`shortest` needs no proof of it.
-/
import Settings.Decimal.Digits
import Settings.Decimal.Rounding

namespace Settings.Decimal

/-- Which of two equally near neighbours is written. -/
inductive Tie where
  /-- The one with the even last digit. -/
  | toEven
  /-- The one farther from zero. -/
  | away
deriving DecidableEq

/-- The position of the point of `num / den` relative to its first digit: the
`p` with `10 ^ (p - 1) ≤ num / den < 10 ^ p`. -/
def pointOf (num den : Nat) : Int :=
  if den ≤ num then digitCount (num / den)
  else
    let zeros := digitCount (den / num)
    if den ≤ num * Nat.pow 10 (zeros - 1) then 2 - (zeros : Int) else 1 - (zeros : Int)

/-- The two neighbours of `num / den` among the multiples of
`10 ^ exponent`, the nearer first. -/
def neighbours (tie : Tie) (num den : Nat) (exponent : Int) : List Digits :=
  let num := num * Nat.pow 10 (-exponent).toNat
  let den := den * Nat.pow 10 exponent.toNat
  let below := num / den
  let twice := 2 * (num % den)
  let upwards :=
    if twice = den then
      match tie with
      | .toEven => decide (below % 2 = 1)
      | .away => true
    else decide (den < twice)
  if upwards then [⟨below + 1, exponent⟩, ⟨below, exponent⟩]
  else [⟨below, exponent⟩, ⟨below + 1, exponent⟩]

/-- The exact value of `mantissa * 2 ^ exponent` in decimal digits. -/
def exactDigits (mantissa : Nat) (exponent : Int) : Digits :=
  if 0 ≤ exponent then ⟨mantissa * Nat.pow 2 exponent.toNat, 0⟩
  else ⟨mantissa * Nat.pow 5 exponent.natAbs, exponent⟩

/-- The fewest digits that read back to the size of `x`; none for zero and
for what is not finite. -/
def shortest? (tie : Tie) (x : Float) : Option Digits :=
  (magnitude? x).map fun (mantissa, exponent) =>
    let num := mantissa * Nat.pow 2 exponent.toNat
    let den := Nat.pow 2 (-exponent).toNat
    let point := pointOf num den
    let candidates := (List.range 17).flatMap fun (count : Nat) =>
      neighbours tie num den (point - 1 - count)
    let found := candidates.find? fun d => d.nearest == x.abs
    (found.getD (exactDigits mantissa exponent)).normal

end Settings.Decimal
