/-
Settings/Decimal/Rounding.lean

Rounding a binary floating point number to a number of decimal places: scale
by a power of ten, round to a whole number, scale back.  A half goes away
from zero.  The power is found by repeated squaring, so beyond the exact
powers its last digits depend on the order of the multiplications, which is
fixed here.

Nothing is checked afterwards: where scaling overflows, the result is not
finite.
-/

namespace Settings.Decimal

/-! ### Whole numbers -/

/-- The value as a mantissa times a power of two, without its sign; none for
zero and for what is not finite. -/
def magnitude? (x : Float) : Option (Nat × Int) :=
  match x.toModel.unpack with
  | .finite _ mantissa exponent _ => some (mantissa, exponent)
  | _ => none

/-- Whether the sign bit is set. -/
def isNegative (x : Float) : Bool := x.toBits ≥ 0x8000000000000000

/-- `mantissa * 2 ^ -places`, rounded to a whole number, a half upwards. -/
def roundHalfUp (mantissa places : Nat) : Nat :=
  (2 * mantissa + Nat.pow 2 places) / Nat.pow 2 (places + 1)

/-- The nearest whole number, a half going away from zero.  The sign is kept
even where zero is left. -/
def roundWhole (x : Float) : Float :=
  match magnitude? x with
  | none => x
  | some (mantissa, exponent) =>
    if 0 ≤ exponent then x
    else
      let whole := Float.ofNat (roundHalfUp mantissa exponent.natAbs)
      if isNegative x then -whole else whole

/-! ### Powers of ten -/

/-- Multiplies `result` by `base ^ exponent`, squaring `base` for each of at
most `bits` binary digits of the exponent, the lowest first. -/
def powerOnto (result base : Float) : (bits exponent : Nat) → Float
  | 0, _ => result
  | bits + 1, exponent =>
    let result := if exponent % 2 = 1 then result * base else result
    if exponent / 2 = 0 then result else powerOnto result (base * base) bits (exponent / 2)

/-- The power of ten with the given exponent; a negative one inverts. -/
def powerOfTen (exponent : Int) : Float :=
  let power := powerOnto 1.0 10.0 32 exponent.natAbs
  if exponent < 0 then 1.0 / power else power

/-- A number of places as the exponent of the scale: 32 bits, of which the
first is the sign. -/
def placesExponent (places : UInt32) : Int := places.toInt32.toInt

/-- Rounds `x` to the given number of decimal places. -/
def roundTo (x : Float) (places : UInt32) : Float :=
  let factor := powerOfTen (placesExponent places)
  roundWhole (x * factor) / factor

end Settings.Decimal
