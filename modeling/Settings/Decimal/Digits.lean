/-
Settings/Decimal/Digits.lean

Decimal numbers as digits and an exponent, and the floating point number that
is nearest to one.

Zeros at the end of the digits say nothing about the number.  `normal` takes
them off, and `nearest` looks at what is left, so that spellings with and
without them come to one computation.  That it goes to the number nearest to the
value of the digits is shown in Settings/Proofs/Decimal/Shortest.lean.
-/

namespace Settings.Decimal

/-- The number `digits * 10 ^ exponent`. -/
structure Digits where
  digits : Nat
  exponent : Int
deriving DecidableEq

/-- The number of decimal digits of a positive number. -/
def digitCount (n : Nat) : Nat := (Nat.toDigits 10 n).length

namespace Digits

/-! ### Zeros at the end -/

/-- Takes up to `fuel` zeros off the end of the digits. -/
def strip : (fuel : Nat) → Digits → Digits
  | 0, d => d
  | fuel + 1, d =>
    if d.digits ≠ 0 ∧ d.digits % 10 = 0 then strip fuel ⟨d.digits / 10, d.exponent + 1⟩ else d

/-- The same number without zeros at the end of its digits. -/
def normal (d : Digits) : Digits := strip d.digits d

/-! ### The nearest number -/

/-- The nearest floating point number, infinity if the number is too large.
Far outside their range the power of ten is not computed. -/
def nearest (d : Digits) : Float :=
  let ⟨digits, exponent⟩ := d.normal
  let point := digitCount digits + exponent
  if d.digits = 0 || point < -400 then 0.0
  else if 400 < point then 1.0 / 0.0
  else Float.ofScientific digits (decide (exponent < 0)) exponent.natAbs

end Digits

end Settings.Decimal
