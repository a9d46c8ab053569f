import FilterWire.Text.Basic

/-!
# Nearest doubles

The floating-point number that a decimal notation stands for.
-/

namespace FilterWire

/-- The double nearest to `digits · 10 ^ exponent`.  Far outside the range of doubles the answer
does not depend on the digits. -/
def nearestFloat (negative : Bool) (digits : Text) (exponent : Int) : Float :=
  let digits := digits.dropWhile (· = '0')
  let size := exponent + digits.length
  let magnitude :=
    if digits.isEmpty then 0
    else if size < -400 then 0
    else if 400 < size then 1.0 / 0.0
    else Float.ofScientific (Text.toNat digits) (exponent < 0) exponent.natAbs
  if negative then -magnitude else magnitude

/-- Decimal integers have at most this many digits. -/
def maxIntegerDigits : Nat := 4300

end FilterWire
