import Lathe.Number.Decimal

/-!
# Dividing integers

The quotient of two integers of any size is a number after a single rounding: neither of them is
rounded before they are divided. An integer is the quotient of itself and one, and a decimal is the
quotient of its digits and a power of ten.

* `ofQuotient?` is the number nearest to a quotient, unless that is beyond the largest number.
* `ofDecimal` is the number nearest to a decimal.
-/

namespace Lathe.Number

/-- The quotient `num / den`, multiplied by `2 ^ shift`, as a quotient of two natural numbers. -/
def scaled (num den : Nat) (shift : Int) : Nat × Nat :=
  (num * Nat.pow 2 shift.toNat, den * Nat.pow 2 (-shift).toNat)

/-- The power of two by which `num / den` is multiplied before it is rounded to an integer. The
product has all bits of a mantissa in front of its point, or the smallest bit that numbers have is
the last one in front of it. -/
def roundingShift (num den : Nat) : Int :=
  let guess : Int := 52 - ((num.log2 : Int) - den.log2)
  let (n, d) := scaled num den guess
  min 1074 (if d * leadingBit ≤ n then guess else guess + 1)

/-- The number nearest to `num / den`, for a positive `den`; a half goes to the even neighbour.
There is none if that number is beyond the largest one.

The bit pattern of a positive number counts the positive numbers below it, so rounding up past the
end of a mantissa carries into the exponent. -/
def ofQuotient? (num den : Nat) : Option Float :=
  if num = 0 then some 0.0
  else
    let shift := roundingShift num den
    let (n, d) := scaled num den shift
    let bits := (1074 - shift).toNat * leadingBit + roundDiv n d
    if bits < 2047 * leadingBit then some (Float.ofBits (UInt64.ofNat bits)) else none

/-- The number nearest to `m * 10 ^ e`, negated when `negative` is set. Magnitudes that are beyond
every finite number, or below every positive one, are settled before the power of ten is computed.
-/
def ofDecimal (negative : Bool) (m : Nat) (e : Int) : Float :=
  let magnitude :=
    if m = 0 ∨ e + m.log2 / 3 + 1 < -400 then 0.0
    else if 400 < e then 1.0 / 0.0
    else (ofQuotient? (m * Nat.pow 10 e.toNat) (Nat.pow 10 (-e).toNat)).getD (1.0 / 0.0)
  if negative then -magnitude else magnitude

end Lathe.Number
