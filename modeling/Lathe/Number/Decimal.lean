import Lathe.Number.Exact

/-!
# Choosing decimal digits

Decimal digits of a floating-point number, chosen in exact integer arithmetic.

* `roundDiv` rounds a quotient to the nearest integer, a half to the even one.
* `Decimal.nearest` is the nearest decimal with a given number of significant digits.
* `Decimal.shortest` is the decimal with the fewest significant digits that is closer to the number
  than to any other number of the format; of several such decimals it is the nearest one.
-/

namespace Lathe.Number

/-- The integer nearest to `num / den`; a half goes to the even neighbour. -/
def roundDiv (num den : Nat) : Nat :=
  let q := num / den
  let r := num % den
  if den < 2 * r ∨ (2 * r = den ∧ q % 2 = 1) then q + 1 else q

/-- A positive decimal `d₁.d₂d₃… * 10 ^ exponent`, without trailing zeros in its digits. -/
structure Decimal where
  /-- The significant digits, most significant first. -/
  digits : List Char
  /-- The power of ten of the first digit. -/
  exponent : Int
deriving DecidableEq, Repr, Inhabited

/-- How many decimal digits `n` has. -/
def decimalLength (n : Nat) : Nat :=
  (Nat.toDigits 10 n).length

/-- How many decimal digits an integer may have where it is read from a text or written as one. -/
def mostDigits : Nat := 4300

/-- The list without the zeros at its end; a list of zeros keeps its first one. -/
def dropTrailingZeros : List Char → List Char
  | [] => []
  | d :: ds => d :: (ds.reverse.dropWhile (· == '0')).reverse

/-- The power of ten of the leading digit of `num / den`, for positive `num` and `den`. -/
def leadingPower (num den : Nat) : Int :=
  let k : Int := (decimalLength num : Int) - decimalLength den
  if den * Nat.pow 10 k.toNat ≤ num * Nat.pow 10 (-k).toNat then k else k - 1

namespace Decimal

/-- The decimal `c * 10 ^ power`. -/
def ofScaled (c : Nat) (power : Int) : Decimal :=
  let digits := Nat.toDigits 10 c
  { digits := dropTrailingZeros digits, exponent := power + digits.length - 1 }

/-- The decimal of `count` significant digits nearest to `num / den`. -/
def nearest (count num den : Nat) : Decimal :=
  let power := leadingPower num den - count + 1
  ofScaled (roundDiv (num * Nat.pow 10 (-power).toNat) (den * Nat.pow 10 power.toNat)) power

/-- A decimal of `count` digits inside the rounding interval of `mantissa * 2 ^ exponent`, if there
is one; of two such neighbours the nearer, and the even one on a tie.

All quantities are scaled by four, so that the ends of the interval are integers. -/
def within? (mantissa : Nat) (exponent : Int) (count : Nat) : Option Decimal :=
  let (two, den) := quotient 1 (exponent - 2)
  let value := 4 * mantissa * two
  let gap := if mantissa = leadingBit ∧ -1074 < exponent then 1 else 2
  let power := leadingPower value den - count + 1
  let down := Nat.pow 10 (-power).toNat
  let unit := den * Nat.pow 10 power.toNat
  let low := (4 * mantissa - gap) * two * down
  let high := (4 * mantissa + 2) * two * down
  let fits (c : Nat) : Bool :=
    if mantissa % 2 = 0 then decide (low ≤ c * unit ∧ c * unit ≤ high)
    else decide (low < c * unit ∧ c * unit < high)
  let below := value * down / unit
  let near := roundDiv (value * down) unit
  let far := if near = below then below + 1 else below
  if fits near then some (ofScaled near power)
  else if fits far then some (ofScaled far power)
  else none

/-- The shortest decimal that reads back as `mantissa * 2 ^ exponent`. Seventeen digits always do.
-/
def shortest (mantissa : Nat) (exponent : Int) : Decimal :=
  let (num, den) := quotient mantissa exponent
  ((List.range 16).findSome? fun i => within? mantissa exponent (i + 1)).getD (nearest 17 num den)

end Decimal

end Lathe.Number
