/-!
# Exact values of floating-point numbers

A finite binary64 number is a signed integer times a power of two. This module reads that integer
and that power off the bit pattern, so that truncation, comparison and decimal output can be done in
integer arithmetic, without rounding.

* `exact x` is the exact value of `x`.
* `truncate x` drops the fractional part of `x`; it fails on values that are no real numbers.
* `leastOf` and `greatestOf` choose between two numbers and keep the first one unless the second is
  strictly beyond it, which also fixes what they do with a value that is not a number.
-/

namespace Lathe.Number

/-- The exact value of a floating-point number. -/
inductive Exact where
  /-- Not a number. -/
  | nan
  /-- An infinity, with its sign. -/
  | infinite (negative : Bool)
  /-- The value `mantissa * 2 ^ exponent`, negated when `negative` is set. -/
  | finite (negative : Bool) (mantissa : Nat) (exponent : Int)
deriving DecidableEq, Repr, Inhabited

/-- The weight of the leading bit of a mantissa, which is not part of the bit pattern. -/
def leadingBit : Nat := 0x10000000000000

/-- The exact value that the bit pattern of `x` stands for. -/
def exact (x : Float) : Exact :=
  let bits := x.toBits.toNat
  let negative := decide (bits / leadingBit / 2048 = 1)
  let field : Nat := bits / leadingBit % 2048
  let fraction := bits % leadingBit
  if field = 2047 then
    if fraction = 0 then .infinite negative else .nan
  else if field = 0 then .finite negative fraction (-1074)
  else .finite negative (leadingBit + fraction) ((field : Int) - 1075)

/-- The magnitude `mantissa * 2 ^ exponent` as a quotient of two natural numbers. -/
def quotient (mantissa : Nat) (exponent : Int) : Nat × Nat :=
  (mantissa * Nat.pow 2 exponent.toNat, Nat.pow 2 (-exponent).toNat)

/-- The integer `n`, negated when `negative` is set. -/
def signed (negative : Bool) (n : Nat) : Int :=
  if negative then -(n : Int) else n

/-- Why a number has no integer part. -/
inductive NotReal where
  /-- The number is an infinity. -/
  | infinite
  /-- The number is not a number. -/
  | nan
deriving DecidableEq, Repr

/-- The integer part of `x`, rounded toward zero. -/
def truncate (x : Float) : Except NotReal Int :=
  match exact x with
  | .nan => .error .nan
  | .infinite _ => .error .infinite
  | .finite negative mantissa exponent =>
    let (num, den) := quotient mantissa exponent
    .ok (signed negative (num / den))

/-- The real value of `x`, when it has one. -/
def toRat? (x : Float) : Option Rat :=
  match exact x with
  | .finite negative mantissa exponent =>
    let (num, den) := quotient mantissa exponent
    some (mkRat (signed negative num) den)
  | _ => none

/-- The smaller of two numbers: `b` only if it is strictly below `a`. -/
def leastOf (a b : Float) : Float :=
  if b < a then b else a

/-- The larger of two numbers: `b` only if it is strictly above `a`. -/
def greatestOf (a b : Float) : Float :=
  if a < b then b else a

end Lathe.Number
