import Lathe.Number.Decimal

/-!
# Writing numbers

How numbers are laid out as text. The digits come from `Lathe.Number.Decimal`; a `Layout` says where
positional writing ends and whether whole numbers keep a point.

* `shortestText` writes the fewest digits that read back, with a point or an exponent.
* `generalText` writes six significant digits.
* `fixedText` writes a fixed number of places.
* `paddedText` writes an integer with leading zeros.
-/

namespace Lathe.Number

/-- The decisions of one way to write a decimal. -/
structure Layout where
  /-- Exponents from here on are written positionally … -/
  lowest : Int
  /-- … up to, and not including, this one. -/
  highest : Int
  /-- Whether a whole number written positionally ends in `.0`. -/
  keepsPoint : Bool

/-- Shortest digits are positional from `0.0001` up to `10 ^ 16`, and whole numbers keep `.0`. -/
def Layout.shortest : Layout := ⟨-4, 16, true⟩

/-- Six significant digits are positional from `0.0001` up to `10 ^ 6`. -/
def Layout.general : Layout := ⟨-4, 6, false⟩

/-- The decimal digits of `n`, at least `width` of them. -/
def zeroFilled (width n : Nat) : List Char :=
  let digits := Nat.toDigits 10 n
  List.replicate (width - digits.length) '0' ++ digits

/-- An exponent is written with its sign and at least two digits. -/
def exponentMark (e : Int) : List Char :=
  'e' :: (if e < 0 then '-' else '+') :: zeroFilled 2 e.natAbs

/-- A point followed by `fraction`, or nothing when there is no fraction to write. -/
def pointed (fraction : List Char) : List Char :=
  if fraction.isEmpty then [] else '.' :: fraction

/-- The text of a positive decimal. -/
def Layout.write (layout : Layout) (d : Decimal) : List Char :=
  if layout.lowest ≤ d.exponent ∧ d.exponent < layout.highest then
    if d.exponent < 0 then
      '0' :: '.' :: (List.replicate (-d.exponent - 1).toNat '0' ++ d.digits)
    else
      let count := d.exponent.toNat + 1
      let whole := d.digits.take count ++ List.replicate (count - d.digits.length) '0'
      let fraction := d.digits.drop count
      whole ++ pointed (if fraction.isEmpty ∧ layout.keepsPoint then ['0'] else fraction)
  else
    d.digits.take 1 ++ pointed (d.digits.drop 1) ++ exponentMark d.exponent

/-- The text of a number whose finite positive values are written by `body`. -/
def textWith (zero : List Char) (body : Nat → Int → List Char) (x : Float) : String :=
  let sign (negative : Bool) (cs : List Char) := if negative then '-' :: cs else cs
  String.ofList <|
    match exact x with
    | .nan => "nan".toList
    | .infinite negative => sign negative "inf".toList
    | .finite negative mantissa exponent =>
      sign negative (if mantissa = 0 then zero else body mantissa exponent)

/-- The shortest text that reads back as `x`. -/
def shortestText (x : Float) : String :=
  textWith "0.0".toList (fun m e => Layout.shortest.write (Decimal.shortest m e)) x

/-- The text of `x` with six significant digits. -/
def generalText (x : Float) : String :=
  textWith ['0'] (fun m e =>
    let (num, den) := quotient m e
    Layout.general.write (Decimal.nearest 6 num den)) x

/-- The magnitude `num / den` with `places` digits after the point. -/
def fixedDigits (places num den : Nat) : List Char :=
  let digits := zeroFilled (places + 1) (roundDiv (num * Nat.pow 10 places) den)
  let count := digits.length - places
  digits.take count ++ pointed (digits.drop count)

/-- `text` after enough blanks to make it `width` characters long. -/
def padLeft (width : Nat) (text : String) : String :=
  String.ofList (List.replicate (width - text.length) ' ') ++ text

/-- The text of `x` with `places` digits after the point, at least `width` characters long. -/
def fixedText (places width : Nat) (x : Float) : String :=
  padLeft width <| textWith (fixedDigits places 0 1) (fun m e =>
    let (num, den) := quotient m e
    fixedDigits places num den) x

/-- The integer `n` with leading zeros, `width` characters long with its sign. -/
def paddedText (width : Nat) (n : Int) : String :=
  String.ofList <|
    if n < 0 then '-' :: zeroFilled (width - 1) n.natAbs else zeroFilled width n.natAbs

end Lathe.Number
