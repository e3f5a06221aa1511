import Lathe.Number.Division
import Lathe.Text.Digit

/-!
# Numerals

The number of a word is written as an optional sign and then either digits, with an optional point
and more digits, or a point and digits. `Numeral.scan` takes the longest numeral at the start of a
text; `Numeral.value` is the number nearest to what it denotes.
-/

namespace Lathe.Numeral

/-- Whether `c` is a sign. -/
def isSign (c : Char) : Bool :=
  c = '+' || c = '-'

/-- The longest numeral without a sign at the start of a text, empty when there is none. -/
def scanUnsigned (cs : List Char) : List Char :=
  let whole := cs.takeWhile Text.isDigit
  match cs.dropWhile Text.isDigit with
  | '.' :: rest =>
    let fraction := rest.takeWhile Text.isDigit
    if whole.isEmpty && fraction.isEmpty then [] else whole ++ '.' :: fraction
  | _ => whole

/-- The longest numeral at the start of a text, empty when there is none. -/
def scan : List Char → List Char
  | [] => []
  | c :: rest =>
    if isSign c then
      let magnitude := scanUnsigned rest
      if magnitude.isEmpty then [] else c :: magnitude
    else scanUnsigned (c :: rest)

/-- The number nearest to what a numeral denotes. -/
def value (numeral : List Char) : Float :=
  let magnitude := numeral.dropWhile isSign
  let whole := magnitude.takeWhile Text.isDigit
  let fraction := (magnitude.dropWhile Text.isDigit).drop 1
  Number.ofDecimal (numeral.head? == some '-') (Text.digitsValue (whole ++ fraction))
    (-fraction.length)

end Lathe.Numeral
