import Lathe.Text.Quoted

/-!
# Colors

A color is a code of six hexadecimal digits, two for each of red, green and blue.
-/

namespace Lathe

/-- A color. -/
structure Color where
  /-- The code of the color: red, green and blue from the most to the least significant byte. -/
  code : Nat
deriving DecidableEq, Repr

namespace Color

/-- The text of a color: a number sign and six digits. -/
def text (color : Color) : String :=
  String.ofList ('#' :: Text.hexDigits 6 color.code)

/-- The value of a hexadecimal digit in upper or lower case. -/
def digit? (c : Char) : Option Nat :=
  if '0' ≤ c ∧ c ≤ '9' then some (c.toNat - '0'.toNat)
  else if 'a' ≤ c ∧ c ≤ 'f' then some (c.toNat - 'a'.toNat + 10)
  else if 'A' ≤ c ∧ c ≤ 'F' then some (c.toNat - 'A'.toNat + 10)
  else none

/-- The color with a given text. Any text that is not the text of a color stands for black. -/
def ofText (text : String) : Color :=
  match text.toList with
  | '#' :: digits =>
    match digits.mapM digit? with
    | some [a, b, c, d, e, f] => ⟨[a, b, c, d, e, f].foldl (fun n d => 16 * n + d) 0⟩
    | _ => ⟨0⟩
  | _ => ⟨0⟩

/-- A byte as a share of the full intensity. -/
def share (byte : Nat) : Float :=
  Float.ofNat byte / 255.0

end Color

/-- The intensities of red, green and blue, each from zero to one. -/
structure Light where
  /-- The intensity of red. -/
  red : Float
  /-- The intensity of green. -/
  green : Float
  /-- The intensity of blue. -/
  blue : Float

/-- The intensities of a color. -/
def Color.light (color : Color) : Light where
  red := share (color.code / 0x10000 % 0x100)
  green := share (color.code / 0x100 % 0x100)
  blue := share (color.code % 0x100)

end Lathe
