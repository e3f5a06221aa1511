/-!
# Blanks

The characters that carry no meaning between and inside the words of a program: tabs, line and page
breaks, separators and the spaces of all widths. Zero-width spaces and the byte order mark are not
among them.
-/

namespace Lathe.Text

/-- The runs of blank characters, as first and last code points. -/
def blankRuns : List (Nat × Nat) := [
  (0x0009, 0x000d), (0x001c, 0x0020), (0x0085, 0x0085), (0x00a0, 0x00a0), (0x1680, 0x1680),
  (0x2000, 0x200a), (0x2028, 0x2029), (0x202f, 0x202f), (0x205f, 0x205f), (0x3000, 0x3000)]

/-- Whether `c` is a blank. -/
def isBlank (c : Char) : Bool :=
  blankRuns.any fun (first, last) => first ≤ c.toNat && c.toNat ≤ last

/-- Whether `c` may stand around a number: a blank that is none of the information separators. -/
def isMargin (c : Char) : Bool :=
  isBlank c && !(0x1c ≤ c.toNat && c.toNat ≤ 0x1f)

/-- The text without the characters of a class at both its ends. -/
def trim (inClass : Char → Bool) (cs : List Char) : List Char :=
  ((cs.dropWhile inClass).reverse.dropWhile inClass).reverse

end Lathe.Text
