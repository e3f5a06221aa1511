import Lathe.Number.Division
import Lathe.Text.Blank
import Lathe.Text.Digit

/-!
# Reading numbers

The texts that stand for a number where a number is asked for: a sign, digits with an optional point
and exponent, or a word for a value that is not finite, in any case. Single underscores may stand
between digits, and blanks around the whole.

* `ofText?` is the number nearest to what a text denotes.
-/

namespace Lathe.Number

/-- The text without its underscores, each of which must stand between two digits; `before` is the
character before the text. -/
def dropUnderscores? (before : Char) : List Char → Option (List Char)
  | [] => some []
  | '_' :: next :: rest =>
    if Text.isDigit before && Text.isDigit next then
      (dropUnderscores? next rest).map (next :: ·)
    else none
  | c :: rest => if c = '_' then none else (dropUnderscores? c rest).map (c :: ·)

/-- The sign at the start of a text, as whether it is a minus sign, and the text after it. -/
def splitSign : List Char → Bool × List Char
  | '-' :: rest => (true, rest)
  | '+' :: rest => (false, rest)
  | cs => (false, cs)

/-- The exponent that a whole text denotes; no text is the exponent zero. -/
def exponent? : List Char → Option Int
  | [] => some 0
  | mark :: rest =>
    let (negative, digits) := splitSign rest
    if (mark = 'e' ∨ mark = 'E') ∧ !digits.isEmpty ∧ digits.all Text.isDigit then
      some (signed negative (Text.digitsValue digits))
    else none

/-- The number that digits with an optional point and exponent denote. -/
def decimal? (negative : Bool) (cs : List Char) : Option Float :=
  let whole := cs.takeWhile Text.isDigit
  let (fraction, rest) := match cs.dropWhile Text.isDigit with
    | '.' :: more => (more.takeWhile Text.isDigit, more.dropWhile Text.isDigit)
    | rest => ([], rest)
  if whole.isEmpty && fraction.isEmpty then none
  else
    (exponent? rest).map fun e =>
      ofDecimal negative (Text.digitsValue (whole ++ fraction)) (e - fraction.length)

/-- The words for values that are not finite, in lower case. -/
def specialWords : List (List Char × Float) := [
  ("inf".toList, 1.0 / 0.0), ("infinity".toList, 1.0 / 0.0), ("nan".toList, 0.0 / 0.0)]

/-- The number that a text denotes. -/
def ofText? (text : String) : Option Float := do
  let cs ← dropUnderscores? ' ' (Text.trim Text.isMargin text.toList)
  let (negative, magnitude) := splitSign cs
  match specialWords.lookup (magnitude.map Char.toLower) with
  | some x => some (if negative then -x else x)
  | none => decimal? negative magnitude

end Lathe.Number
