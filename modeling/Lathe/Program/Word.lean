import Lathe.Program.Numeral

/-!
# Words

The code of a line is a row of words: a letter from `A` to `Z` and the numeral after it, if there is
one. Every other character is stray. `Lexeme.scan` divides a code into words and stray characters,
from left to right and without a gap.
-/

namespace Lathe

/-- A letter and its number, with the place where they stand. -/
structure Word where
  /-- The letter, from `A` to `Z`. -/
  letter : Char
  /-- The numeral as written; empty for a bare letter. -/
  text : String
  /-- The number; a bare letter has none. -/
  value : Option Float
  /-- The number of the line, counted from one. -/
  line : Nat
  /-- The place of the letter in the code of the line. -/
  start : Nat
  /-- The place after the last character. -/
  stop : Nat
deriving DecidableEq, Repr

/-- The written form of a word. -/
def Word.spelling (w : Word) : String :=
  w.letter.toString ++ w.text

/-- A part of a line's code. -/
inductive Lexeme where
  /-- A word. -/
  | word (w : Word)
  /-- A character that begins no word, and its place. -/
  | stray (c : Char) (place : Nat)
deriving DecidableEq, Repr

namespace Lexeme

/-- Whether `c` is a letter that begins a word. -/
def isLetter (c : Char) : Bool :=
  'A' ≤ c && c ≤ 'Z'

/-- The word of a lexeme. -/
def word? : Lexeme → Option Word
  | .word w => some w
  | .stray .. => none

/-- The stray character of a lexeme. -/
def stray? : Lexeme → Option Char
  | .word _ => none
  | .stray c _ => some c

/-- The word that begins with `letter` at `place` and goes on with `numeral`. -/
def wordAt (line place : Nat) (letter : Char) (numeral : List Char) : Word where
  letter := letter
  text := String.ofList numeral
  value := if numeral.isEmpty then none else some (Numeral.value numeral)
  line := line
  start := place
  stop := place + 1 + numeral.length

/-- The lexemes of a code whose first character stands at `place`. -/
def scan (line place : Nat) : List Char → List Lexeme
  | [] => []
  | c :: rest =>
    if isLetter c then
      let numeral := Numeral.scan rest
      .word (wordAt line place c numeral) ::
        scan line (place + 1 + numeral.length) (rest.drop numeral.length)
    else .stray c place :: scan line (place + 1) rest
termination_by cs => cs.length
decreasing_by all_goals (simp only [List.length_cons, List.length_drop]; omega)

end Lexeme

end Lathe
