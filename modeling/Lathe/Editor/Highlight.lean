import Lathe.Color
import Lathe.Program.SourceLine

/-!
# Highlighting

The editor shows the words of a program in colors. It reads a line as it stands, with its blanks and
in either case, so that every span can be given by its place in the line: a word is a letter, any
blanks after it, and a numeral if one follows. Everything from the first `(` or `;` on is a comment.

* `WordSpan.scan` finds the words of the code of a line.
* `Role.ofWord?` says what part a word plays.
* `Highlight.spans` are the spans of a line that have a style of their own.
-/

namespace Lathe

/-- How a span of text is shown. -/
structure Style where
  /-- The color of the letters. -/
  color : Color
  /-- Whether the letters are bold. -/
  bold : Bool := false
  /-- Whether the letters are slanted. -/
  italic : Bool := false
deriving DecidableEq, Repr

/-- The part that a span plays in a program. -/
inductive Role where
  /-- A rapid move. -/
  | rapid
  /-- A cutting move. -/
  | cut
  /-- A thread. -/
  | thread
  /-- A turning cycle. -/
  | cycle
  /-- Any other preparatory command. -/
  | preparatory
  /-- A miscellaneous command. -/
  | miscellaneous
  /-- A tool. -/
  | tool
  /-- A diameter. -/
  | diameter
  /-- A length. -/
  | length
  /-- A feed or a speed. -/
  | rate
  /-- The number of a line. -/
  | label
  /-- An argument of a cycle or an offset. -/
  | argument
  /-- A comment. -/
  | comment
deriving DecidableEq, Repr

namespace Role

/-- How a span is shown. -/
def style : Role → Style
  | .rapid => { color := ⟨0xff6b6b⟩, bold := true }
  | .cut => { color := ⟨0x51cf66⟩, bold := true }
  | .thread => { color := ⟨0xffd43b⟩, bold := true }
  | .cycle => { color := ⟨0x20c997⟩, bold := true }
  | .preparatory => { color := ⟨0x74c0fc⟩ }
  | .miscellaneous => { color := ⟨0xff8cc8⟩ }
  | .tool => { color := ⟨0xffa500⟩, bold := true }
  | .diameter => { color := ⟨0xff9999⟩ }
  | .length => { color := ⟨0x9999ff⟩ }
  | .rate => { color := ⟨0xffff99⟩ }
  | .label => { color := ⟨0xadb5bd⟩ }
  | .argument => { color := ⟨0x99ffcc⟩ }
  | .comment => { color := ⟨0x6c757d⟩, italic := true }

/-- The part played by the preparatory command with a given number. -/
def ofNumber (number : Float) : Role :=
  if number == 0.0 then .rapid
  else if number == 1.0 || number == 2.0 || number == 3.0 then .cut
  else if number == 32.0 || number == 33.0 || number == 76.0 then .thread
  else if 70.0 ≤ number && number ≤ 75.0 then .cycle
  else .preparatory

/-- The part played by a parameter with a given letter. -/
def ofParameter? (letter : Char) : Option Role :=
  if letter ∈ ['X', 'U'] then some .diameter
  else if letter ∈ ['Z', 'W'] then some .length
  else if letter ∈ ['F', 'S'] then some .rate
  else if letter = 'N' then some .label
  else if letter ∈ ['P', 'Q', 'R', 'H', 'D', 'K'] then some .argument
  else none

/-- The part played by a word. Parameters play one only if they have a number. -/
def ofWord? (letter : Char) (numeral : List Char) : Option Role :=
  if letter = 'G' then
    some (if numeral.isEmpty then .preparatory else ofNumber (Numeral.value numeral))
  else if letter = 'M' then some .miscellaneous
  else if letter = 'T' then some .tool
  else if numeral.isEmpty then none
  else ofParameter? letter

end Role

/-- A word where it stands in a line. -/
structure WordSpan where
  /-- The letter, in upper case. -/
  letter : Char
  /-- The numeral as written; empty for a bare letter. -/
  numeral : List Char
  /-- The place of the letter in the line. -/
  start : Nat
  /-- The number of characters from the letter to the end of the numeral, or of the blanks if there
  is no numeral. -/
  length : Nat
deriving DecidableEq, Repr

namespace WordSpan

/-- The words of a text whose first character stands at `place`. -/
def scan (place : Nat) : List Char → List WordSpan
  | [] => []
  | c :: rest =>
    if c.isAlpha then
      let blanks := rest.takeWhile Text.isBlank
      let numeral := Numeral.scan (rest.dropWhile Text.isBlank)
      let length := 1 + (blanks.length + numeral.length)
      ⟨c.toUpper, numeral, place, length⟩ ::
        scan (place + length) (rest.drop (blanks.length + numeral.length))
    else scan (place + 1) rest
termination_by cs => cs.length
decreasing_by all_goals (simp only [List.length_cons, List.length_drop]; omega)

end WordSpan

/-- A span of a line with its style. -/
structure Highlight where
  /-- The place of its first character. -/
  start : Nat
  /-- The number of its characters. -/
  length : Nat
  /-- How it is shown. -/
  style : Style
deriving DecidableEq, Repr

namespace Highlight

/-- The span of the comment of a line, if it has one. -/
def comment? (line : List Char) : Option Highlight :=
  let start := (SourceLine.cutComment line).length
  if start < line.length then some ⟨start, line.length - start, Role.comment.style⟩ else none

/-- The span of a word, if it has a style of its own. -/
def ofWord? (word : WordSpan) : Option Highlight :=
  (Role.ofWord? word.letter word.numeral).map fun role => ⟨word.start, word.length, role.style⟩

/-- The words of a line, before its comment. -/
def words (line : List Char) : List WordSpan :=
  WordSpan.scan 0 (SourceLine.cutComment line)

/-- The spans of a line that have a style of their own: the comment, then the words from left to
right. -/
def spans (line : String) : List Highlight :=
  (comment? line.toList).toList ++ (words line.toList).filterMap ofWord?

end Highlight

end Lathe
