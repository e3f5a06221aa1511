import Lathe.Program.Word
import Lathe.Text.Blank
import Lathe.Text.Upper

/-!
# Source lines

A program is read line by line. Of each line, the part before the first `(` or `;` is code; its
letters are upper-cased and its blanks removed before it is divided into words.
-/

namespace Lathe

/-- One line of a program. -/
structure SourceLine where
  /-- The number of the line, counted from one. -/
  number : Nat
  /-- The line as written, without the carriage returns at its end. -/
  raw : String
  /-- The code of the line, in upper case and without blanks. -/
  code : String
  /-- The parts of the code. -/
  lexemes : List Lexeme
deriving DecidableEq, Repr

namespace SourceLine

/-- Whether `c` opens a comment. -/
def opensComment (c : Char) : Bool :=
  c = '(' || c = ';'

/-- The part of a line before its comment. -/
def cutComment (cs : List Char) : List Char :=
  cs.takeWhile fun c => !opensComment c

/-- The line without the carriage returns at its end. -/
def dropReturns (cs : List Char) : List Char :=
  (cs.reverse.dropWhile (· == '\r')).reverse

/-- The code of a line: upper-cased, without comment and blanks. -/
def codeOf (cs : List Char) : List Char :=
  (Text.upperText (cutComment cs)).filter fun c => !Text.isBlank c

/-- Read one line. -/
def ofChars (number : Nat) (cs : List Char) : SourceLine :=
  let raw := dropReturns cs
  let code := codeOf raw
  { number := number
    raw := String.ofList raw
    code := String.ofList code
    lexemes := Lexeme.scan number 0 code }

/-- The lines of a text, read with the numbers from `first` on. -/
def ofTextFrom (first : Nat) (cs : List Char) : List SourceLine :=
  ((cs.splitOn '\n').zipIdx first).map fun (line, number) => ofChars number line

/-- All the lines of a program. -/
def ofText (text : String) : List SourceLine :=
  ofTextFrom 1 text.toList

/-- The words of a line, from left to right. -/
def words (line : SourceLine) : List Word :=
  line.lexemes.filterMap Lexeme.word?

/-- The stray characters of a line, from left to right. -/
def strays (line : SourceLine) : List Char :=
  line.lexemes.filterMap Lexeme.stray?

/-- The lines that hold at least one word. -/
def withWords (lines : List SourceLine) : List SourceLine :=
  lines.filter fun line => !line.words.isEmpty

end SourceLine

end Lathe
