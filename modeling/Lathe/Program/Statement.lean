import Lathe.Association
import Lathe.Fault
import Lathe.Number.Layout
import Lathe.Program.Word

/-!
# Statements

A statement is one instruction of a program: at most one command word, `G`, `M` or `T`, and the
parameter words that belong to it. Command numbers are whole wherever they can be.
-/

namespace Lathe

/-- The number of a command. -/
inductive Code where
  /-- A whole number. -/
  | whole (n : Int)
  /-- A number with a fractional part, as in `G90.1`. -/
  | fraction (x : Float)
deriving DecidableEq, Repr, Inhabited

namespace Code

/-- The code of a number: whole if it has no fractional part. -/
def ofNumber (x : Float) : Except Fault Code :=
  match truncate x with
  | .error fault => .error fault
  | .ok n => .ok (if Number.toRat? x = some (n : Rat) then .whole n else .fraction x)

/-- The text of a code. -/
def text : Code → String
  | .whole n => toString n
  | .fraction x => Number.shortestText x

/-- The code as an integer, rounded toward zero. -/
def toInt : Code → Except Fault Int
  | .whole n => .ok n
  | .fraction x => truncate x

end Code

/-- The kind of a statement, by its command letter. -/
inductive Kind where
  /-- A preparatory statement, `G`; also a statement without a command word. -/
  | preparatory
  /-- A miscellaneous statement, `M`. -/
  | miscellaneous
  /-- A tool statement, `T`. -/
  | tool
deriving DecidableEq, Repr, Inhabited

namespace Kind

/-- The command letter of a kind. -/
def letter : Kind → Char
  | .preparatory => 'G'
  | .miscellaneous => 'M'
  | .tool => 'T'

/-- The kind that a command letter stands for. -/
def ofLetter? (c : Char) : Option Kind :=
  if c = 'G' then some .preparatory
  else if c = 'M' then some .miscellaneous
  else if c = 'T' then some .tool
  else none

end Kind

/-- The parameters of a statement by letter, in the order in which the letters first appeared. The
number of a bare letter is not a number. -/
abbrev Params := Association Char Float

/-- One instruction of a program. -/
structure Statement where
  /-- The kind of the command. -/
  kind : Kind
  /-- The number of the command; a bare command letter, or no command at all, has none. -/
  code : Option Code
  /-- The parameters. -/
  params : Params
  /-- The line on which the statement stands. -/
  line : Nat
  /-- That line as written. -/
  raw : String
  /-- The number of the command as written, without a plus sign. -/
  codeText : String
deriving DecidableEq, Repr

namespace Statement

/-- The number given for a letter: none if the letter is absent or bare. -/
def param (s : Statement) (letter : Char) : Option Float :=
  (s.params.lookup letter).filter fun x => !x.isNaN

/-- Whether a number is given for a letter. -/
def gives (s : Statement) (letter : Char) : Bool :=
  (s.param letter).isSome

/-- The letters that move an axis. -/
def axisLetters : List Char := ['X', 'Z', 'U', 'W']

/-- Whether a number is given for an axis. -/
def givesAxis (s : Statement) : Bool :=
  axisLetters.any s.gives

/-- Whether the statement is of a kind and its code is among `codes`. -/
def isCommand (s : Statement) (kind : Kind) (codes : List (Option Code)) : Bool :=
  decide (s.kind = kind) && codes.contains s.code

/-- Whether the statement is the preparatory command `n`. -/
def isG (s : Statement) (n : Int) : Bool :=
  decide (s.kind = .preparatory ∧ s.code = some (.whole n))

/-- Whether the statement is the miscellaneous command `n`. -/
def isM (s : Statement) (n : Int) : Bool :=
  decide (s.kind = .miscellaneous ∧ s.code = some (.whole n))

/-- The command as text. -/
def head (s : Statement) : String :=
  match s.code with
  | none => s.kind.letter.toString
  | some code => s.kind.letter.toString ++ (if s.codeText.isEmpty then code.text else s.codeText)

/-- The statement as text: the command and its parameters, with six significant digits. -/
def text (s : Statement) : String :=
  String.intercalate " "
    (s.head :: s.params.map fun (letter, value) => letter.toString ++ Number.generalText value)

end Statement

end Lathe
