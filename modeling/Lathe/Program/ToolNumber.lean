import Lathe.Program.Statement
import Lathe.Text.Blank
import Lathe.Text.Digit

/-!
# Tool numbers

A tool statement names the tool and its offset in one number, as in `T0101`. The tool is given by
the first two characters of the number as written: `T0101` is tool 1, `T101` is tool 10, `T3` is
tool 3. A minus sign counts as a character, so a negative number never names a tool of the turret.
-/

namespace Lathe

/-- The integer that a text denotes: blanks around it, a sign and digits. -/
def integer? (cs : List Char) : Option Int :=
  let (negative, digits) := match Text.trim Text.isMargin cs with
    | '-' :: rest => (true, rest)
    | '+' :: rest => (false, rest)
    | rest => (false, rest)
  if digits.isEmpty || !digits.all Text.isDigit then none
  else some (Number.signed negative (Text.digitsValue digits))

namespace Statement

/-- The written number of a command up to its point, without plus signs. -/
def wholeText (s : Statement) (code : Code) : Except Fault (List Char) :=
  let cut (cs : List Char) := (cs.dropWhile (· == '+')).takeWhile (· != '.')
  if s.codeText.isEmpty then code.toInt.map fun n => cut (toString n).toList
  else .ok (cut s.codeText.toList)

/-- The number of the tool that a tool statement names; a bare `T` names none. -/
def toolNumber (s : Statement) : Except Fault (Option Int) :=
  match s.code with
  | none => .ok none
  | some code =>
    match s.wholeText code with
    | .error fault => .error fault
    | .ok digits =>
      if digits = [] ∨ digits = ['-'] then .ok none
      else
        match integer? (digits.take 2) with
        | some n => .ok (some n)
        | none => .error (.notInteger (.malformed (String.ofList (digits.take 2))))

end Statement

end Lathe
