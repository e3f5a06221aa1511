import Lathe.Program.Statement

/-!
# Findings

A finding is something that is wrong, or worth a remark, in a program: where it is, what it is, and
how bad it is. What it is, is recorded as a cause; `Cause.message` puts it into words.
-/

namespace Lathe

/-- What a finding is about. -/
inductive Cause where
  /-- A character that begins no word. -/
  | strayCharacter (c : Char)
  /-- A preparatory code that the machine does not have. -/
  | unsupportedCode (code : Code) (line : Nat)
  /-- A length offset was asked of a tool that the tool table lacks. -/
  | missingTool (code : Code) (tool : Int)
  /-- A miscellaneous code that does nothing in a replay. -/
  | withoutEffect (code : Code)
  /-- A remark in words of its own. -/
  | remark (text : String)
deriving DecidableEq, Repr

/-- The words for a cause. -/
def Cause.message : Cause → String
  | .strayCharacter c => s!"Unrecognized character: '{c}'"
  | .unsupportedCode code line => s!"Unsupported G-code: G{code.text} on line {line}"
  | .missingTool code tool => s!"G{code.text} H{tool}: tool not in tool table"
  | .withoutEffect code => s!"M{code.text} has no effect in simulation"
  | .remark text => text

/-- The category of a finding. -/
inductive Category where
  /-- The program is not written as it should be. -/
  | wording
  /-- The program is well written and makes no sense. -/
  | meaning
  /-- Something went wrong in a run. -/
  | running
  /-- A remark. -/
  | warning
deriving DecidableEq, Repr

/-- The name of a category. -/
def Category.name : Category → String
  | .wording => "syntax"
  | .meaning => "semantic"
  | .running => "runtime"
  | .warning => "warning"

/-- The category of a given name. -/
def Category.ofName (name : String) : Except Fault Category :=
  match [Category.wording, .meaning, .running, .warning].find? fun c => c.name == name with
  | some category => .ok category
  | none => .error (.notMember .category (Text.quoted name))

/-- How bad a finding is. -/
inductive Severity where
  /-- The program can be run. -/
  | warning
  /-- The program is in error. -/
  | error
  /-- The program cannot be run past this place. -/
  | fatal
deriving DecidableEq, Repr

/-- The name of a severity. -/
def Severity.name : Severity → String
  | .warning => "warning"
  | .error => "error"
  | .fatal => "fatal"

/-- The severity of a given name. -/
def Severity.ofName (name : String) : Except Fault Severity :=
  match [Severity.warning, .error, .fatal].find? fun s => s.name == name with
  | some severity => .ok severity
  | none => .error (.notMember .severity (Text.quoted name))

/-- Something found in a program. -/
structure Finding where
  /-- The line, counted from one. -/
  line : Int
  /-- The first character concerned. -/
  start : Int
  /-- The place after the last character concerned. -/
  stop : Int
  /-- What was found. -/
  cause : Cause
  /-- Its category. -/
  category : Category
  /-- How bad it is. -/
  severity : Severity
  /-- The code concerned, if any. -/
  code : Option Code
deriving DecidableEq, Repr

namespace Finding

/-- A remark about a line that does not keep the program from running. -/
def warning (line : Int) (cause : Cause) : Finding :=
  { line, start := 0, stop := 0, cause, category := .warning, severity := .warning, code := none }

/-- The words for a finding. -/
def message (f : Finding) : String :=
  f.cause.message

/-- The finding as text. -/
def text (f : Finding) : String :=
  s!"Line {f.line}: {f.message}"

/-- Whether the program cannot be run past this finding. -/
def isFatal (f : Finding) : Bool :=
  decide (f.severity = .fatal)

/-- Whether the finding is only a remark. -/
def isWarning (f : Finding) : Bool :=
  decide (f.severity = .warning)

/-- The order of findings in a report: by line, then by place in the line. -/
def notAfter (f g : Finding) : Bool :=
  decide (f.line < g.line ∨ (f.line = g.line ∧ f.start ≤ g.start))

/-- The findings in the order of a report; findings at one place keep their order. -/
def sorted (findings : List Finding) : List Finding :=
  findings.mergeSort notAfter

/-- The findings about a line. -/
def onLine (line : Int) (findings : List Finding) : List Finding :=
  findings.filter fun f => decide (f.line = line)

/-- The remarks among some findings. -/
def warnings (findings : List Finding) : List Finding :=
  findings.filter isWarning

/-- Whether there is more than remarks. -/
def anyError (findings : List Finding) : Bool :=
  findings.any fun f => !f.isWarning

/-- Whether the program cannot be run to its end. -/
def anyFatal (findings : List Finding) : Bool :=
  findings.any isFatal

end Finding

end Lathe
