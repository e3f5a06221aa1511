import Lathe.Finding
import Lathe.Program.SourceLine

/-!
# From lines to statements

The words of a line are taken from left to right. A parameter word joins the statement being
drafted; a command word completes a draft that has a command already, and becomes the command of a
draft that has none. What is drafted at the end of the line is its last statement.

`Program.parse` reads a whole text. Its only fault is a command number beyond the largest number.
-/

namespace Lathe

/-- A statement being drafted. -/
structure Draft where
  /-- The kind, number and written number of the command, once there is one. -/
  command : Option (Kind × Option Code × String)
  /-- The parameters so far. -/
  params : Params

namespace Draft

/-- The draft without any words. -/
def empty : Draft := ⟨none, []⟩

/-- The draft with a parameter word added. -/
def addParam (draft : Draft) (w : Word) : Draft :=
  { draft with params := draft.params.put w.letter (w.value.getD (0.0 / 0.0)) }

/-- The completed statement. A draft without a command is a preparatory statement without a code. -/
def complete (draft : Draft) (line : Nat) (raw : String) : Statement :=
  let (kind, code, codeText) := draft.command.getD (.preparatory, none, "")
  { kind, code, params := draft.params, line, raw, codeText }

end Draft

namespace Word

/-- The code of a command word. -/
def code (w : Word) : Except Fault (Option Code) :=
  match w.value with
  | none => .ok none
  | some x => (Code.ofNumber x).map some

/-- The number of a command word as written, without a plus sign. -/
def codeText (w : Word) : String :=
  String.ofList (w.text.toList.dropWhile (· == '+'))

end Word

namespace Program

/-- The statements that `draft` and the words after it make. -/
def readWords (line : Nat) (raw : String) : Draft → List Word → Except Fault (List Statement)
  | draft, [] => .ok [draft.complete line raw]
  | draft, w :: rest =>
    match Kind.ofLetter? w.letter with
    | none => readWords line raw (draft.addParam w) rest
    | some kind =>
      match w.code with
      | .error fault => .error fault
      | .ok code =>
        let command := some (kind, code, w.codeText)
        if draft.command.isSome then
          (readWords line raw ⟨command, []⟩ rest).map (draft.complete line raw :: ·)
        else readWords line raw { draft with command } rest

/-- The statements of a line. -/
def readLine (line : SourceLine) : Except Fault (List Statement) :=
  if line.words.isEmpty then .ok [] else readWords line.number line.raw .empty line.words

/-- The statements of some lines. -/
def readLines : List SourceLine → Except Fault (List Statement)
  | [] => .ok []
  | line :: rest =>
    match readLine line with
    | .error fault => .error fault
    | .ok statements => (readLines rest).map (statements ++ ·)

/-- The statements of a text. -/
def parse (text : String) : Except Fault (List Statement) :=
  readLines (SourceLine.ofText text)

/-- The remarks about the stray characters of a line. -/
def lineWarnings (line : SourceLine) : List Finding :=
  line.strays.map fun c => .warning line.number (.strayCharacter c)

/-- The remarks about the stray characters of a text. They do not depend on whether its words make
statements. -/
def warnings (text : String) : List Finding :=
  (SourceLine.ofText text).flatMap lineWarnings

end Program

end Lathe
