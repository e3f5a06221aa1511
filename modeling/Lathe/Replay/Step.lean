import Lathe.Finding
import Lathe.Machine.Tool
import Lathe.Program.ToolNumber
import Lathe.Replay.Command

/-!
# One statement

What a single statement does to the machine. The parts of a statement act in a fixed order: a
preparatory code sets its mode, the axis words move the position, a preparatory code makes its move,
then speed and feed, the tool, and at last a miscellaneous code.

The only fault is an H word that is to name a tool and is infinite, or a tool number that cannot be
read.
-/

namespace Lathe

/-- What a replay depends on besides the program. -/
structure Setup where
  /-- The tools of the turret. -/
  tools : ToolTable := .empty
  /-- The reference point. -/
  home : Point Float := ⟨100.0, 50.0⟩
  /-- The preparatory codes that the machine has. -/
  supported : List Code := standardCodes
  /-- Whether `G44` applies the negated length offset; otherwise it does nothing. -/
  negatesOffset : Bool := false

namespace Setup

/-- Whether the machine can execute a statement: its code, if it is preparatory and has one, is
supported. -/
def supports (setup : Setup) (s : Statement) : Bool :=
  match s.kind, s.code with
  | .preparatory, some code => setup.supported.contains code
  | _, _ => true

/-- The finding that a statement is not supported. -/
def unsupported (s : Statement) (code : Code) : Finding :=
  { line := s.line, start := 0, stop := 0, cause := .unsupportedCode code s.line,
    category := .wording, severity := .fatal, code := some code }

/-- The finding that keeps a statement from being executed, if there is one. -/
def objection? (setup : Setup) (s : Statement) : Option Finding :=
  if setup.supports s then none else s.code.map (unsupported s)

end Setup

namespace Machine

/-- One coordinate after the words for its axis: `given` is a position, or a distance in incremental
positioning, and `shift` is always a distance. -/
def moveAxis (positioning : Positioning) (given shift : Option Float) (v : Float) : Float :=
  let v := match given with
    | none => v
    | some a => if positioning = .absolute then a else v + a
  match shift with
  | none => v
  | some d => v + d

/-- Apply the axis words of a statement to the position. -/
def applyAxisWords (s : Statement) (m : Machine) : Machine :=
  { m with position :=
      { x := moveAxis m.positioning (s.param 'X') (s.param 'U') m.position.x
        z := moveAxis m.positioning (s.param 'Z') (s.param 'W') m.position.z } }

/-- The number of the tool that an H word names. -/
def offsetTool (s : Statement) : Except Fault (Option Int) :=
  match s.param 'H' with
  | none => .ok none
  | some h => (truncate h).map some

/-- Put the length offset of the tool named by H into force, changed by `adjust`. A tool that is not
there leaves the offset as it is and is remarked on. -/
def applyOffset (tools : ToolTable) (adjust : Float → Float) (s : Statement) (m : Machine) :
    Except Fault (Machine × List Finding) :=
  match offsetTool s with
  | .error fault => .error fault
  | .ok none => .ok (m, [])
  | .ok (some id) =>
    match tools.lengthOffset id with
    | some offset => .ok ({ m with lengthOffset := adjust offset }, [])
    | none => .ok (m, (s.code.map fun code => Finding.warning s.line (.missingTool code id)).toList)

/-- The words of a statement that have a number. -/
def givenWords (s : Statement) : Params :=
  s.params.filter fun (_, x) => !x.isNaN

/-- Set what a preparatory code sets. -/
def applyModal (setup : Setup) (s : Statement) (modal : Modal) (m : Machine) :
    Except Fault (Machine × List Finding) :=
  match modal with
  | .units units => .ok ({ m with units }, [])
  | .compensation compensation => .ok ({ m with compensation }, [])
  | .lengthOffset => applyOffset setup.tools id s m
  | .negatedOffset =>
    if setup.negatesOffset then applyOffset setup.tools (fun offset => -offset) s m else .ok (m, [])
  | .cancelOffset => .ok ({ m with lengthOffset := 0.0 }, [])
  | .spindleLimit =>
    .ok (match s.param 'S' with
      | some limit => { m with spindleLimit := some limit }
      | none => m, [])
  | .positioning positioning => .ok ({ m with positioning }, [])
  | .spindleMode spindleMode => .ok ({ m with spindleMode }, [])
  | .cycle number => .ok ({ m with cycle := some ⟨number, s.line, givenWords s⟩ }, [])

/-- The path point of a move to the current position. A cut with compensation in force and a tool
with a nose radius is offset, as seen from the last point of the path, or from `start` if there is
none. -/
def pathPoint (tools : ToolTable) (s : Statement) (motion : Motion) (start : Point Float)
    (m : Machine) : PathPoint :=
  let plain := PathPoint.uncompensated m.position motion s.line
  match motion, m.compensation with
  | .cut, .on side =>
    let radius := tools.noseRadius m.tool
    if 0.0 < radius then
      let previous := (m.path.getLast?.map (·.nominal)).getD start
      let offset := compensate previous m.position side radius
      { plain with
        offset
        compensated := !(offset.x == m.position.x && offset.z == m.position.z) }
    else plain
  | _, _ => plain

/-- The reference point of the axes that a statement names, and the current position of the others;
a statement that names no axis means both. -/
def homeward (home : Point Float) (s : Statement) (p : Point Float) : Point Float :=
  let x := s.gives 'X' || s.gives 'U'
  let z := s.gives 'Z' || s.gives 'W'
  { x := if x || !z then home.x else p.x
    z := if z || !x then home.z else p.z }

/-- Make the move of a preparatory code; `start` is the position before the axis words. -/
def applyMove (setup : Setup) (s : Statement) (start : Point Float) (move : Move) (m : Machine) :
    Machine :=
  match move with
  | .to motion => { m with path := m.path ++ [m.pathPoint setup.tools s motion start] }
  | .home =>
    let target := homeward setup.home s m.position
    { m with
      position := target
      path := m.path ++ [.uncompensated m.position .rapid s.line,
        .uncompensated target .rapid s.line] }

/-- Set the spindle speed, unless S is a limit, and the feed rate. -/
def applyRates (s : Statement) (m : Machine) : Machine :=
  { m with
    spindleSpeed := if s.isG 50 then m.spindleSpeed else (s.param 'S').getD m.spindleSpeed
    feedRate := (s.param 'F').getD m.feedRate }

/-- Make the tool of a tool statement the active one, if its number is positive. -/
def applyTool (s : Statement) (m : Machine) : Except Fault Machine :=
  match s.toolNumber with
  | .error fault => .error fault
  | .ok (some id) => .ok (if 0 < id then { m with tool := id } else m)
  | .ok none => .ok m

/-- Do what a miscellaneous code does; a code that does nothing is remarked on. -/
def applyAuxiliary (s : Statement) (m : Machine) : Machine × List Finding :=
  match Auxiliary.ofCode? s.code with
  | some (.spindle spindle) => ({ m with spindle }, [])
  | some (.coolant coolant) => ({ m with coolant }, [])
  | some _ => (m, [])
  | none =>
    (m, (s.code.map fun code => Finding.warning s.line (.withoutEffect code)).toList)

/-- The machine after a preparatory statement, before its speed and feed. -/
def applyPreparatory (setup : Setup) (s : Statement) (m : Machine) :
    Except Fault (Machine × List Finding) :=
  let modal := match Modal.ofCode? s.code with
    | some modal => m.applyModal setup s modal
    | none => .ok (m, [])
  modal.map fun (m, remarks) =>
    let moved := m.applyAxisWords s
    (match Move.ofCode? s.code with
      | some move => moved.applyMove setup s m.position move
      | none => moved, remarks)

/-- The machine after a statement, and what there is to remark on. -/
def execute (setup : Setup) (s : Statement) (m : Machine) : Except Fault (Machine × List Finding) :=
  let m := { m with line := s.line }
  match s.kind with
  | .preparatory =>
    (m.applyPreparatory setup s).map fun (m, remarks) => (m.applyRates s, remarks)
  | .tool => (((m.applyAxisWords s).applyRates s).applyTool s).map fun m => (m, [])
  | .miscellaneous => .ok (((m.applyAxisWords s).applyRates s).applyAuxiliary s)

/-- What the execution of a statement reports. -/
def records (setup : Setup) (s : Statement) : List Log.Record :=
  let code := (s.code.map Code.text).getD ""
  match s.kind with
  | .preparatory =>
    if Modal.ofCode? s.code = some .negatedOffset ∧ setup.negatesOffset = false then
      [Log.debug .preparatory s!"G44 on line {s.line} accepted without effect"]
    else []
  | .miscellaneous =>
    match Auxiliary.ofCode? s.code with
    | some .stop => [Log.debug .miscellaneous s!"Program stop M{code} at line {s.line}"]
    | some .finish => [Log.debug .miscellaneous s!"Program end M{code} at line {s.line}"]
    | some _ => []
    | none =>
      if s.code.isSome then
        [Log.debug .miscellaneous s!"M{code} on line {s.line} has no effect"]
      else []
  | .tool => []

end Machine

end Lathe
