import Lathe.Replay.Step

/-!
# Replays

A replay executes the statements of a program from the first one up to a cursor, on a machine in its
initial state. It either gets there, or halts at the first statement that the machine does not
support. Nothing is kept from one replay to the next.

The statement at the cursor may ask for something that only the run controller can do. Such requests
are signals; they come with the outcome and are no part of the machine.
-/

namespace Lathe

/-- What a signal asks for. -/
inductive Request where
  /-- That the operator change the tool. -/
  | toolChange
  /-- That the wear of the active tool be reset. -/
  | wearReset
deriving DecidableEq, Repr

/-- A request of the statement at the cursor. -/
structure Signal where
  /-- What is asked for. -/
  request : Request
  /-- The place of the statement in the program. -/
  index : Int
  /-- The line of the statement. -/
  line : Nat
  /-- The tool concerned. -/
  tool : Int
deriving DecidableEq, Repr

/-- How a replay ended. -/
inductive Outcome where
  /-- All statements up to `index` are executed. -/
  | done (index : Int) (machine : Machine) (signals : List Signal) (warnings : List Finding)
  /-- The statement after `index` is not supported. -/
  | halted (index : Int) (error : Finding) (warnings : List Finding)
deriving DecidableEq, Repr

namespace Outcome

/-- The last statement executed. -/
def index : Outcome → Int
  | .done index .. => index
  | .halted index .. => index

/-- The machine, if the replay reached the cursor. -/
def machine? : Outcome → Option Machine
  | .done _ machine _ _ => some machine
  | .halted .. => none

/-- The finding at which the replay halted. -/
def error? : Outcome → Option Finding
  | .done .. => none
  | .halted _ error _ => some error

/-- The requests of the statement at the cursor. -/
def signals : Outcome → List Signal
  | .done _ _ signals _ => signals
  | .halted .. => []

/-- The remarks on the statements executed. -/
def warnings : Outcome → List Finding
  | .done _ _ _ warnings => warnings
  | .halted _ _ warnings => warnings

/-- The first signal that asks for something. -/
def signal? (outcome : Outcome) (request : Request) : Option Signal :=
  outcome.signals.find? fun signal => decide (signal.request = request)

end Outcome

namespace Setup

/-- The signals of the statement at the cursor, given the machine after it. A tool statement that
names no tool asks for the active one. -/
def signalsAt (s : Statement) (index : Int) (m : Machine) : Except Fault (List Signal) :=
  match s.kind with
  | .tool =>
    match s.toolNumber with
    | .error fault => .error fault
    | .ok id =>
      let tool := (id.filter fun id => decide (0 < id)).getD m.tool
      .ok [⟨.toolChange, index, s.line, tool⟩]
  | .miscellaneous =>
    .ok (if Auxiliary.ofCode? s.code = some .wearReset then [⟨.wearReset, index, s.line, m.tool⟩]
      else [])
  | .preparatory => .ok []

/-- Where a run over some statements got to. -/
inductive Reached where
  /-- The end, with the machine and the remarks there. -/
  | finish (machine : Machine) (warnings : List Finding)
  /-- An unsupported statement, after `count` others, and the remarks on those. -/
  | obstacle (count : Nat) (error : Finding) (warnings : List Finding)

/-- Execute statements one after the other; `count` of them have been executed before. -/
def run (setup : Setup) (count : Nat) (m : Machine) (warnings : List Finding) :
    List Statement → Except Fault Reached
  | [] => .ok (.finish m warnings)
  | s :: rest =>
    match setup.objection? s with
    | some error => .ok (.obstacle count error warnings)
    | none =>
      match m.execute setup s with
      | .error fault => .error fault
      | .ok (m, remarks) => setup.run (count + 1) m (warnings ++ remarks) rest

/-- The last statement that a replay to a cursor can reach. -/
def lastIndex (program : List Statement) (cursor : Int) : Int :=
  min cursor (program.length - 1)

/-- The statements up to a cursor. -/
def upTo (program : List Statement) (cursor : Int) : List Statement :=
  program.take (lastIndex program cursor + 1).toNat

/-- Replay a program up to and including the statement at a cursor. -/
def replay (setup : Setup) (program : List Statement) (cursor : Int) : Except Fault Outcome :=
  match setup.run 0 (.initial setup.home) [] (upTo program cursor) with
  | .error fault => .error fault
  | .ok (.obstacle count error warnings) => .ok (.halted (count - 1) error warnings)
  | .ok (.finish m warnings) =>
    let index := lastIndex program cursor
    match (upTo program cursor).getLast? with
    | none => .ok (.done index m [] warnings)
    | some s => (signalsAt s index m).map fun signals => .done index m signals warnings

/-- The answer for a machine at rest: nothing is replayed. -/
def atRest (setup : Setup) (manual : ManualSpindle) : Outcome :=
  .done (-1) (.idle setup.home manual) [] []

/-- Whether a statement can be executed. This does not depend on the machine that executes it. -/
def executes (setup : Setup) (s : Statement) : Bool :=
  setup.supports s && ((Machine.initial setup.home).execute setup s).toBool

/-- What a replay reports: the records of the statements that it executes, and how it ended. A
replay that ends in a fault does not report its end. -/
def records (setup : Setup) (program : List Statement) (cursor : Int) : List Log.Record :=
  ((upTo program cursor).takeWhile setup.executes).flatMap (Machine.records setup) ++
    match setup.replay program cursor with
    | .error _ => []
    | .ok (.halted index error _) =>
      [Log.warning .replay s!"Replay halted at statement {index + 1}: {error.text}"]
    | .ok (.done index m _ _) =>
      let x := Number.fixedText 3 0 m.position.x
      let z := Number.fixedText 3 0 m.position.z
      [Log.debug .replay
        s!"Replayed {index + 1} statements: X{x} Z{z}, {m.path.length} path points"]

end Setup

end Lathe
