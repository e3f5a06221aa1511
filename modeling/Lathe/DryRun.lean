import Lathe.Action
import Lathe.Profile.Basic
import Lathe.Program.Parse
import Lathe.Replay.Outcome

/-!
# Dry runs

A dry run goes through a program as a whole, without an operator: it reads the text, replays it, and
keeps what was found and the path that was made, for an editor and a view of the path. A program can
also be checked without a replay; the check looks at every statement, and keeps its findings apart.
-/

namespace Lathe

/-- The state of a dry run: what was found and made by the last one. -/
structure DryRun where
  /-- The lathe. -/
  profile : Profile
  /-- What the last run found. -/
  findings : List Finding := []
  /-- What the last check found. -/
  checked : List Finding := []
  /-- The statements of the program. -/
  program : List Statement := []
  /-- The machine at the end of the run, or before the statement at which it halted. -/
  machine : Option Machine := none
  /-- The path made. -/
  path : Toolpath := []
  /-- The text of the program. -/
  text : String := ""
  /-- Whether the run got to its end. -/
  succeeded : Bool := false

/-- A summary of a path for display. -/
structure PathSummary where
  /-- The counts and lengths of the path. -/
  statistics : Statistics
  /-- The corners of the box around it. -/
  box : Point Float × Point Float
  /-- The extent of the box. -/
  size : Point Float

namespace DryRun

open Lathe.Action

/-- What replays depend on besides the program. -/
def setup (run : DryRun) : Setup :=
  run.profile.setup run.profile.toolTable

/-- Forget everything but the lathe. -/
def reset (run : DryRun) : DryRun :=
  { profile := run.profile }

/-- The outcome of a replay of the program up to a cursor. -/
def outcomeAt (cursor : Int) : Action DryRun Outcome := do
  report fun run => run.setup.records run.program cursor
  let outcome ← observe fun run => run.setup.replay run.program cursor
  ofExcept outcome

/-- Add to what the run has found. -/
def note (findings : List Finding) : Action DryRun Unit :=
  change fun run => { run with findings := run.findings ++ findings }

/-- Keep the machine at the end of the run and the path that it made. -/
def keep (succeeded : Bool) (machine : Option Machine) : Action DryRun Bool := do
  let path := (machine.map (·.path)).getD []
  change fun run => { run with machine, path, succeeded }
  report fun run =>
    let ok := if succeeded then "True" else "False"
    [Log.debug .dryRun
      s!"Processed {run.program.length} statements, {path.length} path points, ok={ok}"]
  return succeeded

/-- Go through a program up to a cursor, or to its end. The answer is whether it got there. -/
def process (text : String) (cursor : Option Int) : Action DryRun Bool := do
  change fun run => { run.reset with text, findings := Program.warnings text }
  let program ← ofExcept (Program.parse text)
  change fun run => { run with program }
  let outcome ← outcomeAt (cursor.getD (program.length - 1))
  note outcome.warnings
  match outcome with
  | .done _ machine _ _ => keep true (some machine)
  | .halted index error _ =>
    note [error]
    let fallback ← outcomeAt index
    keep false fallback.machine?

/-- Check every statement of a text, without a replay. The answer is whether none of them would halt
a replay. -/
def check (text : String) : Action DryRun Bool := do
  change fun run => { run with checked := Program.warnings text }
  let program ← ofExcept (Program.parse text)
  change fun run =>
    { run with checked := run.checked ++ program.filterMap run.setup.objection? }
  observe fun run => !Finding.anyFatal run.checked

/-- The findings of a run, with those of a check that are not among them. -/
def merge (findings : List Finding) : List Finding → List Finding
  | [] => findings
  | f :: rest => merge (if findings.contains f then findings else findings ++ [f]) rest

/-- The findings for the editor: those of the run and those of the check, each once, in order. -/
def editorFindings (run : DryRun) : List Finding :=
  Finding.sorted (merge run.findings run.checked)

/-- How many findings of a severity there are. -/
def count (run : DryRun) (severity : Severity) : Nat :=
  (run.findings.filter fun f => decide (f.severity = severity)).length

/-- The machine at the end of the run; before any run it is the initial one. -/
def finalMachine (run : DryRun) : Machine :=
  run.machine.getD (.initial run.profile.home)

/-- The counts and lengths of the path, measured from the reference point. -/
def statistics (run : DryRun) : Statistics :=
  run.path.statistics (some run.profile.home)

/-- A summary of the path for display. -/
def summary (run : DryRun) : PathSummary :=
  let box := run.path.box
  { statistics := run.statistics, box
    size := ⟨box.2.x - box.1.x, box.2.z - box.1.z⟩ }

/-- The program of the demonstration. -/
def demoProgram : String :=
  "\n" ++ String.intercalate "\n" [
    "G21 G90 G40  (Metric, absolute, no compensation)",
    "T0101 G43 H1",
    "G96 S200 M03",
    "G0 X82 Z2    ; Approach",
    "G71 U1.5 R0.5",
    "G71 P10 Q20 U0.4 W0.1 F0.25",
    "N10 G0 X40",
    "G42 G1 Z-20",
    "X60 Z-40",
    "N20 G1 X82",
    "G40 G28 U0 W0",
    "M30"] ++ "\n"

/-- The report on a run, as it is printed. -/
def printout (run : DryRun) : String :=
  let truth := if run.succeeded then "True" else "False"
  let summary := run.summary
  let length (x : Float) : String := Number.fixedText 2 0 x
  String.join ([
      s!"Processing successful: {truth}",
      s!"Path points: {run.path.length}"] ++
    ((Finding.sorted run.findings).map fun f => "  " ++ f.text) ++ [
      "",
      "Toolpath summary:",
      "  Total length: " ++ length summary.statistics.totalLength,
      "  Cut length: " ++ length summary.statistics.cutLength,
      "  Rapid length: " ++ length summary.statistics.rapidLength,
      "  Bounding box: [" ++ Number.shortestText summary.size.x ++ ", " ++
        Number.shortestText summary.size.z ++ "]"] |>.map (· ++ "\n"))

/-- The report on the demonstration. -/
def demo : String :=
  (process demoProgram none { profile := .lathe }).state.printout

end DryRun

end Lathe
