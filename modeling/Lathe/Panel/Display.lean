import Lathe.Panel.Basic

/-!
# The operator panel: displays

What the panel shows is computed from the controller and from the dry run, and written to its
labels, to the editor and to the view of the workpiece.
-/

namespace Lathe

/-- The color in which a run mode is shown. -/
def RunMode.color : RunMode → Color
  | .idle => ⟨0xadb5bd⟩
  | .running => ⟨0x51cf66⟩
  | .paused => ⟨0xffd43b⟩
  | .alarm => ⟨0xff6b6b⟩

/-- The state of a tool on one line: its number, its wear and its nose radius. -/
def Tool.readout (tool : Tool) : String :=
  s!"T{Number.paddedText 2 tool.id} {Number.fixedText 1 5 tool.wear}%  " ++
    s!"R{Number.generalText tool.noseRadius}"

/-- The state of the controller, with the machine and the tools, as the operator reads it. -/
def Controller.readout (c : Controller) : String :=
  let m := c.machine
  let alarm := (c.alarm.map fun error => s!"ALARM: {error.text}").toList
  let request := (c.pending.map fun signal =>
    s!"Load tool T{Number.paddedText 2 signal.tool}").toList
  String.intercalate "\n" ([
      "Machine:",
      s!"Mode: {c.mode.name}"] ++ alarm ++ request ++ [
      s!"Statement: {c.cursor + 1}/{c.program.length}",
      s!"X: {Number.fixedText 3 9 m.position.x}  (dia)",
      s!"Z: {Number.fixedText 3 9 m.position.z}",
      s!"Tool: T{Number.paddedText 2 m.tool}  Offset: {Number.generalText m.lengthOffset}",
      s!"Spindle: {m.spindle.name} {Number.generalText m.spindleSpeed}",
      s!"Comp: {m.compensation.name}  {m.positioning.name}",
      s!"Coolant: {m.coolant.name}",
      s!"Feed: {Number.generalText m.feedRate}",
      "",
      s!"Wear ({c.material.name}):",
      String.intercalate "\n" (c.tools.tools.map Tool.readout)])

/-- A summary of the path as the operator reads it. -/
def PathSummary.readout (summary : PathSummary) : String :=
  let s := summary.statistics
  let length (x : Float) : String := Number.fixedText 2 0 x
  let extent (x : Float) : String := Number.fixedText 1 0 x
  String.intercalate "\n" [
    "Toolpath:",
    s!"Points: {s.points}",
    s!"Cut: {s.cuts}  Rapid: {s.rapids}",
    s!"Compensated: {s.compensated}",
    s!"Total Length: {length s.totalLength}",
    s!"Cut Length: {length s.cutLength}",
    s!"Rapid Length: {length s.rapidLength}",
    s!"Extent: X{extent summary.size.x} Z{extent summary.size.z}"]

/-- A finding as the operator reads it. -/
def Finding.readout (f : Finding) : String :=
  s!"Line {f.line}: [{f.severity.name.toUpper}] {f.message}"

namespace Panel

/-- The line to mark as being executed; there is none while the machine is at rest. -/
def executingLine? (panel : Panel) : Option Int :=
  if panel.controller.mode = .idle then none else panel.controller.line?.map Int.ofNat

/-- Mark the line that the controller executes, and the line that caused an alarm. -/
def showLines (panel : Panel) : Panel :=
  let marked := panel.editor.setExecuting panel.executingLine?
  { panel with
    editor := match panel.controller.alarm with
      | some error => marked.setErrors [error.line]
      | none => marked }

/-- Show the path and the tool in the view. A tool that is not in the table keeps the color shown.
-/
def showMachine (panel : Panel) : Panel :=
  let machine := panel.controller.machine
  let shown := panel.view.showPath machine.path (some machine.position)
  { panel with
    view := match panel.controller.tools.get? machine.tool with
      | some tool => shown.colorTip tool.insertColor
      | none => shown }

/-- Show everything that depends on the controller. -/
def showRun (panel : Panel) : Panel :=
  let mode := panel.controller.mode
  let shown := panel.showLines.showMachine
  { shown with
    canConfirm := panel.controller.pending.isSome
    labels := { shown.labels with
      mode := mode.name
      modeColor := mode.color
      machine := panel.controller.readout } }

/-- Show what was found in the text, and mark the lines with more than remarks. -/
def showFindings (panel : Panel) : Panel :=
  let findings := panel.dryRun.editorFindings
  let text := if findings.isEmpty then "No errors found."
    else String.intercalate "\n" (findings.map Finding.readout)
  { panel with
    editor := panel.editor.setErrors ((findings.filter fun f => !f.isWarning).map (·.line))
    labels := { panel.labels with findings := text } }

/-- Show the counts and lengths of the path. -/
def showStatistics (panel : Panel) : Panel :=
  { panel with labels := { panel.labels with statistics := panel.dryRun.summary.readout } }

end Panel

end Lathe
