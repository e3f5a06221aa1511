import Lathe.Controller.Run
import Lathe.DryRun
import Lathe.Editor.Basic
import Lathe.Folder
import Lathe.Viewport.Basic

/-!
# The operator panel: state

The panel brings together the editor, the view of the workpiece, a dry run of the text in the
editor, and the controller that runs it. Two timers drive it: one lets the controller tick, the
other waits for a pause in typing before the text is looked at again.
-/

namespace Lathe

/-- A timer. -/
structure Timer where
  /-- Whether it is running. -/
  active : Bool := false
  /-- The time after which it fires, in milliseconds, once that has been set. -/
  interval : Option Int := none
deriving DecidableEq, Repr

namespace Timer

/-- Run with a given interval. -/
def start (interval : Int) (_ : Timer) : Timer :=
  { active := true, interval := some interval }

/-- Stop; the interval is kept. -/
def stop (timer : Timer) : Timer :=
  { timer with active := false }

/-- Set the interval. -/
def setInterval (interval : Int) (timer : Timer) : Timer :=
  { timer with interval := some interval }

end Timer

/-- The positions of the operator's controls. -/
structure Controls where
  /-- The slider of the feed override, in percent. -/
  feed : Int := 100
  /-- The material chosen. -/
  material : Material := .steel
  /-- The direction of the spindle when it is set by hand. -/
  spindle : Spindle := .stopped
  /-- The speed of the spindle when it is set by hand. -/
  speed : Int := 500
  /-- The name of the lathe chosen. -/
  machine : String := "lathe"
deriving DecidableEq, Repr

/-- The texts that the panel shows. -/
structure Labels where
  /-- The run mode. -/
  mode : String := ""
  /-- The color of the run mode. -/
  modeColor : Color := ⟨0⟩
  /-- The state of the machine. -/
  machine : String := ""
  /-- The counts and lengths of the path. -/
  statistics : String := "Toolpath:\nNo G-code processed"
  /-- What was found in the text. -/
  findings : String := ""
  /-- The feed override. -/
  feed : String := "Feed 100%"
deriving DecidableEq, Repr

/-- The state of the panel. -/
structure Panel where
  /-- The controller. -/
  controller : Controller
  /-- The dry run. -/
  dryRun : DryRun
  /-- The editor. -/
  editor : Editor := {}
  /-- The view of the workpiece. -/
  view : Viewport
  /-- The timer that lets the controller tick. -/
  runTimer : Timer := {}
  /-- The timer that waits for a pause in typing. -/
  syntaxTimer : Timer := {}
  /-- The operator's controls. -/
  controls : Controls := {}
  /-- The texts shown. -/
  labels : Labels := {}
  /-- Whether a tool change can be confirmed. -/
  canConfirm : Bool := false
  /-- The messages to the operator, in order. -/
  console : List String := []
  /-- The files that the operator can open and save. -/
  folder : Folder := {}

namespace Panel

/-- The names of the lathes that can be chosen. -/
def machines : List String := ["lathe", "lathe_g44"]

/-- The directions of the spindle, in the order in which the operator sees them. -/
def spindles : List Spindle := [.stopped, .clockwise, .counterclockwise]

/-- The highest speed to which the spindle can be set by hand. -/
def highestSpeed : Int :=
  (truncate Profile.lathe.maxSpindle).toOption.getD 0

/-- How long the panel waits for a pause in typing, in milliseconds. -/
def typingPause : Int := 500

/-- The panel of the trainer lathe, before there is a text in the editor. -/
def new : Panel where
  controller := .new .lathe
  dryRun := { profile := .lathe }
  view := (Viewport.setStock Profile.lathe.stockDiameter Profile.lathe.stockLength {}).resetView

/-- The program with which the panel is opened. -/
def sampleProgram : String :=
  String.intercalate "\n" [
    "N10 G28 U0 W0",
    "N20 T0101",
    "N30 G96 S200 M03",
    "N40 G00 X60 Z2",
    "(Roughing cycle)",
    "N50 G71 U2 R1",
    "N60 G71 P70 Q110 U0.5 W0.1 F0.3",
    "(Part profile)",
    "N70 G00 X40",
    "N80 G01 Z-20",
    "N90 X50",
    "N100 Z-40",
    "N110 X60",
    "(End of profile)",
    "N120 G70 P70 Q110 (Finishing cycle)",
    "N130 G28 U0 W0",
    "N140 M30"]

/-- Tell the operator something. -/
def say (message : String) (panel : Panel) : Panel :=
  { panel with console := panel.console ++ [message] }

/-- Let the run timer go with the interval that the controller asks for. -/
def startTimer : Action Panel Unit := do
  let interval ← Action.ofExcept (← Action.observe fun panel => panel.controller.tickInterval)
  Action.change fun panel => { panel with runTimer := panel.runTimer.start interval }

/-- Stop the run timer. -/
def stopTimer (panel : Panel) : Panel :=
  { panel with runTimer := panel.runTimer.stop }

/-- Give the run timer the interval that the controller asks for. -/
def adjustTimer : Action Panel Unit := do
  let interval ← Action.ofExcept (← Action.observe fun panel => panel.controller.tickInterval)
  Action.change fun panel => { panel with runTimer := panel.runTimer.setInterval interval }

/-- Put a text into the editor and wait for a pause in typing. -/
def setText (text : String) (panel : Panel) : Panel :=
  { panel with
    editor := panel.editor.setText text
    syntaxTimer := panel.syntaxTimer.stop.start typingPause }

/-- An action of the controller. -/
def onController {α : Type} (action : Action Controller α) : Action Panel α :=
  Action.onPart (·.controller) (fun controller panel => { panel with controller }) action

/-- An action of the dry run. -/
def onDryRun {α : Type} (action : Action DryRun α) : Action Panel α :=
  Action.onPart (·.dryRun) (fun dryRun panel => { panel with dryRun }) action

end Panel

end Lathe
