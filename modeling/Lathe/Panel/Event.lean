import Lathe.Panel.Display

/-!
# The operator panel: events

What can happen to the panel, and what it does then. A control that is set to the position that it
already has does nothing. A fault ends what the panel was doing and leaves it as it is at that
moment.
-/

namespace Lathe.Panel

open Lathe.Action

/-- Look at the text in the editor: go through it, show what was found, and load it into the
controller. -/
def checkText : Action Panel Unit := do
  change stopTimer
  let text ← observe fun panel => panel.editor.text
  let _ ← onDryRun (DryRun.process text none)
  let _ ← onDryRun (DryRun.check text)
  change showFindings
  change showStatistics
  onController (Controller.load text)
  change showRun

/-- Start the run or go on with it. -/
def start : Action Panel Unit := do
  if ← onController Controller.start then
    startTimer
    change showRun
  else change (say "Reset the alarm before starting")

/-- Pause the run. -/
def pause : Action Panel Unit := do
  onController Controller.pause
  change showRun

/-- Go back to the first statement. -/
def reset : Action Panel Unit := do
  change stopTimer
  onController Controller.reset
  change (say "Machine reset")
  change showRun

/-- Confirm the tool change, if one is asked for. -/
def confirm : Action Panel Unit := do
  let pending ← observe fun panel => panel.controller.pending
  match pending with
  | some request =>
    if ← onController Controller.confirmToolChange then
      change (say s!"Tool T{Number.paddedText 2 request.tool} mounted")
  | none => pure ()
  change showRun

/-- Let the controller tick, and stop when the run is over. -/
def tick : Action Panel Unit := do
  onController Controller.tick
  let finished ← observe fun panel =>
    decide (panel.controller.mode = .idle ∨ panel.controller.mode = .alarm)
  if finished then change stopTimer else adjustTimer
  change showRun

/-- The run timer fires; it does so only while it is running. -/
def runTimeout : Action Panel Unit := do
  if ← observe fun panel => panel.runTimer.active then tick

/-- The run timer fires a number of times. -/
def runTimeouts : Nat → Action Panel Unit
  | 0 => pure ()
  | n + 1 => do
    runTimeout
    runTimeouts n

/-- There was a pause in typing. -/
def syntaxTimeout : Action Panel Unit := do
  change fun panel => { panel with syntaxTimer := panel.syntaxTimer.stop }
  checkText

/-- Select part of the text; the moves of the selected lines stand out in the view. -/
def select (anchor cursor : Nat) (panel : Panel) : Panel :=
  let editor := panel.editor.select anchor cursor
  { panel with editor, view := panel.view.choose (editor.selectedLines.map Int.ofNat) }

/-- A number moved into the range from zero to `top`. -/
def clamp (top n : Int) : Int :=
  max 0 (min top n)

/-- Set the slider of the feed override. -/
def setFeed (percent : Int) : Action Panel Unit := do
  let value := clamp Controller.highestFeed percent
  let same ← observe fun panel => decide (panel.controls.feed = value)
  if same then return
  else
    change fun panel => { panel with controls := { panel.controls with feed := value } }
    onController (change (Controller.withFeed value))
    change fun panel => { panel with labels := { panel.labels with feed := s!"Feed {value}%" } }
    if ← observe fun panel => panel.runTimer.active then adjustTimer

/-- Choose a material. -/
def setMaterial (material : Material) : Action Panel Unit := do
  let same ← observe fun panel => decide (panel.controls.material = material)
  if same then return
  else
    change fun panel => { panel with controls := { panel.controls with material } }
    onController (Controller.setMaterial material)

/-- Hand the position of the spindle controls to the controller. -/
def applySpindle : Action Panel Unit := do
  let controls ← observe fun panel => panel.controls
  onController (Controller.setManual ⟨controls.spindle, Float.ofInt controls.speed⟩)
  change showRun

/-- Choose the direction in which the spindle turns when it is set by hand. -/
def setSpindle (spindle : Spindle) : Action Panel Unit := do
  let same ← observe fun panel => decide (panel.controls.spindle = spindle)
  if same then return
  else
    change fun panel => { panel with controls := { panel.controls with spindle } }
    applySpindle

/-- Set the speed at which the spindle turns when it is set by hand. -/
def setSpeed (speed : Int) : Action Panel Unit := do
  let value := clamp highestSpeed speed
  let same ← observe fun panel => decide (panel.controls.speed = value)
  if same then return
  else
    change fun panel => { panel with controls := { panel.controls with speed := value } }
    applySpindle

/-- Change over to another lathe, with a controller and tools of its own. -/
def changeLathe (profile : Profile) (panel : Panel) : Panel :=
  { panel with
    controller := .new profile
    dryRun := { profile }
    view := panel.view.setStock profile.stockDiameter profile.stockLength }

/-- Choose a lathe. -/
def setMachine (name : String) : Action Panel Unit := do
  let same ← observe fun panel => decide (panel.controls.machine = name)
  if same then return
  else
    let profile := Profile.preset name
    change fun panel => { panel with controls := { panel.controls with machine := name } }
    change stopTimer
    change (changeLathe profile)
    report fun _ => [Log.info .panel s!"Machine configuration: {profile.name}"]
    change (say s!"Switched to {profile.name}")
    checkText

/-- Look up a path; one that holds the character that ends names is a fault. -/
def lookUp {α : Type} (path : String) (find : Folder → α) : Action Panel α := do
  if path.toList.contains '\x00' then ofExcept (.error .nullInName)
  observe fun panel => find panel.folder

/-- Open a file. No path means that the operator changed his mind. -/
def openFile (path : String) : Action Panel Unit := do
  if path.isEmpty then return
  else
    match ← lookUp path (·.read path) with
    | .ok text =>
      change (setText text)
      change (say s!"Loaded: {path}")
      checkText
    | .error problem => change (say s!"Could not open {path}: {problem.message path}")

/-- Save the text to a file. No path means that the operator changed his mind. -/
def saveFile (path : String) : Action Panel Unit := do
  if path.isEmpty then return
  else
    let text ← observe fun panel => panel.editor.text
    match ← lookUp path (·.write path text) with
    | .ok folder =>
      change fun panel => { panel with folder }
      change (say s!"Saved: {path}")
    | .error problem => change (say s!"Could not save {path}: {problem.message path}")

/-- What can happen to the panel. -/
inductive Event where
  /-- The start button. -/
  | start
  /-- The pause button. -/
  | pause
  /-- The reset button. -/
  | reset
  /-- The button that confirms a tool change. -/
  | confirm
  /-- The run timer fires, up to a number of times. -/
  | runTimeouts (count : Nat)
  /-- There was a pause in typing. -/
  | syntaxTimeout
  /-- The text is changed. -/
  | edit (text : String)
  /-- Part of the text is selected. -/
  | select (anchor cursor : Nat)
  /-- The slider of the feed override is moved. -/
  | feed (percent : Int)
  /-- A material is chosen. -/
  | material (material : Material)
  /-- A direction of the spindle is chosen. -/
  | spindle (spindle : Spindle)
  /-- A speed of the spindle is set. -/
  | speed (speed : Int)
  /-- A lathe is chosen. -/
  | machine (name : String)
  /-- A file is opened. -/
  | openFile (path : String)
  /-- The text is saved to a file. -/
  | saveFile (path : String)

/-- What the panel does when something happens. -/
def perform : Event → Action Panel Unit
  | .start => start
  | .pause => pause
  | .reset => reset
  | .confirm => confirm
  | .runTimeouts count => runTimeouts count
  | .syntaxTimeout => syntaxTimeout
  | .edit text => change (setText text)
  | .select anchor cursor => change (select anchor cursor)
  | .feed percent => setFeed percent
  | .material material => setMaterial material
  | .spindle spindle => setSpindle spindle
  | .speed speed => setSpeed speed
  | .machine name => setMachine name
  | .openFile path => openFile path
  | .saveFile path => saveFile path

/-- Opening the panel: the sample program is put into the editor and looked at. -/
def opening : Action Panel Unit := do
  change (setText sampleProgram)
  checkText

end Lathe.Panel
