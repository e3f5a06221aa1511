import Lathe.Controller.Basic

/-!
# The run controller: operations

What the operator and the clock can do to a run. All operations that move the cursor or the mode end
by refreshing what is displayed.

The operator is asked once for every tool statement that the cursor comes to: the run pauses, and
goes on after the change is confirmed. Moving the cursor back before that statement forgets that the
operator was asked.
-/

namespace Lathe.Controller

open Lathe.Action

/-- Change the run mode, and report it if it is a change. -/
def setMode (mode : RunMode) : Action Controller Unit := do
  report fun c =>
    if c.mode = mode then [] else [Log.info .controller s!"Mode {c.mode.name} -> {mode.name}"]
  change fun c => { c with mode }

/-- The outcome of the replay up to a cursor, from the memo or afresh. -/
def outcomeAt (cursor : Int) : Action Controller Outcome := do
  change fun c => { c with memo := c.memo.forRevision c.tools.revision }
  let known ← observe fun c => if c.memoises then c.memo.get? cursor else none
  match known with
  | some outcome => return outcome
  | none =>
    report fun c => c.setup.records c.program cursor
    let replay ← observe fun c => c.setup.replay c.program cursor
    let outcome ← ofExcept replay
    change fun c => if c.memoises then { c with memo := c.memo.insert cursor outcome } else c
    return outcome

/-- Display a machine without counting the way to it as a move. -/
def jumpTo (machine : Machine) (c : Controller) : Controller :=
  { c with machine, previous := machine.position }

/-- Stop with an alarm. What is displayed is the machine before the statement that caused it. -/
def raiseAlarm (index : Int) (error : Finding) : Action Controller Unit := do
  change fun c => { c with alarm := some error }
  setMode .alarm
  report fun _ => [Log.warning .controller s!"ALARM: {error.text}"]
  let fallback ← outcomeAt index
  match fallback.machine? with
  | some machine => change (jumpTo machine)
  | none => return

/-- Pause for a tool change, unless the operator was already asked at this statement. -/
def requestToolChange (request : Signal) : Action Controller Unit := do
  let asked ← observe fun c => decide (c.prompted = some c.cursor)
  if asked then return
  else
    report fun _ =>
      [Log.info .controller s!"Tool change requested at line {request.line} (T{request.tool})"]
    change fun c => { c with pending := some request, prompted := some c.cursor }
    setMode .paused

/-- Reset the wear of a tool and forget the wear not yet written. -/
def resetWear (tool : Int) : Action Controller Unit := do
  report fun c => c.tools.resetWearRecords tool
  change fun c => { c with tools := c.tools.resetWear tool, meter := c.meter.reset }

/-- Do what the statement at the cursor asks for. -/
def obeySignals (outcome : Outcome) : Action Controller Unit := do
  match outcome.signal? .toolChange with
  | some request => requestToolChange request
  | none => pure ()
  match outcome.signal? .wearReset with
  | some reset => resetWear reset.tool
  | none => pure ()

/-- Display a machine, and charge the tool for the move to it. -/
def moveTo (machine : Machine) : Action Controller Unit := do
  let (meter, tools, delta) ← observe fun c =>
    c.meter.update c.tools c.previous machine c.material
  report fun _ => (delta.map (·.record)).toList
  change fun c => { c.jumpTo machine with meter, tools, delta }

/-- Display the machine at the cursor. -/
def showCursor : Action Controller Unit := do
  let outcome ← outcomeAt (← observe fun c => (c.cursor : Int))
  match outcome with
  | .halted index error _ => raiseAlarm index error
  | .done _ machine _ _ =>
    let running ← observe fun c => decide (c.mode = .running)
    if running then obeySignals outcome
    moveTo machine

/-- Forget the tool change asked for last. -/
def forgetPrompt (c : Controller) : Controller :=
  { c with pending := none, prompted := none }

/-- Display the machine at rest. -/
def rest (c : Controller) : Controller :=
  { c.forgetPrompt with machine := .idle c.profile.home c.manual, previous := c.profile.home }

/-- Whether the cursor stands before the statement at which the operator was last asked. -/
def rewound (c : Controller) : Bool :=
  match c.prompted with
  | some index => decide (c.cursor < index)
  | none => false

/-- Compute anew what is displayed. -/
def refresh : Action Controller Unit := do
  let before ← observe id
  if before.mode = .alarm then return
  else
    change fun c => if c.rewound then c.forgetPrompt else c
    if before.mode = .idle then change rest
    else if before.program.isEmpty then return
    else showCursor

/-- Go back to the first statement, at rest and without an alarm. -/
def reset : Action Controller Unit := do
  change fun c => { c.forgetPrompt with cursor := 0, alarm := none, meter := c.meter.reset }
  setMode .idle
  refresh

/-- Load a program. A text that cannot be read is kept, and the program before it too. -/
def load (text : String) : Action Controller Unit := do
  change fun c => { c with text }
  let program ← ofExcept (Program.parse text)
  change fun c => { c with program, warnings := Program.warnings text, memo := c.memo.clear }
  report fun _ => [Log.info .controller s!"Loaded program: {program.length} statements"]
  reset

/-- Confirm the tool change and go on. The answer is whether there was one to confirm. -/
def confirmToolChange : Action Controller Bool := do
  let pending ← observe fun c => c.pending
  match pending with
  | none => return false
  | some request =>
    report fun _ => [Log.info .controller s!"Tool change to T{request.tool} confirmed"]
    change fun c => { c with pending := none }
    let paused ← observe fun c => decide (c.mode = .paused)
    if paused then setMode .running
    return true

/-- Whether the cursor stands at or behind the last statement. -/
def atEnd (c : Controller) : Bool :=
  decide (c.program.length ≤ c.cursor + 1)

/-- Start or go on. The answer is false in an alarm, in which nothing happens. -/
def start : Action Controller Bool := do
  let c ← observe id
  if c.mode = .alarm then return false
  else if c.pending.isSome then confirmToolChange
  else if c.mode = .idle ∨ c.mode = .paused then
    change fun c => if c.atEnd then { c with cursor := 0 } else c
    setMode .running
    refresh
    return true
  else return true

/-- Pause, unless there is an alarm. -/
def pause : Action Controller Unit := do
  let alarmed ← observe fun c => decide (c.mode = .alarm)
  if alarmed then return else setMode .paused

/-- Go on by one statement while running; after the last one the run is over. -/
def tick : Action Controller Unit := do
  let c ← observe id
  if c.mode = .running then
    if c.atEnd then
      report fun c => [Log.info .controller s!"Program finished at statement {c.cursor}"]
      setMode .idle
    else change fun c => { c with cursor := c.cursor + 1 }
    refresh
  else return

/-- Move the cursor, within the program, unless there is an alarm. -/
def seek (index : Int) : Action Controller Unit := do
  let alarmed ← observe fun c => decide (c.mode = .alarm)
  if alarmed then return
  else
    change fun c => { c with cursor := (min index (c.program.length - 1 : Nat)).toNat }
    refresh

/-- Set the spindle by hand. It shows while the machine is at rest. -/
def setManual (manual : ManualSpindle) : Action Controller Unit := do
  change fun c => { c with manual }
  let idle ← observe fun c => decide (c.mode = .idle)
  if idle then refresh

/-- Set the feed override to a number of percent, rounded toward zero and within its bounds. -/
def setFeed (percent : Float) : Action Controller Unit := do
  let percent ← ofExcept (truncate percent)
  change (withFeed percent)

/-- Choose the material of the stock. -/
def setMaterial (material : Material) : Action Controller Unit :=
  change fun c => { c with material }

/-- The operations of the controller. -/
inductive Command where
  /-- Load a program. -/
  | load (text : String)
  /-- Start or go on. -/
  | start
  /-- Pause. -/
  | pause
  /-- Go back to the first statement. -/
  | reset
  /-- Confirm the tool change. -/
  | confirmToolChange
  /-- Go on by one statement. -/
  | tick
  /-- Move the cursor. -/
  | seek (index : Int)
  /-- Compute anew what is displayed. -/
  | refresh
  /-- Set the spindle by hand. -/
  | setManual (manual : ManualSpindle)
  /-- Set the feed override. -/
  | setFeed (percent : Float)
  /-- Choose the material of the stock. -/
  | setMaterial (material : Material)

/-- Perform an operation. The answer is the truth value that the operation answers with, if it does.
-/
def perform : Command → Action Controller (Option Bool)
  | .load text => do load text; return none
  | .start => do return some (← start)
  | .pause => do pause; return none
  | .reset => do reset; return none
  | .confirmToolChange => do return some (← confirmToolChange)
  | .tick => do tick; return none
  | .seek index => do seek index; return none
  | .refresh => do refresh; return none
  | .setManual manual => do setManual manual; return none
  | .setFeed percent => do setFeed percent; return none
  | .setMaterial material => do setMaterial material; return none

end Lathe.Controller
