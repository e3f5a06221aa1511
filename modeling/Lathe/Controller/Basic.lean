import Lathe.Action
import Lathe.Profile.Basic
import Lathe.Program.Parse
import Lathe.Replay.Outcome

/-!
# The run controller: state

The controller runs a program one statement at a time. It keeps what a replay does not: the run
mode, the cursor, the alarm, the tool change that waits for the operator, and the wear of the tools.
What it displays is always computed by a replay up to the cursor.

Replays depend on nothing but the program and the tool table, so their outcomes are kept in a memo
until the table changes. `Controller.memoises` turns the memo off; what is displayed stays the same.
-/

namespace Lathe

/-- What the controller is doing. -/
inductive RunMode where
  /-- Nothing; the machine is at rest and follows the manual controls. -/
  | idle
  /-- Running the program. -/
  | running
  /-- Waiting in the middle of the program. -/
  | paused
  /-- Stopped at a statement that the machine does not support. -/
  | alarm
deriving DecidableEq, Repr

/-- The name of a run mode. -/
def RunMode.name : RunMode → String
  | .idle => "IDLE"
  | .running => "RUNNING"
  | .paused => "PAUSED"
  | .alarm => "ALARM"

/-- Outcomes of replays, kept for one state of the tool table. -/
structure Memo where
  /-- The revision of the tool table for which the outcomes hold. -/
  revision : Nat
  /-- The outcomes by cursor, the latest first. -/
  outcomes : List (Int × Outcome)
deriving DecidableEq, Repr

namespace Memo

/-- Forget all outcomes. -/
def clear (memo : Memo) : Memo :=
  { memo with outcomes := [] }

/-- The memo for a given revision of the tool table. -/
def forRevision (memo : Memo) (revision : Nat) : Memo :=
  if memo.revision = revision then memo else ⟨revision, []⟩

/-- The outcome for a cursor, if it is known. -/
def get? (memo : Memo) (cursor : Int) : Option Outcome :=
  memo.outcomes.lookup cursor

/-- Keep the outcome for a cursor that is not known yet. -/
def insert (memo : Memo) (cursor : Int) (outcome : Outcome) : Memo :=
  { memo with outcomes := (cursor, outcome) :: memo.outcomes }

end Memo

/-- The state of the run controller. -/
structure Controller where
  /-- The lathe. -/
  profile : Profile
  /-- Its tools. -/
  tools : ToolTable
  /-- The wear that is not yet in the tool table. -/
  meter : WearMeter
  /-- The text of the program. -/
  text : String
  /-- Its statements. -/
  program : List Statement
  /-- The remarks made when it was read. -/
  warnings : List Finding
  /-- What the controller is doing. -/
  mode : RunMode
  /-- The place of the current statement. -/
  cursor : Nat
  /-- The finding that caused the alarm. -/
  alarm : Option Finding
  /-- The spindle as set by hand. -/
  manual : ManualSpindle
  /-- The feed override, in percent. -/
  feed : Int
  /-- The material of the stock. -/
  material : Material
  /-- The tool change that the operator has to confirm. -/
  pending : Option Signal
  /-- The statement for which the operator was last asked to change the tool. -/
  prompted : Option Nat
  /-- The wear written by the last refresh. -/
  delta : Option WearDelta
  /-- The machine as displayed. -/
  machine : Machine
  /-- Where the machine was at the last refresh. -/
  previous : Point Float
  /-- The outcomes of earlier replays. -/
  memo : Memo
  /-- Whether outcomes are kept. -/
  memoises : Bool

namespace Controller

/-- The controller of a lathe with given tools, before a program is loaded. -/
def withTools (profile : Profile) (tools : ToolTable) : Controller where
  profile := profile
  tools := tools
  meter := profile.wearMeter
  text := ""
  program := []
  warnings := []
  mode := .idle
  cursor := 0
  alarm := none
  manual := {}
  feed := 100
  material := .steel
  pending := none
  prompted := none
  delta := none
  machine := .idle profile.home {}
  previous := profile.home
  memo := ⟨tools.revision, []⟩
  memoises := true

/-- The controller of a lathe, before a program is loaded. -/
def new (profile : Profile) : Controller :=
  withTools profile profile.toolTable

/-- What replays depend on besides the program. -/
def setup (c : Controller) : Setup :=
  c.profile.setup c.tools

/-- The current statement. -/
def statement? (c : Controller) : Option Statement :=
  c.program[c.cursor]?

/-- The line of the current statement. -/
def line? (c : Controller) : Option Nat :=
  c.statement?.map (·.line)

/-- The time between ticks when the feed override is zero, in milliseconds. -/
def stalledInterval : Int := 100000

/-- The time between two ticks, in milliseconds, rounded toward zero. -/
def tickInterval (c : Controller) : Except Fault Int :=
  if c.feed ≤ 0 then .ok stalledInterval
  else
    match divide (c.profile.baseTick * 100) c.feed with
    | .ok interval => truncate interval
    | .error fault => .error fault

/-- The highest feed override, in percent. -/
def highestFeed : Int := 150

/-- Set the feed override, within its bounds. -/
def withFeed (percent : Int) (c : Controller) : Controller :=
  { c with feed := max 0 (min highestFeed percent) }

end Controller

end Lathe
