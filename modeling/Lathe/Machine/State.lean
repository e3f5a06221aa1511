import Lathe.Geometry.Compensation
import Lathe.Geometry.Toolpath
import Lathe.Program.Statement

/-!
# The state of the machine

Everything that the statements of a program have set, up to some point of its replay: the position,
the modes that stay in force until they are changed, the spindle, the tool, the coolant, and the
path.
-/

namespace Lathe

/-- How the spindle turns. -/
inductive Spindle where
  /-- Clockwise, `M03`. -/
  | clockwise
  /-- Counterclockwise, `M04`. -/
  | counterclockwise
  /-- Not at all, `M05`. -/
  | stopped
deriving DecidableEq, Repr

namespace Spindle

/-- The name of a direction. -/
def name : Spindle → String
  | .clockwise => "CW"
  | .counterclockwise => "CCW"
  | .stopped => "STOP"

/-- The direction of a given name. -/
def ofName? (name : String) : Option Spindle :=
  [Spindle.clockwise, .counterclockwise, .stopped].find? fun spindle => spindle.name == name

end Spindle

/-- Whether and to which side the path is offset by the nose radius. -/
inductive Compensation where
  /-- Not at all, `G40`. -/
  | off
  /-- To one side, `G41` or `G42`. -/
  | on (side : Side)
deriving DecidableEq, Repr

/-- The code that sets a compensation. -/
def Compensation.name : Compensation → String
  | .off => "G40"
  | .on .left => "G41"
  | .on .right => "G42"

/-- What the numbers of X and Z words mean. -/
inductive Positioning where
  /-- Positions, `G90`. -/
  | absolute
  /-- Distances, `G91`. -/
  | incremental
deriving DecidableEq, Repr

/-- The code that sets a positioning. -/
def Positioning.name : Positioning → String
  | .absolute => "G90"
  | .incremental => "G91"

/-- What the spindle speed means. -/
inductive SpindleMode where
  /-- A surface speed to be kept, `G96`. -/
  | surfaceSpeed
  /-- Revolutions a minute, `G97`. -/
  | revolutions
deriving DecidableEq, Repr

/-- The code that sets a spindle mode. -/
def SpindleMode.name : SpindleMode → String
  | .surfaceSpeed => "G96"
  | .revolutions => "G97"

/-- The unit of lengths. It is recorded; numbers are not converted. -/
inductive Units where
  /-- Inches, `G20`. -/
  | inches
  /-- Millimetres, `G21`. -/
  | millimetres
deriving DecidableEq, Repr

/-- The code that sets a unit. -/
def Units.name : Units → String
  | .inches => "G20"
  | .millimetres => "G21"

/-- How the cut is cooled. -/
inductive Coolant where
  /-- Not at all, `M09`. -/
  | off
  /-- By mist, `M07`. -/
  | mist
  /-- By a flood, `M08`. -/
  | flood
deriving DecidableEq, Repr

/-- The name of a coolant. -/
def Coolant.name : Coolant → String
  | .off => "OFF"
  | .mist => "MIST"
  | .flood => "FLOOD"

/-- The canned cycle commanded last. -/
structure Cycle where
  /-- Its number. -/
  number : Int
  /-- The line on which it stands. -/
  line : Nat
  /-- The numbers given with it, in the order of the statement. -/
  words : Params
deriving DecidableEq, Repr

/-- The spindle as the operator has set it by hand. -/
structure ManualSpindle where
  /-- How it is to turn. -/
  spindle : Spindle := .stopped
  /-- How fast. -/
  speed : Float := 0.0
deriving DecidableEq, Repr

/-- The state of the machine. -/
structure Machine where
  /-- Where the tool is. -/
  position : Point Float
  /-- The programmed spindle speed. -/
  spindleSpeed : Float := 0.0
  /-- How the spindle turns. -/
  spindle : Spindle := .stopped
  /-- The number of the active tool. -/
  tool : Int := 1
  /-- The length offset in force. -/
  lengthOffset : Float := 0.0
  /-- The compensation in force. -/
  compensation : Compensation := .off
  /-- The positioning in force. -/
  positioning : Positioning := .absolute
  /-- The coolant. -/
  coolant : Coolant := .off
  /-- The moves made so far. -/
  path : Toolpath := []
  /-- The programmed feed rate. -/
  feedRate : Float := 0.0
  /-- The limit to the spindle speed, once there is one. -/
  spindleLimit : Option Float := none
  /-- The spindle mode in force. -/
  spindleMode : SpindleMode := .revolutions
  /-- The unit in force. -/
  units : Units := .millimetres
  /-- The canned cycle commanded last. -/
  cycle : Option Cycle := none
  /-- The line of the last statement. -/
  line : Nat := 0
deriving DecidableEq, Repr

namespace Machine

/-- The machine from which every replay starts. -/
def initial (home : Point Float) : Machine :=
  { position := home }

/-- The machine at rest: at home, with the spindle as the operator has set it. -/
def idle (home : Point Float) (manual : ManualSpindle) : Machine :=
  { position := home
    spindleSpeed := if manual.spindle = .stopped then 0.0 else manual.speed
    spindle := manual.spindle }

/-- Whether the spindle turns and the last move was a cut. -/
def isCutting (m : Machine) : Bool :=
  decide (m.spindle ≠ .stopped) && (m.path.getLast?.map (·.isCut)).getD false

end Machine

end Lathe
