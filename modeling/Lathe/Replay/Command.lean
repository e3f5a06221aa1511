import Lathe.Machine.State

/-!
# Commands

What the codes of a program command, as tables from code numbers to commands. A preparatory code can
set a mode, before the axis words of its statement are applied, and make a move, after they are.
-/

namespace Lathe

/-- What a preparatory code sets before the tool moves. -/
inductive Modal where
  /-- The unit of lengths. -/
  | units (units : Units)
  /-- The nose-radius compensation. -/
  | compensation (compensation : Compensation)
  /-- The length offset of the tool named by H. -/
  | lengthOffset
  /-- The negated length offset of the tool named by H, on machines that have it. -/
  | negatedOffset
  /-- No length offset. -/
  | cancelOffset
  /-- The limit to the spindle speed, given by S. -/
  | spindleLimit
  /-- The meaning of X and Z words. -/
  | positioning (positioning : Positioning)
  /-- The meaning of the spindle speed. -/
  | spindleMode (mode : SpindleMode)
  /-- A canned cycle. -/
  | cycle (number : Int)
deriving DecidableEq, Repr

namespace Modal

/-- The preparatory codes that set something. -/
def codes : List (Int × Modal) := [
  (20, .units .inches), (21, .units .millimetres),
  (40, .compensation .off), (41, .compensation (.on .left)), (42, .compensation (.on .right)),
  (43, .lengthOffset), (44, .negatedOffset), (49, .cancelOffset), (50, .spindleLimit),
  (70, .cycle 70), (71, .cycle 71), (72, .cycle 72), (73, .cycle 73), (74, .cycle 74),
  (75, .cycle 75), (76, .cycle 76),
  (90, .positioning .absolute), (91, .positioning .incremental),
  (96, .spindleMode .surfaceSpeed), (97, .spindleMode .revolutions)]

/-- What a code sets, if anything. -/
def ofCode? : Option Code → Option Modal
  | some (.whole n) => codes.lookup n
  | _ => none

end Modal

/-- How a preparatory code moves the tool. -/
inductive Move where
  /-- To the programmed point; arcs and threads are recorded by their end points only. -/
  | to (motion : Motion)
  /-- Through the programmed point to the reference point. -/
  | home
deriving DecidableEq, Repr

namespace Move

/-- The preparatory codes that move the tool. -/
def codes : List (Int × Move) := [
  (0, .to .rapid), (1, .to .cut), (2, .to .cut), (3, .to .cut), (32, .to .cut), (33, .to .cut),
  (28, .home)]

/-- How a code moves the tool, if it does. -/
def ofCode? : Option Code → Option Move
  | some (.whole n) => codes.lookup n
  | _ => none

end Move

/-- What a miscellaneous code does. -/
inductive Auxiliary where
  /-- Stops the program; a replay goes on. -/
  | stop
  /-- Ends the program; what it has set stays. -/
  | finish
  /-- Sets the spindle. -/
  | spindle (spindle : Spindle)
  /-- Sets the coolant. -/
  | coolant (coolant : Coolant)
  /-- Asks for the wear of the active tool to be reset; the replay itself does nothing. -/
  | wearReset
deriving DecidableEq, Repr

namespace Auxiliary

/-- The miscellaneous codes that do something. -/
def codes : List (Int × Auxiliary) := [
  (0, .stop), (1, .stop), (2, .finish), (30, .finish),
  (3, .spindle .clockwise), (4, .spindle .counterclockwise), (5, .spindle .stopped),
  (7, .coolant .mist), (8, .coolant .flood), (9, .coolant .off), (100, .wearReset)]

/-- What a code does, if anything. -/
def ofCode? : Option Code → Option Auxiliary
  | some (.whole n) => codes.lookup n
  | _ => none

end Auxiliary

/-- The preparatory codes of the standard machine. -/
def standardCodes : List Code :=
  [0, 1, 2, 3, 4, 20, 21, 28, 32, 33, 40, 41, 42, 43, 44, 49, 50, 70, 71, 72, 73, 74, 75, 76, 90,
    91, 96, 97, 98, 99].map Code.whole

end Lathe
