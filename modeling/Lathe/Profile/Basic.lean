import Lathe.Replay.Step
import Lathe.Wear

/-!
# Machine profiles

A profile describes a lathe: what its control understands, where its reference point is, what is in
its chuck and in its turret, and how fast it runs and wears. Two profiles come with the trainer.
-/

namespace Lathe

/-- The description of a lathe. -/
structure Profile where
  /-- What the operator calls it. -/
  name : String
  /-- The type of machine. -/
  machineType : String := "lathe"
  /-- The axes of the machine. -/
  axes : List String := ["X", "Z"]
  /-- The preparatory codes that its control supports. -/
  gCodes : List Code := standardCodes
  /-- The miscellaneous codes that its control knows. -/
  mCodes : List Code := [0, 1, 2, 3, 4, 5, 7, 8, 9, 30, 100].map Code.whole
  /-- The reference point. -/
  home : Point Float := ⟨100.0, 50.0⟩
  /-- The diameter of the stock. -/
  stockDiameter : Float := 80.0
  /-- The length of the stock. -/
  stockLength : Float := 150.0
  /-- The highest spindle speed. -/
  maxSpindle : Float := 4000.0
  /-- The time for one statement at full feed, in milliseconds. -/
  baseTick : Int := 500
  /-- The wear for each millimetre cut in steel, in percent. -/
  wearRate : Float := 0.2
  /-- The wear that must be passed to be written to the tool table. -/
  wearThreshold : Float := 0.5
  /-- Whether `G44` applies the negated length offset. -/
  negatesOffset : Bool := false
  /-- The tools in the turret. -/
  tools : List Tool
deriving DecidableEq, Repr

namespace Profile

/-- The turret as it is loaded for the lessons. -/
def lessonTools : List Tool := [
  { id := 1, name := "T0101 - Desbaste Ext.", kind := .general, insertColor := "#FFD700",
    width := 2.0, lengthOffset := 5.5, noseRadius := 0.8 },
  { id := 2, name := "T0202 - Ranurado 3mm", kind := .grooving, insertColor := "#00FFFF",
    width := 3.0, lengthOffset := 3.0, noseRadius := 0.0 },
  { id := 3, name := "T0303 - Roscado 60", kind := .threading, insertColor := "#FF00FF",
    width := 1.0, lengthOffset := 8.2, noseRadius := 0.4 }]

/-- The trainer lathe. -/
def lathe : Profile :=
  { name := "Trainer Lathe", tools := lessonTools }

/-- The trainer lathe with a `G44` that applies the negated length offset. -/
def negatingLathe : Profile :=
  { lathe with name := "Trainer Lathe (G44 negative offset)", negatesOffset := true }

/-- The profile of a given name, in any case; every other name means the trainer lathe. No letter
outside ASCII has an ASCII lower case that these names could hold. -/
def preset (name : String) : Profile :=
  if name.toList.map Char.toLower = "lathe_g44".toList then negatingLathe else lathe

/-- The tool table of the turret, with the wear that the tools come with. -/
def toolTable (profile : Profile) : ToolTable :=
  .ofList profile.tools

/-- What a replay on this lathe depends on, given the state of its tools. -/
def setup (profile : Profile) (tools : ToolTable) : Setup :=
  { tools, home := profile.home, supported := profile.gCodes,
    negatesOffset := profile.negatesOffset }

/-- A meter for the wear on this lathe. -/
def wearMeter (profile : Profile) : WearMeter :=
  { rate := profile.wearRate, threshold := profile.wearThreshold,
    stockDiameter := profile.stockDiameter }

end Profile

end Lathe
