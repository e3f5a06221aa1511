import Lathe.Machine.State
import Lathe.Machine.Tool
import Lathe.Number.Layout
import Lathe.Text.Quoted

/-!
# Wear

A tool wears with the distance that it cuts and with the hardness of the material. Small amounts are
gathered by a meter, and only written to the tool table once they pass a threshold.
-/

namespace Lathe

/-- The stock materials. -/
inductive Material where
  /-- Steel, by which hardness is measured. -/
  | steel
  /-- Aluminium. -/
  | aluminum
  /-- Wood. -/
  | wood
  /-- Carbon fibre. -/
  | carbonFiber
  /-- Epoxy resin. -/
  | epoxy
  /-- Polyoxymethylene. -/
  | pom
deriving DecidableEq, Repr

namespace Material

/-- All materials, in the order in which the operator sees them. -/
def all : List Material := [.steel, .aluminum, .wood, .carbonFiber, .epoxy, .pom]

/-- The name of a material. -/
def name : Material → String
  | .steel => "Steel"
  | .aluminum => "Aluminum"
  | .wood => "Wood"
  | .carbonFiber => "Carbon Fiber"
  | .epoxy => "Epoxi"
  | .pom => "POM"

/-- The material of a given name. -/
def ofName (name : String) : Except Fault Material :=
  match all.find? fun material => material.name == name with
  | some material => .ok material
  | none => .error (.notMember .material (Text.quoted name))

/-- How hard a material is, compared with steel. -/
def hardness : Material → Float
  | .steel => 1.0
  | .aluminum => 0.5
  | .wood => 0.1
  | .carbonFiber => 1.5
  | .epoxy => 0.2
  | .pom => 0.2

end Material

/-- Wear that was written to the tool table. -/
structure WearDelta where
  /-- The tool. -/
  tool : Int
  /-- By how much, in percent. -/
  increment : Float
  /-- The wear after that, in percent. -/
  wear : Float
deriving DecidableEq, Repr

/-- What writing wear to the tool table reports. -/
def WearDelta.record (delta : WearDelta) : Log.Record :=
  let increment := Number.fixedText 2 0 delta.increment
  let wear := Number.fixedText 2 0 delta.wear
  Log.debug .wear s!"T{delta.tool} wear +{increment}% -> {wear}%"

/-- A meter of wear that is not yet written to the tool table. -/
structure WearMeter where
  /-- The wear for each millimetre cut in steel, in percent. -/
  rate : Float := 0.2
  /-- The wear that must be passed to be written. -/
  threshold : Float := 0.5
  /-- The diameter of the stock; beyond it nothing is cut. -/
  stockDiameter : Float := 80.0
  /-- The wear gathered so far. -/
  pending : Float := 0.0
deriving DecidableEq, Repr

namespace WearMeter

/-- The shortest move that counts. -/
def shortestMove : Float := 0.001

/-- Forget the wear gathered so far. -/
def reset (meter : WearMeter) : WearMeter :=
  { meter with pending := 0.0 }

/-- The length of the move from `previous` to the machine's position, as wear counts it. -/
def distance (previous : Point Float) (m : Machine) : Float :=
  let dx := m.position.x - previous.x
  let dz := m.position.z - previous.z
  Float.sqrt (dx * dx + dz * dz)

/-- The tool that the move from `previous` wears: the machine is cutting, far enough and inside the
stock, with a tool of the table that is not worn out. -/
def wornTool? (meter : WearMeter) (table : ToolTable) (previous : Point Float) (m : Machine) :
    Option Tool :=
  if !m.isCutting || distance previous m ≤ shortestMove ||
      meter.stockDiameter + 1.0 < m.position.x then
    none
  else (table.get? m.tool).filter fun tool => !decide (100.0 ≤ tool.wear)

/-- Account for the move from `previous` to the machine's position. -/
def update (meter : WearMeter) (table : ToolTable) (previous : Point Float) (m : Machine)
    (material : Material) : WearMeter × ToolTable × Option WearDelta :=
  match meter.wornTool? table previous m with
  | none => (meter, table, none)
  | some tool =>
    let pending := meter.pending + distance previous m * material.hardness * meter.rate
    if pending ≤ meter.threshold then ({ meter with pending }, table, none)
    else
      let wear := tool.wear + pending
      (meter.reset, table.setWear tool.id wear, some ⟨tool.id, pending, clampWear wear⟩)

end WearMeter

end Lathe
