import Lathe.Fault
import Lathe.Log

/-!
# Tools and the tool table

The tool table lists the tools of the turret by number. A tool's geometry never changes; its wear
does, within the bounds of 0 and 100 percent. The table counts the changes, so that whoever keeps
results computed from it can tell when they are out of date.

The tools are kept in strictly increasing order of their numbers.
-/

namespace Lathe

/-- The kinds of tools. -/
inductive ToolKind where
  /-- Turning and facing. -/
  | general
  /-- Grooving and parting off. -/
  | grooving
  /-- Cutting threads. -/
  | threading
deriving DecidableEq, Repr

namespace ToolKind

/-- The name of a kind. -/
def name : ToolKind → String
  | .general => "general"
  | .grooving => "grooving"
  | .threading => "threading"

/-- The kind of a given name. -/
def ofName? (name : String) : Option ToolKind :=
  [ToolKind.general, .grooving, .threading].find? fun kind => kind.name == name

end ToolKind

/-- A tool of the turret. -/
structure Tool where
  /-- The number of the tool. -/
  id : Int
  /-- What the operator calls it. -/
  name : String := ""
  /-- Its kind. -/
  kind : ToolKind := .general
  /-- The colour of its insert on screen. -/
  insertColor : String := "#FFD700"
  /-- The width of its edge. -/
  width : Float := 0.0
  /-- How far it stands out. -/
  lengthOffset : Float := 0.0
  /-- The radius of its tip. -/
  noseRadius : Float := 0.0
  /-- How much of it is worn, in percent. -/
  wear : Float := 0.0
deriving DecidableEq, Repr

/-- Wear lies between 0 and 100 percent. -/
def clampWear (percent : Float) : Float :=
  Number.greatestOf 0.0 (Number.leastOf 100.0 percent)

/-- The tools of the turret by number. -/
structure ToolTable where
  /-- The tools, in strictly increasing order of their numbers. -/
  tools : List Tool
  /-- How often the wear of a tool was set. -/
  revision : Nat
deriving DecidableEq, Repr

namespace ToolTable

/-- Put a tool in its place; it replaces a tool of the same number. -/
def insert (tool : Tool) : List Tool → List Tool
  | [] => [tool]
  | t :: rest =>
    if tool.id < t.id then tool :: t :: rest
    else if tool.id = t.id then tool :: rest
    else t :: insert tool rest

/-- The table of some tools; of tools with one number the last one counts. -/
def ofList (tools : List Tool) : ToolTable :=
  { tools := tools.foldl (fun sorted tool => insert tool sorted) [], revision := 0 }

/-- The table without tools. -/
def empty : ToolTable := ⟨[], 0⟩

/-- The tool of a given number. -/
def get? (table : ToolTable) (id : Int) : Option Tool :=
  table.tools.find? fun tool => decide (tool.id = id)

/-- Whether there is a tool of a given number. -/
def contains (table : ToolTable) (id : Int) : Bool :=
  (table.get? id).isSome

/-- The number of tools. -/
def size (table : ToolTable) : Nat :=
  table.tools.length

/-- How far a tool stands out, if there is one. -/
def lengthOffset (table : ToolTable) (id : Int) : Option Float :=
  (table.get? id).map (·.lengthOffset)

/-- The nose radius of a tool; a tool that is not there has none. -/
def noseRadius (table : ToolTable) (id : Int) : Float :=
  ((table.get? id).map (·.noseRadius)).getD 0.0

/-- The wear of a tool, if there is one. -/
def wear (table : ToolTable) (id : Int) : Option Float :=
  (table.get? id).map (·.wear)

/-- Set the wear of a tool, within its bounds. A number without a tool changes nothing. -/
def setWear (table : ToolTable) (id : Int) (percent : Float) : ToolTable :=
  if table.contains id then
    { tools := table.tools.map fun tool =>
        if tool.id = id then { tool with wear := clampWear percent } else tool
      revision := table.revision + 1 }
  else table

/-- Make a tool as good as new. -/
def resetWear (table : ToolTable) (id : Int) : ToolTable :=
  table.setWear id 0.0

/-- What setting the wear of a tool reports. -/
def setWearRecords (table : ToolTable) (id : Int) : List Log.Record :=
  if table.contains id then []
  else [Log.debug .tools s!"Wear update for unknown tool T{id} ignored"]

/-- What making a tool as good as new reports. -/
def resetWearRecords (table : ToolTable) (id : Int) : List Log.Record :=
  Log.info .tools s!"Wear reset for T{id}" :: table.setWearRecords id

end ToolTable

end Lathe
