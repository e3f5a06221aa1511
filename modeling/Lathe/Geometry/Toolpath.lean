import Lathe.Fault
import Lathe.Geometry.Point
import Lathe.Text.Quoted

/-!
# Toolpaths

A toolpath is the list of the end points to which a replay has moved the tool. Each point keeps the
programmed position, the compensated position, and the line that commanded it.

* `Toolpath.box` is the smallest upright box around a path.
* `Toolpath.statistics` counts its points and measures its travel.
-/

namespace Lathe

/-- How a move is made. -/
inductive Motion where
  /-- As fast as the machine goes, through free space. -/
  | rapid
  /-- At the programmed feed, in the material. -/
  | cut
deriving DecidableEq, Repr

namespace Motion

/-- The name of a motion. -/
def name : Motion → String
  | .rapid => "rapid"
  | .cut => "cut"

/-- The motion of a given name. -/
def ofName (name : String) : Except Fault Motion :=
  if name = "rapid" then .ok .rapid
  else if name = "cut" then .ok .cut
  else .error (.notMember .motion (Text.quoted name))

end Motion

/-- The end point of a move. -/
structure PathPoint where
  /-- The programmed position. -/
  nominal : Point Float
  /-- How the move was made. -/
  motion : Motion
  /-- The position of the nose centre, as a tool position. -/
  offset : Point Float
  /-- Whether compensation changed the position. -/
  compensated : Bool
  /-- The line that commanded the move. -/
  line : Int
deriving DecidableEq, Repr

namespace PathPoint

/-- A point without compensation. -/
def uncompensated (p : Point Float) (motion : Motion) (line : Int) : PathPoint :=
  { nominal := p, motion, offset := p, compensated := false, line }

/-- Whether the move to this point was a cut. -/
def isCut (p : PathPoint) : Bool :=
  decide (p.motion = .cut)

/-- The length of the straight move from `q` to `p`. -/
def distance (p q : PathPoint) : Float :=
  p.nominal.distance q.nominal

end PathPoint

/-- The end points of the moves of a replay, in order. -/
abbrev Toolpath := List PathPoint

/-- Counts and lengths of a toolpath. -/
structure Statistics where
  /-- The number of points. -/
  points : Nat
  /-- The number of cuts. -/
  cuts : Nat
  /-- The number of rapid moves. -/
  rapids : Nat
  /-- The number of points that compensation changed. -/
  compensated : Nat
  /-- The travel of all cuts. -/
  cutLength : Float
  /-- The travel of all rapid moves. -/
  rapidLength : Float
  /-- The whole travel. -/
  totalLength : Float
  /-- The number of lines that command a move. -/
  lines : Nat
deriving DecidableEq, Repr

namespace Toolpath

/-- The points commanded by a line. -/
def onLine (path : Toolpath) (line : Int) : Toolpath :=
  path.filter fun p => decide (p.line = line)

/-- The points reached by one kind of motion. -/
def ofMotion (path : Toolpath) (motion : Motion) : Toolpath :=
  path.filter fun p => decide (p.motion = motion)

/-- The smallest of a list of numbers, taken from left to right. -/
def least : List Float → Float
  | [] => 0.0
  | x :: rest => rest.foldl Number.leastOf x

/-- The largest of a list of numbers, taken from left to right. -/
def greatest : List Float → Float
  | [] => 0.0
  | x :: rest => rest.foldl Number.greatestOf x

/-- The corners of the smallest box around the programmed and the compensated points of a path. -/
def box (path : Toolpath) : Point Float × Point Float :=
  let xs := path.map (·.nominal.x) ++ path.map (·.offset.x)
  let zs := path.map (·.nominal.z) ++ path.map (·.offset.z)
  (⟨least xs, least zs⟩, ⟨greatest xs, greatest zs⟩)

/-- The lengths of the cuts and of the rapid moves, added up from left to right. The move to the
first point counts only if it is known where the tool came from. -/
def lengths (cut rapid : Float) : Option (Point Float) → Toolpath → Float × Float
  | _, [] => (cut, rapid)
  | none, p :: rest => lengths cut rapid (some p.nominal) rest
  | some q, p :: rest =>
    let length := p.nominal.distance q
    if p.isCut then lengths (cut + length) rapid (some p.nominal) rest
    else lengths cut (rapid + length) (some p.nominal) rest

/-- The counts and lengths of a path, measured from `start` on if it is given. -/
def statistics (path : Toolpath) (start : Option (Point Float)) : Statistics :=
  let (cut, rapid) := lengths 0.0 0.0 start path
  { points := path.length
    cuts := (path.ofMotion .cut).length
    rapids := (path.ofMotion .rapid).length
    compensated := (path.filter (·.compensated)).length
    cutLength := cut
    rapidLength := rapid
    totalLength := cut + rapid
    lines := (path.map (·.line)).eraseDups.length }

end Toolpath

end Lathe
