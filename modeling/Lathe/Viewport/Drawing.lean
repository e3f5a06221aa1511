import Lathe.Viewport.Basic

/-!
# Drawing the view

A drawing is a list of instructions for a surface that keeps its settings, such as the color and the
width of lines, until they are changed. The part is drawn on both sides of the spindle axis, except
for rapid moves, which are drawn on the upper side only.
-/

namespace Lathe

/-- Settings of the surface that are on or off. -/
inductive Feature where
  /-- Smooth lines. -/
  | smoothLines
  /-- Blending with what is already there. -/
  | blending
  /-- Dashed lines. -/
  | dashedLines
deriving DecidableEq, Repr

/-- The transformations that the surface keeps. -/
inductive Transformation where
  /-- From the part of the plane that is seen to the window. -/
  | projection
  /-- From the things drawn to the plane. -/
  | placement
deriving DecidableEq, Repr

/-- What the corners that follow make up. -/
inductive Primitive where
  /-- Lines, by pairs. -/
  | lines
  /-- Triangles, by threes. -/
  | triangles
  /-- Quadrangles, by fours. -/
  | quads
deriving DecidableEq, Repr

/-- An instruction for the surface. -/
inductive Instruction where
  /-- Set the color of the empty surface. -/
  | background (light : Light) (opacity : Float)
  /-- Empty the surface. -/
  | clear
  /-- Turn a feature on. -/
  | enable (feature : Feature)
  /-- Turn a feature off. -/
  | disable (feature : Feature)
  /-- Blend by opacity. -/
  | blendByOpacity
  /-- Use the whole window, of a given width and height. -/
  | window (width height : Int)
  /-- Choose a transformation. -/
  | transform (transformation : Transformation)
  /-- Make the chosen transformation the identity. -/
  | identity
  /-- See the part of the plane between left and right, and bottom and top. -/
  | frame (left right bottom top : Float)
  /-- Set the color. -/
  | color (light : Light)
  /-- Set the color and its opacity. -/
  | translucent (light : Light) (opacity : Float)
  /-- Set the width of lines. -/
  | lineWidth (width : Float)
  /-- Set the pattern of dashed lines, as sixteen bits. -/
  | dashes (pattern : Nat)
  /-- Begin a row of corners. -/
  | start (primitive : Primitive)
  /-- A corner, by its position along the spindle axis and its radius. -/
  | corner (z radius : Float)
  /-- End the row of corners. -/
  | finish

namespace Viewport

open Instruction

/-- The color of moves that stand out. -/
def chosenLight : Light := ⟨1.0, 1.0, 0.0⟩

/-- The color of rapid moves. -/
def rapidLight : Light := ⟨0.0, 0.8, 0.2⟩

/-- The color of cuts. -/
def cutLight : Light := ⟨0.2, 0.5, 1.0⟩

/-- The color of the compensated path. -/
def compensatedLight : Light := ⟨1.0, 0.5, 0.2⟩

/-- Prepare the surface. -/
def prepare : List Instruction :=
  [background ⟨0.1, 0.1, 0.15⟩ 1.0, enable .smoothLines, enable .blending, blendByOpacity]

/-- The ratio of width to height of the window; it is one for a window without height. -/
def aspect (v : Viewport) : Except Fault Float :=
  if 0 < v.height then divide v.width v.height else .ok 1.0

/-- Fit what the camera sees into the window. -/
def project (v : Viewport) : Except Fault (List Instruction) := do
  let c := v.camera
  let halfWidth := c.halfHeight * (← v.aspect)
  return [transform .projection, identity,
    frame (c.z - halfWidth) (c.z + halfWidth) (c.radius - c.halfHeight) (c.radius + c.halfHeight)]

/-- Use the window at its size. -/
def fitWindow (v : Viewport) : Except Fault (List Instruction) := do
  return window v.width v.height :: (← v.project)

/-- The stock, with its face at Z zero. -/
def drawStock (v : Viewport) : List Instruction :=
  let radius := v.stockDiameter / 2.0
  [translucent ⟨0.55, 0.57, 0.6⟩ 0.35, start .quads,
    corner (-v.stockLength) (-radius), corner 0.0 (-radius), corner 0.0 radius,
    corner (-v.stockLength) radius, finish]

/-- The spindle axis, and the directions of Z and X at the face of the stock. -/
def drawAxes (v : Viewport) : List Instruction :=
  [lineWidth 1.0, color ⟨0.5, 0.5, 0.5⟩, dashes 0xf0f0, enable .dashedLines,
    start .lines, corner (-v.stockLength - 20.0) 0.0, corner 120.0 0.0, finish,
    disable .dashedLines,
    color ⟨0.0, 0.0, 1.0⟩, start .lines, corner 0.0 0.0, corner 15.0 0.0,
    color ⟨1.0, 0.0, 0.0⟩, corner 0.0 0.0, corner 0.0 15.0, finish]

/-- The two ends of a move on one side of the axis. -/
def drawSide (side : Float) (p q : Point Float) : List Instruction :=
  [corner p.z (side * p.x / 2.0), corner q.z (side * q.x / 2.0)]

/-- A line on both sides of the axis. -/
def drawSolid (width : Float) (light : Light) (p q : Point Float) : List Instruction :=
  [lineWidth width, color light, start .lines] ++
    drawSide 1.0 p q ++ drawSide (-1.0) p q ++ [finish]

/-- A dashed line on the upper side of the axis. -/
def drawDashed (light : Light) (p q : Point Float) : List Instruction :=
  [lineWidth 1.5, color light, dashes 0xaaaa, enable .dashedLines,
    start .lines, corner p.z (p.x / 2.0), corner q.z (q.x / 2.0), finish, disable .dashedLines]

/-- The move from one point of the path to the next, as programmed and as compensated. -/
def drawMove (v : Viewport) (p q : PathPoint) : List Instruction :=
  let light (usual : Light) : Light := if v.chosen.contains q.line then chosenLight else usual
  let nominal := match q.motion with
    | .rapid => if v.shows .rapid then drawDashed (light rapidLight) p.nominal q.nominal else []
    | .cut => if v.shows .cut then drawSolid 2.5 (light cutLight) p.nominal q.nominal else []
  let compensated := if v.shows .compensated && q.compensated then
    drawSolid 1.5 compensatedLight p.offset q.offset else []
  nominal ++ compensated

/-- All moves between points of the path. -/
def drawPath (v : Viewport) : List Instruction :=
  (v.path.zip (v.path.drop 1)).flatMap fun (p, q) => v.drawMove p q

/-- The tool, as a triangle whose first corner is its position. -/
def drawTip (v : Viewport) : List Instruction :=
  match v.tip with
  | none => []
  | some p =>
    let radius := p.x / 2.0
    let size : Float := 3.0
    [color v.tipLight, start .triangles, corner p.z radius,
      corner (p.z + size) (radius + size * 1.8),
      corner (p.z + size * 1.8) (radius + size * 0.6), finish]

/-- The whole drawing. -/
def paint (v : Viewport) : Except Fault (List Instruction) := do
  return [clear] ++ (← v.project) ++ [transform .placement, identity] ++
    (if v.shows .stock then v.drawStock else []) ++
    (if v.shows .axes then v.drawAxes else []) ++
    v.drawPath ++ v.drawTip

end Viewport

end Lathe
