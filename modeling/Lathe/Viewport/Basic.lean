import Lathe.Action
import Lathe.Color
import Lathe.Geometry.Toolpath
import Lathe.LineSet

/-!
# The view of the workpiece

The view shows the section of the stock through the spindle axis, with the path of the tool: Z runs
to the right and the radius, half of X, upward. A camera says which part of the plane is seen.
Dragging the pointer moves the camera, turning the wheel changes how much it sees.
-/

namespace Lathe

/-- What the view can show or leave out. -/
inductive Layer where
  /-- Rapid moves. -/
  | rapid
  /-- Cuts. -/
  | cut
  /-- The compensated path. -/
  | compensated
  /-- The stock. -/
  | stock
  /-- The axes. -/
  | axes
deriving DecidableEq, Repr

namespace Layer

/-- All layers. -/
def all : List Layer := [.rapid, .cut, .compensated, .stock, .axes]

/-- The name of a layer. -/
def name : Layer → String
  | .rapid => "rapid"
  | .cut => "cut"
  | .compensated => "compensated"
  | .stock => "stock"
  | .axes => "axes"

/-- The layer of a given name. -/
def ofName? (name : String) : Option Layer :=
  all.find? fun layer => decide (layer.name = name)

end Layer

/-- The part of the plane that is seen. -/
structure Camera where
  /-- The position along the spindle axis at the center of the view. -/
  z : Float
  /-- The radius at the center of the view. -/
  radius : Float
  /-- Half of the height of the view. -/
  halfHeight : Float

/-- The state of the view. -/
structure Viewport where
  /-- The width of the window, in pixels. -/
  width : Int := 640
  /-- The height of the window, in pixels. -/
  height : Int := 480
  /-- The path shown. -/
  path : Toolpath := []
  /-- The position of the tool, if it is shown. -/
  tip : Option (Point Float) := none
  /-- The color of the tool. -/
  tipLight : Light := ⟨1.0, 0.84, 0.0⟩
  /-- The lines whose moves stand out. -/
  chosen : LineSet := []
  /-- The diameter of the stock. -/
  stockDiameter : Float := 80.0
  /-- The length of the stock. -/
  stockLength : Float := 150.0
  /-- The part of the plane that is seen. -/
  camera : Camera := ⟨-50.0, 0.0, 70.0⟩
  /-- Where the pointer was last, in pixels. -/
  pointer : Int × Int := (0, 0)
  /-- The layers that are left out. -/
  hidden : List Layer := []

namespace Viewport

/-- Whether a layer is shown. -/
def shows (v : Viewport) (layer : Layer) : Bool :=
  !v.hidden.contains layer

/-- Show a layer if it is left out, and leave it out if it is shown. -/
def toggle (v : Viewport) (layer : Layer) : Viewport :=
  { v with hidden := if v.shows layer then layer :: v.hidden else v.hidden.erase layer }

/-- Set the size of the stock. -/
def setStock (diameter length : Float) (v : Viewport) : Viewport :=
  { v with stockDiameter := diameter, stockLength := length }

/-- Show a path and the tool at a position. -/
def showPath (path : Toolpath) (tip : Option (Point Float)) (v : Viewport) : Viewport :=
  { v with path, tip }

/-- Show the tool in the color with a given text. -/
def colorTip (color : String) (v : Viewport) : Viewport :=
  { v with tipLight := (Color.ofText color).light }

/-- Let the moves of some lines stand out. -/
def choose (numbers : List Int) (v : Viewport) : Viewport :=
  { v with chosen := .ofList numbers }

/-- Set the size of the window. -/
def resize (width height : Int) (v : Viewport) : Viewport :=
  { v with width, height }

/-- Put the pointer at a place. -/
def press (x y : Int) (v : Viewport) : Viewport :=
  { v with pointer := (x, y) }

/-- Move the camera against the way of the pointer, so that the plane follows the pointer. -/
def pan (dx dy : Int) : Action Viewport Unit := do
  let v ← Action.observe id
  let scale := 2.0 * v.camera.halfHeight / (← Action.ofExcept (realOf v.height))
  let across ← Action.ofExcept (realOf dx)
  Action.change fun v => { v with camera := { v.camera with z := v.camera.z - across * scale } }
  let up ← Action.ofExcept (realOf dy)
  Action.change fun v =>
    { v with camera := { v.camera with radius := v.camera.radius + up * scale } }

/-- Move the pointer. With a button held down this drags the plane; a window without height cannot
be dragged in. -/
def drag (x y : Int) (held : Bool) : Action Viewport Unit := do
  let v ← Action.observe id
  if held && decide (0 < v.height) then pan (x - v.pointer.1) (y - v.pointer.2)
  Action.change (press x y)

/-- The smallest half of the height of the view. -/
def nearest : Float := 5.0

/-- Turn the wheel by an angle; a notch is 120 and changes the height of the view by a tenth. -/
def zoom (angle : Float) (v : Viewport) : Except Fault Viewport :=
  let notches := angle / 120.0
  let factor := Float.pow 0.9 notches
  if factor.isInf && notches.isFinite then .error .outOfRange
  else
    .ok { v with
      camera := { v.camera with
        halfHeight := Number.greatestOf nearest (v.camera.halfHeight * factor) } }

/-- Bring the stock and the reference position into view. -/
def resetView (v : Viewport) : Viewport :=
  { v with camera := ⟨-v.stockLength / 3.0, 0.0, Number.greatestOf v.stockDiameter 70.0⟩ }

end Viewport

end Lathe
