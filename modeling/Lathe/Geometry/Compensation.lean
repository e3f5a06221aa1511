import Lathe.Geometry.Point

/-!
# Nose-radius compensation

The tip of an insert is an arc. With compensation on, the centre of the arc keeps to one side of the
programmed path, at a distance of the nose radius along the normal of the move.
-/

namespace Lathe

/-- The side of the travel direction to which a path is offset. -/
inductive Side where
  /-- To the left, `G41`. -/
  | left
  /-- To the right, `G42`. -/
  | right
deriving DecidableEq, Repr

/-- The end point of the move from `start` to `target`, offset by the nose radius to one side of the
travel direction. A move too short to have a direction keeps its end point. -/
def compensate {α : Type} [Scalar α] (start target : Point α) (side : Side) (radius : α) :
    Point α :=
  let dz := target.z - start.z
  let dx := (target.x - start.x) / Scalar.two
  let length := Scalar.sqrt (dz * dz + dx * dx)
  if Scalar.below length Scalar.shortestMove then target
  else
    let tx := dx / length
    let tz := dz / length
    let (nx, nz) := match side with
      | .right => (tz, -tx)
      | .left => (-tz, tx)
    { x := target.x + nx * radius * Scalar.two
      z := target.z + nz * radius }

end Lathe
