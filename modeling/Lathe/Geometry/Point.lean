/-!
# Points of the turning plane

A lathe moves its tool in a plane. X is measured as a diameter and Z as a signed length, so travel
is measured in *radius space*, where X is halved.

The formulas are stated for any type of numbers with the operations of `Scalar`. The machine
computes with floating-point numbers; read over the real numbers, the same formulas are the
geometry.
-/

namespace Lathe

/-- The numbers with which positions are computed. -/
class Scalar (α : Type) extends Add α, Sub α, Mul α, Div α, Neg α where
  /-- The square root. -/
  sqrt : α → α
  /-- The number two. -/
  two : α
  /-- The shortest move that has a direction. -/
  shortestMove : α
  /-- Whether the first number is smaller than the second. -/
  below : α → α → Bool

instance : Scalar Float where
  sqrt := Float.sqrt
  two := 2.0
  shortestMove := 1e-3
  below a b := decide (a < b)

/-- A point of the turning plane. -/
structure Point (α : Type) where
  /-- The distance across the spindle axis, as a diameter. -/
  x : α
  /-- The position along the spindle axis. -/
  z : α
deriving DecidableEq, Repr, Inhabited

/-- The length of the straight move from `q` to `p`, in radius space. -/
def Point.distance {α : Type} [Scalar α] (p q : Point α) : α :=
  let dx := (p.x - q.x) / Scalar.two
  let dz := p.z - q.z
  Scalar.sqrt (dx * dx + dz * dz)

end Lathe
