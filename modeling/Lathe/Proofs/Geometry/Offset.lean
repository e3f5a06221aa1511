import Mathlib.Algebra.Module.Prod
import Mathlib.Analysis.Real.Sqrt
import Mathlib.Data.Option.NAry
import Mathlib.Tactic.FieldSimp
import Mathlib.Tactic.LinearCombination
import Mathlib.Tactic.NormNum
import Lathe.Geometry.Compensation

/-!
# The geometry of compensation

Read over the real numbers, the formulas of compensation place the centre of the nose on the normal
of the move through its end point, at a distance of the nose radius and always on the same side.
Directions and distances are those of radius space, where X is halved.

* `travel_compensate`: the offset is the travel, turned by a right angle and brought to length;
* `compensate_of_lt`: a move that is too short to have a direction keeps its end point;
* `compensate_checked`: no step of the computation is a division by zero;
* `compensate_on_normal`: all of this.
-/

namespace Lathe

/-! ## Directions -/

/-- How far it is from `p` to `q` across the spindle axis and along it, in radius space. -/
noncomputable def Point.travel (p q : Point ℝ) : ℝ × ℝ :=
  ((q.x - p.x) / 2, q.z - p.z)

/-- A vector, turned by a right angle to one side. -/
def Side.turn (side : Side) (v : ℝ × ℝ) : ℝ × ℝ :=
  match side with
  | .right => (v.2, -v.1)
  | .left => (-v.2, v.1)

/-- Turning keeps the length. -/
theorem Side.turn_mul_self (side : Side) (v : ℝ × ℝ) :
    (side.turn v).1 * (side.turn v).1 + (side.turn v).2 * (side.turn v).2 =
      v.1 * v.1 + v.2 * v.2 := by
  cases side with
  | right =>
    simp only [turn]
    ring
  | left =>
    simp only [turn]
    ring

/-- What is turned is at a right angle to what it was. -/
theorem Side.mul_turn (side : Side) (v : ℝ × ℝ) :
    v.1 * (side.turn v).1 + v.2 * (side.turn v).2 = 0 := by
  cases side with
  | right =>
    simp only [turn]
    ring
  | left =>
    simp only [turn]
    ring

theorem Side.turn_left (v : ℝ × ℝ) : Side.left.turn v = -Side.right.turn v := by
  simp [turn]

/-! ## Computations without a result -/

/-- A real number, or nothing where a computation has no result. -/
def Checked : Type := Option ℝ

namespace Checked

/-- The result of a computation that has one. -/
def of (x : ℝ) : Checked := some x

/-- A division by zero and the square root of a negative number have no result, and neither has a
computation that goes on from there. A comparison is false if one of its sides is not there. -/
noncomputable instance : Scalar Checked where
  add := Option.map₂ (· + ·)
  sub := Option.map₂ (· - ·)
  mul := Option.map₂ (· * ·)
  div a b := Option.bind a fun x => Option.bind b fun y => if y = 0 then none else some (x / y)
  neg := Option.map (- ·)
  sqrt a := Option.bind a fun x => if x < 0 then none else some √x
  two := of 2
  shortestMove := of 1e-3
  below a b := Option.any id (Option.map₂ (fun x y => decide (x < y)) a b)

variable {x y : ℝ}

@[simp]
theorem of_add (x y : ℝ) : of x + of y = of (x + y) := rfl

@[simp]
theorem of_sub (x y : ℝ) : of x - of y = of (x - y) := rfl

@[simp]
theorem of_mul (x y : ℝ) : of x * of y = of (x * y) := rfl

@[simp]
theorem neg_of (x : ℝ) : -of x = of (-x) := rfl

@[simp]
theorem two_eq : (Scalar.two : Checked) = of 2 := rfl

@[simp]
theorem below_of (x : ℝ) :
    Scalar.below (of x) (Scalar.shortestMove : Checked) = decide (x < 1e-3) := rfl

theorem of_div (x : ℝ) (h : y ≠ 0) : of x / of y = of (x / y) := if_neg h

theorem sqrt_of (h : 0 ≤ x) : Scalar.sqrt (of x) = of √x := if_neg (not_lt.mpr h)

end Checked

/-! ## Real numbers -/

/-- The real numbers, with the operations in which positions are computed. -/
noncomputable instance : Scalar ℝ where
  sqrt := Real.sqrt
  two := 2
  shortestMove := 1e-3
  below a b := decide (a < b)

section Real

variable {start target : Point ℝ} {radius : ℝ}

theorem Point.distance_eq (p q : Point ℝ) :
    p.distance q = √((q.travel p).1 * (q.travel p).1 + (q.travel p).2 * (q.travel p).2) := rfl

theorem Point.mul_self_distance (p q : Point ℝ) :
    p.distance q * p.distance q =
      (q.travel p).1 * (q.travel p).1 + (q.travel p).2 * (q.travel p).2 := by
  rw [distance_eq]
  exact Real.mul_self_sqrt (add_nonneg (mul_self_nonneg _) (mul_self_nonneg _))

/-- The formulas of compensation, in terms of the travel and its length. -/
theorem compensate_eq (start target : Point ℝ) (side : Side) (radius : ℝ) :
    compensate start target side radius =
      if target.distance start < 1e-3 then target
      else
        let normal := side.turn (start.travel target)
        { x := target.x + normal.1 / target.distance start * radius * 2
          z := target.z + normal.2 / target.distance start * radius } := by
  have hlength : Scalar.sqrt ((target.z - start.z) * (target.z - start.z) +
      (target.x - start.x) / 2 * ((target.x - start.x) / 2)) = target.distance start := by
    rw [Point.distance_eq, add_comm]
    rfl
  unfold compensate
  dsimp only [Scalar.two, Scalar.shortestMove, Scalar.below]
  rw [hlength]
  simp only [decide_eq_true_eq]
  cases side with
  | right => simp only [Side.turn, Point.travel, neg_div]
  | left => simp only [Side.turn, Point.travel, neg_div]

theorem ne_zero_of_shortestMove_le {length : ℝ} (h : 1e-3 ≤ length) : length ≠ 0 := by
  have hpos : (0 : ℝ) < 1e-3 := by norm_num
  exact (hpos.trans_le h).ne'

/-- A move that is too short to have a direction keeps its end point. -/
theorem compensate_of_lt (h : target.distance start < 1e-3) (side : Side) (radius : ℝ) :
    compensate start target side radius = target := by
  rw [compensate_eq, if_pos h]

/-- The nose centre is off the end point by the travel, turned to its side and brought to the length
of the radius. -/
theorem travel_compensate (h : 1e-3 ≤ target.distance start) (side : Side) (radius : ℝ) :
    target.travel (compensate start target side radius) =
      (radius / target.distance start) • side.turn (start.travel target) := by
  rw [compensate_eq, if_neg (not_lt.mpr h)]
  ext
  · simp only [Point.travel, Prod.smul_fst, smul_eq_mul]
    ring
  · simp only [Point.travel, Prod.smul_snd, smul_eq_mul]
    ring

end Real

/-- The point with both of its coordinates changed. -/
def Point.map {α β : Type} (f : α → β) (p : Point α) : Point β := ⟨f p.x, f p.z⟩

/-- No step of the computation is a division by zero: with checks it has the same result. -/
theorem compensate_checked (start target : Point ℝ) (side : Side) (radius : ℝ) :
    compensate (start.map Checked.of) (target.map Checked.of) side (Checked.of radius) =
      (compensate start target side radius).map Checked.of := by
  have hsquares : 0 ≤ (target.z - start.z) * (target.z - start.z) +
      (target.x - start.x) / 2 * ((target.x - start.x) / 2) :=
    add_nonneg (mul_self_nonneg _) (mul_self_nonneg _)
  unfold compensate
  dsimp only [Point.map]
  simp only [Checked.two_eq, Checked.of_sub, Checked.of_div _ two_ne_zero, Checked.of_mul,
    Checked.of_add, Checked.sqrt_of hsquares, Checked.below_of]
  dsimp only [Scalar.two, Scalar.shortestMove, Scalar.below, Scalar.sqrt]
  split
  · rfl
  next hlong =>
    -- only a move that has a direction is divided by its length
    have hne := ne_zero_of_shortestMove_le (not_lt.mp (mt decide_eq_true hlong))
    cases side with
    | right =>
      simp only [Checked.of_div _ hne, Checked.neg_of, Checked.of_mul, Checked.of_add]
    | left => simp only [Checked.of_div _ hne, Checked.neg_of, Checked.of_mul, Checked.of_add]

/-! ## The theorem -/

section Normal

variable {start target : Point ℝ}

/-- The nose centre is at a distance of the radius. -/
theorem distance_compensate (h : 1e-3 ≤ target.distance start) (side : Side) {radius : ℝ}
    (hradius : 0 ≤ radius) :
    (compensate start target side radius).distance target = radius := by
  have hne := ne_zero_of_shortestMove_le h
  have hsquare := Point.mul_self_distance target start
  rw [Point.distance_eq, travel_compensate h]
  generalize target.distance start = length at hne hsquare
  have hradii : radius / length * (side.turn (start.travel target)).1 *
        (radius / length * (side.turn (start.travel target)).1) +
      radius / length * (side.turn (start.travel target)).2 *
        (radius / length * (side.turn (start.travel target)).2) = radius * radius :=
    calc
      _ = radius / length * (radius / length) * (length * length) := by
        rw [hsquare, ← side.turn_mul_self]
        ring
      _ = radius * radius := by field_simp
  exact (congrArg Real.sqrt hradii).trans (Real.sqrt_mul_self hradius)

/-- Let the end point of a move be compensated, computed with real numbers. If the move is long
enough to have a direction, then on either side the nose centre is off the end point by the radius,
at a right angle to the travel; the two sides are opposite to each other, and the right side is
always on the same side of the travel. A shorter move keeps its end point. No step of the
computation is a division by zero. Vectors and lengths are those of radius space. -/
theorem compensate_on_normal (start target : Point ℝ) (radius : ℝ) (hradius : 0 ≤ radius) :
    let length := target.distance start
    let travel := start.travel target
    let offset (side : Side) := target.travel (compensate start target side radius)
    (1e-3 ≤ length →
      (∀ side, (compensate start target side radius).distance target = radius ∧
        travel.1 * (offset side).1 + travel.2 * (offset side).2 = 0) ∧
      offset .left = -offset .right ∧
      travel.1 * (offset .right).2 - travel.2 * (offset .right).1 = -radius * length) ∧
    (length < 1e-3 → ∀ side, compensate start target side radius = target) ∧
    ∀ side, compensate (start.map Checked.of) (target.map Checked.of) side (Checked.of radius) =
      (compensate start target side radius).map Checked.of := by
  intro length travel offset
  refine ⟨fun hlong => ?_, fun hshort side => compensate_of_lt hshort side radius,
    fun side => compensate_checked start target side radius⟩
  have hoffset (side : Side) : offset side = (radius / length) • side.turn travel :=
    travel_compensate hlong side radius
  refine ⟨fun side => ⟨distance_compensate hlong side hradius, ?_⟩, ?_, ?_⟩
  · rw [hoffset, Prod.smul_fst, Prod.smul_snd, smul_eq_mul, smul_eq_mul]
    linear_combination radius / length * side.mul_turn travel
  · rw [hoffset, hoffset, Side.turn_left, smul_neg]
  · -- the determinant is the square of the travel, scaled by the radius over its length
    have hne := ne_zero_of_shortestMove_le hlong
    have hsquare : length * length = travel.1 * travel.1 + travel.2 * travel.2 :=
      Point.mul_self_distance target start
    calc
      travel.1 * (offset .right).2 - travel.2 * (offset .right).1
      _ = -(radius / length) * (travel.1 * travel.1 + travel.2 * travel.2) := by
        rw [hoffset]
        simp only [Side.turn, Prod.smul_fst, Prod.smul_snd, smul_eq_mul]
        ring
      _ = -radius * length := by
        rw [← hsquare]
        field_simp

/-- A move of length five with a radius of ten, and a move that goes nowhere. -/
theorem compensate_threeFourFive :
    let start : Point ℝ := ⟨0, 0⟩
    let target : Point ℝ := ⟨6, 4⟩
    let offset (side : Side) := target.travel (compensate start target side 10)
    (0 : ℝ) ≤ 10 ∧ target.distance start = 5 ∧ start.travel target = (3, 4) ∧
    (∀ side, (compensate start target side 10).distance target = 10 ∧
      3 * (offset side).1 + 4 * (offset side).2 = 0) ∧
    offset .left = -offset .right ∧
    3 * (offset .right).2 - 4 * (offset .right).1 = -50 ∧
    start.distance start = 0 ∧ ∀ side, compensate start start side 10 = start := by
  intro start target offset
  have htravel : start.travel target = (3, 4) := by norm_num [Point.travel, start, target]
  have hdistance : target.distance start = 5 := by
    rw [Point.distance_eq, htravel, Real.sqrt_eq_iff_mul_self_eq] <;> norm_num
  have hstill : start.distance start = 0 := by simp [Point.distance_eq, Point.travel]
  have hradius : (0 : ℝ) ≤ 10 := by norm_num
  obtain ⟨hlong, -⟩ := compensate_on_normal start target 10 hradius
  obtain ⟨-, hshort, -⟩ := compensate_on_normal start start 10 hradius
  rw [hdistance, htravel] at hlong
  rw [hstill] at hshort
  obtain ⟨hnormal, hopposite, hside⟩ := hlong (by norm_num)
  refine ⟨hradius, hdistance, htravel, hnormal, hopposite, ?_, hstill, hshort (by norm_num)⟩
  rw [hside]
  norm_num

end Normal

end Lathe
