import Lathe.Geometry.Toolpath
import Lathe.Proofs.Geometry.Offset
import Lathe.Proofs.Wear.Account
import Mathlib.Tactic.Linarith

/-!
# How far a worn tool has travelled

The length of a toolpath is measured in radius space, where X is halved. The meter of wear takes X
as it is, so that a move counts by its change of diameter. The two lengths are the same for a move
along the spindle axis. For any other move, read over the real numbers, the meter counts more than
the tool has travelled; a facing cut counts twice.

* `Point.diameterDistance`: the length of a move with X as it is;
* `Point.diameterDistance_eq_distance_iff`: when it is the length of the travel;
* `Toolpath.cutLength_append`: what a cut adds to the length of the cuts of a path;
* `WearMeter.counts_diameter`: what the meter gathers, and when it is what was travelled;
* `WearMeter.facing_counts_twice`: a cut for which it is not.
-/

namespace Lathe

/-! ## Two lengths of a move -/

/-- The length of the straight move from `q` to `p`, with X taken as it is. -/
def Point.diameterDistance {α : Type} [Scalar α] (p q : Point α) : α :=
  let dx := p.x - q.x
  let dz := p.z - q.z
  Scalar.sqrt (dx * dx + dz * dz)

/-- This is what the meter counts. -/
theorem WearMeter.distance_eq (previous : Point Float) (m : Machine) :
    WearMeter.distance previous m = m.position.diameterDistance previous := rfl

namespace Point

section Real

variable (p q : Point ℝ)

theorem diameterDistance_nonneg : 0 ≤ p.diameterDistance q :=
  Real.sqrt_nonneg _

theorem mul_self_diameterDistance :
    p.diameterDistance q * p.diameterDistance q =
      (p.x - q.x) * (p.x - q.x) + (p.z - q.z) * (p.z - q.z) :=
  Real.mul_self_sqrt (add_nonneg (mul_self_nonneg _) (mul_self_nonneg _))

/-- The square of the one length is that of the other, and three quarters of the square of the
change of X. -/
theorem mul_self_diameterDistance_eq :
    4 * (p.diameterDistance q * p.diameterDistance q) =
      4 * (p.distance q * p.distance q) + 3 * ((p.x - q.x) * (p.x - q.x)) := by
  rw [mul_self_diameterDistance, mul_self_distance, travel]
  ring

/-- The two lengths are the same exactly if X does not change. -/
theorem diameterDistance_eq_distance_iff : p.diameterDistance q = p.distance q ↔ p.x = q.x := by
  have hdistance : 0 ≤ p.distance q := Real.sqrt_nonneg _
  have hsquares := mul_self_diameterDistance_eq p q
  -- lengths are not negative, so they are the same if their squares are
  rw [← mul_self_inj (diameterDistance_nonneg p q) hdistance]
  constructor
  · intro hsquare
    have hchange : (p.x - q.x) * (p.x - q.x) = 0 := by linarith
    exact sub_eq_zero.mp (mul_self_eq_zero.mp hchange)
  · intro hx
    rw [hx, sub_self, mul_zero, mul_zero, add_zero] at hsquares
    linarith

end Real

/-- In floating point too, the two lengths are the same if X does not change. -/
theorem diameterDistance_eq_distance_of_x_eq {p q : Point Float} (hx : p.x = q.x) :
    p.diameterDistance q = p.distance q := by
  -- half of nothing is nothing, and half of what is not a number is not a number
  have hhalf : (p.x - q.x) / 2.0 = p.x - q.x := by
    rw [hx, Number.sub_self]
    split <;> decide +kernel
  change Float.sqrt _ = Float.sqrt _
  change _ = Float.sqrt ((p.x - q.x) / 2.0 * ((p.x - q.x) / 2.0) + _)
  rw [hhalf]

end Point

/-! ## The length of a path -/

namespace Toolpath

/-- Where a path ends, if it is known. -/
def endOf (start : Option (Point Float)) (path : Toolpath) : Option (Point Float) :=
  (path.getLast?.map (·.nominal)).or start

theorem endOf_cons (start : Option (Point Float)) (p : PathPoint) (rest : Toolpath) :
    endOf start (p :: rest) = endOf (some p.nominal) rest := by
  cases rest with
  | nil => rfl
  | cons q others =>
    obtain ⟨last, hlast⟩ := Option.isSome_iff_exists.mp (List.getLast?_isSome.mpr
      (List.cons_ne_nil q others))
    simp [endOf, List.getLast?_cons_cons, hlast]

variable {p : PathPoint} {q : Point Float} {start : Option (Point Float)} {path : Toolpath}

theorem lengths_append (cut rapid : Float) (hcut : p.isCut = true)
    (hend : endOf start path = some q) :
    lengths cut rapid start (path ++ [p]) =
      ((lengths cut rapid start path).1 + p.nominal.distance q,
        (lengths cut rapid start path).2) := by
  induction path generalizing cut rapid start with
  | nil =>
    obtain rfl : start = some q := by simpa [endOf] using hend
    simp [lengths, hcut]
  | cons first rest ih =>
    rw [endOf_cons] at hend
    cases start with
    | none => exact ih cut rapid hend
    | some origin =>
      rw [List.cons_append, lengths, lengths]
      split
      next => exact ih _ _ hend
      next => exact ih _ _ hend

/-- A cut adds its length, measured in radius space, to the length of the cuts. -/
theorem cutLength_append (hcut : p.isCut = true) (hend : endOf start path = some q) :
    (statistics (path ++ [p]) start).cutLength =
      (statistics path start).cutLength + p.nominal.distance q :=
  congrArg Prod.fst (lengths_append 0.0 0.0 hcut hend)

end Toolpath

/-! ## What is gathered -/

namespace WearMeter

variable {meter : WearMeter} {table : ToolTable} {previous : Point Float} {m : Machine}

/-- What is gathered with a move, whether or not it is written then. -/
def gathered (meter : WearMeter) (table : ToolTable) (previous : Point Float) (m : Machine)
    (material : Material) : Float :=
  let worn := meter.update table previous m material
  match worn.2.2 with
  | some delta => delta.increment
  | none => worn.1.pending

/-- A move that counts adds its length, times the hardness and the rate. -/
theorem gathered_eq (hcounts : (meter.wornTool? table previous m).isSome = true)
    (material : Material) :
    meter.gathered table previous m material =
      meter.pending + distance previous m * material.hardness * meter.rate := by
  obtain ⟨tool, htool⟩ := Option.isSome_iff_exists.mp hcounts
  rw [gathered, update, htool]
  dsimp only
  split_ifs <;> rfl

/-- A move that counts is gathered by its length with X as it is. If X does not change, this is the
length of the travel in radius space, which is also what the move adds to the length of the cuts of
a path. Read over the real numbers, it is so only then. -/
theorem counts_diameter (meter : WearMeter) (table : ToolTable) (previous : Point Float)
    (m : Machine) (material : Material)
    (hcounts : (meter.wornTool? table previous m).isSome = true) :
    meter.gathered table previous m material =
      meter.pending + m.position.diameterDistance previous * material.hardness * meter.rate ∧
    (m.position.x = previous.x →
      m.position.diameterDistance previous = m.position.distance previous) ∧
    (∀ start path p, Toolpath.endOf start path = some previous → p.isCut = true →
      p.nominal = m.position →
      (Toolpath.statistics (path ++ [p]) start).cutLength =
        (Toolpath.statistics path start).cutLength + m.position.distance previous) ∧
    ∀ p q : Point ℝ, p.diameterDistance q = p.distance q ↔ p.x = q.x := by
  refine ⟨gathered_eq hcounts material, Point.diameterDistance_eq_distance_of_x_eq, ?_,
    Point.diameterDistance_eq_distance_iff⟩
  rintro start path p hend hcut hnominal
  rw [← hnominal]
  exact Toolpath.cutLength_append hcut hend

/-- A machine that has just cut with its first tool. -/
def cutAt (position : Point Float) : Machine :=
  { position, spindle := .clockwise, path := [.uncompensated position .cut 1] }

/-- A cut of two millimetres along the spindle axis is gathered by what was travelled. -/
theorem turning_counts_travel :
    let meter : WearMeter := {}
    let table : ToolTable := .ofList [{ id := 1 }]
    let start : Point Float := ⟨40.0, 0.0⟩
    let m := cutAt ⟨40.0, -2.0⟩
    (meter.wornTool? table start m).isSome = true ∧
    meter.gathered table start m .steel = 0.0 + m.position.distance start * 1.0 * 0.2 ∧
    (Toolpath.statistics m.path (some start)).cutLength = 0.0 + m.position.distance start := by
  intro meter table start m
  have hcounts : (meter.wornTool? table start m).isSome = true := by decide +kernel
  obtain ⟨hgathered, hlevel, hmeasured, -⟩ := counts_diameter meter table start m .steel hcounts
  refine ⟨hcounts, ?_, hmeasured (some start) [] _ rfl rfl rfl⟩
  rw [hgathered, hlevel rfl]
  rfl

/-- A facing cut from a diameter of 40 to one of 20 travels ten millimetres, and this is its length
in the path; but it is gathered as if it were twenty. -/
theorem facing_counts_twice :
    let meter : WearMeter := {}
    let table : ToolTable := .ofList [{ id := 1 }]
    let start : Point Float := ⟨40.0, 0.0⟩
    let m := cutAt ⟨20.0, 0.0⟩
    (meter.wornTool? table start m).isSome = true ∧
    (Toolpath.statistics m.path (some start)).cutLength = 10.0 ∧
    m.position.distance start = 10.0 ∧
    meter.gathered table start m .steel = 4.0 ∧
    meter.pending + m.position.distance start * Material.steel.hardness * meter.rate = 2.0 := by
  decide +kernel

end WearMeter

end Lathe
