import Lathe.Proofs.Replay.Geometry

/-!
# Accounts of wear

The meter and the tool table together keep the account of the wear: what is gathered, and what is
written. An account is changed in two ways only. A reset makes a tool as good as new and forgets
what is gathered; a move charges the tool that is active.

A machine that stands still is not charged, as long as its position consists of numbers. Where it
does not, the distance between the position and itself is not a number either, and the meter takes
it for a move: it writes the tool off.

* `WearAccount.charge_position`: what it means to stand still;
* `WearAccount.same_charge_position_iff`: when it makes no difference;
* `WearAccount.same_renew_charge_position`: a reset and a standstill do the same a second time.
-/

namespace Lathe

/-! ## What is not a number -/

namespace Number

open Float.Model

/-- What a computation gives that has no number for its result. -/
def nan : Float := 0.0 / 0.0

theorem nan_eq : nan = Float.ofModel (pack .notANumber) := by decide +kernel

theorem unpack_nan : nan.toModel.unpack = .notANumber := by
  rw [nan_eq]
  rfl

theorem unpacked_sub_self (format : Format) (u : UnpackedFloat) :
    UnpackedFloat.sub format u u = if u.isFinite then .zero .positive else .notANumber := by
  cases u with
  | notANumber => rfl
  | infinity sign => cases sign <;> rfl
  | zero sign => cases sign <;> rfl
  | finite =>
    unfold UnpackedFloat.sub
    dsimp only
    rw [Int.sub_self]
    rfl

/-- Infinity less infinity is not a number. -/
theorem sub_self (x : Float) : x - x = if x.isFinite then 0.0 else nan := by
  show Float.ofModel (pack (UnpackedFloat.sub _ x.toModel.unpack x.toModel.unpack)) = _
  rw [unpacked_sub_self]
  show _ = if x.toModel.unpack.isFinite then _ else _
  split
  · decide +kernel
  · exact nan_eq.symm

theorem nan_mul (x : Float) : nan * x = nan := by
  show Float.ofModel (pack (UnpackedFloat.mul _ nan.toModel.unpack x.toModel.unpack)) = _
  rw [unpack_nan, nan_eq]
  rfl

theorem add_nan (x : Float) : x + nan = nan := by
  show Float.ofModel (pack (UnpackedFloat.add _ x.toModel.unpack nan.toModel.unpack)) = _
  rw [unpack_nan, nan_eq]
  cases x.toModel.unpack <;> rfl

theorem not_nan_le (x : Float) : ¬nan ≤ x := by
  show ¬(UnpackedFloat.le nan.toModel.unpack x.toModel.unpack = true)
  rw [unpack_nan]
  nofun

end Number

/-- Both coordinates of a point are numbers, and not infinite. -/
def Point.isFinite (p : Point Float) : Bool :=
  p.x.isFinite && p.z.isFinite

/-! ## The wear in the tool table -/

namespace ToolTable

theorem wear_setWear (table : ToolTable) (id : Int) (percent : Float) (number : Int) :
    (table.setWear id percent).wear number =
      if number = id then (table.wear number).map fun _ => clampWear percent
      else table.wear number := by
  unfold wear
  rw [get?_setWear, Option.map_map]
  cases hget : table.get? number with
  | none => simp
  | some tool =>
    rw [← id_of_get? hget]
    split <;> simp_all

theorem wear_resetWear (table : ToolTable) (id number : Int) :
    (table.resetWear id).wear number =
      if number = id then (table.wear number).map fun _ => 0.0 else table.wear number := by
  have hclamp : clampWear 0.0 = 0.0 := by decide +kernel
  rw [resetWear, wear_setWear, hclamp]

end ToolTable

/-- The tool that a move wears is the active one. -/
theorem WearMeter.get?_of_wornTool? {meter : WearMeter} {table : ToolTable}
    {previous : Point Float} {m : Machine} {tool : Tool}
    (h : meter.wornTool? table previous m = some tool) : table.get? m.tool = some tool := by
  unfold wornTool? at h
  split at h
  · cases h
  · exact (Option.filter_eq_some_iff.mp h).1

/-! ## Accounts -/

/-- The account of the wear: the meter, with what is gathered, and the tools, with what is written.
-/
structure WearAccount where
  meter : WearMeter
  tools : ToolTable

namespace WearAccount

variable {a b : WearAccount} {m : Machine} {previous : Point Float}

/-- The account after a tool was made as good as new. -/
def renew (tool : Int) (a : WearAccount) : WearAccount :=
  ⟨a.meter.reset, a.tools.resetWear tool⟩

/-- The account after a move. -/
def charge (previous : Point Float) (m : Machine) (material : Material) (a : WearAccount) :
    WearAccount :=
  let worn := a.meter.update a.tools previous m material
  ⟨worn.1, worn.2.1⟩

/-- Whether a move is charged. -/
def charges (a : WearAccount) (previous : Point Float) (m : Machine) : Bool :=
  (a.meter.wornTool? a.tools previous m).isSome

/-- Two accounts tell the same: as much is gathered, and every tool is as worn. -/
structure Same (a b : WearAccount) : Prop where
  meter_eq : b.meter = a.meter
  wear_eq : ∀ id, b.tools.wear id = a.tools.wear id

theorem Same.refl (a : WearAccount) : a.Same a :=
  ⟨rfl, fun _ => rfl⟩

/-- A move is charged to the active tool, if there is one and it is not worn out yet. -/
theorem charges_eq (a : WearAccount) (previous : Point Float) (m : Machine) :
    a.charges previous m =
      (m.isCutting && !decide (WearMeter.distance previous m ≤ WearMeter.shortestMove) &&
        !decide (a.meter.stockDiameter + 1.0 < m.position.x) &&
        (a.tools.wear m.tool).any fun wear => !decide (100.0 ≤ wear)) := by
  unfold charges WearMeter.wornTool? ToolTable.wear
  cases m.isCutting with
  | false => rfl
  | true =>
    cases a.tools.get? m.tool with
    | none => simp
    | some tool =>
      simp only [Option.map_some, Option.any_some]
      grind

/-- Whether a move is charged can be told from what the account tells. -/
theorem Same.charges_eq (h : a.Same b) (previous : Point Float) (m : Machine) :
    b.charges previous m = a.charges previous m := by
  rw [WearAccount.charges_eq, WearAccount.charges_eq, h.meter_eq, h.wear_eq]

theorem charge_of_charges_eq_false {material : Material} (h : a.charges previous m = false) :
    a.charge previous m material = a := by
  have hnone : a.meter.wornTool? a.tools previous m = none := by
    simpa [charges] using h
  unfold charge WearMeter.update
  rw [hnone]

/-! ## Standing still -/

theorem distance_position (m : Machine) :
    WearMeter.distance m.position m = if m.position.isFinite then 0.0 else Number.nan := by
  unfold WearMeter.distance Point.isFinite
  simp only [Number.sub_self]
  cases m.position.x.isFinite <;> cases m.position.z.isFinite <;> decide +kernel

theorem charges_position_of_isFinite (a : WearAccount) (h : m.position.isFinite = true) :
    a.charges m.position m = false := by
  have hshort : (0.0 : Float) ≤ WearMeter.shortestMove := by decide +kernel
  rw [charges_eq, distance_position, if_pos h]
  simp [hshort]

/-- To stand still where the position is not made of numbers costs the tool. Elsewhere it costs
nothing. -/
theorem charge_position (a : WearAccount) (m : Machine) (material : Material) :
    a.charge m.position m material =
      if a.charges m.position m then
        ⟨a.meter.reset, a.tools.setWear m.tool Number.nan⟩
      else a := by
  split
  next hcharges =>
    obtain ⟨tool, hworn⟩ := Option.isSome_iff_exists.mp hcharges
    have hdistance : WearMeter.distance m.position m = Number.nan := by
      rw [distance_position, if_neg]
      intro hfinite
      exact absurd (a.charges_position_of_isFinite hfinite) (by simp [hcharges])
    have hid : tool.id = m.tool := ToolTable.id_of_get? (WearMeter.get?_of_wornTool? hworn)
    -- what is gathered is not a number, so it is written at once, whatever the threshold
    unfold charge WearMeter.update
    simp only [hworn, hdistance, Number.nan_mul, Number.add_nan, Number.not_nan_le, ↓reduceIte, hid]
  next hcharges => exact charge_of_charges_eq_false (Bool.eq_false_iff.mpr hcharges)

theorem wear_setWear_nan (table : ToolTable) (id number : Int) :
    (table.setWear id Number.nan).wear number =
      if number = id then (table.wear number).map fun _ => 100.0 else table.wear number := by
  have hclamp : clampWear Number.nan = 100.0 := by decide +kernel
  rw [ToolTable.wear_setWear, hclamp]

/-- A tool that was written off is not charged again. -/
theorem charges_charge_position (a : WearAccount) (m : Machine) (material : Material) :
    (a.charge m.position m material).charges m.position m = false := by
  rw [charge_position]
  split
  next =>
    have hworn : (100.0 : Float) ≤ 100.0 := by decide +kernel
    rw [charges_eq, wear_setWear_nan, if_pos rfl]
    cases a.tools.wear m.tool <;> simp [hworn]
  next hcharges => exact Bool.eq_false_iff.mpr hcharges

/-- To stand still makes no difference exactly if it is not charged. -/
theorem same_charge_position_iff {material : Material} :
    a.Same (a.charge m.position m material) ↔ a.charges m.position m = false := by
  constructor
  · intro hsame
    rw [← hsame.charges_eq, charges_charge_position]
  · intro hcharges
    rw [charge_of_charges_eq_false hcharges]
    exact .refl a

theorem Same.charge_position (h : a.Same b) (m : Machine) (material : Material) :
    (a.charge m.position m material).Same (b.charge m.position m material) := by
  rw [WearAccount.charge_position, WearAccount.charge_position, h.charges_eq]
  split
  · refine ⟨?_, fun id => ?_⟩
    · rw [h.meter_eq]
    · rw [wear_setWear_nan, wear_setWear_nan, h.wear_eq]
  · exact h

/-- A reset undoes what a standstill has cost the active tool. -/
theorem same_renew_of_charge_position (a : WearAccount) (m : Machine) (material : Material) :
    (a.renew m.tool).Same (((a.renew m.tool).charge m.position m material).renew m.tool) := by
  rw [charge_position]
  split
  all_goals
    refine ⟨rfl, fun id => ?_⟩
    simp only [renew, ToolTable.wear_resetWear, wear_setWear_nan]
    by_cases hid : id = m.tool <;> simp [hid, Function.comp_def]

/-- A reset and a standstill do the same a second time. -/
theorem same_renew_charge_position (a : WearAccount) (m : Machine) (material : Material) :
    let once := (a.renew m.tool).charge m.position m material
    once.Same ((once.renew m.tool).charge m.position m material) :=
  (same_renew_of_charge_position a m material).charge_position m material

/-- A reset makes no difference exactly if nothing is gathered and the tool is not worn. -/
theorem same_renew_iff {tool : Int} :
    a.Same (a.renew tool) ↔
      a.meter.pending = 0.0 ∧ ∀ wear, a.tools.wear tool = some wear → wear = 0.0 := by
  constructor
  · intro hsame
    refine ⟨(congrArg WearMeter.pending hsame.meter_eq).symm, fun wear hwear => ?_⟩
    have hrenewed := hsame.wear_eq tool
    rw [renew, ToolTable.wear_resetWear, if_pos rfl, hwear] at hrenewed
    simpa using hrenewed.symm
  · rintro ⟨hpending, hwear⟩
    refine ⟨?_, fun id => ?_⟩
    · show { a.meter with pending := 0.0 } = a.meter
      rw [← hpending]
    · rw [renew, ToolTable.wear_resetWear]
      split
      next hid =>
        rw [hid]
        cases hget : a.tools.wear tool with
        | none => rfl
        | some wear => rw [Option.map_some, hwear wear hget]
      next => rfl

end WearAccount

end Lathe
