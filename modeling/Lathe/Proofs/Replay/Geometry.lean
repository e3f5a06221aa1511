import Lathe.Replay.Outcome
import Lathe.Wear

/-!
# Replays and the tool table

Of the tools, a replay reads the length offset and the nose radius, and nothing else. Setting the
wear of a tool changes neither, so the outcomes of replays do not depend on how worn the tools are.

* `ToolTable.SameGeometry` relates tables with the same offsets and radii.
* `ToolTable.sameGeometry_setWear`: setting wear keeps the geometry.
* `ToolTable.WornTo` relates a table to what setting wear makes of it.
* `Setup.replay_congr`: tables of the same geometry give the same replays.
* `Setup.replay_blind_to_wear`: so tables with the same tools do, however worn these are.
-/

namespace Lathe

namespace ToolTable

/-- Two tables with the same tools as far as a replay can tell: every number has the same length
offset, if any, and the same nose radius in both. -/
structure SameGeometry (table other : ToolTable) : Prop where
  lengthOffset : ∀ id, table.lengthOffset id = other.lengthOffset id
  noseRadius : ∀ id, table.noseRadius id = other.noseRadius id

namespace SameGeometry

theorem refl (table : ToolTable) : table.SameGeometry table :=
  ⟨fun _ => rfl, fun _ => rfl⟩

theorem trans {first second third : ToolTable} (h : first.SameGeometry second)
    (h' : second.SameGeometry third) : first.SameGeometry third :=
  ⟨fun id => (h.lengthOffset id).trans (h'.lengthOffset id),
    fun id => (h.noseRadius id).trans (h'.noseRadius id)⟩

end SameGeometry

theorem id_of_get? {table : ToolTable} {number : Int} {tool : Tool}
    (h : table.get? number = some tool) : tool.id = number := by
  simpa [get?] using List.find?_some (h : table.tools.find? _ = some tool)

/-- The tool of a number after the wear of some tool was set. -/
theorem get?_setWear (table : ToolTable) (id : Int) (percent : Float) (number : Int) :
    (table.setWear id percent).get? number =
      (table.get? number).map fun tool =>
        if tool.id = id then { tool with wear := clampWear percent } else tool := by
  unfold setWear
  split
  next =>
    unfold get?
    -- setting wear keeps the numbers of the tools, so the search finds the same one
    rw [List.find?_map]
    congr 2
    funext tool
    simp only [Function.comp_apply]
    split <;> rfl
  next hcontains =>
    -- without a tool of that number the table is left alone, and no tool found has it
    cases hget : table.get? number with
    | none => rfl
    | some tool =>
      have hid : tool.id ≠ id := by
        rintro rfl
        rw [← id_of_get? hget] at hget
        exact hcontains (by simp [contains, hget])
      simp [hid]

/-- Setting the wear of a tool keeps the geometry of the table. -/
theorem sameGeometry_setWear (table : ToolTable) (id : Int) (percent : Float) :
    (table.setWear id percent).SameGeometry table := by
  constructor
  · intro number
    unfold lengthOffset
    rw [get?_setWear, Option.map_map]
    congr 1
    funext tool
    simp only [Function.comp_apply]
    split <;> rfl
  · intro number
    unfold noseRadius
    rw [get?_setWear, Option.map_map]
    congr 2
    funext tool
    simp only [Function.comp_apply]
    split <;> rfl

/-- What there is to know of a table after the wear of some tools was set, any number of times: its
geometry is the same, and a change of the table shows in its revision. -/
structure WornTo (table later : ToolTable) : Prop where
  /-- The tools are the same as far as a replay can tell. -/
  sameGeometry : later.SameGeometry table
  /-- The later table counts more changes, unless there was none. -/
  eq_or_lt : later = table ∨ table.revision < later.revision

namespace WornTo

theorem refl (table : ToolTable) : table.WornTo table :=
  ⟨.refl table, .inl rfl⟩

theorem trans {first second third : ToolTable} (h : first.WornTo second)
    (h' : second.WornTo third) : first.WornTo third := by
  refine ⟨h'.sameGeometry.trans h.sameGeometry, ?_⟩
  -- the count grows in the first part, or in the second, or the table is the same throughout
  rcases h.eq_or_lt with rfl | hlt
  · exact h'.eq_or_lt
  rcases h'.eq_or_lt with rfl | hlt'
  · exact .inr hlt
  · exact .inr (Nat.lt_trans hlt hlt')

theorem setWear (table : ToolTable) (id : Int) (percent : Float) :
    table.WornTo (table.setWear id percent) := by
  refine ⟨sameGeometry_setWear table id percent, ?_⟩
  unfold ToolTable.setWear
  split
  · exact .inr (Nat.lt_succ_self _)
  · exact .inl rfl

/-- Accounting for a move writes wear at most. -/
theorem update (meter : WearMeter) (table : ToolTable) (previous : Point Float) (m : Machine)
    (material : Material) : table.WornTo (meter.update table previous m material).2.1 := by
  unfold WearMeter.update
  split
  next => exact refl table
  next tool _ =>
    dsimp only
    split
    · exact refl table
    · exact setWear table _ _

end WornTo

end ToolTable

variable {table other : ToolTable}

namespace Machine

theorem applyOffset_congr (h : table.SameGeometry other) (adjust : Float → Float) (s : Statement)
    (m : Machine) : m.applyOffset table adjust s = m.applyOffset other adjust s := by
  unfold applyOffset
  simp only [h.lengthOffset]

theorem pathPoint_congr (h : table.SameGeometry other) (s : Statement) (motion : Motion)
    (start : Point Float) (m : Machine) :
    m.pathPoint table s motion start = m.pathPoint other s motion start := by
  unfold pathPoint
  simp only [h.noseRadius]

/-- A statement does the same to the machine for any table of the same geometry: it reads the table
in length offsets and path points only. -/
theorem execute_congr (h : table.SameGeometry other) (setup : Setup) (s : Statement)
    (m : Machine) :
    m.execute { setup with tools := table } s = m.execute { setup with tools := other } s := by
  have hmodal (modal : Modal) (m : Machine) :
      m.applyModal { setup with tools := table } s modal =
        m.applyModal { setup with tools := other } s modal := by
    unfold applyModal
    simp only [applyOffset_congr h]
  have hmove (start : Point Float) (move : Move) (m : Machine) :
      m.applyMove { setup with tools := table } s start move =
        m.applyMove { setup with tools := other } s start move := by
    unfold applyMove
    simp only [pathPoint_congr h]
  unfold execute applyPreparatory
  simp only [hmodal, hmove]

end Machine

namespace Setup

theorem run_congr (h : table.SameGeometry other) (setup : Setup) (count : Nat) (m : Machine)
    (warnings : List Finding) (statements : List Statement) :
    run { setup with tools := table } count m warnings statements =
      run { setup with tools := other } count m warnings statements := by
  induction statements generalizing count m warnings with
  | nil => rfl
  | cons s rest ih =>
    -- which statements are supported does not depend on the tools at all
    have hobjection :
        objection? { setup with tools := table } s = objection? { setup with tools := other } s :=
      rfl
    rw [run, run, hobjection, Machine.execute_congr h]
    simp only [ih]

/-- A replay is the same for any table of the same geometry. -/
theorem replay_congr (h : table.SameGeometry other) (setup : Setup) (program : List Statement)
    (cursor : Int) :
    replay { setup with tools := table } program cursor =
      replay { setup with tools := other } program cursor := by
  unfold replay
  rw [run_congr h]

/-- Let two tables have tools of the same numbers, and let the tools of a number have the same
length offset and the same nose radius. However else they may differ, in their wear, widths, names,
kinds and colours, and however often their wear was set, replays with the one and with the other
table end in the same way: with the same machine and path, signals and remarks, or at the same
obstacle, or in the same fault. -/
theorem replay_blind_to_wear
    (h : ∀ id, (table.get? id).map (fun tool => (tool.lengthOffset, tool.noseRadius)) =
      (other.get? id).map fun tool => (tool.lengthOffset, tool.noseRadius))
    (home : Point Float) (supported : List Code) (negatesOffset : Bool) (program : List Statement)
    (cursor : Int) :
    replay ⟨table, home, supported, negatesOffset⟩ program cursor =
      replay ⟨other, home, supported, negatesOffset⟩ program cursor := by
  have hgeometry : table.SameGeometry other := by
    constructor
    · intro id
      have hoffset := congrArg (Option.map Prod.fst) (h id)
      rwa [Option.map_map, Option.map_map] at hoffset
    · intro id
      have hradius := congrArg (Option.map Prod.snd) (h id)
      rw [Option.map_map, Option.map_map] at hradius
      exact congrArg (·.getD 0.0) hradius
  exact replay_congr hgeometry ⟨table, home, supported, negatesOffset⟩ program cursor

/-- A turret with two tools. -/
def newTurret : ToolTable :=
  .ofList [{ id := 7, noseRadius := 0.8, lengthOffset := 12.5 }, { id := 1, noseRadius := 0.4 }]

/-- The turret after years of use: the tools are worn, and were given other names and inserts. -/
def oldTurret : ToolTable where
  tools := [{ id := 1, name := "rough", width := 3.0, noseRadius := 0.4, wear := 97.5 },
    { id := 7, kind := .grooving, insertColor := "#000000", noseRadius := 0.8,
      lengthOffset := 12.5, wear := 100.0 }]
  revision := 40

/-- A cut with compensation by one tool, after the length offset of the other one was set. -/
def offsetCut : List Statement := [
  { kind := .preparatory, code := some (.whole 43), params := [('H', 7.0)], line := 1,
    raw := "G43 H7", codeText := "43" },
  { kind := .preparatory, code := some (.whole 42), params := [], line := 2, raw := "G42",
    codeText := "42" },
  { kind := .preparatory, code := some (.whole 1), params := [('Z', 0.0)], line := 3,
    raw := "G1 Z0", codeText := "1" }]

/-- The cut is offset by the radius of the first tool, and the offset of the other one is in force,
with both turrets. -/
theorem replay_blind_to_wear_of_turret :
    (∀ id, (newTurret.get? id).map (fun tool => (tool.lengthOffset, tool.noseRadius)) =
      (oldTurret.get? id).map fun tool => (tool.lengthOffset, tool.noseRadius)) ∧
    newTurret ≠ oldTurret ∧
    replay { tools := newTurret } offsetCut 2 = replay { tools := oldTurret } offsetCut 2 ∧
    ((replay { tools := oldTurret } offsetCut 2).toOption.bind Outcome.machine?).map
        (fun m => (m.lengthOffset, m.path.map (·.offset))) =
      some (12.5, [⟨99.2, 0.0⟩]) := by
  have hsame : ∀ id, (newTurret.get? id).map (fun tool => (tool.lengthOffset, tool.noseRadius)) =
      (oldTurret.get? id).map fun tool => (tool.lengthOffset, tool.noseRadius) := by
    intro id
    by_cases hone : id = 1
    · subst hone
      rfl
    by_cases hseven : id = 7
    · subst hseven
      rfl
    · -- no other number has a tool
      simp [newTurret, oldTurret, ToolTable.ofList, ToolTable.insert, ToolTable.get?,
        Ne.symm hone, Ne.symm hseven]
  refine ⟨hsame, by decide, replay_blind_to_wear hsame _ _ _ offsetCut 2, ?_⟩
  decide +kernel

end Setup

end Lathe
