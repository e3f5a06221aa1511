import Lathe.Proofs.Replay.Position
import Mathlib.Data.List.Forall2

/-!
# Compensation and the path

Nose-radius compensation adds something to the points of the path and takes no part in anything
else. It offsets cuts only, and only while it is in force and the tool has a nose radius; what a
point is offset by depends on the point before it as it was commanded, not as it was offset.

* `Machine.cuts_or_moves_execute`: the points that a statement adds to the path, with their offsets;
* `Setup.cut_of_mem_path`: so every cut of a path is one that some statement has made;
* `Machine.SameCourse`, `Setup.exists_run_of_exchanges`: runs over statements that differ in their
  compensation only, with any tools, command the same paths;
* `Setup.compensation_only_decorates`: what that makes of a replay.
-/

namespace Lathe

/-- A point that is not offset. -/
def PathPoint.Plain (p : PathPoint) : Prop :=
  p.offset = p.nominal ∧ p.compensated = false

/-- The preparatory statements that cut. -/
theorem Statement.any_isG_of_cut {s : Statement} (hkind : s.kind = .preparatory)
    (h : Move.ofCode? s.code = some (.to .cut)) : [1, 2, 3, 32, 33].any s.isG = true := by
  unfold Move.ofCode? at h
  split at h
  next n hcode =>
    have hmem : (n, Move.to .cut) ∈ Move.codes := mem_of_lookup_eq_some h
    simpa [Move.codes, isG, hkind, hcode] using hmem
  next => cases h

/-! ## Points and their offsets -/

/-- A tool has no nose that could be offset: its radius is not positive, or there is no such tool.
-/
def ToolTable.Noseless (tools : ToolTable) (id : Int) : Prop :=
  ∀ tool, tools.get? id = some tool → ¬0.0 < tool.noseRadius

/-- A statement takes the machine from `before` to `after` and adds the cut `p` to the path. The cut
ends at the position reached. Without compensation, or with a tool that has no nose, it is plain.
Otherwise it is offset to the side in force by the radius of the active tool, as seen from the last
point of the path as that was commanded, or from the position before if there is none; and it is
marked as compensated unless the offset has changed nothing. -/
structure Machine.Cuts (tools : ToolTable) (before after : Machine) (p : PathPoint) : Prop where
  path_eq : after.path = before.path ++ [p]
  motion_eq : p.motion = .cut
  nominal_eq : p.nominal = after.position
  plain : after.compensation = .off ∨ tools.Noseless after.tool → p.Plain
  offset : ∀ side tool, after.compensation = .on side → tools.get? after.tool = some tool →
    0.0 < tool.noseRadius →
      p.offset = compensate ((before.path.getLast?.map (·.nominal)).getD before.position) p.nominal
        side tool.noseRadius ∧
      (p.compensated = false ↔ p.offset.x == p.nominal.x ∧ p.offset.z == p.nominal.z)

theorem ToolTable.noseRadius_of_get? {tools : ToolTable} {id : Int} {tool : Tool}
    (h : tools.get? id = some tool) : tools.noseRadius id = tool.noseRadius := by
  simp [noseRadius, h]

theorem ToolTable.Noseless.not_lt {tools : ToolTable} {id : Int} (h : tools.Noseless id) :
    ¬0.0 < tools.noseRadius id := by
  cases hget : tools.get? id with
  | none =>
    -- a tool that is not there counts as one with a radius of zero
    simp only [noseRadius, hget, Option.map_none, Option.getD_none]
    decide
  | some tool =>
    rw [noseRadius_of_get? hget]
    exact h tool hget

namespace Machine

variable {setup setup' : Setup} {tools : ToolTable} {s t : Statement}
  {m m' n n' before after : Machine} {remarks : List Finding}

theorem plain_uncompensated (p : Point Float) (motion : Motion) (line : Int) :
    (PathPoint.uncompensated p motion line).Plain :=
  ⟨rfl, rfl⟩

/-- A point that is not offset: that of a rapid move, or of a cut without compensation or nose. -/
theorem plain_pathPoint {motion : Motion} (start : Point Float)
    (h : motion = .rapid ∨ m.compensation = .off ∨ ¬0.0 < tools.noseRadius m.tool) :
    (m.pathPoint tools s motion start).Plain := by
  unfold pathPoint
  dsimp only
  split
  next side hside =>
    -- a cut with compensation in force, so it is the nose that lacks
    have hnose : ¬0.0 < tools.noseRadius m.tool := by simpa [hside] using h
    rw [if_neg hnose]
    exact plain_uncompensated _ _ _
  next => exact plain_uncompensated _ _ _

/-- The point of a cut with compensation in force and a nose to be offset. -/
theorem pathPoint_of_on {side : Side} (start : Point Float) (hside : m.compensation = .on side)
    (hnose : 0.0 < tools.noseRadius m.tool) :
    let offset := compensate ((m.path.getLast?.map (·.nominal)).getD start) m.position side
      (tools.noseRadius m.tool)
    m.pathPoint tools s .cut start =
      { nominal := m.position, motion := .cut, offset,
        compensated := !(offset.x == m.position.x && offset.z == m.position.z),
        line := s.line } := by
  simp only [pathPoint, hside, hnose, ↓reduceIte, PathPoint.uncompensated]

/-- The point of a cut is as it should be, if the machine that makes it has the path of `before` and
passes on to `after` all that the point depends on. -/
theorem cuts_pathPoint (hpath : m.path = before.path)
    (hafter : after.path = m.path ++ [m.pathPoint tools s .cut before.position])
    (hposition : after.position = m.position) (hcompensation : after.compensation = m.compensation)
    (htool : after.tool = m.tool) :
    Cuts tools before after (m.pathPoint tools s .cut before.position) := by
  have hcommanded : (m.pathPoint tools s .cut before.position).commanded = _ :=
    commanded_pathPoint .cut before.position
  simp only [PathPoint.commanded, Prod.mk.injEq] at hcommanded
  obtain ⟨hnominal, hmotion, -⟩ := hcommanded
  refine ⟨hpath ▸ hafter, hmotion, hnominal.trans hposition.symm, ?_, ?_⟩
  · rw [hcompensation, htool]
    rintro (hoff | hnoseless)
    · exact plain_pathPoint _ (.inr (.inl hoff))
    · exact plain_pathPoint _ (.inr (.inr hnoseless.not_lt))
  · rw [hcompensation, htool]
    intro side tool hside hget hradius
    have hradiusEq := ToolTable.noseRadius_of_get? hget
    rw [← hradiusEq] at hradius ⊢
    rw [pathPoint_of_on before.position hside hradius, hpath]
    refine ⟨rfl, ?_⟩
    simp

/-- A preparatory statement makes a cut, or adds rapid moves, which are plain, or nothing. -/
theorem cuts_or_moves_applyPreparatory (hkind : s.kind = .preparatory)
    (h : m.applyPreparatory setup s = .ok (m', remarks)) :
    (∃ added, m'.path = m.path ++ added ∧ ∀ p ∈ added, p.motion = .rapid ∧ p.Plain) ∨
      [1, 2, 3, 32, 33].any s.isG = true ∧ ∃ p, Cuts setup.tools m m' p := by
  obtain ⟨before, hpath, hposition, -, rfl⟩ := exists_of_applyPreparatory h
  cases hmove : Move.ofCode? s.code with
  | none => exact .inl ⟨[], hpath.trans (List.append_nil _).symm, nofun⟩
  | some move =>
    rcases move with (_ | _) | _
    · -- a rapid move to the target
      refine .inl ⟨[(before.applyAxisWords s).pathPoint setup.tools s .rapid before.position],
        by rw [← hpath]; rfl, ?_⟩
      simp only [List.mem_singleton, forall_eq]
      exact ⟨rfl, plain_pathPoint _ (.inl rfl)⟩
    · -- a cut to the target; what is in force for it is still in force afterwards
      refine .inr ⟨Statement.any_isG_of_cut hkind hmove,
        (before.applyAxisWords s).pathPoint setup.tools s .cut m.position, ?_⟩
      rw [hposition]
      exact cuts_pathPoint hpath rfl rfl rfl rfl
    · -- the way home
      refine .inl ⟨_, by rw [← hpath]; rfl, ?_⟩
      simp only [List.mem_cons, List.not_mem_nil, or_false, forall_eq_or_imp, forall_eq]
      exact ⟨⟨rfl, plain_uncompensated _ _ _⟩, rfl, plain_uncompensated _ _ _⟩

/-- A statement makes a cut, or adds rapid moves, which are plain, or nothing. -/
theorem cuts_or_moves_execute (h : m.execute setup s = .ok (m', remarks)) :
    (∃ added, m'.path = m.path ++ added ∧ ∀ p ∈ added, p.motion = .rapid ∧ p.Plain) ∨
      [1, 2, 3, 32, 33].any s.isG = true ∧ ∃ p, Cuts setup.tools m m' p := by
  obtain ⟨hkind, done, hprepared, rfl⟩ | ⟨hkind, htool, rfl⟩ | ⟨hkind, hauxiliary⟩ :=
    execute_cases h
  · -- speed and feed have to do neither with the path nor with what the points depend on
    rcases cuts_or_moves_applyPreparatory hkind hprepared with hmoves | ⟨hcut, p, hp⟩
    · exact .inl hmoves
    · exact .inr ⟨hcut, p, hp.path_eq, hp.motion_eq, hp.nominal_eq, hp.plain, hp.offset⟩
  · obtain ⟨tool, rfl⟩ := exists_eq_of_applyTool htool
    exact .inl ⟨[], (List.append_nil _).symm, nofun⟩
  · obtain ⟨spindle, coolant, rfl⟩ := exists_eq_of_applyAuxiliary hauxiliary
    exact .inl ⟨[], (List.append_nil _).symm, nofun⟩

end Machine

namespace Setup

variable {setup : Setup} {program : List Statement} {m : Machine} {warnings : List Finding}
  {cursor : Int}

/-- The point `p` at a place of a path is a cut that was made by one of the first `count` statements
of a program. The points before it are those of the replay up to the statement before that one. -/
def CutByOneOf (setup : Setup) (program : List Statement) (count : Nat) (path : Toolpath)
    (place : Nat) (p : PathPoint) : Prop :=
  ∃ i s, i < count ∧ program[i]? = some s ∧ [1, 2, 3, 32, 33].any s.isG = true ∧
    (setup.machineAt program (i - 1)).path = path.take place ∧
    Machine.Cuts setup.tools (setup.machineAt program (i - 1)) (setup.machineAt program i) p

/-- Every point of the path of a run is a rapid move, which is plain, or a cut that one of the
statements has made. -/
theorem cut_of_mem_path {count place : Nat} {p : PathPoint} (hcount : count ≤ program.length)
    (h : setup.run 0 (.initial setup.home) [] (program.take count) = .ok (.finish m warnings))
    (hp : m.path[place]? = some p) :
    p.motion = .rapid ∧ p.Plain ∨ setup.CutByOneOf program count m.path place p := by
  induction count generalizing m warnings with
  | zero =>
    cases h
    cases hp
  | succ count ih =>
    have hafter : setup.machineAt program count = m := by
      have hpred := machineAt_pred h
      rwa [Int.natCast_succ, Int.add_sub_cancel] at hpred
    rw [List.take_succ_eq_append_getElem hcount] at h
    obtain ⟨before, remarks, hrun, hlast⟩ := exists_run_of_append_eq_finish h
    obtain ⟨_, hexecute, -⟩ := exists_execute_of_run_singleton hlast
    obtain ⟨added, hpath, -⟩ := Machine.exists_path_execute hexecute
    rcases Nat.lt_or_ge place before.path.length with hplace | hplace
    · -- the point was there before the last statement, so an earlier one has made it
      rw [hpath, List.getElem?_append_left hplace] at hp
      rcases ih (Nat.le_of_lt hcount) hrun hp with hplain | ⟨i, s, hi, hget, hcut, htake, hcuts⟩
      · exact .inl hplain
      · refine .inr ⟨i, s, Nat.lt_succ_of_lt hi, hget, hcut, htake.trans ?_, hcuts⟩
        rw [hpath, List.take_append_of_le_length (Nat.le_of_lt hplace)]
    rcases Machine.cuts_or_moves_execute hexecute with ⟨moves, hmoves, hplain⟩ | ⟨hcut, q, hq⟩
    · -- the point is one of the rapid moves of the last statement
      rw [hmoves, List.getElem?_append_right hplace] at hp
      exact .inl (hplain p (List.mem_of_getElem? hp))
    · -- the point is the cut of the last statement
      rw [hq.path_eq, List.getElem?_append_right hplace] at hp
      obtain rfl : place = before.path.length := by
        have hlt := (List.getElem?_eq_some_iff.mp hp).1
        rw [List.length_singleton] at hlt
        omega
      rw [Nat.sub_self, List.getElem?_cons_zero, Option.some.injEq] at hp
      subst hp
      refine .inr ⟨count, _, Nat.lt_succ_self _, List.getElem?_eq_getElem hcount, hcut, ?_, ?_⟩
      · rw [machineAt_pred hrun, hq.path_eq, List.take_left]
      · rwa [machineAt_pred hrun, hafter]

end Setup

/-! ## Another compensation, other tools -/

/-- `G40`, `G41` or `G42`. -/
def Statement.SetsCompensation (s : Statement) : Prop :=
  [40, 41, 42].any s.isG = true

/-- A statement may stand in for another one: it is the same, or both set the compensation, on one
line and with the same words, and the machine supports all codes that do. -/
def Setup.Exchanges (setup : Setup) (s t : Statement) : Prop :=
  s = t ∨ s.SetsCompensation ∧ t.SetsCompensation ∧ t.params = s.params ∧ t.line = s.line ∧
    ∀ n ∈ [40, 41, 42], .whole n ∈ setup.supported

namespace Machine

/-- Two machines have come the same way: their axes are the same, and their paths as commanded. -/
structure SameCourse (m n : Machine) : Prop where
  axes_eq : n.axes = m.axes
  commanded_eq : n.path.map PathPoint.commanded = m.path.map PathPoint.commanded

variable {setup setup' : Setup} {s t : Statement} {m m' n n' : Machine}
  {remarks remarks' : List Finding}

theorem SameCourse.refl (m : Machine) : m.SameCourse m :=
  ⟨rfl, rfl⟩

theorem position_applyAxisWords_congr (haxes : n.axes = m.axes)
    (hblock : t.axisBlock = s.axisBlock) :
    (n.applyAxisWords t).position = (m.applyAxisWords s).position := by
  have hposition : n.position = m.position := congrArg Axes.position haxes
  have hpositioning : n.positioning = m.positioning := congrArg Axes.positioning haxes
  have hx : t.param 'X' = s.param 'X' := congrArg AxisBlock.x hblock
  have hu : t.param 'U' = s.param 'U' := congrArg AxisBlock.u hblock
  have hz : t.param 'Z' = s.param 'Z' := congrArg AxisBlock.z hblock
  have hw : t.param 'W' = s.param 'W' := congrArg AxisBlock.w hblock
  simp only [applyAxisWords, hposition, hpositioning, hx, hu, hz, hw]

/-- Machines that have come the same way still have after statements that are the same to the axes
and command the same points. -/
theorem SameCourse.execute (hsame : m.SameCourse n) (hhome : setup'.home = setup.home)
    (hblock : t.axisBlock = s.axisBlock)
    (hpoints : ∀ via target, t.points via target = s.points via target)
    (hs : m.execute setup s = .ok (m', remarks)) (ht : n.execute setup' t = .ok (n', remarks')) :
    m'.SameCourse n' := by
  have haxes : n'.axes = m'.axes := by
    rw [axes_execute hs, axes_execute ht, hsame.axes_eq, hblock, hhome]
  refine ⟨haxes, ?_⟩
  obtain ⟨added, hpath, hadded⟩ := exists_path_execute hs
  obtain ⟨added', hpath', hadded'⟩ := exists_path_execute ht
  have hvia := position_applyAxisWords_congr hsame.axes_eq hblock
  have htarget : n'.position = m'.position := congrArg Axes.position haxes
  rw [hpath, hpath', List.map_append, List.map_append, hadded, hadded', hsame.commanded_eq, hpoints,
    hvia, htarget]

end Machine

namespace Statement

variable {s : Statement} {n : Int}

theorem SetsCompensation.exists_code (h : s.SetsCompensation) :
    s.kind = .preparatory ∧ ∃ n ∈ [40, 41, 42], s.code = some (.whole n) := by
  obtain ⟨n, hn, hcode⟩ := List.any_eq_true.mp h
  rw [isG, decide_eq_true_eq] at hcode
  exact ⟨hcode.1, n, hn, hcode.2⟩

/-- A statement that sets the compensation has no other code. -/
theorem SetsCompensation.isG_eq_false (h : s.SetsCompensation) (hn : n ∉ [40, 41, 42]) :
    s.isG n = false := by
  obtain ⟨-, k, hk, hcode⟩ := h.exists_code
  have hne : k ≠ n := fun heq => hn (heq ▸ hk)
  simp [isG, hcode, hne]

theorem SetsCompensation.axisBlock_eq {t : Statement} (hs : s.SetsCompensation)
    (ht : t.SetsCompensation) (hparams : t.params = s.params) : t.axisBlock = s.axisBlock := by
  have hcommand {r : Statement} (hr : r.SetsCompensation) : r.axisBlock.command = .other := by
    simp [axisBlock, hr.isG_eq_false]
  simp only [axisBlock, param, hparams, AxisBlock.mk.injEq, and_self, and_true]
  exact (hcommand ht).trans (hcommand hs).symm

theorem SetsCompensation.points_eq (h : s.SetsCompensation) (via target : Point Float) :
    s.points via target = [] := by
  simp [points, h.isG_eq_false]

end Statement

namespace Setup

variable {setup : Setup} {s t : Statement} {program other statements others : List Statement}
  {m m' n : Machine} {remarks warnings warnings' : List Finding} {cursor : Int}

namespace Exchanges

/-- What stands in for a statement is the same to the axes and commands the same points. -/
theorem axisBlock_eq (h : setup.Exchanges s t) : t.axisBlock = s.axisBlock := by
  rcases h with rfl | ⟨hs, ht, hparams, -⟩
  · rfl
  · exact hs.axisBlock_eq ht hparams

theorem points_eq (h : setup.Exchanges s t) (via target : Point Float) :
    t.points via target = s.points via target := by
  rcases h with rfl | ⟨hs, ht, -⟩
  · rfl
  · rw [hs.points_eq, ht.points_eq]

/-- What stands in for a statement can be executed if that can, whatever the tools. -/
theorem executes (h : setup.Exchanges s t) (tools : ToolTable) (hs : setup.executes s = true) :
    { setup with tools }.executes t = true := by
  obtain ⟨hsupports, hexecutes⟩ := (executes_iff (.initial setup.home)).mp hs
  rw [Machine.exists_execute_iff] at hexecutes
  refine (executes_iff (.initial setup.home)).mpr ⟨?_, Machine.exists_execute_iff.mpr ?_⟩
  · rcases h with rfl | ⟨-, ht, -, -, hcodes⟩
    · exact hsupports
    · obtain ⟨hkind, n, hn, hcode⟩ := ht.exists_code
      simpa [supports, hkind, hcode] using hcodes n hn
  · rcases h with rfl | ⟨-, ht, -⟩
    · -- of the machine, only whether it negates offsets has a part in this
      exact hexecutes
    · obtain ⟨hkind, -⟩ := ht.exists_code
      simp [OffsetOverflows, hkind, ht.isG_eq_false]

end Exchanges

/-- A run over statements that stand in for others, with any tools, finishes if the run over those
does, and comes the same way. -/
theorem exists_run_of_exchanges {count : Nat} (tools : ToolTable)
    (hstatements : List.Forall₂ setup.Exchanges statements others) (hsame : m.SameCourse n)
    (h : setup.run count m warnings statements = .ok (.finish m' warnings'))
    (remarks : List Finding) :
    ∃ n' remarks', { setup with tools }.run count n remarks others = .ok (.finish n' remarks') ∧
      m'.SameCourse n' := by
  induction hstatements generalizing count m n warnings remarks with
  | nil =>
    cases h
    exact ⟨n, remarks, rfl, hsame⟩
  | @cons s t statements others hst _ ih =>
    rw [← List.singleton_append] at h
    obtain ⟨between, _, hfirst, hrest⟩ := exists_run_of_append_eq_finish h
    obtain ⟨_, hexecute, -⟩ := exists_execute_of_run_singleton hfirst
    have hs : setup.executes s = true :=
      exists_run_eq_finish_iff.mp ⟨_, _, hfirst⟩ s (List.mem_singleton_self s)
    -- the two machines may differ in all but their course, so this step has to be shown to exist
    obtain ⟨hsupports, ⟨n', added⟩, ht⟩ := (executes_iff n).mp (hst.executes tools hs)
    have hhome : { setup with tools }.home = setup.home := rfl
    have hnext := hsame.execute hhome hst.axisBlock_eq hst.points_eq hexecute ht
    simp only [run, objection?_eq_none_iff.mpr hsupports, ht]
    exact ih hnext hrest _

/-- If a replay gets to its cursor, then the rapid moves of its path are plain, and its cuts are
offset as they should be: if compensation is in force and the tool has a nose, by its radius and as
seen from the point before as that was commanded; otherwise not at all. And with other tools, or
with another compensation set by any of the statements, a replay gets there as well, and the points
of its path are commanded at the same positions, in the same motions and by the same lines. -/
theorem compensation_only_decorates (h : setup.GetsTo program cursor m) :
    (∀ place p, m.path[place]? = some p →
      (p.motion = .rapid → p.Plain) ∧
      (p.motion = .cut → setup.CutByOneOf program (cursor + 1).toNat m.path place p)) ∧
    ∀ (tools : ToolTable) (other : List Statement), List.Forall₂ setup.Exchanges program other →
      ∃ m', { setup with tools }.GetsTo other cursor m' ∧
        m'.path.map PathPoint.commanded = m.path.map PathPoint.commanded := by
  obtain ⟨warnings, hrun⟩ := getsTo_iff_run.mp h
  constructor
  · intro place p hp
    -- a cursor behind the program counts as its end
    rw [upTo_eq_take, List.take_eq_take_min] at hrun
    rcases cut_of_mem_path (Nat.min_le_right _ _) hrun hp with ⟨hrapid, hplain⟩ | hcut
    · exact ⟨fun _ => hplain, fun hmotion => absurd (hrapid.symm.trans hmotion) nofun⟩
    · obtain ⟨i, s, hi, hget, hcode, htake, hcuts⟩ := hcut
      refine ⟨fun hmotion => absurd (hcuts.motion_eq.symm.trans hmotion) nofun, fun _ => ?_⟩
      exact ⟨i, s, Nat.lt_of_lt_of_le hi (Nat.min_le_left _ _), hget, hcode, htake, hcuts⟩
  · intro tools other hother
    have hupTo : List.Forall₂ setup.Exchanges (upTo program cursor) (upTo other cursor) := by
      rw [upTo_eq_take, upTo_eq_take]
      exact List.forall₂_take _ hother
    obtain ⟨m', remarks, hrun', hsame⟩ :=
      exists_run_of_exchanges tools hupTo (.refl (.initial setup.home)) hrun []
    exact ⟨m', getsTo_iff_run.mpr ⟨remarks, hrun'⟩, hsame.commanded_eq⟩

/-- A statement that sets the compensation. -/
def setCompensation (number : Int) (codeText : String) : Statement :=
  { kind := .preparatory, code := some (.whole number), params := [('Z', 40.0)], line := 1,
    raw := "G" ++ codeText ++ " Z40", codeText }

/-- Cuts before and after a change to a tool without a nose. The first one has no point of the path
before it, and the second one comes after a move that makes no point. -/
def contour : List Statement := [
  { kind := .preparatory, code := some (.whole 1), params := [('Z', -20.0)], line := 2,
    raw := "G1 Z-20", codeText := "1" },
  { kind := .preparatory, code := some (.whole 0), params := [('X', 60.0)], line := 3,
    raw := "G0 X60", codeText := "0" },
  { kind := .miscellaneous, code := some (.whole 8), params := [('W', -1.0)], line := 4,
    raw := "M8 W-1", codeText := "8" },
  { kind := .preparatory, code := some (.whole 1), params := [('X', 50.0)], line := 5,
    raw := "G1 X50", codeText := "1" },
  { kind := .tool, code := some (.whole 202), params := [], line := 6, raw := "T0202",
    codeText := "0202" },
  { kind := .preparatory, code := some (.whole 1), params := [('Z', -30.0)], line := 7,
    raw := "G1 Z-30", codeText := "1" }]

/-- Of the points of the contour, two are offset, and all are commanded at the same places without
compensation and without tools. -/
theorem contour_decorated :
    let lathe := Profile.lathe.setup Profile.lathe.toolTable
    let program := setCompensation 42 "42" :: contour
    let other := setCompensation 40 "40" :: contour
    let m := lathe.machineAt program 9
    lathe.GetsTo program 9 m ∧ m.path.map (·.compensated) = [true, false, true, false] ∧
    (∀ place p, m.path[place]? = some p →
      (p.motion = .rapid → p.Plain) ∧
      (p.motion = .cut → lathe.CutByOneOf program 10 m.path place p)) ∧
    ∃ m', { lathe with tools := .empty }.GetsTo other 9 m' ∧
      m'.path.map PathPoint.commanded =
        [(⟨100.0, -20.0⟩, .cut, 2), (⟨60.0, -20.0⟩, .rapid, 3), (⟨50.0, -21.0⟩, .cut, 5),
          (⟨50.0, -30.0⟩, .cut, 7)] := by
  intro lathe program other m
  have hprogram : lathe.GetsTo program 9 m := ⟨6, [], [], rfl⟩
  have hexchanges : List.Forall₂ lathe.Exchanges program other :=
    .cons (.inr ⟨rfl, rfl, rfl, rfl, by decide +kernel⟩)
      (List.forall₂_same.mpr fun _ _ => .inl rfl)
  obtain ⟨hpoints, hother⟩ := compensation_only_decorates hprogram
  obtain ⟨m', hm', hpath⟩ := hother .empty other hexchanges
  refine ⟨hprogram, by decide +kernel, hpoints, m', hm', hpath.trans ?_⟩
  decide +kernel

end Setup

end Lathe
