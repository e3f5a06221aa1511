import Lathe.Proofs.Fault

/-!
# The position of a replay

Where the tool is does not depend on most of what a program says. `Axes` is a machine that has two
axes and nothing else. Of a statement it sees an `AxisBlock`: whether it is `G90`, `G91` or `G28`,
and the numbers that it gives for the letters of the axes.

* `Machine.axes_execute`: a statement moves the axes of the machine as it moves the two axes alone;
* `Machine.axes_run`: so does a run;
* `Setup.exists_getsTo_iff`: whether a replay gets to its cursor is decided by its statements one by
  one, whatever they do to the machine;
* `Setup.position_by_axes_alone`: the position of a replay is that of the two axes, so programs with
  the same blocks get to the same positions.
-/

namespace Lathe

/-! ## Two axes -/

/-- What a code tells the axes. -/
inductive AxisCommand where
  /-- To take coordinates for positions from now on, `G90`. -/
  | absolute
  /-- To take coordinates for distances from now on, `G91`. -/
  | incremental
  /-- To go to the reference point, `G28`. -/
  | home
  /-- Nothing that the axes know of. -/
  | other
deriving DecidableEq, Repr

/-- All that the axes see of a statement. -/
structure AxisBlock where
  /-- What its code tells them. -/
  command : AxisCommand
  /-- The coordinate for X. -/
  x : Option Float
  /-- The distance along X. -/
  u : Option Float
  /-- The coordinate for Z. -/
  z : Option Float
  /-- The distance along Z. -/
  w : Option Float
deriving DecidableEq, Repr

namespace AxisBlock

/-- Whether the block has a word for X. -/
def namesX (block : AxisBlock) : Bool :=
  block.x.isSome || block.u.isSome

/-- Whether the block has a word for Z. -/
def namesZ (block : AxisBlock) : Bool :=
  block.z.isSome || block.w.isSome

end AxisBlock

/-- What the axes see of a statement. -/
def Statement.axisBlock (s : Statement) : AxisBlock where
  command :=
    if s.isG 90 then .absolute
    else if s.isG 91 then .incremental
    else if s.isG 28 then .home
    else .other
  x := s.param 'X'
  u := s.param 'U'
  z := s.param 'Z'
  w := s.param 'W'

/-- Two axes: where they stand, and what coordinates mean to them. -/
structure Axes where
  position : Point Float
  positioning : Positioning
deriving DecidableEq, Repr

namespace Axes

/-- The axes before any statement: at home, and coordinates are positions. -/
def atHome (home : Point Float) : Axes :=
  ⟨home, .absolute⟩

/-- Where an axis gets to from `v`: first to its coordinate, or by as much, then by a distance. -/
def reach (positioning : Positioning) (coordinate distance : Option Float) (v : Float) : Float :=
  let v := match positioning with
    | .absolute => coordinate.getD v
    | .incremental => (coordinate.map (v + ·)).getD v
  (distance.map (v + ·)).getD v

/-- What coordinates mean from a block on. -/
def told (axes : Axes) (block : AxisBlock) : Positioning :=
  match block.command with
  | .absolute => .absolute
  | .incremental => .incremental
  | .home | .other => axes.positioning

/-- Where the words of a block lead. -/
def via (axes : Axes) (block : AxisBlock) : Point Float where
  x := reach (axes.told block) block.x block.u axes.position.x
  z := reach (axes.told block) block.z block.w axes.position.z

/-- The axes after a block. On the way home, an axis that is not named stays where it is, unless
none is named. -/
def step (home : Point Float) (axes : Axes) (block : AxisBlock) : Axes where
  position :=
    let p := axes.via block
    if block.command = .home then
      { x := if block.namesX || !block.namesZ then home.x else p.x
        z := if block.namesZ || !block.namesX then home.z else p.z }
    else p
  positioning := axes.told block

/-- The axes after some blocks. -/
def after (home : Point Float) (blocks : List AxisBlock) : Axes :=
  blocks.foldl (step home) (atHome home)

theorem step_of_ne_home {home : Point Float} {axes : Axes} {block : AxisBlock}
    (h : block.command ≠ .home) : axes.step home block = ⟨axes.via block, axes.told block⟩ := by
  simp [step, h]

end Axes

namespace Statement

variable {s : Statement}

/-- Of all statements, only `G28` sends the axes home. -/
theorem command_axisBlock_eq_home_iff : s.axisBlock.command = .home ↔ s.isG 28 = true := by
  unfold axisBlock isG
  by_cases hkind : s.kind = .preparatory <;> cases hcode : s.code <;> grind

/-- What coordinates mean after a statement: what `G90` and `G91` say. -/
theorem told_axisBlock (axes : Axes) :
    axes.told s.axisBlock =
      (s.byG [(90, Positioning.absolute), (91, .incremental)]).getD axes.positioning := by
  unfold Axes.told axisBlock byG
  cases h90 : s.isG 90 with
  | true => simp [h90]
  | false =>
    cases h91 : s.isG 91 with
    | true => simp [h90, h91]
    | false =>
      -- whether it is `G28` or any other statement, it says nothing about coordinates
      cases s.isG 28 <;> simp [h90, h91]

/-- A cycle is to the axes what it is without its code. -/
theorem axisBlock_eq_of_cycle {bare : Statement}
    (hcycle : [70, 71, 72, 73, 74, 75, 76].any s.isG = true) (hcode : bare.code = none)
    (hparams : bare.params = s.params) : bare.axisBlock = s.axisBlock := by
  have hbare (n : Int) : bare.isG n = false := by simp [isG, hcode]
  have hother : s.isG 90 = false ∧ s.isG 91 = false ∧ s.isG 28 = false := by
    simp only [isG, List.any_cons, List.any_nil] at hcycle ⊢
    grind
  obtain ⟨h90, h91, h28⟩ := hother
  simp only [axisBlock, hbare, h90, h91, h28, param, hparams]

end Statement

/-! ## The axes of the machine -/

theorem Move.ofCode?_eq_home_iff {code : Option Code} :
    ofCode? code = some .home ↔ code = some (.whole 28) := by
  constructor
  · intro h
    unfold ofCode? at h
    split at h
    next n =>
      have hmem : (n, Move.home) ∈ codes := mem_of_lookup_eq_some h
      simpa [codes] using hmem
    next => cases h
  · rintro rfl
    rfl

namespace Machine

variable {setup : Setup} {s : Statement} {m m' : Machine} {remarks : List Finding}

/-- The axes of the machine. -/
def axes (m : Machine) : Axes :=
  ⟨m.position, m.positioning⟩

theorem moveAxis_eq_reach (positioning : Positioning) (given shift : Option Float) (v : Float) :
    moveAxis positioning given shift v = Axes.reach positioning given shift v := by
  cases positioning <;> cases given <;> cases shift <;> rfl

/-- Where the axis words of a statement lead, once its code has said what coordinates mean. -/
theorem position_applyAxisWords_eq_via {axes : Axes} (hposition : m.position = axes.position)
    (hpositioning : m.positioning = axes.told s.axisBlock) :
    (m.applyAxisWords s).position = axes.via s.axisBlock := by
  unfold applyAxisWords Axes.via
  rw [hposition, hpositioning, moveAxis_eq_reach, moveAxis_eq_reach]
  rfl

/-- A preparatory statement moves the axes as they move alone: its mode is set before its words are
applied, and its code takes them home, or not, afterwards. -/
theorem axes_applyPreparatory (hkind : s.kind = .preparatory)
    (h : m.applyPreparatory setup s = .ok (m', remarks)) :
    m'.axes = m.axes.step setup.home s.axisBlock := by
  have htold : m'.positioning = m.axes.told s.axisBlock := by
    refine (Register.read_applyPreparatory h .positioning).trans ?_
    rw [Modal.ofCode?_bind_eq_byG hkind (Register.positioning.ofModal setup s ·)]
    exact (Statement.told_axisBlock m.axes).symm
  have hhome : s.axisBlock.command = .home ↔ Move.ofCode? s.code = some .home := by
    rw [Move.ofCode?_eq_home_iff, Statement.command_axisBlock_eq_home_iff]
    simp [Statement.isG, hkind]
  obtain ⟨before, -, hposition, -, rfl⟩ := exists_of_applyPreparatory h
  -- no move changes what coordinates mean
  have hbefore : before.positioning = m.axes.told s.axisBlock := by
    rw [← htold]
    split
    next move _ => cases move <;> rfl
    next => rfl
  have hvia := position_applyAxisWords_eq_via hposition hbefore
  -- only the last of the three, the way home, goes on from where the words lead
  rcases hmove : Move.ofCode? s.code with _ | motion | _
  · rw [Axes.step_of_ne_home (by simp [hhome, hmove]), ← hvia, ← hbefore]
    rfl
  · rw [Axes.step_of_ne_home (by simp [hhome, hmove]), ← hvia, ← hbefore]
    rfl
  · unfold Axes.step
    rw [← hvia, ← hbefore, if_pos (hhome.mpr hmove)]
    rfl

/-- A statement that is not preparatory has axis words and nothing else to move the axes. -/
theorem axes_applyAxisWords (hkind : s.kind ≠ .preparatory) (home : Point Float) :
    (m.applyAxisWords s).axes = m.axes.step home s.axisBlock := by
  have hisG := Statement.isG_of_kind_ne hkind
  have htold : m.positioning = m.axes.told s.axisBlock := by
    rw [Statement.told_axisBlock, Statement.byG_eq_none hisG]
    rfl
  have hhome : s.axisBlock.command ≠ .home := by
    simp [Statement.command_axisBlock_eq_home_iff, hisG]
  rw [Axes.step_of_ne_home hhome, ← position_applyAxisWords_eq_via rfl htold, ← htold]
  rfl

/-- A statement moves the axes of the machine as it moves the two axes alone. -/
theorem axes_execute (h : m.execute setup s = .ok (m', remarks)) :
    m'.axes = m.axes.step setup.home s.axisBlock := by
  -- neither the line, nor speed and feed, nor what is left to the other kinds moves the axes
  obtain ⟨hkind, done, hprepared, rfl⟩ | ⟨hkind, htool, rfl⟩ | ⟨hkind, hauxiliary⟩ :=
    execute_cases h
  · exact (axes_applyPreparatory hkind hprepared :)
  · obtain ⟨tool, rfl⟩ := exists_eq_of_applyTool htool
    exact axes_applyAxisWords (hkind ▸ nofun) setup.home
  · obtain ⟨spindle, coolant, rfl⟩ := exists_eq_of_applyAuxiliary hauxiliary
    exact axes_applyAxisWords (hkind ▸ nofun) setup.home

/-- A run moves the axes of the machine as it moves the two axes alone. -/
theorem axes_run {count : Nat} {warnings warnings' : List Finding} {statements : List Statement}
    (h : setup.run count m warnings statements = .ok (.finish m' warnings')) :
    m'.axes = (statements.map Statement.axisBlock).foldl (Axes.step setup.home) m.axes := by
  -- the run may start from any machine, as it goes on from where the first statement leads
  induction statements generalizing count m warnings with
  | nil =>
    cases h
    rfl
  | cons s rest ih =>
    rw [← List.singleton_append] at h
    obtain ⟨between, remarks, hfirst, hrest⟩ := Setup.exists_run_of_append_eq_finish h
    obtain ⟨added, hexecute, -⟩ := Setup.exists_execute_of_run_singleton hfirst
    rw [ih hrest, axes_execute hexecute]
    rfl

end Machine

namespace Setup

variable {setup : Setup} {program : List Statement} {cursor : Int} {m : Machine}

/-! ## Replays -/

/-- The replay up to a cursor gets there, and the machine is `m` then. -/
def GetsTo (setup : Setup) (program : List Statement) (cursor : Int) (m : Machine) : Prop :=
  ∃ index signals warnings, setup.replay program cursor = .ok (.done index m signals warnings)

/-- A replay gets to its cursor exactly if the run over the statements up to there finishes. -/
theorem getsTo_iff_run :
    setup.GetsTo program cursor m ↔
      ∃ warnings, setup.run 0 (.initial setup.home) [] (upTo program cursor) =
        .ok (.finish m warnings) := by
  constructor
  · rintro ⟨index, signals, warnings, h⟩
    exact ⟨warnings, run_of_replay_eq_done h⟩
  · rintro ⟨warnings, h⟩
    obtain ⟨signals, hdone⟩ := replay_eq_done_of_run h
    exact ⟨_, signals, warnings, hdone⟩

/-- A preparatory statement without a code can be executed on every machine. -/
theorem executes_of_code_eq_none {s : Statement} (hkind : s.kind = .preparatory)
    (hcode : s.code = none) : setup.executes s = true := by
  have hsupports : setup.supports s = true := by simp [supports, hkind, hcode]
  have hfits : ¬setup.OffsetOverflows s := by simp [OffsetOverflows, Statement.isG, hcode]
  refine (executes_iff (.initial setup.home)).mpr ⟨hsupports, ?_⟩
  exact Machine.exists_execute_iff.mpr ⟨hfits, by simp [hkind]⟩

/-- A replay gets to its cursor exactly if each statement up to there can be executed. -/
theorem exists_getsTo_iff :
    (∃ m, setup.GetsTo program cursor m) ↔
      ∀ s ∈ upTo program cursor, setup.executes s = true := by
  simp only [getsTo_iff_run]
  exact exists_run_eq_finish_iff

theorem GetsTo.axes_eq (h : setup.GetsTo program cursor m) :
    m.axes = Axes.after setup.home ((upTo program cursor).map Statement.axisBlock) := by
  obtain ⟨warnings, hrun⟩ := getsTo_iff_run.mp h
  exact Machine.axes_run hrun

/-- The position of a replay depends on nothing but the blocks of the statements and the reference
point. -/
theorem GetsTo.position_eq {setup' : Setup} {program' : List Statement} {m' : Machine}
    (h : setup.GetsTo program cursor m) (h' : setup'.GetsTo program' cursor m')
    (hhome : setup'.home = setup.home)
    (hblocks : program'.map Statement.axisBlock = program.map Statement.axisBlock) :
    m'.position = m.position := by
  have hupTo : (upTo program' cursor).map Statement.axisBlock =
      (upTo program cursor).map Statement.axisBlock := by
    rw [upTo_eq_take, upTo_eq_take, List.map_take, List.map_take, hblocks]
  have haxes : m'.axes = m.axes := by
    rw [h.axes_eq, h'.axes_eq, hupTo, hhome]
  exact congrArg Axes.position haxes

/-- If a replay gets to its cursor, then its position is that of two axes which start at home, take
coordinates for positions, and see nothing of the statements but their blocks. So a replay of any
other program with the same blocks, on a machine with any other tools and codes and the same
reference point, gets to the same position if it gets to the cursor. In particular, a cycle without
its code, which always can be executed, leads to where it leads with its code. -/
theorem position_by_axes_alone (h : setup.GetsTo program cursor m) :
    m.position =
      (Axes.after setup.home ((upTo program cursor).map Statement.axisBlock)).position ∧
    (∀ (setup' : Setup) (program' : List Statement) (m' : Machine), setup'.home = setup.home →
      program'.map Statement.axisBlock = program.map Statement.axisBlock →
      setup'.GetsTo program' cursor m' → m'.position = m.position) ∧
    ∀ (i : Nat) (cycle bare : Statement), program[i]? = some cycle →
      [70, 71, 72, 73, 74, 75, 76].any cycle.isG = true →
      bare.kind = .preparatory → bare.code = none → bare.params = cycle.params →
      ∃ m', setup.GetsTo (program.set i bare) cursor m' ∧ m'.position = m.position := by
  refine ⟨congrArg Axes.position h.axes_eq, fun setup' program' m' hhome hblocks h' =>
    h.position_eq h' hhome hblocks, fun i cycle bare hget hcycle hkind hcode hparams => ?_⟩
  have hblock : bare.axisBlock = cycle.axisBlock :=
    Statement.axisBlock_eq_of_cycle hcycle hcode hparams
  have hblocks : (program.set i bare).map Statement.axisBlock =
      program.map Statement.axisBlock := by
    obtain ⟨hi, rfl⟩ := List.getElem?_eq_some_iff.mp hget
    rw [List.map_set, hblock, ← List.getElem_map Statement.axisBlock, List.set_getElem_self]
    simpa using hi
  -- a statement without a code has none that the machine could fail to support
  have hexecutes : ∀ s ∈ upTo (program.set i bare) cursor, setup.executes s = true := by
    intro s hs
    rw [upTo_eq_take, List.take_set, ← upTo_eq_take] at hs
    rcases List.mem_or_eq_of_mem_set hs with hmem | rfl
    · exact exists_getsTo_iff.mp ⟨m, h⟩ s hmem
    · exact executes_of_code_eq_none hkind hcode
  obtain ⟨m', h'⟩ := exists_getsTo_iff.mpr hexecutes
  exact ⟨m', h', h.position_eq h' rfl hblocks⟩

/-- A program that moves the axes in many ways: by a rapid move, by distances, along with a
miscellaneous code, in a cycle, and home. -/
def roughing : List Statement := [
  { kind := .preparatory, code := some (.whole 0), params := [('X', 60.0), ('Z', 2.0)], line := 1,
    raw := "G0 X60 Z2", codeText := "0" },
  { kind := .preparatory, code := some (.whole 91), params := [('Z', -4.0)], line := 2,
    raw := "G91 Z-4", codeText := "91" },
  { kind := .miscellaneous, code := some (.whole 8), params := [('U', 1.0)], line := 3,
    raw := "M8 U1", codeText := "8" },
  { kind := .preparatory, code := some (.whole 71), params := [('P', 70.0), ('U', 0.5)], line := 4,
    raw := "G71 P70 U0.5", codeText := "71" },
  { kind := .preparatory, code := some (.whole 28), params := [('W', 3.0)], line := 5,
    raw := "G28 W3", codeText := "28" }]

/-- A program with the same blocks and other codes: it cuts where the other one does not, and
changes the tool. -/
def retooled : List Statement := [
  { kind := .preparatory, code := some (.whole 1), params := [('Z', 2.0), ('X', 60.0)], line := 1,
    raw := "G1 Z2 X60", codeText := "1" },
  { kind := .preparatory, code := some (.whole 91), params := [('Z', -4.0)], line := 2,
    raw := "G91 Z-4", codeText := "91" },
  { kind := .tool, code := some (.whole 303), params := [('U', 1.0)], line := 3,
    raw := "T0303 U1", codeText := "0303" },
  { kind := .preparatory, code := some (.whole 42), params := [('U', 0.5), ('S', 9.0)], line := 3,
    raw := "G42 U0.5 S9", codeText := "42" },
  { kind := .preparatory, code := some (.whole 28), params := [('W', 3.0)], line := 4,
    raw := "G28 W3", codeText := "28" }]

/-- The cycle of the first program without its code. -/
def bareCycle : Statement :=
  { kind := .preparatory, code := none, params := [('P', 70.0), ('U', 0.5)], line := 4,
    raw := "P70 U0.5", codeText := "" }

/-- Both programs, and the first one with its cycle written without a code, end at home in Z and at
the same place in X. -/
theorem position_of_roughing :
    let lathe := Profile.lathe.setup Profile.lathe.toolTable
    (∃ m, ({} : Setup).GetsTo roughing 4 m ∧ m.position = ⟨61.5, 50.0⟩) ∧
    (∃ m, lathe.GetsTo retooled 4 m ∧ m.position = ⟨61.5, 50.0⟩) ∧
    ∃ m, ({} : Setup).GetsTo (roughing.set 3 bareCycle) 4 m ∧ m.position = ⟨61.5, 50.0⟩ := by
  intro lathe
  have hroughing : ({} : Setup).GetsTo roughing 4 (({} : Setup).machineAt roughing 4) :=
    ⟨4, [], [], rfl⟩
  have hretooled : lathe.GetsTo retooled 4 (lathe.machineAt retooled 4) := ⟨4, [], [], rfl⟩
  obtain ⟨hposition, hsame, hcycle⟩ := position_by_axes_alone hroughing
  have haxes : (({} : Setup).machineAt roughing 4).position = ⟨61.5, 50.0⟩ := by
    rw [hposition]
    decide +kernel
  have hother := hsame lathe retooled _ rfl (by decide +kernel) hretooled
  obtain ⟨m, hbare, hcycle⟩ := hcycle 3 _ bareCycle rfl rfl rfl rfl rfl
  exact ⟨⟨_, hroughing, haxes⟩, ⟨_, hretooled, hother.trans haxes⟩, m, hbare, hcycle.trans haxes⟩

end Setup

end Lathe
