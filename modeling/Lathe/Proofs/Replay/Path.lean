import Lathe.Proofs.Replay.Cursor

/-!
# The path of a replay

The path of a replay is nothing but the points that its statements command, one statement after the
other. `Statement.points` says which points these are: none, one or two, all with the line of the
statement, and where they are is told by the replays up to the statement and up to the one before.

* `Machine.execute_cases`: what a statement can do to the machine;
* `Machine.exists_path_execute`: a statement adds its points to the path, and nothing else;
* `Setup.path_of_run`: so a run makes the path of the points of its statements;
* `Setup.path_grows_by_points`: the paths and the remarks of replays to later cursors extend those
  of replays to earlier ones, and every path consists of the points of its statements.
-/

namespace Lathe

/-- A path point as it was commanded: where it is, how the tool gets there, and the line that says
so. The offset of the nose is no part of it. -/
def PathPoint.commanded (p : PathPoint) : Point Float × Motion × Int :=
  (p.nominal, p.motion, p.line)

/-- The points that a statement commands, if its axis words lead to `via` and the whole statement to
`target`: a rapid point for `G0`, a cut for `G1` to `G3`, `G32` and `G33`, and two rapid points for
`G28`, which goes through the one to the other. -/
def Statement.points (s : Statement) (via target : Point Float) :
    List (Point Float × Motion × Int) :=
  if s.isG 0 then [(target, .rapid, s.line)]
  else if [1, 2, 3, 32, 33].any s.isG then [(target, .cut, s.line)]
  else if s.isG 28 then [(via, .rapid, s.line), (target, .rapid, s.line)]
  else []

namespace Statement

variable {s : Statement} {via target : Point Float}

theorem points_eq_nil (h : s.kind ≠ .preparatory) : s.points via target = [] := by
  simp [points, isG, h]

/-- The points of a preparatory statement are those of the move that its code makes. -/
theorem points_eq_of_preparatory (h : s.kind = .preparatory) :
    s.points via target =
      match Move.ofCode? s.code with
      | some (.to motion) => [(target, motion, s.line)]
      | some .home => [(via, .rapid, s.line), (target, .rapid, s.line)]
      | none => [] := by
  unfold points isG Move.ofCode? Move.codes
  cases hcode : s.code with
  | none => simp
  | some code =>
    cases code with
    | fraction x => simp
    | whole n =>
      by_cases hmoves : n ∈ [0, 1, 2, 3, 32, 33, 28]
      · -- each of the codes that move the tool
        simp only [List.mem_cons, List.not_mem_nil, or_false] at hmoves
        rcases hmoves with rfl | rfl | rfl | rfl | rfl | rfl | rfl <;> simp [h, List.lookup_cons]
      · -- no other code moves it
        have hlookup : List.lookup n Move.codes = none := by
          rw [List.lookup_eq_none_iff]
          simpa [Move.codes] using hmoves
        unfold Move.codes at hlookup
        simp only [List.mem_cons, List.not_mem_nil, or_false, not_or] at hmoves
        simp [h, hlookup, hmoves]

end Statement

/-- A code that takes the tool home sets no mode before. -/
theorem Modal.ofCode?_eq_none_of_home {code : Option Code} (h : Move.ofCode? code = some .home) :
    Modal.ofCode? code = none := by
  cases code with
  | none => rfl
  | some code =>
    cases code with
    | fraction x => rfl
    | whole n =>
      have hmem : (n, Move.home) ∈ Move.codes := mem_of_lookup_eq_some h
      have hn : n = 28 := by simpa [Move.codes] using hmem
      rw [hn]
      rfl

namespace Machine

variable {setup : Setup} {tools : ToolTable} {s : Statement} {m m' : Machine}
  {remarks : List Finding}

/-! ## One statement -/

/-- All that a statement can do to the machine, by its kind. Its line is taken down first. -/
theorem execute_cases (h : m.execute setup s = .ok (m', remarks)) :
    let noted := { m with line := s.line }
    (s.kind = .preparatory ∧
      ∃ done, noted.applyPreparatory setup s = .ok (done, remarks) ∧ m' = done.applyRates s) ∨
    (s.kind = .tool ∧
      ((noted.applyAxisWords s).applyRates s).applyTool s = .ok m' ∧ remarks = []) ∨
    (s.kind = .miscellaneous ∧
      ((noted.applyAxisWords s).applyRates s).applyAuxiliary s = (m', remarks)) := by
  intro noted
  unfold execute at h
  cases hkind : s.kind with
  | preparatory =>
    simp only [hkind] at h
    cases hprepared : noted.applyPreparatory setup s with
    | error fault => simp [noted, hprepared, Except.map] at h
    | ok done =>
      rw [hprepared] at h
      cases h
      exact .inl ⟨rfl, done.1, rfl, rfl⟩
  | tool =>
    simp only [hkind] at h
    cases htool : ((noted.applyAxisWords s).applyRates s).applyTool s with
    | error fault => simp [noted, htool, Except.map] at h
    | ok changed =>
      rw [htool] at h
      cases h
      exact .inr (.inl ⟨rfl, rfl, rfl⟩)
  | miscellaneous =>
    simp only [hkind] at h
    exact .inr (.inr ⟨rfl, Except.ok.inj h⟩)

/-- The point of a move is commanded at the position reached, whether or not it is offset. -/
theorem commanded_pathPoint (motion : Motion) (start : Point Float) :
    (m.pathPoint tools s motion start).commanded = (m.position, motion, (s.line : Int)) := by
  unfold pathPoint PathPoint.commanded
  split
  · dsimp only
    split <;> rfl
  · rfl

theorem applyOffset_frame {adjust : Float → Float}
    (h : m.applyOffset tools adjust s = .ok (m', remarks)) :
    m'.path = m.path ∧ m'.position = m.position := by
  unfold applyOffset at h
  split at h
  next => cases h
  next => cases h; exact ⟨rfl, rfl⟩
  next id _ =>
    split at h <;> cases h <;> exact ⟨rfl, rfl⟩

/-- Setting a mode does not move the tool. -/
theorem applyModal_frame {modal : Modal} (h : m.applyModal setup s modal = .ok (m', remarks)) :
    m'.path = m.path ∧ m'.position = m.position := by
  cases modal with
  | lengthOffset => exact applyOffset_frame h
  | negatedOffset =>
    rw [applyModal] at h
    split at h
    · exact applyOffset_frame h
    · cases h; exact ⟨rfl, rfl⟩
  | spindleLimit =>
    cases h
    cases s.param 'S' <;> exact ⟨rfl, rfl⟩
  | units | compensation | cancelOffset | positioning | spindleMode | cycle =>
    cases h
    exact ⟨rfl, rfl⟩

/-- Of a tool statement, the number changes nothing but the tool. -/
theorem exists_eq_of_applyTool (h : m.applyTool s = .ok m') : ∃ tool, m' = { m with tool } := by
  unfold applyTool at h
  split at h
  next => cases h
  next id _ =>
    cases h
    split
    · exact ⟨id, rfl⟩
    · exact ⟨m.tool, rfl⟩
  next =>
    cases h
    exact ⟨m.tool, rfl⟩

/-- A miscellaneous code changes nothing but the spindle and the coolant. -/
theorem exists_eq_of_applyAuxiliary (h : m.applyAuxiliary s = (m', remarks)) :
    ∃ spindle coolant, m' = { m with spindle, coolant } := by
  unfold applyAuxiliary at h
  split at h
  next spindle _ =>
    cases h
    exact ⟨spindle, m.coolant, rfl⟩
  next coolant _ =>
    cases h
    exact ⟨m.spindle, coolant, rfl⟩
  all_goals
    cases h
    exact ⟨m.spindle, m.coolant, rfl⟩

/-- A preparatory statement first sets its mode, which does not move the tool, and nothing is set by
a code that has no mode. -/
theorem exists_of_applyPreparatory (h : m.applyPreparatory setup s = .ok (m', remarks)) :
    ∃ before : Machine, before.path = m.path ∧ before.position = m.position ∧
      (Modal.ofCode? s.code = none → before = m) ∧
      m' = match Move.ofCode? s.code with
        | some move => (before.applyAxisWords s).applyMove setup s before.position move
        | none => before.applyAxisWords s := by
  unfold applyPreparatory at h
  cases hmodal : Modal.ofCode? s.code with
  | none =>
    rw [hmodal] at h
    cases h
    exact ⟨m, rfl, rfl, fun _ => rfl, rfl⟩
  | some modal =>
    simp only [hmodal] at h
    cases hset : m.applyModal setup s modal with
    | error fault => simp [hset, Except.map] at h
    | ok done =>
      rw [hset] at h
      cases h
      obtain ⟨hpath, hposition⟩ := applyModal_frame hset
      exact ⟨done.1, hpath, hposition, nofun, rfl⟩

/-- A preparatory statement adds the points of its move to the path. Where it goes through a point,
that point is the position after its axis words, since no code that takes the tool home sets the
positioning as well. -/
theorem exists_path_applyPreparatory (hkind : s.kind = .preparatory)
    (h : m.applyPreparatory setup s = .ok (m', remarks)) :
    ∃ added, m'.path = m.path ++ added ∧
      added.map PathPoint.commanded = s.points (m.applyAxisWords s).position m'.position := by
  obtain ⟨before, hpath, -, hsame, rfl⟩ := exists_of_applyPreparatory h
  rw [Statement.points_eq_of_preparatory hkind, ← hpath]
  cases hmove : Move.ofCode? s.code with
  | none => exact ⟨[], (List.append_nil _).symm, rfl⟩
  | some move =>
    rcases move with motion | _
    · -- a move to the target makes one point
      refine ⟨[(before.applyAxisWords s).pathPoint setup.tools s motion before.position], rfl, ?_⟩
      rw [List.map_singleton, commanded_pathPoint]
      rfl
    · -- the way home makes two, and the first is where the axis words lead
      obtain rfl : before = m := hsame (Modal.ofCode?_eq_none_of_home hmove)
      exact ⟨_, rfl, rfl⟩

/-- A statement adds its points to the path, and nothing else. -/
theorem exists_path_execute (h : m.execute setup s = .ok (m', remarks)) :
    ∃ added, m'.path = m.path ++ added ∧
      added.map PathPoint.commanded = s.points (m.applyAxisWords s).position m'.position := by
  obtain ⟨hkind, done, hprepared, rfl⟩ | ⟨hkind, htool, rfl⟩ | ⟨hkind, hauxiliary⟩ :=
    execute_cases h
  · -- neither the line nor speed and feed have to do with the path
    obtain ⟨added, hpath, hadded⟩ := exists_path_applyPreparatory hkind hprepared
    exact ⟨added, hpath, hadded⟩
  · obtain ⟨tool, rfl⟩ := exists_eq_of_applyTool htool
    rw [Statement.points_eq_nil (hkind ▸ nofun)]
    exact ⟨[], (List.append_nil _).symm, rfl⟩
  · obtain ⟨spindle, coolant, rfl⟩ := exists_eq_of_applyAuxiliary hauxiliary
    rw [Statement.points_eq_nil (hkind ▸ nofun)]
    exact ⟨[], (List.append_nil _).symm, rfl⟩

end Machine

namespace Setup

variable {setup : Setup} {program statements : List Statement} {s : Statement} {m m' : Machine}
  {warnings warnings' : List Finding} {signals : List Signal} {count : Nat} {index j k : Int}

/-! ## A run -/

/-- A run over one statement executes it. -/
theorem exists_execute_of_run_singleton
    (h : setup.run count m warnings [s] = .ok (.finish m' warnings')) :
    ∃ remarks, m.execute setup s = .ok (m', remarks) ∧ warnings' = warnings ++ remarks := by
  rw [run] at h
  cases hobjection : setup.objection? s with
  | some error => simp [hobjection] at h
  | none =>
    cases hexecute : m.execute setup s with
    | error fault => simp [hobjection, hexecute] at h
    | ok done =>
      simp only [hobjection, hexecute, run, Except.ok.injEq, Reached.finish.injEq] at h
      obtain ⟨rfl, rfl⟩ := h
      exact ⟨done.2, rfl, rfl⟩

/-- A run only adds to the path and to the remarks. -/
theorem prefix_of_run (h : setup.run count m warnings statements = .ok (.finish m' warnings')) :
    m.path <+: m'.path ∧ warnings <+: warnings' := by
  induction statements generalizing count m warnings with
  | nil =>
    cases h
    exact ⟨List.prefix_refl _, List.prefix_refl _⟩
  | cons s rest ih =>
    rw [← List.singleton_append] at h
    obtain ⟨between, remarks, hfirst, hrest⟩ := exists_run_of_append_eq_finish h
    obtain ⟨added, hexecute, rfl⟩ := exists_execute_of_run_singleton hfirst
    obtain ⟨points, hpath, -⟩ := Machine.exists_path_execute hexecute
    obtain ⟨hpaths, hremarks⟩ := ih hrest
    have hfirstPath : m.path <+: between.path := by
      rw [hpath]
      exact List.prefix_append _ _
    exact ⟨hfirstPath.trans hpaths, (List.prefix_append _ _).trans hremarks⟩

/-- The machine of the replay up to a cursor; if the replay does not get there, the initial one. -/
def machineAt (setup : Setup) (program : List Statement) (cursor : Int) : Machine :=
  match setup.replay program cursor with
  | .ok (.done _ m _ _) => m
  | _ => .initial setup.home

/-- The points of the statement at a place of a program. It leads to the position of the replay up
to it, and its axis words apply to the machine of the replay up to the statement before. -/
def pointsAt (setup : Setup) (program : List Statement) (s : Statement) (i : Nat) :
    List (Point Float × Motion × Int) :=
  s.points ((setup.machineAt program (i - 1)).applyAxisWords s).position
    (setup.machineAt program i).position

theorem machineAt_of_replay {cursor : Int}
    (h : setup.replay program cursor = .ok (.done index m signals warnings)) :
    setup.machineAt program cursor = m := by
  unfold machineAt
  rw [h]

/-- The machine before a place is the one at the end of the run over the statements before it. -/
theorem machineAt_pred {i : Nat}
    (h : setup.run 0 (.initial setup.home) [] (program.take i) = .ok (.finish m warnings)) :
    setup.machineAt program (i - 1) = m := by
  rw [← upTo_pred] at h
  obtain ⟨signals, hdone⟩ := replay_eq_done_of_run h
  exact machineAt_of_replay hdone

/-- A run over the first statements of a program makes the path of their points. -/
theorem path_of_run {i : Nat} (hi : i ≤ program.length)
    (h : setup.run 0 (.initial setup.home) [] (program.take i) = .ok (.finish m warnings)) :
    m.path.map PathPoint.commanded =
      (program.take i).zipIdx.flatMap fun (s, place) => setup.pointsAt program s place := by
  induction i generalizing m warnings with
  | zero =>
    cases h
    rfl
  | succ i ih =>
    -- the last statement adds its points to the path of those before it
    have hafter : setup.machineAt program i = m := by
      have hpred := machineAt_pred h
      rwa [Int.natCast_succ, Int.add_sub_cancel] at hpred
    rw [List.take_succ_eq_append_getElem hi] at h ⊢
    obtain ⟨before, remarks, hbefore, hlast⟩ := exists_run_of_append_eq_finish h
    obtain ⟨_, hexecute, -⟩ := exists_execute_of_run_singleton hlast
    obtain ⟨added, hpath, hadded⟩ := Machine.exists_path_execute hexecute
    have hlength : (program.take i).length = i := List.length_take_of_le (Nat.le_of_lt hi)
    rw [hpath, List.map_append, hadded, ih (Nat.le_of_lt hi) hbefore, List.zipIdx_append,
      List.flatMap_append, hlength]
    simp [pointsAt, machineAt_pred hbefore, hafter]

/-! ## Replays -/

/-- If a replay gets to its cursor, then so do the replays to earlier cursors, and its path and its
remarks begin with theirs. Its path consists of the points of its statements, in their order: a
rapid point for `G0`, a cut for `G1` to `G3`, `G32` and `G33`, and two rapid points for `G28`, on
the line of the statement and at the position of the replay up to it; `G28` goes through the
position after its axis words. -/
theorem path_grows_by_points (hjk : j ≤ k)
    (h : setup.replay program k = .ok (.done index m signals warnings)) :
    (∃ before sent remarks,
      setup.replay program j = .ok (.done (lastIndex program j) before sent remarks) ∧
      before.path <+: m.path ∧ remarks <+: warnings) ∧
    m.path.map PathPoint.commanded =
      (program.take (k + 1).toNat).zipIdx.flatMap fun (s, i) => setup.pointsAt program s i := by
  constructor
  · obtain ⟨before, sent, remarks, rest, hdone, hrest⟩ := replay_eq_done_of_le hjk h
    obtain ⟨hpath, hremarks⟩ := prefix_of_run hrest
    exact ⟨before, sent, remarks, hdone, hpath, hremarks⟩
  · -- a cursor behind the program counts as its end
    have htake : program.take (k + 1).toNat = program.take (min (k + 1).toNat program.length) := by
      rw [List.take_eq_take_min]
    have hrun := run_of_replay_eq_done h
    rw [upTo_eq_take, htake] at hrun
    rw [htake]
    exact path_of_run (Nat.min_le_right _ _) hrun

/-- A rapid move, a code without effect, a cut, and the return of one axis through a point. -/
def cutAndReturn : List Statement := [
  { kind := .preparatory, code := some (.whole 0), params := [('X', 60.0), ('Z', 2.0)], line := 1,
    raw := "G0 X60 Z2", codeText := "0" },
  { kind := .miscellaneous, code := some (.whole 77), params := [('Z', 1.0)], line := 2,
    raw := "M77 Z1", codeText := "77" },
  { kind := .preparatory, code := some (.whole 1), params := [('W', 4.0)], line := 3,
    raw := "G1 W4", codeText := "1" },
  { kind := .preparatory, code := some (.whole 28), params := [('U', 10.0)], line := 4,
    raw := "G28 U10", codeText := "28" }]

/-- The axis words of `M77` move the tool without a point of the path; `G28` makes two. -/
theorem path_of_cutAndReturn :
    let m := ({} : Setup).machineAt cutAndReturn 9
    ({} : Setup).replay cutAndReturn 9 =
      .ok (.done 3 m [] [.warning 2 (.withoutEffect (.whole 77))]) ∧
    (∃ before sent remarks,
      ({} : Setup).replay cutAndReturn 2 = .ok (.done 2 before sent remarks) ∧
      before.path <+: m.path ∧ remarks <+: [.warning 2 (.withoutEffect (.whole 77))]) ∧
    m.path.map PathPoint.commanded =
      [(⟨60.0, 2.0⟩, .rapid, 1), (⟨60.0, 5.0⟩, .cut, 3), (⟨70.0, 5.0⟩, .rapid, 4),
        (⟨100.0, 5.0⟩, .rapid, 4)] := by
  intro m
  have hreplay : ({} : Setup).replay cutAndReturn 9 =
      .ok (.done 3 m [] [.warning 2 (.withoutEffect (.whole 77))]) := rfl
  obtain ⟨hearlier, hpath⟩ := path_grows_by_points (j := 2) (by decide) hreplay
  refine ⟨hreplay, hearlier, ?_⟩
  rw [hpath]
  decide +kernel

end Setup

end Lathe
