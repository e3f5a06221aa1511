import Lathe.Proofs.Controller.Failure
import Lathe.Proofs.Program.Reading
import Lathe.Proofs.Replay.Register

/-!
# Where faults come from

Numerals can be so long that their numbers are infinite. An infinite number is none that a command
can have, so the text cannot be read, and none that a tool can have, so a statement that is to look
up a tool by it cannot be executed. Nothing else can go wrong, neither in reading a text nor in
replaying its program.

* `Machine.execute_eq_error_iff`: the statements that cannot be executed, on any machine;
* `Setup.exists_run_eq_finish_iff`: the runs that get over all their statements;
* `Setup.replay_eq_error_iff`: the replays that end in a fault;
* `Setup.faults_exactly_at_infinite_numbers`: the faults of a text and of the program read from it.
-/

namespace Lathe

variable {setup : Setup} {s : Statement} {m : Machine} {fault : Fault}

/-- A number that is given for a letter is a number. -/
theorem Statement.isNaN_of_param {letter : Char} {x : Float} (h : s.param letter = some x) :
    x.isNaN = false := by
  have hx := (Option.filter_eq_some_iff.mp h).2
  rwa [Bool.not_eq_true'] at hx

/-- A statement is to look up a tool by an infinite number. -/
def Setup.OffsetOverflows (setup : Setup) (s : Statement) : Prop :=
  (s.isG 43 = true ∨ s.isG 44 = true ∧ setup.negatesOffset = true) ∧
    ∃ x, s.param 'H' = some x ∧ x.isInf = true

namespace Machine

theorem offsetTool_eq_error_iff :
    offsetTool s = .error fault ↔
      fault = .notReal .infinite ∧ ∃ x, s.param 'H' = some x ∧ x.isInf = true := by
  unfold offsetTool
  cases hparam : s.param 'H' with
  | none => simp
  | some x =>
    have hnan := Statement.isNaN_of_param hparam
    simp only [Fault.map_eq_error_iff, truncate_eq_error_iff, hnan, Bool.false_eq_true, and_false,
      or_false, Option.some.injEq, exists_eq_left']

theorem applyOffset_eq_error_iff {tools : ToolTable} {adjust : Float → Float} :
    m.applyOffset tools adjust s = .error fault ↔ offsetTool s = .error fault := by
  unfold applyOffset
  cases offsetTool s with
  | error reason => simp
  | ok named =>
    rcases named with _ | id
    · simp
    · cases hoffset : tools.lengthOffset id <;> simp [hoffset]

/-- Of all that a code can set, only a length offset can fail to be set. -/
theorem applyModal_eq_error_iff {modal : Modal} :
    m.applyModal setup s modal = .error fault ↔
      (modal = .lengthOffset ∨ modal = .negatedOffset ∧ setup.negatesOffset = true) ∧
        offsetTool s = .error fault := by
  cases modal with
  | lengthOffset => simp [applyModal, applyOffset_eq_error_iff]
  | negatedOffset =>
    rw [applyModal]
    split
    next hnegates => simp [hnegates, applyOffset_eq_error_iff]
    next hplain => simp [hplain]
  | units | compensation | cancelOffset | spindleLimit | positioning | spindleMode | cycle =>
    simp [applyModal]

theorem applyPreparatory_eq_error_iff (hkind : s.kind = .preparatory) :
    m.applyPreparatory setup s = .error fault ↔
      fault = .notReal .infinite ∧ setup.OffsetOverflows s := by
  have h43 := Statement.isG_iff_ofCode? hkind (show (43, .lengthOffset) ∈ Modal.codes by decide)
  have h44 := Statement.isG_iff_ofCode? hkind (show (44, .negatedOffset) ∈ Modal.codes by decide)
  unfold applyPreparatory Setup.OffsetOverflows
  rw [Fault.map_eq_error_iff, h43, h44]
  cases Modal.ofCode? s.code with
  | none => simp
  | some modal =>
    simp only [Option.some.injEq]
    rw [applyModal_eq_error_iff, offsetTool_eq_error_iff]
    exact and_left_comm

/-- A statement whose command is written as a numeral cannot be executed exactly if it is to look up
a tool by an infinite number. -/
theorem execute_eq_error_iff (h : s.Written) :
    m.execute setup s = .error fault ↔
      fault = .notReal .infinite ∧ setup.OffsetOverflows s := by
  unfold execute
  dsimp only
  cases hkind : s.kind with
  | preparatory =>
    dsimp only
    rw [Fault.map_eq_error_iff, applyPreparatory_eq_error_iff hkind]
  | tool =>
    have hisG := Statement.isG_of_kind_ne (s := s) (hkind ▸ nofun)
    obtain ⟨id, hid⟩ := h.exists_toolNumber
    unfold applyTool Setup.OffsetOverflows
    rw [hid]
    rcases id with _ | id <;> simp [hisG, Except.map]
  | miscellaneous =>
    have hisG := Statement.isG_of_kind_ne (s := s) (hkind ▸ nofun)
    simp [Setup.OffsetOverflows, hisG]

/-- A statement can be executed exactly if it is not to look up a tool by an infinite number and, if
it is a tool statement, its number can be read. The machine and the tools have no part in it. -/
theorem exists_execute_iff :
    (∃ done, m.execute setup s = .ok done) ↔
      ¬setup.OffsetOverflows s ∧ (s.kind = .tool → ∃ id, s.toolNumber = .ok id) := by
  unfold execute
  dsimp only
  cases hkind : s.kind with
  | preparatory =>
    simp only [reduceCtorEq, false_implies, and_true]
    cases hprepared : applyPreparatory setup s { m with line := s.line } with
    | error reason =>
      have hoverflows := ((applyPreparatory_eq_error_iff hkind).mp hprepared).2
      simp [Except.map, hoverflows]
    | ok done =>
      have hfits : ¬setup.OffsetOverflows s :=
        Fault.not_of_eq_ok hprepared fun h => (applyPreparatory_eq_error_iff hkind).mpr ⟨rfl, h⟩
      simp [Except.map, hfits]
  | tool =>
    have hisG := Statement.isG_of_kind_ne (s := s) (hkind ▸ nofun)
    unfold applyTool Setup.OffsetOverflows
    cases s.toolNumber with
    | error reason => simp [Except.map]
    | ok id => rcases id with _ | id <;> simp [hisG, Except.map]
  | miscellaneous =>
    have hisG := Statement.isG_of_kind_ne (s := s) (hkind ▸ nofun)
    simp [Setup.OffsetOverflows, hisG]

end Machine

namespace Setup

variable {program statements : List Statement} {warnings : List Finding} {count i : Nat}
  {cursor : Int}

/-- A run gets to a statement, since all statements up to there are supported, and cannot execute
it. -/
def FaultsAt (setup : Setup) (program : List Statement) (i : Nat) : Prop :=
  (∀ t ∈ program.take (i + 1), setup.supports t = true) ∧
    ∃ s, program[i]? = some s ∧ setup.OffsetOverflows s

theorem exists_faultsAt_cons {rest : List Statement} :
    (∃ i, setup.FaultsAt (s :: rest) i) ↔
      setup.supports s = true ∧ (setup.OffsetOverflows s ∨ ∃ i, setup.FaultsAt rest i) := by
  constructor
  · rintro ⟨i, hsupports, t, hget, hoverflows⟩
    obtain ⟨hs, hrest⟩ := List.forall_mem_cons.mp hsupports
    refine ⟨hs, ?_⟩
    cases i with
    | zero =>
      cases hget
      exact .inl hoverflows
    | succ i => exact .inr ⟨i, hrest, t, hget, hoverflows⟩
  · rintro ⟨hs, hoverflows | ⟨i, hrest, t, hget, hoverflows⟩⟩
    · exact ⟨0, by simpa using hs, s, rfl, hoverflows⟩
    · exact ⟨i + 1, List.forall_mem_cons.mpr ⟨hs, hrest⟩, t, hget, hoverflows⟩

/-- A run ends in a fault exactly if it gets to a statement that cannot be executed, whatever the
machine it sets out with. -/
theorem run_eq_error_iff (hwritten : ∀ s ∈ statements, s.Written) :
    setup.run count m warnings statements = .error fault ↔
      fault = .notReal .infinite ∧ ∃ i, setup.FaultsAt statements i := by
  induction statements generalizing count m warnings with
  | nil => simp [run, FaultsAt]
  | cons s rest ih =>
    obtain ⟨hs, hrest⟩ := List.forall_mem_cons.mp hwritten
    rw [run, exists_faultsAt_cons]
    cases hobjection : setup.objection? s with
    | some error =>
      -- a statement that is not supported is not executed
      have hsupports : setup.supports s = false := (objection?_eq_some_iff.mp hobjection).1
      simp [hsupports]
    | none =>
      rw [objection?_eq_none_iff.mp hobjection]
      cases hexecute : m.execute setup s with
      | error reason =>
        obtain ⟨rfl, hoverflows⟩ := (Machine.execute_eq_error_iff hs).mp hexecute
        simp [hoverflows, eq_comm]
      | ok done =>
        have hfits : ¬setup.OffsetOverflows s :=
          Fault.not_of_eq_ok hexecute fun h => (Machine.execute_eq_error_iff hs).mpr ⟨rfl, h⟩
        rw [or_iff_right hfits]
        simp only [true_and]
        exact ih hrest

/-- Whether a statement can be executed is the same for all machines. -/
theorem executes_iff (m : Machine) :
    setup.executes s = true ↔
      setup.supports s = true ∧ ∃ done, m.execute setup s = .ok done := by
  unfold executes
  rw [Machine.exists_execute_iff, ← Machine.exists_execute_iff (m := .initial setup.home),
    Bool.and_eq_true]
  cases (Machine.initial setup.home).execute setup s <;> simp [Except.toBool]

/-- A run finishes exactly if each of its statements can be executed. -/
theorem exists_run_eq_finish_iff :
    (∃ m' warnings', setup.run count m warnings statements = .ok (.finish m' warnings')) ↔
      ∀ s ∈ statements, setup.executes s = true := by
  constructor
  · rintro ⟨m', warnings', h⟩ s hs
    obtain ⟨hsupports, before, hdone⟩ := executes_of_run_eq_finish h hs
    exact (executes_iff before).mpr ⟨hsupports, hdone⟩
  · intro h
    induction statements generalizing count m warnings with
    | nil => exact ⟨m, warnings, rfl⟩
    | cons s rest ih =>
      obtain ⟨hs, hrest⟩ := List.forall_mem_cons.mp h
      obtain ⟨hsupports, done, hdone⟩ := (executes_iff m).mp hs
      simp only [run, objection?_eq_none_iff.mpr hsupports, hdone]
      exact ih hrest

theorem replay_eq_error_iff_run :
    setup.replay program cursor = .error fault ↔
      setup.run 0 (.initial setup.home) [] (upTo program cursor) = .error fault := by
  cases hrun : setup.run 0 (.initial setup.home) [] (upTo program cursor) with
  | error reason => simp [replay, hrun]
  | ok reached =>
    cases reached with
    | obstacle b error warnings => simp [replay, hrun]
    | finish m warnings =>
      obtain ⟨signals, hdone⟩ := replay_eq_done_of_run hrun
      simp [hdone]

/-- The statements up to a cursor that cannot be executed are those of the program, up to it. -/
theorem faultsAt_upTo_iff :
    setup.FaultsAt (upTo program cursor) i ↔
      (i : Int) ≤ min cursor (program.length - 1) ∧ setup.FaultsAt program i := by
  rw [upTo_eq_take]
  unfold FaultsAt
  by_cases hi : i < (cursor + 1).toNat
  · rw [List.getElem?_take_of_lt hi, List.take_take, Nat.min_eq_left hi]
    refine (and_iff_right_of_imp ?_).symm
    rintro ⟨-, s, hget, -⟩
    have hlength := (List.getElem?_eq_some_iff.mp hget).1
    omega
  · have hnone : (program.take (cursor + 1).toNat)[i]? = none :=
      List.getElem?_eq_none (Nat.le_trans (List.length_take_le _ _) (Nat.le_of_not_lt hi))
    constructor
    · rintro ⟨-, s, hget, -⟩
      rw [hnone] at hget
      cases hget
    · rintro ⟨hle, -⟩
      omega

/-- A replay ends in a fault exactly if there is a statement up to its cursor that it gets to and
cannot execute. -/
theorem replay_eq_error_iff (hwritten : ∀ s ∈ program, s.Written) :
    setup.replay program cursor = .error fault ↔
      fault = .notReal .infinite ∧
        ∃ i : Nat, (i : Int) ≤ min cursor (program.length - 1) ∧ setup.FaultsAt program i := by
  have hreached : ∀ s ∈ upTo program cursor, s.Written := fun s hs =>
    hwritten s (List.mem_of_mem_take hs)
  rw [replay_eq_error_iff_run, run_eq_error_iff hreached]
  simp only [faultsAt_upTo_iff]

/-- A text cannot be read exactly if one of its command words has an infinite number. If it can be
read, then all its tool statements have tool numbers that can be read, and a replay of its program
ends in a fault exactly if there is a statement up to its cursor that is to look up a tool by an
infinite number, `G43`, or `G44` where this negates the offset, and all statements up to that one
are supported. The fault is always that the number is infinite. -/
theorem faults_exactly_at_infinite_numbers (text : String) (fault : Fault) :
    (Program.parse text = .error fault ↔
      fault = .notReal .infinite ∧
        ∃ line ∈ SourceLine.ofText text, ∃ w ∈ line.words, w.Overflows) ∧
    ∀ program, Program.parse text = .ok program →
      (∀ s ∈ program, s.kind = .tool → ∃ id, s.toolNumber = .ok id) ∧
      ∀ (setup : Setup) (cursor : Int),
        setup.replay program cursor = .error fault ↔
          fault = .notReal .infinite ∧
            ∃ i : Nat, (i : Int) ≤ min cursor (program.length - 1) ∧ setup.FaultsAt program i := by
  refine ⟨Program.parse_eq_error_iff, fun program hparse => ?_⟩
  have hwritten := Program.written_of_parse hparse
  exact ⟨fun s hs _ => (hwritten s hs).exists_toolNumber,
    fun setup cursor => replay_eq_error_iff hwritten⟩

/-- The second statement of the program is to look up a tool by a number of too many digits: the
replays to it and beyond end in a fault, and the one to the first statement does not. -/
theorem faults_of_endlessOffset :
    Program.parse Controller.endlessOffsetText = .ok Controller.endlessOffset ∧
      ∀ cursor : Int, ({} : Setup).replay Controller.endlessOffset cursor =
        .error (.notReal .infinite) ↔ 1 ≤ cursor := by
  have hparse := Controller.parse_endlessOffsetText
  obtain ⟨-, hfaults⟩ := faults_exactly_at_infinite_numbers Controller.endlessOffsetText
    (.notReal .infinite)
  obtain ⟨-, hreplay⟩ := hfaults _ hparse
  refine ⟨hparse, fun cursor => (hreplay {} cursor).trans ?_⟩
  have hfirst : ¬({} : Setup).FaultsAt Controller.endlessOffset 0 := by
    rintro ⟨-, s, hget, hcode, -⟩
    cases hget
    exact absurd hcode (by decide)
  have hsecond : ({} : Setup).FaultsAt Controller.endlessOffset 1 :=
    ⟨by decide +kernel, _, rfl, .inl rfl, 1.0 / 0.0, by decide +kernel, by decide +kernel⟩
  constructor
  · rintro ⟨-, i, hi, hfaultsAt⟩
    have hpos : i ≠ 0 := by
      rintro rfl
      exact hfirst hfaultsAt
    omega
  · intro hcursor
    have hlength : Controller.endlessOffset.length = 2 := rfl
    exact ⟨rfl, 1, by omega, hsecond⟩

end Setup

end Lathe
