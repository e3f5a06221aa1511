import Lathe.Proofs.Controller.Alarm
import Lathe.Proofs.Controller.Prompt
import Lathe.Proofs.Replay.Cursor

/-!
# Coming to a statement

A run that goes on sets out for a statement, by a start or by a tick, and the refresh at the end of
the operation brings it there. Then it waits for the tool change that the statement asks for, or it
goes on; if the statement is not supported, it is over, and so it is with a tick at the last
statement.

* `replayTo_perform`: of all operations, only the loading of a program changes what replays give;
* `Refreshes.cameTo`, `Refreshes.over_of_halted`: what a refresh makes of a run that sets out;
* `Plays.cameTo_perform`, `Plays.over_perform`: so much for the operations that let it set out;
* `CameTo.readied_tick`, `CameTo.over_tick`, `Over.tick_eq`: what a tick does, once the tool change
  is confirmed that was pending.
-/

namespace Lathe

/-- What a signal asks for, and the place and the line of the statement that does. -/
def Signal.origin (signal : Signal) : Request × Int × Nat :=
  (signal.request, signal.index, signal.line)

/-- The tool change that a statement at some place asks for. -/
def Statement.toolChange? (place : Nat) (s : Statement) : Option (Request × Int × Nat) :=
  if s.kind = .tool then some (.toolChange, place, s.line) else none

namespace Setup

variable {setup : Setup} {program : List Statement} {place : Nat}

/-- No replay to a place in the program ends in a fault. -/
def Playable (setup : Setup) (program : List Statement) : Prop :=
  ∀ place < program.length, (setup.replay program (place : Nat)).toBool = true

instance (setup : Setup) (program : List Statement) : Decidable (setup.Playable program) :=
  inferInstanceAs (Decidable (∀ place < program.length, _))

theorem Playable.exists_replay_eq (h : setup.Playable program)
    (hplace : place ≤ program.length - 1) :
    ∃ outcome, setup.replay program place = .ok outcome := by
  have hok : (setup.replay program place).toBool = true := by
    cases program with
    | nil =>
      -- in an empty program there is nothing to replay at the start
      obtain rfl : place = 0 := Nat.le_zero.mp hplace
      rfl
    | cons s rest => exact h place (Nat.lt_succ_of_le hplace)
  cases hreplay : setup.replay program place with
  | error fault =>
    rw [hreplay] at hok
    cases hok
  | ok outcome => exact ⟨outcome, rfl⟩

/-- A replay over supported statements, if it does not end in a fault, gets to its cursor. -/
theorem exists_eq_done_of_supports {outcome : Outcome}
    (hsupports : ∀ t ∈ program.take (place + 1), setup.supports t = true)
    (h : setup.replay program place = .ok outcome) :
    ∃ index m signals warnings, outcome = .done index m signals warnings := by
  cases outcome with
  | done index m signals warnings => exact ⟨index, m, signals, warnings, rfl⟩
  | halted index error warnings =>
    -- the statement at which it halted is one of the supported ones
    obtain ⟨b, s, -, -, hfirst, hb, -⟩ := replay_eq_halted h
    have hmem : s ∈ program.take (place + 1) :=
      List.mem_of_getElem? ((List.getElem?_take_of_lt (by omega)).trans hfirst.get)
    exact absurd ((hsupports s hmem).symm.trans hfirst.unsupported) nofun

end Setup

namespace Controller

open Lathe.Action

variable {c d : Controller} {command : Command} {setup : Setup} {program : List Statement}
  {place : Nat} {mode : RunMode}

/-! ## What replays give in a run -/

/-- Whether an operation loads a program. -/
def loads : Command → Bool
  | .load _ => true
  | _ => false

/-- A refresh does not change what replays give: it sets at most the wear of tools. -/
theorem Refreshes.replayTo_eq {answer : Except Fault Unit} (h : Refreshes c answer d)
    (cursor : Int) : d.replayTo cursor = c.replayTo cursor := by
  cases h with
  | alarmed | resting | blank | faulty | halted => rfl
  | @done index m signals warnings =>
    have hworn := wornTo_advanced (.done index m signals warnings) m c.unprompted
    exact Setup.replay_congr hworn.sameGeometry c.setup c.program cursor

theorem Readies.replayTo_eq (h : Readies c command d) (hload : loads command = false)
    (cursor : Int) : d.program = c.program ∧ d.replayTo cursor = c.replayTo cursor := by
  cases h with
  | load => cases hload
  | start | reset | finish | advance | seek | refresh | setManual => exact ⟨rfl, rfl⟩

/-- Only the loading of a program changes what replays give. -/
theorem replayTo_perform (h : c.MemoSound) (hload : loads command = false) (cursor : Int) :
    (perform command c).state.program = c.program ∧
      (perform command c).state.replayTo cursor = c.replayTo cursor := by
  rcases perform_cases h command with
    ⟨d, _, e, memo, memoises, hready, hrefreshes, -, hstate⟩ | ⟨d, hleaves, hstate⟩
  · obtain ⟨hprogram, hreplay⟩ := hready.replayTo_eq hload cursor
    obtain ⟨-, hprogram', -⟩ := hrefreshes.frame
    rw [hstate]
    exact ⟨hprogram'.trans hprogram, (hrefreshes.replayTo_eq cursor).trans hreplay⟩
  · rw [hstate]
    cases hleaves <;> exact ⟨rfl, rfl⟩

/-- A controller in order has a program loaded, and its replays are those on some setup. -/
structure Plays (c : Controller) (setup : Setup) (program : List Statement) : Prop
    extends c.InOrder where
  program_eq : c.program = program
  replayTo_eq : ∀ cursor, c.replayTo cursor = setup.replay program cursor

namespace Plays

theorem perform (h : c.Plays setup program) (hload : loads command = false) :
    (perform command c).state.Plays setup program where
  toInOrder := h.toInOrder.perform command
  program_eq := (replayTo_perform h.memoSound hload 0).1.trans h.program_eq
  replayTo_eq cursor := (replayTo_perform h.memoSound hload cursor).2.trans (h.replayTo_eq cursor)

/-- A controller that is readied to be refreshed has a cursor in the program, and the replay to it
is the one on the setup. -/
theorem of_readied (h : c.Plays setup program) (hload : loads command = false)
    (hready : c.readied command = some d) :
    d.InProgram ∧ d.program = program ∧ d.replayTo d.cursor = setup.replay program d.cursor := by
  have hreadies := readies_of_readied hready
  obtain ⟨hprogram, hreplay⟩ := hreadies.replayTo_eq hload d.cursor
  exact ⟨hreadies.inProgram h.inProgram, hprogram.trans h.program_eq,
    hreplay.trans (h.replayTo_eq d.cursor)⟩

theorem exists_replay_of_readied (h : c.Plays setup program) (hload : loads command = false)
    (hready : c.readied command = some d) (hplayable : setup.Playable program) :
    ∃ outcome, setup.replay program d.cursor = .ok outcome := by
  obtain ⟨hin, hprogram, -⟩ := h.of_readied hload hready
  rw [InProgram, hprogram] at hin
  exact hplayable.exists_replay_eq hin

/-- An operation that ends in no fault without a refresh does not end in one with it. -/
theorem answer_perform (h : c.Plays setup program) (hplayable : setup.Playable program)
    (hload : loads command = false) (hleaves : (c.unrefreshed command).1.toBool = true) :
    (Controller.perform command c).answer.toBool = true := by
  cases hready : c.readied command with
  | none =>
    have hresult := perform_result command c
    rw [hready] at hresult
    have hanswer : (Controller.perform command c).answer = (c.unrefreshed command).1 :=
      congrArg Prod.fst hresult
    rw [hanswer]
    exact hleaves
  | some d =>
    -- only the replay to the cursor could bring a fault into the refresh
    obtain ⟨-, -, hanswer, -⟩ := perform_of_readied h.memoSound hready
    obtain ⟨-, -, hreplay⟩ := h.of_readied hload hready
    obtain ⟨outcome, hok⟩ := h.exists_replay_of_readied hload hready hplayable
    have hrefreshed : d.refreshed.1 = .ok () :=
      (refreshes_refreshed d).answer_eq_ok (by rw [hreplay, hok]; rfl)
    rw [hanswer, hrefreshed]
    rfl

end Plays

/-! ## Coming to a statement -/

/-- A run has come to a place. If the statement there asks for a tool change, then this change is
pending and the run waits for it; otherwise the run goes on. -/
structure CameTo (c : Controller) (place : Nat) : Prop where
  cursor_eq : c.cursor = place
  mode_eq : c.mode = if c.pending.isSome then .paused else .running
  pending_eq : c.pending.map Signal.origin = c.program[place]?.bind (Statement.toolChange? place)

theorem CameTo.withMemo (h : c.CameTo place) (memo : Memo) (memoises : Bool) :
    (c.withMemo memo memoises).CameTo place :=
  ⟨h.cursor_eq, h.mode_eq, h.pending_eq⟩

theorem CameTo.mode_ne (h : c.CameTo place) : c.mode ≠ .idle ∧ c.mode ≠ .alarm := by
  rw [h.mode_eq]
  split <;> exact ⟨nofun, nofun⟩

/-- A run is over: it stands at some place, in a mode in which it does not go on, and no tool change
is pending. -/
structure Over (c : Controller) (mode : RunMode) (place : Nat) : Prop where
  mode_eq : c.mode = mode
  cursor_eq : c.cursor = place
  pending_eq : c.pending = none

theorem Over.withMemo (h : c.Over mode place) (memo : Memo) (memoises : Bool) :
    (c.withMemo memo memoises).Over mode place :=
  ⟨h.mode_eq, h.cursor_eq, h.pending_eq⟩

/-- A run sets out for the statement at the cursor: it goes on, nothing is pending, and the operator
was last asked before that statement, if at all. -/
structure SetsOut (c : Controller) : Prop where
  mode_eq : c.mode = .running
  pending_eq : c.pending = none
  lt_cursor : ∀ place, c.prompted = some place → place < c.cursor

theorem SetsOut.unprompted_eq (h : c.SetsOut) : c.unprompted = c :=
  unprompted_eq_self <|
    rewound_eq_false_iff.mpr fun place hplace => Nat.le_of_lt (h.lt_cursor place hplace)

/-- A run that sets out asks for the tool change of the statement that it comes to. -/
theorem SetsOut.request?_eq (h : c.SetsOut) (outcome : Outcome) :
    c.request? outcome = outcome.signal? .toolChange := by
  refine if_pos ⟨h.mode_eq, fun hprompted => ?_⟩
  exact absurd (h.lt_cursor c.cursor hprompted) (Nat.lt_irrefl _)

/-- Refreshing a run that sets out, if the replay gets to the cursor, brings the run there. -/
theorem Refreshes.cameTo {answer : Except Fault Unit} {index : Int} {m : Machine}
    {signals : List Signal} {warnings : List Finding} (h : Refreshes c answer d) (hc : c.SetsOut)
    (hin : c.InProgram) (hdone : c.replayTo c.cursor = .ok (.done index m signals warnings)) :
    d.CameTo c.cursor := by
  cases h with
  | alarmed hmode | resting hmode => exact absurd (hc.mode_eq.symm.trans hmode) nofun
  | faulty _ _ hreplay | halted _ _ hreplay => cases hdone.symm.trans hreplay
  | blank _ hprogram =>
    -- an empty program asks for nothing
    rw [hc.unprompted_eq]
    refine ⟨rfl, ?_, ?_⟩
    · rw [hc.mode_eq, hc.pending_eq]
      rfl
    · rw [hc.pending_eq, hprogram]
      rfl
  | @done index m signals warnings _ hprogram hreplay =>
    rw [hc.unprompted_eq]
    obtain ⟨s, hget⟩ : ∃ s, c.program[c.cursor]? = some s :=
      ⟨_, List.getElem?_eq_getElem (hin.lt_length hprogram)⟩
    have hsignal := Setup.signal?_toolChange_of_replay hget hreplay
    have hrequest := hc.request?_eq (.done index m signals warnings)
    -- the books tell of the request that the statement makes, if it makes one
    split at hsignal
    next hkind =>
      obtain ⟨tool, hasked⟩ := hsignal
      obtain ⟨hmode, hpending, -⟩ := books_advanced_of_some (m := m) (hrequest.trans hasked)
      refine ⟨rfl, ?_, ?_⟩
      · rw [hmode, hpending]
        rfl
      · rw [hpending]
        show _ = c.program[c.cursor]?.bind (Statement.toolChange? c.cursor)
        rw [hget, Option.bind_some, Statement.toolChange?, if_pos hkind]
        rfl
    next hkind =>
      obtain ⟨hmode, hpending, -⟩ := books_advanced_of_none (m := m) (hrequest.trans hsignal)
      refine ⟨rfl, ?_, ?_⟩
      · rw [hmode, hpending, hc.mode_eq, hc.pending_eq]
        rfl
      · rw [hpending, hc.pending_eq]
        show _ = c.program[c.cursor]?.bind (Statement.toolChange? c.cursor)
        rw [hget, Option.bind_some, Statement.toolChange?, if_neg hkind]
        rfl

/-- Refreshing a run that sets out, if the replay halts, ends it in an alarm. -/
theorem Refreshes.over_of_halted {answer : Except Fault Unit} {index : Int} {error : Finding}
    {warnings : List Finding} (h : Refreshes c answer d) (hc : c.SetsOut)
    (hprogram : c.program ≠ [])
    (hhalted : c.replayTo c.cursor = .ok (.halted index error warnings)) :
    d.Over .alarm c.cursor := by
  cases h with
  | alarmed hmode | resting hmode => exact absurd (hc.mode_eq.symm.trans hmode) nofun
  | blank _ hnil => exact absurd hnil hprogram
  | faulty _ _ hreplay | done _ _ hreplay => cases hhalted.symm.trans hreplay
  | halted =>
    rw [hc.unprompted_eq]
    exact ⟨rfl, rfl, hc.pending_eq⟩

/-- An operation that lets a run set out brings it to the statement at the cursor, if all statements
up to there are supported. -/
theorem Plays.cameTo_perform (h : c.Plays setup program) (hplayable : setup.Playable program)
    (hload : loads command = false) (hready : c.readied command = some d) (hd : d.SetsOut)
    (hsupports : ∀ t ∈ program.take (d.cursor + 1), setup.supports t = true) :
    (Controller.perform command c).state.CameTo d.cursor := by
  obtain ⟨memo, memoises, -, hstate⟩ := perform_of_readied h.memoSound hready
  obtain ⟨hin, -, hreplay⟩ := h.of_readied hload hready
  obtain ⟨outcome, hok⟩ := h.exists_replay_of_readied hload hready hplayable
  obtain ⟨index, m, signals, warnings, rfl⟩ := Setup.exists_eq_done_of_supports hsupports hok
  have hcame := (refreshes_refreshed d).cameTo hd hin (hreplay.trans hok)
  rw [hstate]
  exact hcame.withMemo memo memoises

/-- An operation that lets a run set out for the first unsupported statement ends it there. -/
theorem Plays.over_perform {s : Statement} (h : c.Plays setup program)
    (hplayable : setup.Playable program) (hload : loads command = false)
    (hready : c.readied command = some d) (hd : d.SetsOut)
    (hfirst : setup.FirstUnsupported program d.cursor s) :
    (Controller.perform command c).state.Over .alarm d.cursor := by
  obtain ⟨memo, memoises, -, hstate⟩ := perform_of_readied h.memoSound hready
  obtain ⟨-, hprogram, hreplay⟩ := h.of_readied hload hready
  have hne : d.program ≠ [] := by
    rw [hprogram]
    exact List.ne_nil_of_length_pos (Nat.zero_lt_of_lt hfirst.lt_length)
  obtain ⟨outcome, hok⟩ := h.exists_replay_of_readied hload hready hplayable
  obtain ⟨code, before, -, -, rfl⟩ :=
    Setup.exists_eq_halted_of_firstUnsupported_le hfirst (Int.le_refl _) hok
  have hover := (refreshes_refreshed d).over_of_halted hd hne (hreplay.trans hok)
  rw [hstate]
  exact hover.withMemo memo memoises

/-! ## The next tick -/

theorem perform_confirmToolChange (c : Controller) :
    (perform .confirmToolChange c).state = c.confirmed :=
  congrArg Prod.snd (perform_result .confirmToolChange c)

theorem Plays.confirmed (h : c.Plays setup program) : c.confirmed.Plays setup program := by
  rw [← perform_confirmToolChange]
  exact h.perform rfl

/-- A run that has come to a statement can set out for the next one, once the tool change is
confirmed: the operator was asked where it stands, or before. -/
theorem CameTo.setsOut (hc : c.CameTo place) (h : c.InOrder) :
    SetsOut { c.confirmed with cursor := place + 1 } where
  mode_eq := by
    -- a run that is paused waits for the change that is now confirmed
    show (if c.pending.isSome ∧ c.mode = .paused then RunMode.running else c.mode) = .running
    rw [hc.mode_eq]
    cases c.pending <;> rfl
  pending_eq := rfl
  lt_cursor asked hasked := by
    -- the place at which the operator was asked is not behind the one that the run leaves
    have hle := rewound_eq_false_iff.mp h.rewound_eq_false asked hasked
    rw [hc.cursor_eq] at hle
    exact Nat.lt_succ_of_le hle

/-- Before the last statement, a tick lets the run set out for the next one. -/
theorem CameTo.readied_tick (hc : c.CameTo place) (h : c.InOrder)
    (hlt : place + 1 < c.program.length) :
    c.confirmed.readied .tick = some { c.confirmed with cursor := place + 1 } := by
  have hrunning : c.confirmed.mode = .running := (hc.setsOut h).mode_eq
  have hcursor : c.confirmed.cursor = place := hc.cursor_eq
  have hend : c.confirmed.atEnd = false := by
    show decide (c.program.length ≤ c.confirmed.cursor + 1) = false
    rw [hcursor, decide_eq_false_iff_not]
    exact Nat.not_le_of_lt hlt
  rw [readied, if_pos hrunning, ticked, hend, hcursor]
  rfl

theorem refreshed_of_idle (h : c.mode = .idle) : c.refreshed = (.ok (), c.rest) := by
  unfold refreshed
  simp [h]

/-- At the last statement, a tick ends the run. -/
theorem CameTo.over_tick (hc : c.CameTo place) (h : c.InOrder)
    (hlast : c.program.length ≤ place + 1) :
    (perform .tick c.confirmed).state.Over .idle place := by
  have hrunning : c.confirmed.mode = .running := (hc.setsOut h).mode_eq
  have hend : c.confirmed.atEnd = true := by
    show decide (c.program.length ≤ c.cursor + 1) = true
    rw [hc.cursor_eq, decide_eq_true_iff]
    exact hlast
  have hready : c.confirmed.readied .tick = some { c.confirmed with mode := .idle } := by
    rw [readied, if_pos hrunning, ticked, hend]
    rfl
  have hsound : c.confirmed.MemoSound := h.memoSound.congr rfl rfl rfl (.refl _)
  obtain ⟨memo, memoises, -, hstate⟩ := perform_of_readied hsound hready
  have hover : (rest { c.confirmed with mode := .idle }).Over .idle place :=
    ⟨rfl, hc.cursor_eq, rfl⟩
  rw [hstate, refreshed_of_idle rfl]
  exact hover.withMemo memo memoises

/-- A tick leaves a run alone that is over. -/
theorem Over.tick_eq (hc : c.Over mode place) (hmode : mode ≠ .running) :
    (perform .tick c.confirmed).state = c := by
  rw [confirmed_of_pending_eq_none hc.pending_eq]
  have hresult := perform_result .tick c
  have hready : c.readied .tick = none := if_neg (hc.mode_eq ▸ hmode)
  rw [hready] at hresult
  exact congrArg Prod.snd hresult

end Controller

end Lathe
