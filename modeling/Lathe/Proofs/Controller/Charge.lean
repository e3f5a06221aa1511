import Lathe.Proofs.Controller.Completion
import Lathe.Proofs.Replay.Path
import Lathe.Proofs.Wear.Account

/-!
# What a run is charged

Wear is charged in a refresh, for the way from the machine that was displayed before to the one at
the cursor. In a run that is attended from its start, the machine displayed before is always the one
of the statement before, so the tools are charged for each statement once: whatever the operator
does between two ticks, and although a run that waits for a tool change does not move on with a
tick.

* `Setup.tally`: the account after the first statements of a program;
* `account_advanced`: what a refresh makes of the account;
* `Refreshes.tallied`: a refresh of a run that sets out for a statement charges that statement;
* `Tallied.perform`: every operation of an operator who attends the run keeps the account right;
* `charged_once`: so does a run.
-/

namespace Lathe

namespace Setup

variable {setup : Setup} {program : List Statement} {material : Material} {a : WearAccount}
  {place : Nat} {s : Statement} {m : Machine} {index : Int} {signals : List Signal}
  {warnings : List Finding}

/-- The account after the statement at a place. An `M100` makes the tool as good as new that is
active after it; then the move is charged, from where the machine was before the statement, which at
the first one is the reference point. A statement to which the replay does not get is not charged.
-/
def chargeAt (setup : Setup) (program : List Statement) (material : Material) (a : WearAccount)
    (place : Nat) : WearAccount :=
  match program[place]?, setup.replay program place with
  | some s, .ok (.done _ m _ _) =>
    (if s.isM 100 then a.renew m.tool else a).charge
      (setup.machineAt program (place - 1)).position m material
  | _, _ => a

/-- The account after the first `count` statements of a program, each of them charged once. -/
def tally (setup : Setup) (program : List Statement) (material : Material) (a : WearAccount)
    (count : Nat) : WearAccount :=
  (List.range count).foldl (setup.chargeAt program material) a

theorem tally_succ (setup : Setup) (program : List Statement) (material : Material)
    (a : WearAccount) (place : Nat) :
    setup.tally program material a (place + 1) =
      setup.chargeAt program material (setup.tally program material a place) place := by
  unfold tally
  rw [List.range_succ, List.foldl_append]
  rfl

theorem chargeAt_of_done (hs : program[place]? = some s)
    (hdone : setup.replay program place = .ok (.done index m signals warnings)) :
    setup.chargeAt program material a place =
      (if s.isM 100 then a.renew m.tool else a).charge
        (setup.machineAt program (place - 1)).position m material := by
  unfold chargeAt
  rw [hs, hdone]

theorem chargeAt_of_halted {error : Finding}
    (hhalted : setup.replay program place = .ok (.halted index error warnings)) :
    setup.chargeAt program material a place = a := by
  unfold chargeAt
  rw [hhalted]
  cases program[place]? <;> rfl

theorem chargeAt_nil : setup.chargeAt [] material a place = a := rfl

theorem machineAt_nil (setup : Setup) (cursor : Int) :
    setup.machineAt [] cursor = .initial setup.home := by
  unfold machineAt replay upTo
  rw [List.take_nil]
  rfl

end Setup

namespace Controller

open Lathe.Action

variable {c d e : Controller} {command : Command} {commands : List Command} {text : String}
  {setup : Setup} {program : List Statement} {material : Material} {a : WearAccount}

/-- The account of the wear that a controller keeps. -/
def account (c : Controller) : WearAccount :=
  ⟨c.meter, c.tools⟩

/-- Displaying an outcome charges the way from the machine displayed before. While running, an
`M100` at the cursor comes first. -/
theorem account_advanced {s : Statement} {index : Int} {m : Machine} {signals : List Signal}
    {warnings : List Finding} (hs : c.program[c.cursor]? = some s)
    (hreplay : c.replayTo c.cursor = .ok (.done index m signals warnings)) :
    (c.advanced (.done index m signals warnings) m).account =
      (if c.mode = .running ∧ s.isM 100 then c.account.renew m.tool else c.account).charge
        c.previous m c.material := by
  have hsignal := Setup.signal?_wearReset_of_replay hs hreplay
  have hrenewed : (⟨c.renewedMeter (.done index m signals warnings),
      c.renewedTools (.done index m signals warnings)⟩ : WearAccount) =
        if c.mode = .running ∧ s.isM 100 then c.account.renew m.tool else c.account := by
    unfold renewedMeter renewedTools
    rw [hsignal]
    by_cases hreset : s.isM 100 = true
    · by_cases hmode : c.mode = .running
      · simp only [hreset, hmode, ↓reduceIte, and_self]
        rfl
      · simp only [hreset, hmode, ↓reduceIte, false_and]
        rfl
    · simp only [hreset, Bool.false_eq_true, ↓reduceIte, and_false]
      rfl
  rw [← hrenewed]
  rfl

/-! ## A statement is charged -/

/-- A run sets out for the statement at the cursor, and all statements before it are charged. -/
structure Due (c : Controller) (setup : Setup) (program : List Statement) (material : Material)
    (a : WearAccount) : Prop where
  mode_eq : c.mode = .running
  material_eq : c.material = material
  account_eq : c.account = setup.tally program material a c.cursor
  previous_eq : c.previous = (setup.machineAt program (c.cursor - 1)).position

/-- All statements up to the cursor are charged. As long as the run is not over, the machine was
last displayed at the cursor. -/
structure Tallied (c : Controller) (setup : Setup) (program : List Statement)
    (material : Material) (a : WearAccount) : Prop where
  material_eq : c.material = material
  account_eq : c.account = setup.tally program material a (c.cursor + 1)
  previous_eq : c.mode = .running ∨ c.mode = .paused →
    c.previous = (setup.machineAt program c.cursor).position

theorem Tallied.withMemo (h : c.Tallied setup program material a) (memo : Memo)
    (memoises : Bool) : (c.withMemo memo memoises).Tallied setup program material a :=
  ⟨h.material_eq, h.account_eq, h.previous_eq⟩

/-- Refreshing a run that sets out for a statement charges it. -/
theorem Refreshes.tallied {answer : Except Fault Unit} {outcome : Outcome}
    (h : Refreshes c answer d) (hc : c.Due setup program material a) (hin : c.InProgram)
    (hprogram : c.program = program)
    (hreplay : c.replayTo c.cursor = setup.replay program c.cursor)
    (hok : setup.replay program c.cursor = .ok outcome) :
    d.Tallied setup program material a := by
  cases h with
  | alarmed hmode | resting hmode => exact absurd (hc.mode_eq.symm.trans hmode) nofun
  | faulty _ _ hfault => cases (hreplay.trans hok).symm.trans hfault
  | blank _ hnil =>
    -- an empty program has nothing to charge, and the machine stays where it is
    obtain rfl : program = [] := hprogram.symm.trans hnil
    refine ⟨hc.material_eq, ?_, fun _ => ?_⟩
    · rw [Setup.tally_succ, Setup.chargeAt_nil]
      exact hc.account_eq
    · rw [Setup.machineAt_nil, ← Setup.machineAt_nil setup (c.cursor - 1)]
      exact hc.previous_eq
  | halted _ _ hhalted =>
    refine ⟨hc.material_eq, ?_, fun hmode => by simp [stopped] at hmode⟩
    show c.account = setup.tally program material a (c.cursor + 1)
    rw [Setup.tally_succ, Setup.chargeAt_of_halted (hreplay.symm.trans hhalted)]
    exact hc.account_eq
  | @done index m signals warnings _ hne hdone =>
    obtain ⟨s, hs⟩ : ∃ s, c.program[c.cursor]? = some s :=
      ⟨_, List.getElem?_eq_getElem (hin.lt_length hne)⟩
    have hs' : program[c.cursor]? = some s := hprogram ▸ hs
    have hdone' := hreplay.symm.trans hdone
    have hmachine : setup.machineAt program c.cursor = m := Setup.machineAt_of_replay hdone'
    refine ⟨hc.material_eq, ?_, fun _ => congrArg Machine.position hmachine.symm⟩
    have haccount := account_advanced (c := c.unprompted) hs hdone
    rw [haccount]
    show (if c.mode = .running ∧ s.isM 100 then c.account.renew m.tool else c.account).charge
      c.previous m c.material = setup.tally program material a (c.cursor + 1)
    rw [Setup.tally_succ, Setup.chargeAt_of_done hs' hdone', hc.account_eq, hc.previous_eq,
      hc.material_eq]
    simp only [hc.mode_eq, true_and]

theorem Plays.tallied_perform (h : c.Plays setup program) (hplayable : setup.Playable program)
    (hload : loads command = false) (hready : c.readied command = some d)
    (hd : d.Due setup program material a) :
    (Controller.perform command c).state.Tallied setup program material a := by
  obtain ⟨memo, memoises, -, hstate⟩ := perform_of_readied h.memoSound hready
  obtain ⟨hin, hprogram, hreplay⟩ := h.of_readied hload hready
  obtain ⟨outcome, hok⟩ := h.exists_replay_of_readied hload hready hplayable
  have htallied := (refreshes_refreshed d).tallied hd hin hprogram hreplay hok
  rw [hstate]
  exact htallied.withMemo memo memoises

/-! ## Attending a run -/

/-- The operations of an operator who attends a run, and the ticks. -/
def attends : Command → Bool
  | .confirmToolChange | .tick | .setManual _ | .setFeed _ => true
  | _ => false

theorem loads_of_attends (h : attends command = true) : loads command = false := by
  cases command <;> first | rfl | cases h

/-- A tick before the last statement sets out for the next one. -/
theorem Tallied.due (h : c.Tallied setup program material a) (hmode : c.mode = .running) :
    Due { c with cursor := c.cursor + 1 } setup program material a where
  mode_eq := hmode
  material_eq := h.material_eq
  account_eq := h.account_eq
  previous_eq := by
    show c.previous = (setup.machineAt program ((c.cursor + 1 : Nat) - 1)).position
    rw [Int.natCast_succ, Int.add_sub_cancel]
    exact h.previous_eq (.inl hmode)

/-- The operations that do not refresh leave the account alone. None of them wakes a run up that is
over. -/
theorem Leaves.tallied (h : Leaves c command d) (hattends : attends command = true)
    (hc : c.Tallied setup program material a) : d.Tallied setup program material a := by
  cases h with
  | unread | pause | setMaterial => cases hattends
  | unchanged => exact hc
  | setManual | setFeed => exact ⟨hc.material_eq, hc.account_eq, hc.previous_eq⟩
  | confirm =>
    refine ⟨hc.material_eq, hc.account_eq, fun hmode => hc.previous_eq ?_⟩
    change (if c.pending.isSome ∧ c.mode = .paused then RunMode.running else c.mode) = _ ∨
      (if c.pending.isSome ∧ c.mode = .paused then RunMode.running else c.mode) = _ at hmode
    split at hmode
    next hpaused => exact .inr hpaused.2
    next => exact hmode

/-- At rest, a refresh leaves the account alone. -/
theorem Tallied.rest (h : c.Tallied setup program material a) (hmode : d.mode = .idle)
    (hcursor : d.cursor = c.cursor) (hmaterial : d.material = c.material)
    (haccount : d.account = c.account) : d.rest.Tallied setup program material a where
  material_eq := hmaterial.trans h.material_eq
  account_eq := by
    show d.account = setup.tally program material a (d.cursor + 1)
    rw [haccount, hcursor]
    exact h.account_eq
  previous_eq hrunning := by
    change d.mode = _ ∨ d.mode = _ at hrunning
    simp [hmode] at hrunning

/-- An operation of an operator who attends a run keeps the account right. -/
theorem Tallied.perform (h : c.Tallied setup program material a) (hplays : c.Plays setup program)
    (hplayable : setup.Playable program) (hattends : attends command = true) :
    (perform command c).state.Tallied setup program material a := by
  cases hready : c.readied command with
  | none =>
    have hresult := perform_result command c
    rw [hready] at hresult
    have hstate : (Controller.perform command c).state = (c.unrefreshed command).2 :=
      congrArg Prod.snd hresult
    rw [hstate]
    exact (leaves_unrefreshed hready).tallied hattends h
  | some d =>
    have hrest (hmode : d.mode = .idle) (hcursor : d.cursor = c.cursor)
        (hmaterial : d.material = c.material) (haccount : d.account = c.account) :
        (Controller.perform command c).state.Tallied setup program material a := by
      obtain ⟨memo, memoises, -, hstate⟩ := perform_of_readied hplays.memoSound hready
      rw [hstate, refreshed_of_idle hmode]
      exact (h.rest hmode hcursor hmaterial haccount).withMemo memo memoises
    cases readies_of_readied hready with
    | load | start | reset | seek | refresh => cases hattends
    | finish => exact hrest rfl rfl rfl rfl
    | setManual _ hmode => exact hrest hmode rfl rfl rfl
    | advance hmode =>
      exact hplays.tallied_perform hplayable (loads_of_attends hattends) hready (h.due hmode)

theorem tallied_after (h : c.Tallied setup program material a) (hplays : c.Plays setup program)
    (hplayable : setup.Playable program)
    (hattends : ∀ command ∈ commands, attends command = true) :
    (after perform c commands).Tallied setup program material a := by
  induction commands generalizing c with
  | nil => exact h
  | cons command rest ih =>
    have hfirst : attends command = true := hattends command List.mem_cons_self
    exact ih (h.perform hplays hplayable hfirst) (hplays.perform (loads_of_attends hfirst))
      fun later hlater => hattends later (List.mem_cons_of_mem _ hlater)

/-- Starting a program that was just loaded sets out for its first statement from the reference
point, with nothing gathered. -/
theorem due_start (c : Controller) (hparse : Program.parse text = .ok program) :
    ∃ d, (perform (.load text) c).state.readied .start = some d ∧
      d.Due c.setup program c.material ⟨c.meter.reset, c.tools⟩ := by
  have hhome : (c.setup.machineAt program ((0 : Nat) - 1)).position = c.profile.home := by
    rw [Setup.machineAt_pred rfl]
    rfl
  have hcursor : (c.loaded text program).started.cursor = 0 := ite_self 0
  rw [(perform_load hparse c).2]
  refine ⟨(c.loaded text program).started, rfl, rfl, rfl, ?_, ?_⟩
  · rw [hcursor]
    rfl
  · rw [hcursor, hhome]
    rfl

/-- Wherever a controller has got to, let a program be loaded whose replays do not end in faults,
and started, and then let the clock tick, while the operator confirms tool changes, sets the spindle
and the feed, in any order and number. Then the wear of the tools and what is gathered are those of
charging each statement up to the cursor once, in their order. -/
theorem charged_once (profile : Profile) (tools : ToolTable) (history : List Command)
    (hparse : Program.parse text = .ok program)
    (hplayable : (after perform (withTools profile tools) history).setup.Playable program)
    (hattends : ∀ command ∈ commands, attends command = true) :
    let c := after perform (withTools profile tools) history
    let d := after perform c (.load text :: .start :: commands)
    d.account = c.setup.tally program c.material ⟨c.meter.reset, c.tools⟩ (d.cursor + 1) := by
  intro c d
  have hc : c.InOrder := inOrder_after profile tools history
  have hloaded := plays_load hc hparse
  obtain ⟨due, hready, hdue⟩ := due_start c hparse
  have hstarted := hloaded.tallied_perform hplayable rfl hready hdue
  have hafter := tallied_after hstarted (hloaded.perform rfl) hplayable hattends
  have hd : d = after perform (perform .start (perform (.load text) c).state).state commands := by
    show after perform c (.load text :: .start :: commands) = _
    rw [after, after]
  rw [hd]
  exact hafter.account_eq

def resetBetweenCuts : String := "T0101\nM3\nG1 X40 Z0\nM100 Z-10\nG1 Z-11"

/-- A reset between two cuts, with a move of its own. -/
def resetProgram : List Statement := [
  { kind := .tool, code := some (.whole 101), params := [], line := 1, raw := "T0101",
    codeText := "0101" },
  { kind := .miscellaneous, code := some (.whole 3), params := [], line := 2, raw := "M3",
    codeText := "3" },
  { kind := .preparatory, code := some (.whole 1), params := [('X', 40.0), ('Z', 0.0)], line := 3,
    raw := "G1 X40 Z0", codeText := "1" },
  { kind := .miscellaneous, code := some (.whole 100), params := [('Z', -10.0)], line := 4,
    raw := "M100 Z-10", codeText := "100" },
  { kind := .preparatory, code := some (.whole 1), params := [('Z', -11.0)], line := 5,
    raw := "G1 Z-11", codeText := "1" }]

theorem parse_resetBetweenCuts : Program.parse resetBetweenCuts = .ok resetProgram :=
  parse_eq_ok_of_toOption (by decide +kernel)

/-- The clock ticks before the tool change is confirmed, and the operator sets the feed and the
spindle on the way. -/
def distractions : List Command :=
  [.tick, .setFeed 50.0, .confirmToolChange, .tick, .tick, .setManual ⟨.clockwise, 200.0⟩, .tick,
    .confirmToolChange, .setFeed 120.0, .tick]

/-- In aluminium, the move of the reset wears the tool by one percent, and the last cut is gathered.
-/
theorem charged_once_resetBetweenCuts :
    let c := after perform (withTools .lathe Profile.lathe.toolTable) [.setMaterial .aluminum]
    let d := after perform c (.load resetBetweenCuts :: .start :: distractions)
    Program.parse resetBetweenCuts = .ok resetProgram ∧ c.setup.Playable resetProgram ∧
      (∀ command ∈ distractions, attends command = true) ∧
      d.account = c.setup.tally resetProgram c.material ⟨c.meter.reset, c.tools⟩ 5 ∧
      d.tools.wear 1 = some 1.0 ∧ d.meter.pending = 0.1 := by
  have hplayable : (after perform (withTools .lathe Profile.lathe.toolTable)
      [.setMaterial .aluminum]).setup.Playable resetProgram := by decide +kernel
  have hattends : ∀ command ∈ distractions, attends command = true := by
    simp [distractions, attends]
  have hcharged := charged_once .lathe Profile.lathe.toolTable [.setMaterial .aluminum]
    parse_resetBetweenCuts hplayable hattends
  have hend : let d := after perform (after perform (withTools .lathe Profile.lathe.toolTable)
      [.setMaterial .aluminum]) (.load resetBetweenCuts :: .start :: distractions)
      d.cursor = 4 ∧ d.tools.wear 1 = some 1.0 ∧ d.meter.pending = 0.1 := by
    -- the program was read already, so the run need not read it again
    rw [after_load parse_resetBetweenCuts]
    decide +kernel
  generalize after perform (withTools .lathe Profile.lathe.toolTable) [.setMaterial .aluminum] =
    start at hplayable hcharged hend ⊢
  obtain ⟨hcursor, hwear, hpending⟩ := hend
  dsimp only at hcharged ⊢
  rw [hcursor] at hcharged
  exact ⟨parse_resetBetweenCuts, hplayable, hattends, hcharged, hwear, hpending⟩

end Controller

end Lathe
