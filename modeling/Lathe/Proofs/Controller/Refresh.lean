import Lathe.Controller.Run
import Lathe.Proofs.Action
import Lathe.Proofs.Replay.Geometry
import Lathe.Proofs.Replay.Halt

/-!
# What a refresh does

A refresh is described here by a function on controllers, `Controller.refreshed`, that replays the
program whenever it needs an outcome and never looks at the memo. The memo is only a store of such
outcomes: as long as it is sound, `refresh` and `refreshed` agree on everything else.

* `Controller.MemoSound`: the memo is not ahead of the tool table, and what it keeps for the table
  as it is are the outcomes of replays.
* `Controller.refresh_yields`: on a sound memo, a refresh does what `refreshed` says and leaves a
  sound memo.
-/

namespace Lathe.Controller

open Lathe.Action

variable {c d : Controller} {index : Int} {error : Finding} {outcome : Outcome} {m : Machine}

/-! ## Refreshing without a memo -/

/-- The replay of the program up to a cursor. -/
def replayTo (c : Controller) (cursor : Int) : Except Fault Outcome :=
  c.setup.replay c.program cursor

/-- The machine of the replay up to a cursor; a replay that does not get there changes nothing. -/
def machineTo (c : Controller) (cursor : Int) : Machine :=
  match c.replayTo cursor with
  | .ok (.done _ m _ _) => m
  | _ => c.machine

/-- A replay that is done gives its machine. -/
theorem machineTo_of_replay {last : Int} {signals : List Signal} {warnings : List Finding}
    (h : c.replayTo index = .ok (.done last m signals warnings)) : c.machineTo index = m := by
  unfold machineTo
  rw [h]

/-- The controller after it has forgotten a tool change asked for behind the cursor. -/
def unprompted (c : Controller) : Controller :=
  { c with
    pending := if c.rewound then none else c.pending
    prompted := if c.rewound then none else c.prompted }

/-- The tool change that the operator is asked for when an outcome is displayed: the one that the
statement at the cursor requests, while running and unless the operator was asked there before. -/
def request? (outcome : Outcome) (c : Controller) : Option Signal :=
  if c.mode = .running ∧ c.prompted ≠ some c.cursor then outcome.signal? .toolChange else none

/-- The tools after the wear reset that the statement at the cursor requests. -/
def renewedTools (outcome : Outcome) (c : Controller) : ToolTable :=
  match outcome.signal? .wearReset with
  | some reset => if c.mode = .running then c.tools.resetWear reset.tool else c.tools
  | none => c.tools

/-- The meter after the wear reset that the statement at the cursor requests. -/
def renewedMeter (outcome : Outcome) (c : Controller) : WearMeter :=
  match outcome.signal? .wearReset with
  | some _ => if c.mode = .running then c.meter.reset else c.meter
  | none => c.meter

/-- The controller after an outcome is displayed: the operator is asked for a tool change, wear is
reset, and the tool is charged for the move. -/
def advanced (outcome : Outcome) (m : Machine) (c : Controller) : Controller :=
  let worn := (c.renewedMeter outcome).update (c.renewedTools outcome) c.previous m c.material
  { c with
    mode := if (c.request? outcome).isSome then .paused else c.mode
    pending := (c.request? outcome).or c.pending
    prompted := if (c.request? outcome).isSome then some c.cursor else c.prompted
    meter := worn.1
    tools := worn.2.1
    delta := worn.2.2
    machine := m
    previous := m.position }

/-- The controller after an alarm, with the machine to be displayed. -/
def stopped (error : Finding) (m : Machine) (c : Controller) : Controller :=
  { c with alarm := some error, mode := .alarm, machine := m, previous := m.position }

/-- What a refresh answers, and the controller after it, the memo aside. -/
def refreshed (c : Controller) : Except Fault Unit × Controller :=
  if c.mode = .alarm then (.ok (), c)
  else if c.mode = .idle then (.ok (), c.rest)
  else if c.program = [] then (.ok (), c.unprompted)
  else
    match c.replayTo c.cursor with
    | .error fault => (.error fault, c.unprompted)
    | .ok (.halted index error _) => (.ok (), c.unprompted.stopped error (c.machineTo index))
    | .ok (.done index m signals warnings) =>
      (.ok (), c.unprompted.advanced (.done index m signals warnings) m)

/-- The ways in which a refresh ends, one case for each. -/
inductive Refreshes (c : Controller) : Except Fault Unit → Controller → Prop
  | alarmed (hmode : c.mode = .alarm) : Refreshes c (.ok ()) c
  | resting (hmode : c.mode = .idle) : Refreshes c (.ok ()) c.rest
  | blank (hmode : c.mode = .running ∨ c.mode = .paused) (hprogram : c.program = []) :
      Refreshes c (.ok ()) c.unprompted
  | faulty {fault : Fault} (hmode : c.mode = .running ∨ c.mode = .paused)
      (hprogram : c.program ≠ []) (hreplay : c.replayTo c.cursor = .error fault) :
      Refreshes c (.error fault) c.unprompted
  | halted {index : Int} {error : Finding} {warnings : List Finding}
      (hmode : c.mode = .running ∨ c.mode = .paused) (hprogram : c.program ≠ [])
      (hreplay : c.replayTo c.cursor = .ok (.halted index error warnings)) :
      Refreshes c (.ok ()) (c.unprompted.stopped error (c.machineTo index))
  | done {index : Int} {m : Machine} {signals : List Signal} {warnings : List Finding}
      (hmode : c.mode = .running ∨ c.mode = .paused) (hprogram : c.program ≠ [])
      (hreplay : c.replayTo c.cursor = .ok (.done index m signals warnings)) :
      Refreshes c (.ok ()) (c.unprompted.advanced (.done index m signals warnings) m)

/-- A refresh ends in one of these ways. -/
theorem refreshes_refreshed (c : Controller) : Refreshes c c.refreshed.1 c.refreshed.2 := by
  have hmode (halarm : c.mode ≠ .alarm) (hidle : c.mode ≠ .idle) :
      c.mode = .running ∨ c.mode = .paused := by
    cases h : c.mode with
    | idle => exact absurd h hidle
    | running => exact .inl rfl
    | paused => exact .inr rfl
    | alarm => exact absurd h halarm
  fun_cases refreshed c with
  | case1 halarm => exact .alarmed halarm
  | case2 _ hidle => exact .resting hidle
  | case3 halarm hidle hprogram => exact .blank (hmode halarm hidle) hprogram
  | case4 halarm hidle hprogram fault hreplay =>
    exact .faulty (hmode halarm hidle) hprogram hreplay
  | case5 halarm hidle hprogram index error warnings hreplay =>
    exact .halted (hmode halarm hidle) hprogram hreplay
  | case6 halarm hidle hprogram index m signals warnings hreplay =>
    exact .done (hmode halarm hidle) hprogram hreplay

/-- The way in which a refresh ends says what it answers and leaves. -/
theorem Refreshes.refreshed_eq {answer : Except Fault Unit} (h : Refreshes c answer d) :
    c.refreshed = (answer, d) := by
  cases h with
  | alarmed hmode => simp [refreshed, hmode]
  | resting hmode => simp [refreshed, hmode]
  | blank hmode hprogram => rcases hmode with hmode | hmode <;> simp [refreshed, hmode, hprogram]
  | faulty hmode hprogram hreplay =>
    rcases hmode with hmode | hmode <;> simp [refreshed, hmode, hprogram, hreplay]
  | halted hmode hprogram hreplay =>
    rcases hmode with hmode | hmode <;> simp [refreshed, hmode, hprogram, hreplay]
  | done hmode hprogram hreplay =>
    rcases hmode with hmode | hmode <;> simp [refreshed, hmode, hprogram, hreplay]

/-- A refresh keeps the cursor, the program and the lathe. -/
theorem Refreshes.frame {answer : Except Fault Unit} (h : Refreshes c answer d) :
    d.cursor = c.cursor ∧ d.program = c.program ∧ d.profile = c.profile := by
  cases h <;> exact ⟨rfl, rfl, rfl⟩

/-- The controller with another memo, which may or may not be kept up. -/
def withMemo (memo : Memo) (memoises : Bool) (c : Controller) : Controller :=
  { c with memo, memoises }

/-- A refresh is the same whatever the memo holds. -/
theorem refreshed_withMemo (memo : Memo) (memoises : Bool) (c : Controller) :
    (c.withMemo memo memoises).refreshed =
      (c.refreshed.1, c.refreshed.2.withMemo memo memoises) := by
  -- every test that a refresh makes reads the same on both sides
  have hreplay : (c.withMemo memo memoises).replayTo c.cursor = c.replayTo c.cursor := rfl
  unfold refreshed
  show (if c.mode = .alarm then _ else if c.mode = .idle then _ else
    if c.program = [] then _ else match (c.withMemo memo memoises).replayTo c.cursor with
      | .error _ => _ | .ok (.halted ..) => _ | .ok (.done ..) => _) = _
  rw [hreplay]
  split
  · rfl
  split
  · rfl
  split
  · rfl
  split <;> rfl

/-! ## The parts of a refresh -/

@[simp]
theorem result_setMode (mode : RunMode) (c : Controller) :
    (setMode mode).result c = (.ok (), { c with mode }) := rfl

/-- Asking for a tool change does nothing where the operator was asked before. -/
theorem result_requestToolChange (request : Signal) (c : Controller) :
    (requestToolChange request).result c =
      (.ok (), if c.prompted = some c.cursor then c
        else { c with pending := some request, prompted := some c.cursor, mode := .paused }) := by
  unfold requestToolChange
  by_cases h : c.prompted = some c.cursor
  · simp [h]
  · simp only [result_observe_bind, h, decide_false, Bool.false_eq_true, ↓reduceIte,
      result_report_bind, result_change_bind, result_setMode]

/-- Obeying the statement at the cursor does what it requests, and nothing that it does not. -/
theorem result_obeySignals (outcome : Outcome) {c : Controller} (hrunning : c.mode = .running) :
    (obeySignals outcome).result c =
      (.ok (), { c with
        mode := if (c.request? outcome).isSome then .paused else c.mode
        pending := (c.request? outcome).or c.pending
        prompted := if (c.request? outcome).isSome then some c.cursor else c.prompted
        tools := c.renewedTools outcome
        meter := c.renewedMeter outcome }) := by
  unfold obeySignals request? renewedTools renewedMeter
  -- a tool change and a wear reset are requested independently of each other
  cases outcome.signal? .toolChange with
  | none => cases outcome.signal? .wearReset <;> simp [if_pos hrunning, resetWear]
  | some request =>
    simp only [result_bind_of_ok (result_requestToolChange request c)]
    by_cases hasked : c.prompted = some c.cursor
    · have hkeep : ¬(c.mode = .running ∧ c.prompted ≠ some c.cursor) := fun h => h.2 hasked
      cases outcome.signal? .wearReset <;>
        simp [if_pos hasked, if_neg hkeep, if_pos hrunning, resetWear]
    · have hask : c.mode = .running ∧ c.prompted ≠ some c.cursor := ⟨hrunning, hasked⟩
      cases outcome.signal? .wearReset <;>
        simp [if_neg hasked, if_pos hask, if_pos hrunning, resetWear]

/-- Obeying the statement at the cursor, while running, and moving to its machine displays the
outcome. -/
theorem result_obeySignals_moveTo (outcome : Outcome) (m : Machine) (c : Controller) :
    result (if c.mode = .running then obeySignals outcome >>= fun _ => moveTo m else moveTo m) c =
      (.ok (), c.advanced outcome m) := by
  by_cases hrunning : c.mode = .running
  · rw [if_pos hrunning, result_bind_of_ok (result_obeySignals outcome hrunning)]
    rfl
  · rw [if_neg hrunning]
    unfold advanced request? renewedTools renewedMeter
    cases outcome.signal? .wearReset <;> simp [hrunning] <;> rfl

/-! ## Soundness of the memo -/

/-- The memo of a controller tells the truth: it is not ahead of the tool table, and an outcome that
it keeps for the table as it is is the outcome of the replay. -/
structure MemoSound (c : Controller) : Prop where
  /-- The memo is for this table or for an earlier one. -/
  revision_le : c.memo.revision ≤ c.tools.revision
  /-- An outcome kept for this table is right. -/
  replayTo_eq : c.memo.revision = c.tools.revision →
    ∀ cursor outcome, c.memo.get? cursor = some outcome → c.replayTo cursor = .ok outcome

namespace MemoSound

/-- A controller that has kept its memo and its program, and of whose tools at most the wear was
set, has kept a sound memo. -/
theorem congr (h : c.MemoSound) (hmemo : d.memo = c.memo) (hprofile : d.profile = c.profile)
    (hprogram : d.program = c.program) (htools : c.tools.WornTo d.tools) : d.MemoSound := by
  have hle := h.revision_le
  rcases htools.eq_or_lt with heq | hlt
  · refine ⟨by rw [hmemo, heq]; exact hle, ?_⟩
    unfold replayTo setup
    rw [hmemo, hprofile, hprogram, heq]
    exact h.replayTo_eq
  · -- a table that has changed has left the memo behind
    refine ⟨by rw [hmemo]; omega, ?_⟩
    intro hrevision
    rw [hmemo] at hrevision
    omega

/-- A controller whose memo is empty, and not ahead of the tool table, has a sound memo. -/
theorem of_outcomes_eq_nil (hle : c.memo.revision ≤ c.tools.revision)
    (hnil : c.memo.outcomes = []) : c.MemoSound := by
  refine ⟨hle, ?_⟩
  intro _ cursor outcome hget
  rw [Memo.get?, hnil] at hget
  cases hget

/-- The memo stays sound when outcomes for an earlier table are dropped. -/
theorem forRevision (h : c.MemoSound) :
    { c with memo := c.memo.forRevision c.tools.revision }.MemoSound := by
  unfold Memo.forRevision
  split
  · exact h
  · exact of_outcomes_eq_nil (Nat.le_refl _) rfl

/-- The memo stays sound when the outcome of a replay is kept. -/
theorem insert (h : c.MemoSound) {cursor : Int} (hreplay : c.replayTo cursor = .ok outcome) :
    { c with memo := c.memo.insert cursor outcome }.MemoSound := by
  refine ⟨h.revision_le, ?_⟩
  intro hrevision cursor' outcome' hget
  change List.lookup cursor' ((cursor, outcome) :: c.memo.outcomes) = some outcome' at hget
  rw [List.lookup_cons] at hget
  -- the outcome comes from the new entry, or from those that were kept before
  split at hget
  next heq =>
    rw [beq_iff_eq] at heq
    subst heq
    rw [← Option.some.inj hget]
    exact hreplay
  next => exact h.replayTo_eq hrevision cursor' outcome' hget

end MemoSound

/-- Displaying an outcome sets at most the wear of tools. -/
theorem wornTo_advanced (outcome : Outcome) (m : Machine) (c : Controller) :
    c.tools.WornTo (c.advanced outcome m).tools := by
  have hrenewed : c.tools.WornTo (c.renewedTools outcome) := by
    unfold renewedTools ToolTable.resetWear
    split
    · split
      · exact .setWear _ _ _
      · exact .refl _
    · exact .refl _
  exact hrenewed.trans (.update _ _ _ _ _)

/-! ## Refreshing with a memo -/

/-- From `c`, an action has the result `expected`, the memo aside, and leaves a sound memo. -/
def Yields {α : Type} (action : Action Controller α) (c : Controller)
    (expected : Except Fault α × Controller) : Prop :=
  ∃ memo, action.result c = (expected.1, expected.2.withMemo memo c.memoises) ∧
    (expected.2.withMemo memo c.memoises).MemoSound

/-- An outcome is that of the replay, whether or not it comes from the memo. -/
theorem outcomeAt_yields (h : c.MemoSound) (cursor : Int) :
    Yields (outcomeAt cursor) c (c.replayTo cursor, c) := by
  have hsound := h.forRevision
  have hrevision : (c.memo.forRevision c.tools.revision).revision = c.tools.revision := by
    unfold Memo.forRevision
    split
    next heq => exact heq
    next => rfl
  unfold outcomeAt
  rw [Yields, result_change_bind, result_observe_bind]
  -- from here on `memo` is the memo brought up to date: it is sound and for this very table
  generalize c.memo.forRevision c.tools.revision = memo at hsound hrevision ⊢
  cases hknown : if c.memoises then memo.get? cursor else none with
  | some outcome =>
    have hget : memo.get? cursor = some outcome := by
      by_cases hmemoises : c.memoises = true
      · rwa [if_pos hmemoises] at hknown
      · rw [if_neg hmemoises] at hknown
        cases hknown
    -- what the memo keeps is what a replay would give
    have hreplay : c.replayTo cursor = .ok outcome :=
      hsound.replayTo_eq hrevision cursor outcome hget
    exact ⟨memo, by rw [hreplay]; rfl, hsound⟩
  | none =>
    rw [result_report_bind, result_observe_bind]
    -- nothing that a replay reads has changed since the memo was brought up to date
    show ∃ memo', result (ofExcept (c.replayTo cursor) >>= _) _ = _ ∧ _
    cases hreplay : c.replayTo cursor with
    | error fault => exact ⟨memo, rfl, hsound⟩
    | ok outcome =>
      by_cases hmemoises : c.memoises = true
      · refine ⟨memo.insert cursor outcome, ?_, hsound.insert hreplay⟩
        rw [result_bind_of_ok (result_ofExcept _ _), result_change_bind, if_pos hmemoises]
        rfl
      · refine ⟨memo, ?_, hsound⟩
        rw [result_bind_of_ok (result_ofExcept _ _), result_change_bind, if_neg hmemoises]
        rfl

/-- An alarm displays the machine of a replay that is done. -/
theorem raiseAlarm_yields (h : c.MemoSound) {last : Int} {signals : List Signal}
    {warnings : List Finding} (hreplay : c.replayTo index = .ok (.done last m signals warnings)) :
    Yields (raiseAlarm index error) c (.ok (), c.stopped error m) := by
  have halarmed : { c with alarm := some error, mode := .alarm }.MemoSound :=
    h.congr rfl rfl rfl (.refl _)
  obtain ⟨memo, hresult, hsound⟩ := outcomeAt_yields halarmed index
  -- the alarm does not touch what replays depend on
  have hfallback : { c with alarm := some error, mode := .alarm }.replayTo index =
      .ok (.done last m signals warnings) := hreplay
  rw [hfallback] at hresult
  refine ⟨memo, ?_, hsound.congr rfl rfl rfl (.refl _)⟩
  unfold raiseAlarm
  rw [result_change_bind, result_bind_of_ok (result_setMode _ _), result_report_bind,
    result_bind_of_ok hresult]
  rfl

/-- Displaying the machine at the cursor: a replay that ends in a fault changes nothing, one that
halts gives an alarm, and one that is done is obeyed and displayed. -/
theorem showCursor_yields (h : c.MemoSound) :
    Yields showCursor c
      (match c.replayTo c.cursor with
      | .error fault => (.error fault, c)
      | .ok (.halted index error _) => (.ok (), c.stopped error (c.machineTo index))
      | .ok (.done index m signals warnings) =>
        (.ok (), c.advanced (.done index m signals warnings) m)) := by
  obtain ⟨memo, hresult, hsound⟩ := outcomeAt_yields h c.cursor
  unfold showCursor
  rw [Yields, result_observe_bind]
  cases hreplay : c.replayTo c.cursor with
  | error fault =>
    rw [hreplay] at hresult
    exact ⟨memo, result_bind_of_error hresult, hsound⟩
  | ok outcome =>
    rw [hreplay] at hresult
    rw [result_bind_of_ok hresult]
    cases outcome with
    | halted index error warnings =>
      -- the replay up to the statement before the obstacle is done, so the alarm has a machine
      obtain ⟨b, s, m, signals, -, -, rfl, -, hdone, -⟩ := Setup.replay_eq_halted hreplay
      have hmachine : c.machineTo (b - 1) = m := machineTo_of_replay hdone
      have halarm : Yields (raiseAlarm (b - 1) error) (c.withMemo memo c.memoises)
          (.ok (), (c.withMemo memo c.memoises).stopped error m) := raiseAlarm_yields hsound hdone
      rw [← hmachine] at halarm
      exact halarm
    | done index m signals warnings =>
      refine ⟨memo, ?_, hsound.congr rfl rfl rfl (wornTo_advanced _ m c)⟩
      rw [result_observe_bind]
      simp only [decide_eq_true_eq]
      exact result_obeySignals_moveTo _ m (c.withMemo memo c.memoises)

/-- On a sound memo, a refresh does what `refreshed` says. -/
theorem refresh_yields (h : c.MemoSound) : Yields refresh c c.refreshed := by
  unfold refresh refreshed
  rw [Yields, result_observe_bind]
  by_cases halarm : c.mode = .alarm
  · -- in an alarm nothing is done, and no prompt is forgotten
    simp only [id, halarm, ↓reduceIte, result_pure]
    exact ⟨c.memo, rfl, h⟩
  have hforget : (if c.rewound then c.forgetPrompt else c) = c.unprompted := by
    unfold unprompted
    split <;> rfl
  have hunprompted : c.unprompted.MemoSound := h.congr rfl rfl rfl (.refl _)
  simp only [id, halarm, ↓reduceIte, result_change_bind, hforget, result_ite, List.isEmpty_iff]
  by_cases hidle : c.mode = .idle
  · simp only [hidle, ↓reduceIte]
    exact ⟨c.memo, rfl, h.congr rfl rfl rfl (.refl _)⟩
  by_cases hprogram : c.program = []
  · simp only [hidle, hprogram, ↓reduceIte]
    exact ⟨c.memo, rfl, hunprompted⟩
  · simp only [hidle, hprogram, ↓reduceIte]
    exact showCursor_yields hunprompted

end Lathe.Controller
