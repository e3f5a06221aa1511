import Lathe.Proofs.Controller.Refresh

/-!
# What an operation does

Every operation of the controller either ends by refreshing what is displayed or leaves the display
alone. `Controller.readied` is the controller that an operation refreshes, and
`Controller.unrefreshed` is the result of an operation that does not refresh; `perform_result` says
that there is nothing else to an operation.

* `readies_of_readied`, `leaves_unrefreshed`: the ways in which an operation readies a controller
  to be refreshed, and in which it leaves one without refreshing it, as two lists of cases.
* `perform_yields`: on a sound memo, an operation does what `performed` says.
* `perform_cases`: what an operation can do, for proofs by cases.
-/

namespace Lathe.Controller

open Lathe.Action

variable {c d : Controller} {command : Command} {commands : List Command}

/-! ## Operations -/

/-- The controller at the first statement, at rest and without an alarm. -/
def rewoundToStart (c : Controller) : Controller :=
  { c.forgetPrompt with cursor := 0, alarm := none, meter := c.meter.reset, mode := .idle }

/-- The controller after a tool change was confirmed, if there was one to confirm. -/
def confirmed (c : Controller) : Controller :=
  { c with
    pending := none
    mode := if c.pending.isSome ∧ c.mode = .paused then .running else c.mode }

/-- The controller when a run begins or goes on: a run that has ended begins anew. -/
def started (c : Controller) : Controller :=
  { c with cursor := if c.atEnd then 0 else c.cursor, mode := .running }

/-- The controller when a run goes on by one statement, or ends. -/
def ticked (c : Controller) : Controller :=
  if c.atEnd then { c with mode := .idle } else { c with cursor := c.cursor + 1 }

/-- The controller with the cursor moved to a place within the program. -/
def movedTo (index : Int) (c : Controller) : Controller :=
  { c with cursor := (min index (c.program.length - 1 : Nat)).toNat }

/-- The controller with another program in its place. -/
def withProgram (text : String) (program : List Statement) (c : Controller) : Controller :=
  { c with text, program, warnings := Program.warnings text, memo := c.memo.clear }

/-- The controller that an operation refreshes at its end, if it does. -/
def readied (c : Controller) : Command → Option Controller
  | .load text =>
    match Program.parse text with
    | .ok program => some (c.withProgram text program).rewoundToStart
    | .error _ => none
  | .start =>
    if c.pending = none ∧ (c.mode = .idle ∨ c.mode = .paused) then some c.started else none
  | .reset => some c.rewoundToStart
  | .tick => if c.mode = .running then some c.ticked else none
  | .seek index => if c.mode = .alarm then none else some (c.movedTo index)
  | .refresh => some c
  | .setManual manual => if c.mode = .idle then some { c with manual } else none
  | .pause | .confirmToolChange | .setFeed _ | .setMaterial _ => none

/-- What an operation that refreshes answers. -/
def reply : Command → Option Bool
  | .start => some true
  | _ => none

/-- The answer of an operation that does not refresh, and the controller after it. -/
def unrefreshed (c : Controller) : Command → Except Fault (Option Bool) × Controller
  | .load text => ((Program.parse text).map fun _ => none, { c with text })
  | .start =>
    if c.mode = .alarm then (.ok (some false), c) else (.ok (some true), c.confirmed)
  | .pause => (.ok none, if c.mode = .alarm then c else { c with mode := .paused })
  | .confirmToolChange => (.ok (some c.pending.isSome), c.confirmed)
  | .setManual manual => (.ok none, { c with manual })
  | .setFeed percent =>
    match truncate percent with
    | .ok n => (.ok none, c.withFeed n)
    | .error fault => (.error fault, c)
  | .setMaterial material => (.ok none, { c with material })
  | .reset | .tick | .seek _ | .refresh => (.ok none, c)

/-- Without a tool change to confirm, confirming changes nothing. -/
theorem confirmed_of_pending_eq_none (h : c.pending = none) : c.confirmed = c := by
  have hmode :
      (if c.pending.isSome ∧ c.mode = .paused then RunMode.running else c.mode) = c.mode := by
    simp [h]
  unfold confirmed
  rw [hmode, ← h]

/-- Confirming a tool change never ends in a fault. -/
theorem result_confirmToolChange (c : Controller) :
    confirmToolChange.result c = (.ok c.pending.isSome, c.confirmed) := by
  unfold confirmToolChange
  rw [result_observe_bind]
  cases hpending : c.pending with
  | none =>
    rw [confirmed_of_pending_eq_none hpending]
    rfl
  | some request =>
    unfold confirmed
    by_cases hpaused : c.mode = .paused
    · simp [hpending, hpaused, result_bind_of_ok (result_setMode _ _)]
    · simp [hpending, hpaused]

/-- Going back to the first statement is getting there and refreshing. -/
theorem result_reset (c : Controller) : reset.result c = refresh.result c.rewoundToStart := rfl

/-- Loading a program keeps a text that cannot be read, and otherwise goes back to the start of the
program that was read. -/
theorem result_load (text : String) (c : Controller) :
    (load text).result c =
      match Program.parse text with
      | .error fault => (.error fault, { c with text })
      | .ok program =>
        refresh.result (c.withProgram text program).rewoundToStart := by
  unfold load
  rw [result_change_bind]
  cases Program.parse text with
  | error fault => rfl
  | ok program =>
    rw [result_bind_of_ok (result_ofExcept _ _), result_change_bind, result_report_bind,
      result_reset]
    rfl

/-- Starting confirms a tool change that is pending; a run that has ended starts anew. -/
theorem result_start (c : Controller) :
    start.result c =
      if c.mode = .alarm then (.ok false, c)
      else if c.pending.isSome then confirmToolChange.result c
      else if c.mode = .idle ∨ c.mode = .paused then
        ((refresh.result c.started).1.map fun _ => true, (refresh.result c.started).2)
      else (.ok true, c) := by
  -- the code chooses between two controllers, `started` between two cursors
  have hcursor : (if c.atEnd then { c with cursor := 0 } else c) =
      { c with cursor := if c.atEnd then 0 else c.cursor } := by
    split <;> rfl
  unfold start
  simp only [result_observe_bind, id, result_ite, result_pure, result_change_bind, hcursor,
    result_bind_of_ok (result_setMode _ _), result_bind_pure]
  rfl

/-- Pausing is ignored in an alarm. -/
theorem result_pause (c : Controller) :
    pause.result c = (.ok (), if c.mode = .alarm then c else { c with mode := .paused }) := by
  unfold pause
  by_cases h : c.mode = .alarm
  · simp [h]
  · simp [h]

/-- A tick goes on by one statement, or ends the run, and refreshes. -/
theorem result_tick (c : Controller) :
    tick.result c =
      if c.mode = .running then refresh.result c.ticked else (.ok (), c) := by
  unfold tick ticked
  by_cases hrunning : c.mode = .running
  · by_cases hend : c.atEnd = true
    · simp [hrunning, hend, result_bind_of_ok (result_setMode _ _)]
    · simp [hrunning, hend]
  · simp [hrunning]

/-- Moving the cursor is ignored in an alarm. -/
theorem result_seek (index : Int) (c : Controller) :
    (seek index).result c =
      if c.mode = .alarm then (.ok (), c)
      else refresh.result (c.movedTo index) := by
  unfold seek movedTo
  by_cases h : c.mode = .alarm
  · simp [h]
  · simp [h]

/-- Setting the spindle by hand shows at once only at rest. -/
theorem result_setManual (manual : ManualSpindle) (c : Controller) :
    (setManual manual).result c =
      if c.mode = .idle then refresh.result { c with manual } else (.ok (), { c with manual }) := by
  unfold setManual
  by_cases h : c.mode = .idle
  · simp [h]
  · simp [h]

/-- Setting the feed override to what is not a number of percent does nothing. -/
theorem result_setFeed (percent : Float) (c : Controller) :
    (setFeed percent).result c =
      match truncate percent with
      | .ok n => (.ok (), c.withFeed n)
      | .error fault => (.error fault, c) := by
  unfold setFeed
  cases truncate percent <;> rfl

/-- An operation either refreshes the controller that it has readied or does not refresh. -/
theorem perform_result (command : Command) (c : Controller) :
    (perform command).result c =
      match c.readied command with
      | some d => ((refresh.result d).1.map fun _ => reply command, (refresh.result d).2)
      | none => c.unrefreshed command := by
  cases command with
  | load text =>
    rw [perform, result_bind_pure, result_load, readied, unrefreshed]
    cases Program.parse text <;> rfl
  | start =>
    rw [perform, result_bind_pure, result_start, readied, unrefreshed]
    -- refused in an alarm, a confirmation while a change is pending, and otherwise a start proper
    by_cases halarm : c.mode = .alarm
    · simp [halarm, Except.map]
    cases hpending : c.pending with
    | some request => simp [halarm, hpending, result_confirmToolChange, Except.map]
    | none =>
      by_cases hready : c.mode = .idle ∨ c.mode = .paused
      · simp only [halarm, hready, Option.isSome_none, Bool.false_eq_true, and_self, ↓reduceIte]
        cases (refresh.result c.started).1 <;> rfl
      · -- a run that goes on already is left alone
        rw [confirmed_of_pending_eq_none hpending]
        simp [halarm, hready, Except.map]
  | pause => rw [perform, result_bind_pure, result_pause]; rfl
  | reset => rw [perform, result_bind_pure, result_reset]; rfl
  | confirmToolChange => rw [perform, result_bind_pure, result_confirmToolChange]; rfl
  | tick =>
    rw [perform, result_bind_pure, result_tick, readied]
    split <;> rfl
  | seek index =>
    rw [perform, result_bind_pure, result_seek, readied]
    split <;> rfl
  | refresh => exact result_bind_pure refresh _ c
  | setManual manual =>
    rw [perform, result_bind_pure, result_setManual, readied]
    split <;> rfl
  | setFeed percent =>
    rw [perform, result_bind_pure, result_setFeed, readied, unrefreshed]
    cases truncate percent <;> rfl
  | setMaterial material => rfl

/-- What an operation answers, and the controller after it, the memo aside. -/
def performed (c : Controller) (command : Command) : Except Fault (Option Bool) × Controller :=
  match c.readied command with
  | some d => (d.refreshed.1.map fun _ => reply command, d.refreshed.2)
  | none => c.unrefreshed command

/-! ## Case analysis

What an operation can do, one case for each way. -/

/-- Whether an operation confirms a tool change that is pending. -/
def confirms : Command → Bool
  | .start | .confirmToolChange => true
  | _ => false

/-- The ways in which an operation readies a controller to be refreshed. -/
inductive Readies (c : Controller) : Command → Controller → Prop
  | load {text : String} {program : List Statement} (hparse : Program.parse text = .ok program) :
      Readies c (.load text) (c.withProgram text program).rewoundToStart
  | start (hpending : c.pending = none) (hmode : c.mode = .idle ∨ c.mode = .paused) :
      Readies c .start c.started
  | reset : Readies c .reset c.rewoundToStart
  | finish (hmode : c.mode = .running) (hend : c.atEnd = true) :
      Readies c .tick { c with mode := .idle }
  | advance (hmode : c.mode = .running) (hend : c.atEnd = false) :
      Readies c .tick { c with cursor := c.cursor + 1 }
  | seek (index : Int) (hmode : c.mode ≠ .alarm) : Readies c (.seek index) (c.movedTo index)
  | refresh : Readies c .refresh c
  | setManual (manual : ManualSpindle) (hmode : c.mode = .idle) :
      Readies c (.setManual manual) { c with manual }

/-- The ways in which an operation leaves a controller without refreshing it. -/
inductive Leaves (c : Controller) : Command → Controller → Prop
  | unchanged {command : Command}
      (hconfirms : confirms command = true → c.mode = .alarm ∨ c.pending = none) :
      Leaves c command c
  | unread (text : String) {fault : Fault} (hparse : Program.parse text = .error fault) :
      Leaves c (.load text) { c with text }
  | confirm {command : Command} {request : Signal} (hpending : c.pending = some request)
      (hcommand : command = .confirmToolChange ∨ command = .start ∧ c.mode ≠ .alarm) :
      Leaves c command c.confirmed
  | pause (hmode : c.mode ≠ .alarm) : Leaves c .pause { c with mode := .paused }
  | setManual (manual : ManualSpindle) (hmode : c.mode ≠ .idle) :
      Leaves c (.setManual manual) { c with manual }
  | setFeed (percent : Float) (n : Int) : Leaves c (.setFeed percent) (c.withFeed n)
  | setMaterial (material : Material) : Leaves c (.setMaterial material) { c with material }

/-- An operation readies a controller in one of these ways. -/
theorem readies_of_readied (h : c.readied command = some d) : Readies c command d := by
  unfold readied at h
  split at h
  next text =>
    split at h
    next program hparse => cases h; exact .load hparse
    next => cases h
  next =>
    split at h
    next hready => cases h; exact .start hready.1 hready.2
    next => cases h
  next => cases h; exact .reset
  next =>
    split at h
    next hmode =>
      cases h
      unfold ticked
      split
      next hend => exact .finish hmode hend
      next hend => exact .advance hmode (Bool.eq_false_iff.mpr hend)
    next => cases h
  next index =>
    split at h
    next => cases h
    next hmode => cases h; exact .seek index hmode
  next => cases h; exact .refresh
  next manual =>
    split at h
    next hmode => cases h; exact .setManual manual hmode
    next => cases h
  all_goals cases h

/-- An operation that readies nothing leaves a controller in one of these ways. -/
theorem leaves_unrefreshed (h : c.readied command = none) :
    Leaves c command (c.unrefreshed command).2 := by
  cases command with
  | load text =>
    rw [readied] at h
    split at h
    next => cases h
    next fault hparse => exact .unread text hparse
  | start =>
    rw [unrefreshed]
    split
    next halarm => exact .unchanged fun _ => .inl halarm
    next hmode =>
      cases hpending : c.pending with
      | some request => exact .confirm hpending (.inr ⟨rfl, hmode⟩)
      | none =>
        rw [confirmed_of_pending_eq_none hpending]
        exact .unchanged fun _ => .inr hpending
  | pause =>
    rw [unrefreshed]
    dsimp only
    split
    next => exact .unchanged nofun
    next hmode => exact .pause hmode
  | confirmToolChange =>
    rw [unrefreshed]
    cases hpending : c.pending with
    | some request => exact .confirm hpending (.inl rfl)
    | none =>
      rw [confirmed_of_pending_eq_none hpending]
      exact .unchanged fun _ => .inr hpending
  | setManual manual =>
    rw [readied] at h
    split at h
    next => cases h
    next hmode => exact .setManual manual hmode
  | setFeed percent =>
    rw [unrefreshed]
    split
    next n hn => exact .setFeed percent n
    next => exact .unchanged nofun
  | setMaterial material => exact .setMaterial material
  | reset => exact .unchanged nofun
  | tick => exact .unchanged nofun
  | seek index => exact .unchanged nofun
  | refresh => exact .unchanged nofun

/-! ## Operations with a memo -/

/-- Whether outcomes are kept does not change when an operation readies a controller, and a sound
memo stays sound. -/
theorem Readies.memoSound (h : Readies c command d) (hsound : c.MemoSound) :
    d.memoises = c.memoises ∧ d.MemoSound := by
  cases h with
  | load _ => exact ⟨rfl, .of_outcomes_eq_nil hsound.revision_le rfl⟩
  | refresh => exact ⟨rfl, hsound⟩
  | start | reset | finish | advance | seek | setManual =>
    exact ⟨rfl, hsound.congr rfl rfl rfl (.refl _)⟩

/-- The memo does not change when an operation does not refresh, and a sound memo stays sound. -/
theorem Leaves.memoSound (h : Leaves c command d) (hsound : c.MemoSound) :
    d = d.withMemo c.memo c.memoises ∧ d.MemoSound := by
  cases h with
  | unchanged => exact ⟨rfl, hsound⟩
  | unread | confirm | pause | setManual | setFeed | setMaterial =>
    exact ⟨rfl, hsound.congr rfl rfl rfl (.refl _)⟩

/-- On a sound memo, an operation does what `performed` says. -/
theorem perform_yields (h : c.MemoSound) (command : Command) :
    Yields (perform command) c (c.performed command) := by
  unfold Yields performed
  rw [perform_result]
  cases hready : c.readied command with
  | some d =>
    -- what is readied is as sound as what it was readied from, so its refresh goes by the book
    obtain ⟨hmemoises, hd⟩ := (readies_of_readied hready).memoSound h
    obtain ⟨memo, hresult, hsound⟩ := refresh_yields hd
    rw [hmemoises] at hresult hsound
    exact ⟨memo, by simp only [hresult], hsound⟩
  | none =>
    obtain ⟨heq, hsound⟩ := (leaves_unrefreshed hready).memoSound h
    refine ⟨c.memo, ?_, ?_⟩
    · exact Prod.ext rfl heq
    · exact heq ▸ hsound

/-- On a sound memo, an operation that readies a controller refreshes it, the memo aside. -/
theorem perform_of_readied (h : c.MemoSound) (hready : c.readied command = some d) :
    ∃ memo memoises,
      (perform command c).answer = d.refreshed.1.map (fun _ => reply command) ∧
      (perform command c).state = d.refreshed.2.withMemo memo memoises := by
  obtain ⟨memo, hresult, -⟩ := perform_yields h command
  unfold performed at hresult
  rw [hready] at hresult
  exact ⟨memo, c.memoises, congrArg Prod.fst hresult, congrArg Prod.snd hresult⟩

/-- On a sound memo, an operation either refreshes a controller that it has readied, the memo aside,
or leaves a controller without refreshing it. -/
theorem perform_cases (h : c.MemoSound) (command : Command) :
    (∃ d answer e memo memoises, Readies c command d ∧ Refreshes d answer e ∧
      (perform command c).answer = answer.map (fun _ => reply command) ∧
      (perform command c).state = e.withMemo memo memoises) ∨
    (∃ d, Leaves c command d ∧ (perform command c).state = d) := by
  cases hready : c.readied command with
  | some d =>
    obtain ⟨memo, memoises, hanswer, hstate⟩ := perform_of_readied h hready
    exact .inl ⟨d, d.refreshed.1, d.refreshed.2, memo, memoises, readies_of_readied hready,
      refreshes_refreshed d, hanswer, hstate⟩
  | none =>
    have hresult := perform_result command c
    rw [hready] at hresult
    exact .inr ⟨_, leaves_unrefreshed hready, congrArg Prod.snd hresult⟩

/-- An operation without a fault does so by a refresh without a fault. -/
theorem perform_cases_of_ok (h : c.MemoSound)
    (hanswer : (perform command c).answer.toBool = true) :
    (∃ d e memo memoises, Readies c command d ∧ Refreshes d (.ok ()) e ∧
      (perform command c).state = e.withMemo memo memoises) ∨
    (∃ d, Leaves c command d ∧ (perform command c).state = d) := by
  rcases perform_cases h command with
    ⟨d, answer, e, memo, memoises, hready, hrefreshes, heq, hstate⟩ | hleaves
  · cases answer with
    | error fault =>
      rw [heq] at hanswer
      cases hanswer
    | ok _ => exact .inl ⟨d, e, memo, memoises, hready, hrefreshes, hstate⟩
  · exact .inr hleaves

end Lathe.Controller
