import Lathe.Proofs.Panel.Opening

/-!
# The run timer

The run timer and the mode of the controller are changed by different events: a confirmation does
not touch the timer, a pause leaves it running, and ticks, resets, looks at the text and changes of
the lathe stop it. Still, a run that is under way never lacks its timer.

* `Controller.PausedForChange.perform`: a tool change that is pending pauses the run, as long as the
  cursor is not moved by hand;
* `Controller.UnderWay.of_perform`: only a start puts a run under way;
* `Drives.timed`: so every event keeps the timer running while a run is under way;
* `timer_runs_while_under_way`: and it is running after all events without a fault.
-/

namespace Lathe

/-! ## Runs under way -/

namespace Controller

variable {c d : Controller} {command : Command} {answer : Except Fault Unit}

/-- While a tool change is pending, the run is paused. -/
def PausedForChange (c : Controller) : Prop :=
  c.pending.isSome = true → c.mode = .paused

/-- The run goes on, or it waits for a tool change. -/
def UnderWay (c : Controller) : Prop :=
  c.mode = .running ∨ c.pending.isSome = true

/-- Whether an operation looks at some place of the program, without running it to there. The panel
has no button for these. -/
def looksAround : Command → Bool
  | .seek _ | .refresh => true
  | _ => false

theorem PausedForChange.pending_eq_none (h : c.PausedForChange) (hmode : c.mode ≠ .paused) :
    c.pending = none := by
  rw [← Option.not_isSome_iff_eq_none]
  intro hsome
  exact hmode (h hsome)

theorem pausedForChange_of_pending_eq_none (h : c.pending = none) : c.PausedForChange := by
  intro hsome
  rw [h] at hsome
  cases hsome

theorem PausedForChange.not_underWay (h : c.PausedForChange)
    (hmode : c.mode = .idle ∨ c.mode = .alarm) : ¬c.UnderWay := by
  rintro (hrunning | hpending)
  · rw [hrunning] at hmode
    simp at hmode
  · rw [h hpending] at hmode
    simp at hmode

theorem unprompted_pending_eq_none (h : c.pending = none) : c.unprompted.pending = none := by
  show (if c.rewound then none else c.pending) = none
  rw [h, ite_self]

/-- A refresh that finds nothing pending pauses the run if it asks for a tool change. -/
theorem Refreshes.pausedForChange (h : Refreshes c answer d) (hc : c.pending = none) :
    d.PausedForChange := by
  have hnone := unprompted_pending_eq_none hc
  cases h with
  | alarmed => exact pausedForChange_of_pending_eq_none hc
  | resting => exact pausedForChange_of_pending_eq_none rfl
  | blank | faulty | halted => exact pausedForChange_of_pending_eq_none hnone
  | @done index m signals warnings =>
    intro hsome
    -- what is pending now was asked for by this very refresh
    change ((c.unprompted.request? (.done index m signals warnings)).or _).isSome = true at hsome
    rw [hnone, Option.or_none] at hsome
    exact if_pos hsome

/-- A refresh at rest does not put a run under way. -/
theorem Refreshes.not_underWay (h : Refreshes c answer d) (hmode : c.mode = .idle) :
    ¬d.UnderWay := by
  have hd : d = c.rest := by
    cases h with
    | resting => rfl
    | alarmed halarm => exact nomatch hmode.symm.trans halarm
    | blank hgoing | faulty hgoing | halted hgoing | done hgoing =>
      rw [hmode] at hgoing
      simp at hgoing
  rw [hd]
  exact (pausedForChange_of_pending_eq_none rfl).not_underWay (.inl hmode)

/-- With nothing left to confirm a run is readied. -/
theorem Readies.pending_eq_none (h : Readies c command d) (hc : c.PausedForChange)
    (hcommand : looksAround command = false) : d.pending = none := by
  cases h with
  | load | reset => rfl
  | start hpending => exact hpending
  | finish hmode | advance hmode | setManual _ hmode =>
    refine hc.pending_eq_none ?_
    rw [hmode]
    nofun
  | seek | refresh => cases hcommand

/-- An operation that does not look around keeps the run paused for what is pending. -/
theorem PausedForChange.perform (h : c.PausedForChange) (hsound : c.MemoSound)
    (hcommand : looksAround command = false) : (perform command c).state.PausedForChange := by
  rcases perform_cases hsound command with
    ⟨d, _, e, memo, memoises, hready, hrefreshes, -, hstate⟩ | ⟨d, hleaves, hstate⟩
  · rw [hstate]
    exact hrefreshes.pausedForChange (hready.pending_eq_none h hcommand)
  · rw [hstate]
    cases hleaves with
    | unchanged | unread | setManual | setFeed | setMaterial => exact h
    | confirm => exact pausedForChange_of_pending_eq_none rfl
    | pause => exact fun _ => rfl

/-- Only a start puts a run under way. -/
theorem UnderWay.of_perform (h : (perform command c).state.UnderWay) (hsound : c.MemoSound)
    (hcommand : looksAround command = false) (hstart : command ≠ .start) : c.UnderWay := by
  rcases perform_cases hsound command with
    ⟨d, _, e, memo, memoises, hready, hrefreshes, -, hstate⟩ | ⟨d, hleaves, hstate⟩
  · rw [hstate] at h
    cases hready with
    | load | reset => exact absurd h (hrefreshes.not_underWay rfl)
    | setManual _ hmode => exact absurd h (hrefreshes.not_underWay hmode)
    | finish hmode | advance hmode => exact .inl hmode
    | start => exact absurd rfl hstart
    | seek | refresh => cases hcommand
  · rw [hstate] at h
    cases hleaves with
    | unchanged | unread | setManual | setFeed | setMaterial => exact h
    | confirm hpending => exact .inr (Option.isSome_of_eq_some hpending)
    | pause => exact .inr (h.resolve_left nofun)

end Controller

/-! ## The timer of a run -/

namespace Panel

open Lathe.Action

variable {d e : Drive} {event : Event}

/-- While a run is under way, the run timer is running. -/
structure Drive.Timed (d : Drive) : Prop where
  memoSound : d.controller.MemoSound
  pausedForChange : d.controller.PausedForChange
  ticking : d.controller.UnderWay → d.ticking = true

theorem Drive.Timed.operated (h : d.Timed) (command : Controller.Command)
    (hcommand : Controller.looksAround command = false) (hstart : command ≠ .start) :
    (d.operated command).Timed where
  memoSound := h.memoSound.perform command
  pausedForChange := h.pausedForChange.perform h.memoSound hcommand
  ticking hunderWay := h.ticking (hunderWay.of_perform h.memoSound hcommand hstart)

/-- A program that was just loaded is not run yet. -/
theorem timed_loaded {c : Controller} (h : c.MemoSound) (text : String) (program : List Statement)
    (ticking : Bool) (controls : Controls) :
    Drive.Timed ⟨c.loaded text program, ticking, controls⟩ := by
  have hpaused : (c.loaded text program).PausedForChange :=
    Controller.pausedForChange_of_pending_eq_none rfl
  exact ⟨memoSound_loaded h text program, hpaused,
    fun hunderWay => absurd hunderWay (hpaused.not_underWay (.inl rfl))⟩

/-- The timer is stopped by a tick only if the run is over. -/
theorem Fires.timed (h : Fires d e) (hd : d.Timed) : e.Timed := by
  have htick := hd.operated .tick rfl nofun
  cases h with
  | last _ hmode =>
    refine ⟨htick.memoSound, htick.pausedForChange, fun hunderWay => ?_⟩
    exact absurd hunderWay (htick.pausedForChange.not_underWay hmode)
  | next => exact htick

/-- An event without a fault leaves no run without its timer. -/
theorem Drives.timed (h : Drives d event e) (hd : d.Timed) : e.Timed := by
  cases h with
  | keep | refuse => exact hd
  | start =>
    exact ⟨hd.memoSound.perform _, hd.pausedForChange.perform hd.memoSound rfl, fun _ => rfl⟩
  | pause => exact hd.operated _ rfl nofun
  | confirm => exact hd.operated _ rfl nofun
  | reset =>
    have hreset := hd.operated .reset rfl nofun
    refine ⟨hreset.memoSound, hreset.pausedForChange, fun hunderWay => ?_⟩
    have hmode : (d.operated .reset).controller.mode = .idle :=
      congrArg Controller.mode (Controller.perform_reset d.controller).2
    exact absurd hunderWay (hreset.pausedForChange.not_underWay (.inl hmode))
  | fire count hfires => exact invariant_of_fires (fun _ _ => Fires.timed) hfires hd
  | load => exact timed_loaded hd.memoSound _ _ _ _
  | feed percent =>
    exact ⟨hd.memoSound.congr rfl rfl rfl (.refl _), hd.pausedForChange, hd.ticking⟩
  | material material =>
    obtain ⟨hsound, hpaused, hticking⟩ := hd.operated (.setMaterial material) rfl nofun
    exact ⟨hsound, hpaused, hticking⟩
  | manual manual =>
    obtain ⟨hsound, hpaused, hticking⟩ := hd.operated (.setManual manual) rfl nofun
    exact ⟨hsound, hpaused, hticking⟩
  | switch => exact timed_loaded (Controller.memoSound_withTools _ _) _ _ _ _

theorem timed_opened : opened.drive.Timed := by
  rw [drive_opened]
  exact timed_loaded (Controller.memoSound_withTools _ _) _ _ _ _

/-- Let anything happen to the panel after it was opened, in any order, and let nothing end in a
fault. If the controller is running, or waits for a tool change, then the run timer is running. -/
theorem timer_runs_while_under_way (events : List Event) (h : Faultless perform opened events) :
    let p := after perform opened events
    p.controller.mode = .running ∨ p.controller.pending.isSome = true →
      p.runTimer.active = true := by
  have htimed : (after perform opened events).drive.Timed :=
    invariant_of_faultless (P := fun p => p.drive.Timed)
      (fun _ _ hp hanswer => (drives_perform hanswer).timed hp) timed_opened h
  exact htimed.ticking

/-- A run that waits for a tool change and then goes on: through the confirmation, a pause, another
start and a change of the feed to zero, its timer is running. -/
theorem timer_runs_through_confirmation :
    let waiting : List Event := [.edit "T0101\nG0 X1", .syntaxTimeout, .start]
    let going := waiting ++ [.confirm, .pause, .start, .feed 0]
    (after perform opened waiting).controller.pending.isSome = true ∧
      (after perform opened waiting).runTimer.active = true ∧
      (after perform opened going).controller.mode = .running ∧
      (after perform opened going).runTimer.active = true := by
  intro waiting going
  have hpending : Faultless perform opened waiting ∧
      (after perform opened waiting).controller.pending.isSome = true := by
    rw [opened_eq]
    decide +kernel
  have hrunning : Faultless perform opened going ∧
      (after perform opened going).controller.mode = .running := by
    rw [opened_eq]
    decide +kernel
  exact ⟨hpending.2, timer_runs_while_under_way waiting hpending.1 (.inr hpending.2),
    hrunning.2, timer_runs_while_under_way going hrunning.1 (.inl hrunning.2)⟩

end Panel

end Lathe
