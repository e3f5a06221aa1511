import Lathe.Proofs.Controller.History

/-!
# What is displayed

The machine on display is computed by a refresh only, and an operation can change the mode, the
cursor or the spindle set by hand without one. What is displayed nevertheless follows the cursor:
`Controller.Displays` says for each mode what that means, and every operation without a fault
preserves it.

* `Refreshes.displays`: a refresh without a fault brings the display up to date, although it may set
  the wear of tools after it has replayed the program.
* `Displays.perform`: an operation without a fault keeps it so.
* `display_follows_cursor`: so does every run without a fault.
-/

namespace Lathe.Controller

open Lathe.Action

variable {c d : Controller} {command : Command} {commands : List Command}

/-- The replay up to the cursor gets there, and its machine is the one on display. -/
def ShowsCursor (c : Controller) : Prop :=
  ∃ outcome, c.replayTo c.cursor = .ok outcome ∧ outcome.machine? = some c.machine

/-- The machine on display is at home, with nothing cut yet and with the spindle as it was set by
hand some time. -/
def ShowsRest (c : Controller) : Prop :=
  ∃ manual, c.machine = .idle c.profile.home manual

/-- What is displayed in a mode: at rest, the machine at home with the spindle set by hand; while
running, the machine at the cursor; while paused, the machine at the cursor too, unless it was
paused at rest. No tool change is asked for at rest. An alarm displays an earlier machine. -/
def DisplaysIn (c : Controller) : RunMode → Prop
  | .idle => c.machine = .idle c.profile.home c.manual ∧ c.pending = none ∧ c.prompted = none
  | .running => c.program ≠ [] → c.ShowsCursor
  | .paused => c.ShowsCursor ∨ c.pending = none ∧ c.ShowsRest
  | .alarm => True

/-- What is displayed follows the cursor. -/
structure Displays (c : Controller) : Prop where
  /-- What is displayed is right for the mode. -/
  displaysIn : c.DisplaysIn c.mode
  /-- Without a program, the machine stays at rest, and no tool change is asked for. -/
  blank : c.program = [] → c.pending = none ∧ c.ShowsRest

theorem Displays.showsCursor_of_running (h : c.Displays) (hmode : c.mode = .running)
    (hprogram : c.program ≠ []) : c.ShowsCursor := by
  have hdisplays := h.displaysIn
  rw [hmode] at hdisplays
  exact hdisplays hprogram

/-! ## Refreshing -/

/-- Displaying the outcome of the replay up to the cursor shows the machine there. The wear written
on the way does not count: the same replay on the worn tools ends in the same way. -/
theorem showsCursor_advanced {index : Int} {m : Machine} {signals : List Signal}
    {warnings : List Finding}
    (hreplay : c.replayTo c.cursor = .ok (.done index m signals warnings)) :
    (c.advanced (.done index m signals warnings) m).ShowsCursor := by
  -- resetting wear and charging for the move change the table, and with it its revision
  have hworn := wornTo_advanced (.done index m signals warnings) m c
  have hcongr := Setup.replay_congr hworn.sameGeometry c.setup c.program c.cursor
  exact ⟨.done index m signals warnings, hcongr.trans hreplay, rfl⟩

/-- A refresh without a fault brings the display up to date. Only without a program does it leave
the display as it was, unless the machine is at rest. -/
theorem Refreshes.displays (h : Refreshes c (.ok ()) d)
    (hblank : c.program = [] → c.mode = .idle ∨ c.pending = none ∧ c.ShowsRest) :
    d.Displays := by
  cases h with
  | alarmed hmode =>
    refine ⟨?_, ?_⟩
    · rw [hmode]
      trivial
    · intro hprogram
      exact (hblank hprogram).resolve_left fun hidle => nomatch hmode.symm.trans hidle
  | resting hmode =>
    refine ⟨?_, fun _ => ⟨rfl, c.manual, rfl⟩⟩
    show c.rest.DisplaysIn c.mode
    rw [hmode]
    exact ⟨rfl, rfl, rfl⟩
  | blank hmode hprogram =>
    have hrest : c.pending = none ∧ c.ShowsRest :=
      (hblank hprogram).resolve_left fun hidle => by simp [hidle] at hmode
    have hpending : c.unprompted.pending = none := by
      show (if c.rewound then none else c.pending) = none
      rw [hrest.1, ite_self]
    refine ⟨?_, fun _ => ⟨hpending, hrest.2⟩⟩
    show c.unprompted.DisplaysIn c.mode
    rcases hmode with hmode | hmode
    · rw [hmode]
      exact fun hne => absurd hprogram hne
    · rw [hmode]
      exact .inr ⟨hpending, hrest.2⟩
  | halted _ hprogram => exact ⟨trivial, fun hnil => absurd hnil hprogram⟩
  | @done index m signals warnings hmode hprogram hreplay =>
    have hshows : (c.unprompted.advanced (.done index m signals warnings) m).ShowsCursor :=
      showsCursor_advanced (c := c.unprompted) hreplay
    refine ⟨?_, fun hnil => absurd hnil hprogram⟩
    -- displaying the outcome pauses the run or leaves the mode alone
    show Controller.DisplaysIn _ (if _ then .paused else c.mode)
    split
    · exact .inl hshows
    · rcases hmode with hmode | hmode
      · rw [hmode]
        exact fun _ => hshows
      · rw [hmode]
        exact .inl hshows

/-! ## Operations -/

/-- A controller without a program that is readied to be refreshed is about to be at rest, or it
displays the machine at rest already. -/
theorem Readies.blank (h : Readies c command d) (hc : c.Displays) (hprogram : d.program = []) :
    d.mode = .idle ∨ d.pending = none ∧ d.ShowsRest := by
  cases h with
  | load | reset | finish => exact .inl rfl
  | setManual _ hmode => exact .inl hmode
  | start | advance | seek | refresh => exact .inr (hc.blank hprogram)

/-- What is displayed still follows the cursor after a tool change was confirmed: the run goes on
from the machine at the cursor, since that is the one on display while a change is pending. -/
theorem Displays.confirmed {request : Signal} (hc : c.Displays)
    (hpending : c.pending = some request) : c.confirmed.Displays := by
  refine ⟨?_, fun hprogram => ⟨rfl, (hc.blank hprogram).2⟩⟩
  have hfollows := hc.displaysIn
  -- only at rest and after a pause at rest is another machine displayed, where nothing is pending
  show c.confirmed.DisplaysIn (if c.pending.isSome ∧ c.mode = .paused then .running else c.mode)
  rw [hpending]
  cases hmode : c.mode with
  | idle =>
    rw [hmode] at hfollows
    exact absurd (hfollows.2.1.symm.trans hpending) nofun
  | running =>
    rw [hmode] at hfollows
    exact hfollows
  | paused =>
    rw [hmode] at hfollows
    exact fun _ => hfollows.resolve_right fun hrest => nomatch hrest.1.symm.trans hpending
  | alarm => trivial

/-- What is displayed still follows the cursor after a pause. -/
theorem Displays.pause (hc : c.Displays) (halarm : c.mode ≠ .alarm) :
    Displays { c with mode := .paused } := by
  refine ⟨?_, hc.blank⟩
  have hfollows := hc.displaysIn
  -- pausing changes the mode and nothing else, so each mode hands on what it displays
  show c.ShowsCursor ∨ c.pending = none ∧ c.ShowsRest
  cases hmode : c.mode with
  | idle =>
    rw [hmode] at hfollows
    exact .inr ⟨hfollows.2.1, c.manual, hfollows.1⟩
  | running =>
    rw [hmode] at hfollows
    by_cases hprogram : c.program = []
    · exact .inr (hc.blank hprogram)
    · exact .inl (hfollows hprogram)
  | paused =>
    rw [hmode] at hfollows
    exact hfollows
  | alarm => exact absurd hmode halarm

/-- What is displayed still follows the cursor after the spindle was set by hand: away from rest,
the display does not depend on it. -/
theorem Displays.setManual (hc : c.Displays) (hidle : c.mode ≠ .idle) (manual : ManualSpindle) :
    Displays { c with manual } := by
  refine ⟨?_, hc.blank⟩
  have hfollows := hc.displaysIn
  show Controller.DisplaysIn { c with manual } c.mode
  cases hmode : c.mode with
  | idle => exact absurd hmode hidle
  | running | paused =>
    rw [hmode] at hfollows
    exact hfollows
  | alarm => trivial

/-- After an operation without a fault, what is displayed follows the cursor. -/
theorem Displays.perform (hc : c.Displays) (hsound : c.MemoSound)
    (hanswer : (perform command c).answer.toBool = true) :
    (perform command c).state.Displays := by
  rcases perform_cases_of_ok hsound hanswer with
    ⟨d, e, memo, memoises, hready, hrefreshes, hstate⟩ | ⟨d, hleaves, hstate⟩
  · rw [hstate]
    have he : e.Displays := hrefreshes.displays (hready.blank hc)
    exact ⟨he.displaysIn, he.blank⟩
  · rw [hstate]
    cases hleaves with
    | unchanged => exact hc
    | confirm hpending => exact hc.confirmed hpending
    | pause hmode => exact hc.pause hmode
    | setManual manual hmode => exact hc.setManual hmode manual
    | unread | setFeed | setMaterial => exact ⟨hc.displaysIn, hc.blank⟩

/-- After a run without a fault, what is displayed follows the cursor: the cursor is in the program;
at rest, the machine is at home with the spindle set by hand, and no tool change is asked for; while
running, and while waiting for a tool change, the replay up to the cursor gets there and its machine
is displayed; otherwise a paused machine is that one, or one at rest at home with nothing cut. -/
theorem display_follows_cursor (profile : Profile) (tools : ToolTable) (commands : List Command)
    (hrun : Faultless perform (withTools profile tools) commands) :
    let c := after perform (withTools profile tools) commands
    c.cursor ≤ c.program.length - 1 ∧
    (c.mode = .idle →
      c.machine = .idle c.profile.home c.manual ∧ c.pending = none ∧ c.prompted = none) ∧
    (c.mode = .running → c.program ≠ [] → c.ShowsCursor) ∧
    (c.mode = .paused → c.pending ≠ none → c.ShowsCursor) ∧
    (c.mode = .paused → c.pending = none →
      c.ShowsCursor ∨ c.ShowsRest ∧ c.machine.path = []) := by
  intro c
  have hstart : (withTools profile tools).Displays :=
    ⟨⟨rfl, rfl, rfl⟩, fun _ => ⟨rfl, _, rfl⟩⟩
  have hafter : c.Coherent ∧ c.Displays :=
    invariant_of_faultless (P := fun c => c.Coherent ∧ c.Displays)
      (fun _ command hc hanswer =>
        ⟨hc.1.perform command, hc.2.perform hc.1.memoSound hanswer⟩)
      ⟨coherent_withTools profile tools, hstart⟩ hrun
  obtain ⟨hcoherent, hdisplays⟩ := hafter
  have hfollows := hdisplays.displaysIn
  refine ⟨hcoherent.inProgram, ?_, ?_, ?_, ?_⟩
  · intro hmode
    rwa [hmode] at hfollows
  · intro hmode
    rwa [hmode] at hfollows
  · intro hmode hpending
    rw [hmode] at hfollows
    exact hfollows.resolve_right fun hrest => hpending hrest.1
  · intro hmode _
    rw [hmode] at hfollows
    refine hfollows.imp_right fun hrest => ⟨hrest.2, ?_⟩
    obtain ⟨manual, hmachine⟩ := hrest.2
    rw [hmachine]
    rfl

/-- A run in which the cursor is moved on while a tool change is pending. -/
def seekWhileWaiting : List Command :=
  [.load "T0101\nG0 X60\nG1 Z5", .start, .seek 2]

/-- The display follows the cursor to where it was moved while a tool change is pending. -/
theorem display_follows_seek :
    let c := after perform (Controller.new .lathe) seekWhileWaiting
    Faultless perform (Controller.new .lathe) seekWhileWaiting ∧
      c.mode = .paused ∧ c.pending ≠ none ∧ c.cursor = 2 ∧ c.ShowsCursor := by
  have hrun : Faultless perform (Controller.new .lathe) seekWhileWaiting := by decide +kernel
  have hmode : (after perform (Controller.new .lathe) seekWhileWaiting).mode = .paused := by
    decide +kernel
  have hpending : (after perform (Controller.new .lathe) seekWhileWaiting).pending ≠ none := by
    decide +kernel
  obtain ⟨-, -, -, hwaiting, -⟩ := display_follows_cursor .lathe _ seekWhileWaiting hrun
  exact ⟨hrun, hmode, hpending, by decide +kernel, hwaiting hmode hpending⟩

end Lathe.Controller
