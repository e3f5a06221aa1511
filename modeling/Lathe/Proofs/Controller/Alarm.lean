import Lathe.Proofs.Controller.History

/-!
# Alarms

An alarm is raised by a refresh, and it lasts: in an alarm a refresh does nothing, and neither does
any other operation but a reset and the loading of a program, except that a pending tool change can
still be confirmed and that the controls can still be set by hand.

* `stoppedBefore_stopped`: the alarm names the first unsupported statement, and the machine on
  display is the one before it. The replay that computes that machine always gets there.
* `Refreshes.stops_or_goes_on`: a refresh raises such an alarm exactly when an unsupported statement
  stands at or before the cursor, however far the cursor was moved beyond it.
* `latched_perform`, `latched_after`: an alarm lasts.
* `alarm_until_reset`: both, in every run.
-/

namespace Lathe.Controller

open Lathe.Action

variable {c d : Controller} {command : Command} {commands : List Command} {b : Nat}
  {s : Statement}

/-! ## Raising an alarm -/

/-- An unsupported statement stands at or before the cursor. -/
def Obstructed (c : Controller) : Prop :=
  ∃ i ≤ c.cursor, ∃ s, c.program[i]? = some s ∧ c.setup.supports s = false

/-- A controller is stopped before a statement, the first one that is not supported: the replay up
to the cursor halts there, the alarm is its finding and names the statement, and the machine of the
replay up to the statement before it is displayed. -/
structure StoppedBefore (c : Controller) (b : Nat) (s : Statement) : Prop where
  /-- The statement is the first one that is not supported. -/
  first : c.setup.FirstUnsupported c.program b s
  /-- It stands at or before the cursor. -/
  le_cursor : b ≤ c.cursor
  /-- The alarm is the finding of the replay up to the cursor. -/
  replayTo_cursor : ∃ error warnings, c.alarm = some error ∧
    c.replayTo c.cursor = .ok (.halted (b - 1) error warnings)
  /-- It names the statement. -/
  alarm_eq : ∃ code, s.code = some code ∧ c.alarm = some (Setup.unsupported s code)
  /-- The machine displayed is the one before the statement. -/
  shows_previous : ∃ outcome, c.replayTo (b - 1) = .ok outcome ∧ outcome.machine? = some c.machine
  /-- Before the first statement of a program, that is the initial machine. -/
  shows_initial : b = 0 → c.machine = .initial c.profile.home

theorem StoppedBefore.obstructed (h : c.StoppedBefore b s) : c.Obstructed :=
  ⟨b, h.le_cursor, s, h.first.get, h.first.unsupported⟩

theorem StoppedBefore.withMemo (h : c.StoppedBefore b s) (memo : Memo) (memoises : Bool) :
    (c.withMemo memo memoises).StoppedBefore b s :=
  ⟨h.first, h.le_cursor, h.replayTo_cursor, h.alarm_eq, h.shows_previous, h.shows_initial⟩

/-- A refresh whose replay does not end in a fault does not end in one either. -/
theorem Refreshes.answer_eq_ok {answer : Except Fault Unit} (h : Refreshes c answer d)
    (hreplay : (c.replayTo c.cursor).toBool = true) : answer = .ok () := by
  cases h with
  | faulty _ _ hfault =>
    rw [hfault] at hreplay
    cases hreplay
  | alarmed | resting | blank | halted | done => rfl

/-- After a replay that halted, the controller is stopped before the statement at which it did. The
replay that computes the machine to be displayed gets to the statement before it. -/
theorem stoppedBefore_stopped {index : Int} {error : Finding} {warnings : List Finding}
    (hreplay : c.replayTo c.cursor = .ok (.halted index error warnings)) :
    ∃ b s, (c.stopped error (c.machineTo index)).StoppedBefore b s := by
  -- the place at which a replay halts is the one before the obstacle, and the replay to it is done
  obtain ⟨b, s, m, signals, hfirst, hb, rfl, ⟨code, hcode, rfl⟩, hdone, hinitial⟩ :=
    Setup.replay_eq_halted hreplay
  have hmachine : c.machineTo (b - 1) = m := machineTo_of_replay hdone
  rw [hmachine]
  exact ⟨b, s,
    { first := hfirst
      le_cursor := Int.ofNat_le.mp hb
      replayTo_cursor := ⟨_, warnings, rfl, hreplay⟩
      alarm_eq := ⟨code, hcode, rfl⟩
      shows_previous := ⟨_, hdone, rfl⟩
      shows_initial := hinitial }⟩

/-- A refresh of a program that is not at rest either raises an alarm, stopped before the first
unsupported statement, or raises none, and then nothing up to the cursor is unsupported. -/
theorem Refreshes.stops_or_goes_on (h : Refreshes c (.ok ()) d)
    (hmode : c.mode = .running ∨ c.mode = .paused) (hprogram : c.program ≠ []) :
    (d.mode = .alarm ∧ ∃ b s, d.StoppedBefore b s) ∨ (d.mode ≠ .alarm ∧ ¬d.Obstructed) := by
  cases h with
  | alarmed halarm => simp [halarm] at hmode
  | resting hidle => simp [hidle] at hmode
  | blank _ hnil => exact absurd hnil hprogram
  | halted _ _ hreplay => exact .inl ⟨rfl, stoppedBefore_stopped (c := c.unprompted) hreplay⟩
  | done _ _ hreplay =>
    refine .inr ⟨?_, ?_⟩
    · -- a replay that gets to the cursor at most pauses the run
      show (if _ then RunMode.paused else c.mode) ≠ .alarm
      rcases hmode with hmode | hmode <;> rw [hmode] <;> split <;> nofun
    · rintro ⟨i, hi, s, hs, hunsupported⟩
      have hsupports := Setup.supports_of_replay_eq_done hreplay hs (Int.ofNat_le.mpr hi)
      exact absurd (hsupports.symm.trans hunsupported) nofun

/-! ## Staying in an alarm -/

/-- Whether an operation can end an alarm. -/
def endsAlarm : Command → Bool
  | .load _ | .reset => true
  | _ => false

/-- What an alarm keeps from one controller to a later one. The tool change that is pending, the
spindle set by hand, the feed override and the material are not among it. -/
structure Latched (c d : Controller) : Prop where
  mode : d.mode = c.mode
  cursor : d.cursor = c.cursor
  alarm : d.alarm = c.alarm
  machine : d.machine = c.machine
  prompted : d.prompted = c.prompted
  tools : d.tools = c.tools
  meter : d.meter = c.meter

theorem Latched.refl (c : Controller) : c.Latched c :=
  ⟨rfl, rfl, rfl, rfl, rfl, rfl, rfl⟩

theorem Latched.trans {e : Controller} (h : c.Latched d) (h' : d.Latched e) : c.Latched e where
  mode := h'.mode.trans h.mode
  cursor := h'.cursor.trans h.cursor
  alarm := h'.alarm.trans h.alarm
  machine := h'.machine.trans h.machine
  prompted := h'.prompted.trans h.prompted
  tools := h'.tools.trans h.tools
  meter := h'.meter.trans h.meter

/-- In an alarm, a refresh does nothing. -/
theorem result_refresh_of_alarm (halarm : c.mode = .alarm) : refresh.result c = (.ok (), c) := by
  unfold refresh
  rw [result_observe_bind]
  simp [halarm]

/-- In an alarm, an operation that cannot end it keeps it, also when it confirms a tool change. -/
theorem latched_perform (halarm : c.mode = .alarm) (hcommand : endsAlarm command = false) :
    c.Latched (perform command c).state := by
  have hresult := perform_result command c
  cases hready : c.readied command with
  | some d =>
    -- a refresh is the only operation left that gets as far as refreshing in an alarm
    have hd : d = c := by
      cases readies_of_readied hready with
      | load | reset => cases hcommand
      | start _ hmode => simp [halarm] at hmode
      | finish hmode | advance hmode | setManual _ hmode => simp [halarm] at hmode
      | seek _ hmode => exact absurd halarm hmode
      | refresh => rfl
    rw [hready, hd] at hresult
    have hstate : (perform command c).state = (refresh.result c).2 := congrArg Prod.snd hresult
    rw [hstate, result_refresh_of_alarm halarm]
    exact .refl c
  | none =>
    rw [hready] at hresult
    have hstate : (perform command c).state = (c.unrefreshed command).2 :=
      congrArg Prod.snd hresult
    have hleaves := leaves_unrefreshed hready
    rw [hstate]
    generalize (c.unrefreshed command).2 = d at hleaves ⊢
    cases hleaves with
    | unchanged => exact .refl c
    | unread => cases hcommand
    | pause hmode => exact absurd halarm hmode
    | confirm =>
      -- a change that was pending when the alarm was raised is confirmed, but the run stays stopped
      have hmode : c.confirmed.mode = c.mode := by simp [confirmed, halarm]
      exact ⟨hmode, rfl, rfl, rfl, rfl, rfl, rfl⟩
    | setManual | setFeed | setMaterial => exact ⟨rfl, rfl, rfl, rfl, rfl, rfl, rfl⟩

/-- In an alarm, starting is refused. -/
theorem answer_start_of_alarm (halarm : c.mode = .alarm) :
    (perform .start c).answer = .ok (some false) := by
  have hresult := perform_result .start c
  have hready : c.readied .start = none := by simp [readied, halarm]
  rw [hready] at hresult
  have hanswer : (perform .start c).answer = (c.unrefreshed .start).1 :=
    congrArg Prod.fst hresult
  rw [hanswer, unrefreshed, if_pos halarm]

/-- An alarm lasts through every run of operations that cannot end it, and each start in the run is
refused. -/
theorem latched_after (halarm : c.mode = .alarm)
    (hcommands : ∀ command ∈ commands, endsAlarm command = false) :
    c.Latched (after perform c commands) ∧
      ∀ step ∈ steps perform c commands, step.event = .start → step.answer = .ok (some false) := by
  induction commands generalizing c with
  | nil => exact ⟨.refl c, by simp [steps]⟩
  | cons command rest ih =>
    -- the mode is among what the first operation keeps, so the rest of the run begins in an alarm
    rw [List.forall_mem_cons] at hcommands
    have hfirst : c.Latched (perform command c).state := latched_perform halarm hcommands.1
    obtain ⟨hrest, hstarts⟩ := ih (hfirst.mode.trans halarm) hcommands.2
    refine ⟨hfirst.trans hrest, ?_⟩
    rw [steps, List.forall_mem_cons]
    refine ⟨?_, hstarts⟩
    rintro rfl
    exact answer_start_of_alarm halarm

/-! ## Alarms in a run -/

/-- Every alarm is stopped before a statement, the first one that is not supported. -/
def AlarmExplained (c : Controller) : Prop :=
  c.mode = .alarm → ∃ b s, c.StoppedBefore b s

theorem Refreshes.alarmExplained (h : Refreshes c (.ok ()) d) (hc : c.AlarmExplained) :
    d.AlarmExplained := by
  intro halarm
  cases h with
  | alarmed hmode => exact hc hmode
  | resting hmode => exact absurd (hmode.symm.trans halarm) nofun
  | blank hmode => rcases hmode with hmode | hmode <;> exact absurd (hmode.symm.trans halarm) nofun
  | halted _ _ hreplay => exact stoppedBefore_stopped (c := c.unprompted) hreplay
  | done hmode hprogram hreplay =>
    -- a replay that gets to the cursor raises no alarm
    have hgoes := (Refreshes.done hmode hprogram hreplay).stops_or_goes_on hmode hprogram
    rcases hgoes with ⟨-, hstopped⟩ | ⟨hnot, -⟩
    · exact hstopped
    · exact absurd halarm hnot

/-- An operation without a fault leaves no alarm unexplained. In an alarm, nothing that explains it
changes. -/
theorem AlarmExplained.perform (hc : c.AlarmExplained) (hsound : c.MemoSound)
    (hanswer : (perform command c).answer.toBool = true) :
    (perform command c).state.AlarmExplained := by
  rcases perform_cases_of_ok hsound hanswer with
    ⟨d, e, memo, memoises, hready, hrefreshes, hstate⟩ | ⟨d, hleaves, hstate⟩
  · have hd : d.AlarmExplained := by
      cases hready with
      | load | reset | start | finish => nofun
      | advance hmode | setManual _ hmode =>
        exact fun halarm => absurd (hmode.symm.trans halarm) nofun
      | seek _ hmode => exact fun halarm => absurd halarm hmode
      | refresh => exact hc
    rw [hstate]
    intro halarm
    obtain ⟨b, s, hstopped⟩ := hrefreshes.alarmExplained hd halarm
    exact ⟨b, s, hstopped.withMemo memo memoises⟩
  · rw [hstate]
    intro halarm
    cases hleaves with
    | unchanged => exact hc halarm
    | pause => cases halarm
    | confirm =>
      have hmode : c.mode = .alarm := by
        change (if _ then RunMode.running else c.mode) = .alarm at halarm
        split at halarm
        · cases halarm
        · exact halarm
      obtain ⟨b, s, h⟩ := hc hmode
      exact ⟨b, s, h.first, h.le_cursor, h.replayTo_cursor, h.alarm_eq, h.shows_previous,
        h.shows_initial⟩
    | unread | setManual | setFeed | setMaterial =>
      obtain ⟨b, s, h⟩ := hc halarm
      exact ⟨b, s, h.first, h.le_cursor, h.replayTo_cursor, h.alarm_eq, h.shows_previous,
        h.shows_initial⟩

theorem alarmExplained_after (profile : Profile) (tools : ToolTable)
    (hrun : Faultless perform (withTools profile tools) commands) :
    (after perform (withTools profile tools) commands).AlarmExplained := by
  have hafter := invariant_of_faultless (P := fun c => c.MemoSound ∧ c.AlarmExplained)
    (fun _ command hc hanswer => ⟨hc.1.perform command, hc.2.perform hc.1 hanswer⟩)
    ⟨memoSound_withTools profile tools, nofun⟩ hrun
  exact hafter.2

/-- In every run, an operation that refreshes a program while running or paused, with a replay that
does not end in a fault, raises an alarm exactly when an unsupported statement stands at or before
the cursor, and then it stops before the first one. From then on, every run of operations other than
resets and loads of programs keeps the alarm, and refuses to start. -/
theorem alarm_until_reset (profile : Profile) (tools : ToolTable) (commands : List Command) :
    let c := after perform (withTools profile tools) commands
    (∀ command d, c.readied command = some d → (d.mode = .running ∨ d.mode = .paused) →
      d.program ≠ [] → (d.replayTo d.cursor).toBool = true →
      let e := (perform command c).state
      (perform command c).answer = .ok (reply command) ∧
      (e.mode = .alarm ↔ e.Obstructed) ∧
      (e.mode = .alarm → ∃ b s, e.StoppedBefore b s)) ∧
    (c.mode = .alarm → ∀ later : List Command,
      (∀ command ∈ later, endsAlarm command = false) →
      c.Latched (after perform c later) ∧
      ∀ step ∈ steps perform c later, step.event = .start → step.answer = .ok (some false)) := by
  intro c
  refine ⟨?_, fun halarm later hlater => latched_after halarm hlater⟩
  intro command d hready hmode hprogram hreplay e
  have hsound : c.MemoSound := (memoSound_withTools profile tools).after commands
  obtain ⟨memo, memoises, hanswer, hstate⟩ := perform_of_readied hsound hready
  have hrefreshes := refreshes_refreshed d
  -- the operation answers even if the replay halts: displaying the alarm does not end in a fault
  have hok : d.refreshed.1 = .ok () := hrefreshes.answer_eq_ok hreplay
  rw [hok] at hanswer hrefreshes
  refine ⟨hanswer, ?_⟩
  rw [show e = _ from hstate]
  rcases hrefreshes.stops_or_goes_on hmode hprogram with ⟨halarm, b, s, hstopped⟩ | ⟨hmode', hclear⟩
  · exact ⟨iff_of_true halarm hstopped.obstructed, fun _ => ⟨b, s, hstopped.withMemo memo memoises⟩⟩
  · exact ⟨iff_of_false hmode' hclear, fun halarm => absurd halarm hmode'⟩

/-- A program that asks for a tool change before a statement that is not supported. -/
def toolThenUnsupported : String := "T0101\nG77\nG1 Z5"

/-- The cursor is moved beyond the unsupported statement while the tool change is pending. The alarm
lasts, although the change can still be confirmed. -/
theorem alarm_behind_pending_change :
    let stopped := after perform (Controller.new .lathe)
      [.load toolThenUnsupported, .start, .seek 2]
    stopped.pending ≠ none ∧ stopped.Obstructed ∧ (∃ b s, stopped.StoppedBefore b s) ∧
    stopped.Latched
      (after perform stopped [.confirmToolChange, .start, .tick, .seek 0, .pause]) := by
  have halarm : (after perform (Controller.new .lathe)
      [.load toolThenUnsupported, .start, .seek 2]).mode = .alarm := by decide +kernel
  obtain ⟨hraises, -⟩ := alarm_until_reset .lathe Profile.lathe.toolTable
    [.load toolThenUnsupported, .start]
  obtain ⟨-, hiff, hstops⟩ := hraises (.seek 2) _ (if_neg (by decide +kernel))
    (.inr (by decide +kernel)) (by decide +kernel) (by decide +kernel)
  obtain ⟨-, hlasts⟩ := alarm_until_reset .lathe Profile.lathe.toolTable
    [.load toolThenUnsupported, .start, .seek 2]
  exact ⟨by decide +kernel, hiff.mp halarm, hstops halarm, (hlasts halarm _ (by decide)).1⟩

end Lathe.Controller
