import Lathe.Proofs.Controller.Redisplay
import Lathe.Proofs.DryRun.Process

/-!
# Dry runs and attended runs

A dry run replays a program once, to its last statement. A run that an operator attends replays it
again and again, each time one statement further, while the tools wear. They come to the same: the
run ends in an alarm exactly if the dry run does not succeed, for the same reason and at the same
machine, and otherwise the machine at the last statement is that of the dry run.

* `playable_of_replay_last`: if the replay to the last statement does not end in a fault, none does;
* `filter_isFatal_concluded`: a dry run that halts finds one fatal thing, which is what halts it;
* `attended_last_of_done`, `attended_of_halted`: where an attended run gets to, by what the replay
  to the last statement comes to;
* `processes_of_answer`: the two ways in which a dry run ends without a fault;
* `attended_run_agrees`: the agreement.
-/

namespace Lathe

namespace Setup

variable {setup : Setup} {program : List Statement} {m : Machine} {index : Int}
  {signals : List Signal} {warnings : List Finding} {outcome : Outcome}

/-- If the replay to the last statement does not end in a fault, then no replay does. -/
theorem playable_of_replay_last
    (h : setup.replay program ((program.length : Int) - 1) = .ok outcome) :
    setup.Playable program := by
  intro place hplace
  cases outcome with
  | done index m signals warnings =>
    obtain ⟨before, sent, remarks, -, hdone, -⟩ := replay_eq_done_of_le (j := place) (by omega) h
    rw [hdone]
    rfl
  | halted index error warnings =>
    obtain ⟨b, s, m, signals, hfirst, -, -, ⟨code, hcode, -⟩, hdone, -⟩ := replay_eq_halted h
    rcases Nat.lt_or_ge place b with hlt | hge
    · obtain ⟨before, sent, remarks, -, hearlier, -⟩ :=
        replay_eq_done_of_le (j := place) (by omega) hdone
      rw [hearlier]
      rfl
    · rw [replay_of_firstUnsupported_le hfirst hcode (Int.ofNat_le.mpr hge), hdone]
      rfl

end Setup

/-! ## Attended runs -/

namespace Controller

open Lathe.Action

variable {c : Controller} {setup : Setup} {program : List Statement} {place : Nat}
  {index last : Int} {m : Machine} {signals : List Signal} {warnings remarks : List Finding}
  {error : Finding}

/-- A run that has come to a statement displays the machine there, whether it goes on or waits for a
tool change. -/
theorem Plays.machine_eq_of_cameTo (h : c.Plays setup program) (hcame : c.CameTo place)
    (hc : c.Displays) (hprogram : program ≠ [])
    (hreplay : setup.replay program place = .ok (.done index m signals warnings)) :
    c.machine = m := by
  have hshows : c.ShowsCursor := by
    cases hpending : c.pending with
    | none =>
      have hmode : c.mode = .running := by rw [hcame.mode_eq, hpending]; rfl
      exact hc.showsCursor_of_running hmode (h.program_eq ▸ hprogram)
    | some request =>
      have hmode : c.mode = .paused := by rw [hcame.mode_eq, hpending]; rfl
      have hdisplays := hc.displaysIn
      rw [hmode] at hdisplays
      exact hdisplays.resolve_right fun hrest => nomatch hrest.1.symm.trans hpending
  have hat : c.replayTo c.cursor = .ok (.done index m signals warnings) := by
    rw [h.replayTo_eq, hcame.cursor_eq]
    exact hreplay
  exact hshows.machine_eq hat

/-- In an alarm, the finding is that of the replay up to the cursor, and the machine is the one
before the statement at which it halted. -/
theorem Plays.stopped_of_alarm (h : c.Plays setup program) (hc : c.AlarmExplained)
    (hmode : c.mode = .alarm)
    (hreplay : setup.replay program c.cursor = .ok (.halted index error warnings))
    (hbefore : setup.replay program index = .ok (.done last m signals remarks)) :
    c.alarm = some error ∧ c.machine = m := by
  obtain ⟨b, s, hstopped⟩ := hc hmode
  obtain ⟨error', warnings', halarm, hhalted⟩ := hstopped.replayTo_cursor
  obtain ⟨outcome, hok, hmachine⟩ := hstopped.shows_previous
  rw [h.replayTo_eq, hreplay] at hhalted
  cases hhalted
  rw [h.replayTo_eq, hbefore] at hok
  cases hok
  exact ⟨halarm, (Option.some.inj hmachine).symm⟩

section Attended

variable {profile : Profile} {text : String}

theorem faultless_attendance_new {outcome : Outcome} (hparse : Program.parse text = .ok program)
    (hreplay : (new profile).setup.replay program ((program.length : Int) - 1) = .ok outcome)
    (ticks : Nat) : Faultless perform (new profile) ((new profile).attendance text ticks) :=
  faultless_attendance (inOrder_withTools profile _) hparse (Setup.playable_of_replay_last hreplay)
    ticks

theorem mode_attended_of_done (hparse : Program.parse text = .ok program)
    (hreplay : (new profile).setup.replay program ((program.length : Int) - 1) =
      .ok (.done index m signals warnings)) {ticks : Nat} (hticks : max program.length 1 ≤ ticks) :
    ((new profile).attended text ticks).mode = .idle := by
  have hover := over_attended_of_supports (inOrder_withTools profile _) hparse
    (Setup.playable_of_replay_last hreplay) (Setup.supports_of_replay_last hreplay)
  exact (hover.attended nofun hticks).mode_eq

/-- One tick before it is over, a run that is not stopped is at the last statement and displays the
machine there. -/
theorem attended_last_of_done (hparse : Program.parse text = .ok program) (hne : program ≠ [])
    (hreplay : (new profile).setup.replay program ((program.length : Int) - 1) =
      .ok (.done index m signals warnings)) :
    let e := (new profile).attended text (program.length - 1)
    e.cursor = program.length - 1 ∧ (e.mode = .running ∨ e.mode = .paused) ∧ e.machine = m := by
  intro e
  have hc : (new profile).InOrder := inOrder_withTools profile _
  have hplayable := Setup.playable_of_replay_last hreplay
  have hsupports := Setup.supports_of_replay_last hreplay
  have hpos := List.length_pos_iff.mpr hne
  have hplace : ((program.length - 1 : Nat) : Int) = (program.length : Int) - 1 := by omega
  have hcame : e.CameTo (program.length - 1) :=
    cameTo_attended hc hparse hplayable (by omega) fun t ht =>
      hsupports t (List.mem_of_mem_take ht)
  have hupToDate : e.UpToDate :=
    upToDate_after profile _ (faultless_attendance_new hparse hreplay _)
  refine ⟨hcame.cursor_eq, ?_, ?_⟩
  · have hmode := hcame.mode_eq
    split at hmode
    · exact .inr hmode
    · exact .inl hmode
  · exact (plays_attended hc hparse _).machine_eq_of_cameTo hcame hupToDate.toDisplays hne
      (hplace ▸ hreplay)

/-- A run over a program that halts ends in an alarm with the finding at which it halts, and with
the machine before that statement. -/
theorem attended_of_halted (hparse : Program.parse text = .ok program)
    (hreplay : (new profile).setup.replay program ((program.length : Int) - 1) =
      .ok (.halted index error warnings))
    (hbefore : (new profile).setup.replay program index = .ok (.done index m signals warnings))
    {ticks : Nat} (hticks : program.length ≤ ticks) :
    let d := (new profile).attended text ticks
    d.mode = .alarm ∧ d.alarm = some error ∧ d.machine = m := by
  intro d
  have hc : (new profile).InOrder := inOrder_withTools profile _
  obtain ⟨b, s, -, -, hfirst, -, rfl, ⟨code, hcode, rfl⟩, -, -⟩ := Setup.replay_eq_halted hreplay
  have hover := over_attended_of_firstUnsupported hc hparse (Setup.playable_of_replay_last hreplay)
    hfirst
  have hinside := hfirst.lt_length
  have hend : d.Over .alarm b := hover.attended nofun (by omega)
  have hhalted : (new profile).setup.replay program d.cursor =
      .ok (.halted (b - 1) (Setup.unsupported s code) warnings) := by
    rw [hend.cursor_eq, Setup.replay_of_firstUnsupported_le hfirst hcode (Int.le_refl _), hbefore]
    rfl
  have hexplained : d.AlarmExplained :=
    alarmExplained_after profile _ (faultless_attendance_new hparse hreplay ticks)
  exact ⟨hend.mode_eq,
    (plays_attended hc hparse ticks).stopped_of_alarm hexplained hend.mode_eq hhalted hbefore⟩

end Attended

end Controller

/-! ## Dry runs -/

namespace DryRun

open Lathe.Action

variable {run : DryRun} {text : String} {succeeded : Bool}

/-- The ways in which a dry run ends without a fault: it gets to the last statement, or it halts and
keeps the machine before the statement at which it did. -/
inductive Processes (run : DryRun) (text : String) : Bool → DryRun → Prop
  | done {program : List Statement} {index : Int} {m : Machine} {signals : List Signal}
      {warnings : List Finding} (hparse : Program.parse text = .ok program)
      (hreplay : run.setup.replay program ((program.length : Int) - 1) =
        .ok (.done index m signals warnings)) :
      Processes run text true ((run.begun text program).concluded true warnings m)
  | halted {program : List Statement} {index : Int} {error : Finding} {warnings : List Finding}
      {m : Machine} {signals : List Signal} (hparse : Program.parse text = .ok program)
      (hreplay : run.setup.replay program ((program.length : Int) - 1) =
        .ok (.halted index error warnings))
      (hbefore : run.setup.replay program index = .ok (.done index m signals warnings)) :
      Processes run text false ((run.begun text program).concluded false (warnings ++ [error]) m)

theorem processes_of_answer (h : (process text none run).answer = .ok succeeded) :
    Processes run text succeeded (process text none run).state := by
  obtain ⟨program, outcome, hparse, hreplay, rfl, hstate⟩ := exists_outcome_of_process h
  rw [hstate]
  unfold ended
  cases outcome with
  | done index m signals warnings =>
    have hkept : run.setup.machineAt program index = m := Setup.machineAt_index_of_replay hreplay
    have hremarks : warnings ++ (none : Option Finding).toList = warnings := List.append_nil _
    dsimp only [Outcome.index, Outcome.warnings, Outcome.error?]
    rw [hkept, hremarks]
    exact .done hparse hreplay
  | halted index error warnings =>
    obtain ⟨b, s, m, signals, -, -, rfl, -, hbefore, -⟩ := Setup.replay_eq_halted hreplay
    dsimp only [Outcome.index]
    rw [Setup.machineAt_of_replay hbefore]
    exact .halted hparse hreplay hbefore

theorem Processes.program_eq {r : DryRun} {program : List Statement}
    (h : Processes run text succeeded r) (hparse : Program.parse text = .ok program) :
    r.program = program := by
  cases h with
  | done hparse' => exact Except.ok.inj (hparse'.symm.trans hparse)
  | halted hparse' => exact Except.ok.inj (hparse'.symm.trans hparse)

/-- Of what a dry run has found, the fatal part is what has halted it. -/
theorem filter_isFatal_concluded {program : List Statement} {cursor index : Int} {error : Finding}
    {warnings : List Finding}
    (hreplay : run.setup.replay program cursor = .ok (.halted index error warnings)) (m : Machine) :
    ((run.begun text program).concluded false (warnings ++ [error]) m).findings.filter
      Finding.isFatal = [error] := by
  show (Program.warnings text ++ (warnings ++ [error])).filter Finding.isFatal = _
  rw [← List.append_assoc]
  exact Setup.filter_isFatal_report text hreplay

/-- Let a dry run of a text end without a fault, and let an operator attend a run of that text on
the same lathe. No operation of the run ends in a fault. When the run is over, it is in an alarm
exactly if the dry run did not succeed; the alarm is then the one fatal finding of the dry run, and
both have kept the same machine. If the dry run has succeeded, and the program is not empty, then
the machine that the run displays at the last statement is the one that the dry run has kept,
however worn the tools are by then. -/
theorem attended_run_agrees (run : DryRun)
    (h : (process text none run).answer = .ok succeeded) :
    let r := (process text none run).state
    let c := Controller.new run.profile
    let d ticks := after Controller.perform c (c.attendance text ticks)
    (∀ ticks, Faultless Controller.perform c (c.attendance text ticks)) ∧
    (∀ ticks, max r.program.length 1 ≤ ticks →
      ((d ticks).mode = .alarm ↔ succeeded = false) ∧
      ((d ticks).mode = .idle ↔ succeeded = true) ∧
      (succeeded = false → ∃ error, (d ticks).alarm = some error ∧
        r.findings.filter Finding.isFatal = [error] ∧ r.machine = some (d ticks).machine)) ∧
    (succeeded = true → r.program ≠ [] →
      let e := d (r.program.length - 1)
      e.cursor = r.program.length - 1 ∧ (e.mode = .running ∨ e.mode = .paused) ∧
        r.machine = some e.machine) := by
  have hprocesses := processes_of_answer h
  generalize (process text none run).state = r at hprocesses ⊢
  intro r' c d
  cases hprocesses with
  | @done program index m signals warnings hparse hreplay =>
    refine ⟨Controller.faultless_attendance_new hparse hreplay, fun ticks hticks => ?_, ?_⟩
    · have hmode : (d ticks).mode = .idle := Controller.mode_attended_of_done hparse hreplay hticks
      rw [hmode]
      exact ⟨iff_of_false nofun nofun, iff_of_true rfl rfl, nofun⟩
    · intro _ hne
      obtain ⟨hcursor, hmode, hmachine⟩ := Controller.attended_last_of_done hparse hne hreplay
      exact ⟨hcursor, hmode, congrArg some hmachine.symm⟩
  | @halted program index error warnings m signals hparse hreplay hbefore =>
    refine ⟨Controller.faultless_attendance_new hparse hreplay, fun ticks hticks => ?_, nofun⟩
    obtain ⟨hmode, halarm, hmachine⟩ := Controller.attended_of_halted hparse hreplay hbefore
      (Nat.le_trans (Nat.le_max_left _ _) hticks)
    have hmode : (d ticks).mode = .alarm := hmode
    rw [hmode]
    refine ⟨iff_of_true rfl rfl, iff_of_false nofun nofun, fun _ => ?_⟩
    exact ⟨error, halarm, filter_isFatal_concluded hreplay m, congrArg some hmachine.symm⟩

/-- At the last of five statements the run has the machine of the dry run, though its tool is worn.
With an unsupported statement between two tool changes, both stop before that statement. -/
theorem run_agrees_resetBetweenCuts_betweenTools :
    (let r := process Controller.resetBetweenCuts none { profile := .lathe }
     let c := (Controller.new .lathe).attended Controller.resetBetweenCuts 4
     r.answer = .ok true ∧ c.cursor = 4 ∧ r.state.machine = some c.machine ∧
       c.tools.wear 1 = some 2.0) ∧
    (let r := process "T0101\nG77 X60\nT0202" none { profile := .lathe }
     let c := (Controller.new .lathe).attended "T0101\nG77 X60\nT0202" 3
     r.answer = .ok false ∧ c.mode = .alarm ∧ ∃ error, c.alarm = some error ∧
       r.state.findings.filter Finding.isFatal = [error] ∧ r.state.machine = some c.machine) := by
  constructor
  · have hanswer : (process Controller.resetBetweenCuts none { profile := .lathe }).answer =
        .ok true :=
      congrArg Prod.fst (result_process_of_parse Controller.parse_resetBetweenCuts _)
    obtain ⟨-, -, hlast⟩ := attended_run_agrees { profile := .lathe } hanswer
    have hprogram := (processes_of_answer hanswer).program_eq Controller.parse_resetBetweenCuts
    dsimp only at hlast ⊢
    rw [hprogram] at hlast
    obtain ⟨hcursor, -, hmachine⟩ := hlast rfl nofun
    refine ⟨hanswer, hcursor, hmachine, ?_⟩
    rw [Controller.attended_succ, Controller.attended_succ, Controller.attended_succ,
      Controller.attended_succ, Controller.attended, Controller.attendance,
      Controller.after_load Controller.parse_resetBetweenCuts]
    decide +kernel
  · have hread : Program.parse "T0101\nG77 X60\nT0202" =
        .ok (Controller.betweenTools Controller.unsupportedMove) :=
      Controller.parse_eq_ok_of_toOption (by decide +kernel)
    have hanswer : (process "T0101\nG77 X60\nT0202" none { profile := .lathe }).answer =
        .ok false :=
      congrArg Prod.fst (result_process_of_parse hread _)
    obtain ⟨-, hend, -⟩ := attended_run_agrees { profile := .lathe } hanswer
    have hprogram := (processes_of_answer hanswer).program_eq hread
    dsimp only at hend ⊢
    rw [hprogram] at hend
    obtain ⟨halarm, -, herror⟩ := hend 3 (by decide)
    exact ⟨hanswer, halarm.mpr rfl, herror rfl⟩

end DryRun

end Lathe
