import Lathe.Proofs.DryRun.Process
import Lathe.Proofs.Panel.Event

/-!
# The panel when it is opened

Looking at a text that can be read and replayed does not end in a fault (`result_checkText`). The
sample program is such a text, so the panel opens without a fault (`result_opening`): the machine
is at rest with the sample program, the run timer is stopped, and the controls are where they were
made.
-/

namespace Lathe

/-- The lines of a text that is made of lines. -/
theorem SourceLine.ofText_intercalate (line : String) (lines : List String)
    (hlines : ∀ l ∈ line :: lines, '\n' ∉ l.toList) :
    ofText (String.intercalate "\n" (line :: lines)) =
      ((line :: lines).zipIdx 1).map fun (l, number) => ofChars number l.toList := by
  have hsplit : (String.intercalate "\n" (line :: lines)).toList.splitOn '\n' =
      (line :: lines).map String.toList := by
    rw [String.toList_intercalate]
    refine List.splitOn_intercalate _ ?_ nofun
    intro cs hcs
    obtain ⟨l, hl, rfl⟩ := List.mem_map.mp hcs
    exact hlines l hl
  unfold ofText ofTextFrom
  rw [hsplit, List.zipIdx_map, List.map_map]
  rfl

namespace Panel

open Lathe.Action

variable {p : Panel} {program : List Statement} {outcome : Outcome}

/-- The panel with what was found in its text. -/
def found (program : List Statement) (outcome : Outcome) (p : Panel) : Panel :=
  let run := p.dryRun.ended p.editor.text program outcome
  { p.stopTimer with dryRun := { run with checked := run.checkOf p.editor.text program } }

/-- The panel after a look at its text, given the program and the outcome of its replay. -/
def examined (program : List Statement) (outcome : Outcome) (p : Panel) : Panel :=
  { (p.found program outcome).showFindings.showStatistics with
    controller := p.controller.loaded p.editor.text program }.showRun

theorem result_onDryRun_of_ok {α : Type} {action : Action DryRun α} {a : α} {run r : DryRun}
    (hrun : p.dryRun = run) (h : action.result run = (.ok a, r)) :
    (onDryRun action).result p = (.ok a, { p with dryRun := r }) := by
  subst hrun
  obtain ⟨hanswer, rfl⟩ := Prod.mk.inj h
  exact Prod.ext hanswer rfl

theorem result_onController_of_ok {α : Type} {action : Action Controller α} {a : α}
    {c d : Controller} (hcontroller : p.controller = c) (h : action.result c = (.ok a, d)) :
    (onController action).result p = (.ok a, { p with controller := d }) := by
  subst hcontroller
  obtain ⟨hanswer, rfl⟩ := Prod.mk.inj h
  exact Prod.ext hanswer rfl

/-- Looking at a text that can be read and replayed does not end in a fault. -/
theorem result_checkText (hparse : Program.parse p.editor.text = .ok program)
    (hreplay : p.dryRun.setup.replay program ((program.length : Int) - 1) = .ok outcome) :
    checkText.result p = (.ok (), p.examined program outcome) := by
  have hprocess := DryRun.result_process p.editor.text none p.dryRun
  unfold DryRun.processed at hprocess
  simp only [hparse, Option.getD_none, hreplay] at hprocess
  have hcheck := DryRun.result_check p.editor.text (p.dryRun.ended p.editor.text program outcome)
  simp only [hparse] at hcheck
  have hload := Controller.result_load p.editor.text p.controller
  simp only [hparse] at hload
  rw [Controller.result_refresh_of_idle rfl] at hload
  -- the text is the same all the time, and so is the controller until it is loaded
  have htext : p.stopTimer.editor.text = p.editor.text := rfl
  have hprocessed := result_onDryRun_of_ok (p := p.stopTimer) rfl hprocess
  have hchecked := result_onDryRun_of_ok
    (p := { p.stopTimer with dryRun := p.dryRun.ended p.editor.text program outcome }) rfl hcheck
  have hcontroller : (p.found program outcome).showFindings.showStatistics.controller =
      p.controller := by
    dsimp only [showStatistics, showFindings, found, stopTimer]
  have hloaded := result_onController_of_ok hcontroller hload
  unfold checkText
  rw [result_change_bind, result_observe_bind, htext, result_bind_of_ok hprocessed,
    result_bind_of_ok hchecked, result_change_bind, result_change_bind]
  show (onController (Controller.load p.editor.text) >>= fun _ => change showRun).result
    (p.found program outcome).showFindings.showStatistics = _
  rw [result_bind_of_ok hloaded]
  rfl

/-! ## The sample program -/

/-- What replays depend on when the panel is opened. -/
def latheSetup : Setup :=
  Profile.lathe.setup Profile.lathe.toolTable

/-- The sample program can be read and replayed. -/
theorem exists_replay_sampleProgram :
    ∃ program outcome, Program.parse sampleProgram = .ok program ∧
      latheSetup.replay program ((program.length : Int) - 1) = .ok outcome := by
  have hsome : ((Program.parse sampleProgram).toOption.bind fun program =>
      (latheSetup.replay program ((program.length : Int) - 1)).toOption).isSome = true := by
    unfold Program.parse sampleProgram
    rw [SourceLine.ofText_intercalate _ _ (by decide +kernel)]
    decide +kernel
  obtain ⟨outcome, houtcome⟩ := Option.isSome_iff_exists.mp hsome
  obtain ⟨program, hprogram, hreplay⟩ := Option.bind_eq_some_iff.mp houtcome
  exact ⟨program, outcome, eq_ok_of_toOption hprogram, eq_ok_of_toOption hreplay⟩

/-- The statements of the sample program. -/
def sampleStatements : List Statement :=
  (Program.parse sampleProgram).toOption.getD []

theorem parse_sampleProgram : Program.parse sampleProgram = .ok sampleStatements := by
  obtain ⟨program, -, hparse, -⟩ := exists_replay_sampleProgram
  unfold sampleStatements
  rw [hparse]
  rfl

theorem isSome_replay_sampleStatements :
    (latheSetup.replay sampleStatements
      ((sampleStatements.length : Int) - 1)).toOption.isSome = true := by
  obtain ⟨program, outcome, hparse, hreplay⟩ := exists_replay_sampleProgram
  have hprogram : program = sampleStatements :=
    Except.ok.inj (hparse.symm.trans parse_sampleProgram)
  rw [← hprogram, hreplay]
  rfl

/-- The outcome of its replay. -/
def sampleOutcome : Outcome :=
  Option.get _ isSome_replay_sampleStatements

/-! ## Opening -/

/-- The panel can be opened with any text that can be read and replayed. -/
theorem result_change_setText_checkText {text : String} (hparse : Program.parse text = .ok program)
    (hreplay : latheSetup.replay program ((program.length : Int) - 1) = .ok outcome) :
    (change (setText text) >>= fun _ => checkText).result new =
      (.ok (), (new.setText text).examined program outcome) := by
  rw [result_change_bind]
  exact result_checkText hparse hreplay

/-- The panel opens without a fault. -/
theorem result_opening :
    opening.result new =
      (.ok (), (new.setText sampleProgram).examined sampleStatements sampleOutcome) := by
  refine result_change_setText_checkText parse_sampleProgram ?_
  exact eq_ok_of_toOption (Option.some_get _).symm

/-- The panel when it has been opened. -/
def opened : Panel :=
  opening.final new

theorem opened_eq :
    opened = (new.setText sampleProgram).examined sampleStatements sampleOutcome :=
  final_of_result result_opening

theorem drive_examined (program : List Statement) (outcome : Outcome) (text : String) :
    ((new.setText text).examined program outcome).drive =
      ⟨(Controller.new .lathe).loaded text program, false, {}⟩ := rfl

/-- The machine is at rest with the sample program, and the controls are where they were made. -/
theorem drive_opened :
    opened.drive = ⟨(Controller.new .lathe).loaded sampleProgram sampleStatements, false, {}⟩ := by
  rw [opened_eq, drive_examined]

end Panel

end Lathe
