import Lathe.Proofs.Controller.Completion
import Lathe.Proofs.Controller.Memo

/-!
# Loading and resetting leave nothing behind

A controller that is loaded with a program, or reset, is as good as new: it cannot be told apart
from one that was just built for the same lathe, with the tools as worn as they are and with the
same settings, and then loaded with that program. What remains of its past are the count of changes
to the tools, the wear written last and the memo, and nothing that it does depends on those.

* `suffices_lasting`: the view without the count of changes and the wear written last suffices;
* `Genuine`: the program is the one that the text says, and of the wear meter, only the amount
  gathered ever changes;
* `no_residue`: after a run without faults, a controller that is loaded or reset is as good as new.
-/

namespace Lathe

/-! ## Tools without the count of changes -/

namespace ToolTable

/-- The tools as they are, however often they were changed. -/
def uncounted (table : ToolTable) : ToolTable :=
  { table with revision := 0 }

theorem sameGeometry_uncounted (table : ToolTable) : table.uncounted.SameGeometry table :=
  ⟨fun _ => rfl, fun _ => rfl⟩

theorem uncounted_setWear (table : ToolTable) (id : Int) (percent : Float) :
    (table.uncounted.setWear id percent).uncounted = (table.setWear id percent).uncounted := by
  simp only [setWear, apply_ite uncounted]
  rfl

end ToolTable

namespace WearMeter

variable {table other : ToolTable}

/-- What is charged for a move does not depend on how often the tools were changed. -/
theorem update_uncounted (meter : WearMeter) (h : table.uncounted = other.uncounted)
    (previous : Point Float) (m : Machine) (material : Material) :
    (meter.update table previous m material).1 = (meter.update other previous m material).1 ∧
      (meter.update table previous m material).2.1.uncounted =
        (meter.update other previous m material).2.1.uncounted := by
  have hworn : meter.wornTool? table previous m = meter.wornTool? other previous m := by
    have hget : table.get? m.tool = other.get? m.tool := congrArg (·.get? m.tool) h
    unfold wornTool?
    rw [hget]
  unfold update
  rw [hworn]
  cases meter.wornTool? other previous m with
  | none => exact ⟨rfl, h⟩
  | some tool =>
    dsimp only
    split
    · exact ⟨rfl, h⟩
    · refine ⟨rfl, ?_⟩
      rw [← table.uncounted_setWear, h, other.uncounted_setWear]

/-- Charging for a move changes nothing about a meter but the amount gathered. -/
theorem reset_update (meter : WearMeter) (table : ToolTable) (previous : Point Float) (m : Machine)
    (material : Material) : (meter.update table previous m material).1.reset = meter.reset := by
  unfold update
  split
  · rfl
  · dsimp only
    split <;> rfl

end WearMeter

namespace Controller

open Lathe.Action

variable {c d : Controller} {command : Command} {text : String} {program : List Statement}

/-! ## What lasts -/

/-- The view of what lasts: all but the count of changes to the tools, the wear written last and the
memo. -/
def View.lasting : View where
  tools := ToolTable.uncounted
  delta _ := none
  tools_tools _ := rfl
  delta_delta _ := rfl

theorem replayTo_lasting (c : Controller) (cursor : Int) :
    (View.lasting.of c).replayTo cursor = c.replayTo cursor :=
  Setup.replay_congr c.tools.sameGeometry_uncounted c.setup c.program cursor

/-- An outcome is displayed in the same way, however often the tools were changed before. -/
theorem lasting_advanced (outcome : Outcome) (m : Machine) (c : Controller) :
    View.lasting.of ((View.lasting.of c).advanced outcome m) =
      View.lasting.of (c.advanced outcome m) := by
  have hrenewed : ((View.lasting.of c).renewedTools outcome).uncounted =
      (c.renewedTools outcome).uncounted := by
    unfold renewedTools ToolTable.resetWear
    cases outcome.signal? .wearReset with
    | none => rfl
    | some reset =>
      simp only [apply_ite ToolTable.uncounted]
      rw [← ToolTable.uncounted_setWear c.tools]
      rfl
  obtain ⟨hmeter, htools⟩ :=
    WearMeter.update_uncounted (c.renewedMeter outcome) hrenewed c.previous m c.material
  -- all other fields are computed from the same values
  let withWear (meter : WearMeter) (tools : ToolTable) : Controller :=
    { View.lasting.of (c.advanced outcome m) with meter, tools }
  have hwear := congr (congrArg withWear hmeter) htools
  exact hwear

/-- A refresh ends in the same way if only what lasts is there, and leaves the same to last. -/
theorem Refreshes.of_lasting {answer : Except Fault Unit} (h : Refreshes c answer d) :
    ∃ d', Refreshes (View.lasting.of c) answer d' ∧ View.lasting.of d' = View.lasting.of d := by
  have hsame := replayTo_lasting c c.cursor
  cases h with
  | alarmed hmode => exact ⟨_, .alarmed hmode, rfl⟩
  | resting hmode => exact ⟨_, .resting hmode, rfl⟩
  | blank hmode hprogram => exact ⟨_, .blank hmode hprogram, rfl⟩
  | faulty hmode hprogram hreplay =>
    exact ⟨_, .faulty hmode hprogram (hsame.trans hreplay), rfl⟩
  | @halted index _ _ hmode hprogram hreplay =>
    refine ⟨_, .halted hmode hprogram (hsame.trans hreplay), ?_⟩
    -- the machine where it stopped is replayed as well
    have hmachine : (View.lasting.of c).machineTo index = c.machineTo index := by
      unfold machineTo
      rw [replayTo_lasting]
      rfl
    rw [hmachine]
    rfl
  | @done _ m _ _ hmode hprogram hreplay =>
    refine ⟨_, .done hmode hprogram (hsame.trans hreplay), ?_⟩
    exact lasting_advanced _ m c.unprompted

/-- A refresh is decided by what lasts. -/
theorem suffices_lasting : View.lasting.Suffices := by
  intro c
  obtain ⟨d, hrefreshes, hd⟩ := (refreshes_refreshed c).of_lasting
  rw [hrefreshes.refreshed_eq]
  exact ⟨rfl, hd⟩

/-! ## What the past has no hold on -/

/-- The text of a controller says what its program is, and of its wear meter only the amount
gathered is not that of a new one. -/
structure Genuine (c : Controller) : Prop where
  parse_eq : Program.parse c.text = .ok c.program
  warnings_eq : c.warnings = Program.warnings c.text
  meter_eq : c.meter.reset = c.profile.wearMeter

theorem genuine_withTools (profile : Profile) (tools : ToolTable) :
    (withTools profile tools).Genuine where
  parse_eq := show Program.parse "" = .ok [] from parse_eq_ok_of_toOption (by decide +kernel)
  warnings_eq := show [] = Program.warnings "" by decide +kernel
  meter_eq := rfl

/-- Displaying an outcome changes nothing about the meter but the amount gathered. -/
theorem reset_meter_advanced (outcome : Outcome) (m : Machine) (c : Controller) :
    (c.advanced outcome m).meter.reset = c.meter.reset := by
  refine (WearMeter.reset_update _ _ _ _ _).trans ?_
  unfold renewedMeter
  split
  · split <;> rfl
  · rfl

theorem Readies.genuine (h : Readies c command d) (hc : c.Genuine) : d.Genuine := by
  cases h with
  | load hparse => exact ⟨hparse, rfl, hc.meter_eq⟩
  | start | reset | finish | advance | seek | refresh | setManual =>
    exact ⟨hc.parse_eq, hc.warnings_eq, hc.meter_eq⟩

theorem Refreshes.genuine {answer : Except Fault Unit} (h : Refreshes c answer d)
    (hc : c.Genuine) : d.Genuine := by
  cases h with
  | done => exact ⟨hc.parse_eq, hc.warnings_eq, (reset_meter_advanced _ _ _).trans hc.meter_eq⟩
  | alarmed | resting | blank | faulty | halted =>
    exact ⟨hc.parse_eq, hc.warnings_eq, hc.meter_eq⟩

theorem exists_parse_of_answer_load (h : (perform (.load text) c).answer.toBool = true) :
    ∃ program, Program.parse text = .ok program := by
  cases hparse : Program.parse text with
  | ok program => exact ⟨program, rfl⟩
  | error fault =>
    have hresult := perform_result (.load text) c
    simp only [readied, unrefreshed, hparse] at hresult
    have hfault : (perform (.load text) c).answer = .error fault := congrArg Prod.fst hresult
    rw [hfault] at h
    cases h

/-- An operation without a fault leaves the program to be what the text says. -/
theorem Genuine.perform (h : c.Genuine) (hsound : c.MemoSound)
    (hanswer : (perform command c).answer.toBool = true) : (perform command c).state.Genuine := by
  rcases perform_cases_of_ok hsound hanswer with
    ⟨d, e, memo, memoises, hready, hrefreshes, hstate⟩ | ⟨d, hleaves, hstate⟩
  · have he := hrefreshes.genuine (hready.genuine h)
    rw [hstate]
    exact ⟨he.parse_eq, he.warnings_eq, he.meter_eq⟩
  · rw [hstate]
    cases hleaves with
    | unread text hparse =>
      -- only a text that cannot be read parts the text from the program
      obtain ⟨program, hok⟩ := exists_parse_of_answer_load hanswer
      exact absurd (hparse.symm.trans hok) nofun
    | unchanged => exact h
    | confirm | pause | setManual | setFeed | setMaterial =>
      exact ⟨h.parse_eq, h.warnings_eq, h.meter_eq⟩

/-- After a run without faults, the program is what the text says. -/
theorem genuine_after {profile : Profile} {tools : ToolTable} {commands : List Command}
    (hrun : Faultless perform (withTools profile tools) commands) :
    (after perform (withTools profile tools) commands).Genuine := by
  have hboth := invariant_of_faultless (P := fun c => c.Genuine ∧ c.MemoSound)
    (fun c command hc hanswer => ⟨hc.1.perform hc.2 hanswer, hc.2.perform command⟩)
    ⟨genuine_withTools profile tools, memoSound_withTools profile tools⟩ hrun
  exact hboth.1

/-! ## As good as new -/

/-- A new controller for the same lathe, with the same tools as worn as they are now, and with the
same settings; the changes to its tools are counted from `revision` on. -/
def anew (revision : Nat) (c : Controller) : Controller :=
  { withTools c.profile { c.tools with revision } with
    manual := c.manual
    feed := c.feed
    material := c.material }

/-- Two controllers cannot be told apart: what lasts of them is the same, and so it is after every
operation of any run, and so are the answers. -/
def Indistinguishable (c d : Controller) : Prop :=
  View.lasting.of c = View.lasting.of d ∧ ∀ later : List Command,
    (steps perform c later).map (fun step => (step.answer, View.lasting.of step.after)) =
      (steps perform d later).map (fun step => (step.answer, View.lasting.of step.after))

theorem indistinguishable_of_lasting_eq (hc : c.MemoSound) (hd : d.MemoSound)
    (h : View.lasting.of c = View.lasting.of d) : c.Indistinguishable d :=
  ⟨h, suffices_lasting.steps_eq hc hd h⟩

/-- What lasts of a controller that was just loaded is what lasts of a new one. -/
theorem lasting_loaded (h : c.meter.reset = c.profile.wearMeter) (revision : Nat) (text : String)
    (program : List Statement) :
    View.lasting.of (c.loaded text program) =
      View.lasting.of ((c.anew revision).loaded text program) := by
  -- a load forgets what the meter has gathered, and what is left of it is that of a new one
  let withMeter (meter : WearMeter) : Controller :=
    { View.lasting.of (c.loaded text program) with meter }
  exact congrArg withMeter h

/-- Resetting is as good as loading the program that there is. -/
theorem lasting_reset (h : c.Genuine) :
    View.lasting.of c.rewoundToStart.rest = View.lasting.of (c.loaded c.text c.program) := by
  -- a reset keeps the warnings that a load would find anew
  let withWarnings (warnings : List Finding) : Controller :=
    { View.lasting.of c.rewoundToStart.rest with warnings }
  exact congrArg withWarnings h.warnings_eq

theorem memoSound_anew (revision : Nat) (c : Controller) : (c.anew revision).MemoSound :=
  .of_outcomes_eq_nil (Nat.le_refl _) rfl

/-- Let a controller be operated without faults. Loading a text that can be read then answers as it
does on a new controller for the same lathe with the same tools, as worn as they are, and the same
settings, and leaves a controller that cannot be told apart from that one. Resetting it leaves a
controller that cannot be told apart from a new one into which the program that it has was loaded,
from the text that it has. -/
theorem no_residue {profile : Profile} {tools : ToolTable} {commands : List Command}
    (hrun : Faultless perform (withTools profile tools) commands) (revision : Nat) :
    let c := after perform (withTools profile tools) commands
    (∀ text, (perform (.load text) c).answer.toBool = true →
      (perform (.load text) (c.anew revision)).answer = (perform (.load text) c).answer ∧
      Indistinguishable (perform (.load text) c).state
        (perform (.load text) (c.anew revision)).state) ∧
    (perform (.load c.text) (c.anew revision)).answer = .ok none ∧
    (perform .reset c).answer = .ok none ∧ (perform .reset c).state.program = c.program ∧
    Indistinguishable (perform .reset c).state
      (perform (.load c.text) (c.anew revision)).state := by
  intro c
  have hsound : c.MemoSound := (memoSound_withTools profile tools).after commands
  have hc : c.Genuine := genuine_after hrun
  have hanew : (c.anew revision).MemoSound := memoSound_anew revision c
  refine ⟨?_, (perform_load hc.parse_eq _).1, (perform_reset c).1, ?_, ?_⟩
  · intro text hanswer
    obtain ⟨program, hparse⟩ := exists_parse_of_answer_load hanswer
    refine ⟨(perform_load hparse _).1.trans (perform_load hparse c).1.symm, ?_⟩
    apply indistinguishable_of_lasting_eq (hsound.perform _) (hanew.perform _)
    rw [(perform_load hparse c).2, (perform_load hparse _).2]
    exact lasting_loaded hc.meter_eq revision text program
  · rw [(perform_reset c).2]
    rfl
  · apply indistinguishable_of_lasting_eq (hsound.perform _) (hanew.perform _)
    rw [(perform_reset c).2, (perform_load hc.parse_eq _).2, lasting_reset hc]
    exact lasting_loaded hc.meter_eq revision c.text c.program

/-- A cut that wears the first tool, and a statement that is not supported behind the change to the
second one. -/
def cutThenUnsupported : String := "T0101\nM3\nG1 X40 Z0\nT0202\nG77"

/-- A run that wears the first tool and comes to the alarm while the second change is pending. -/
def runIntoAlarm : List Command :=
  [.setMaterial .aluminum, .load cutThenUnsupported, .start, .confirmToolChange, .tick, .tick,
    .tick, .setManual ⟨.clockwise, 200.0⟩, .seek 4]

/-- From the alarm, with a change pending and a worn tool, a reset leads to a controller that runs
as a new one does, and so does another program. -/
theorem no_residue_of_alarm :
    let c := after perform (withTools .lathe Profile.lathe.toolTable) runIntoAlarm
    Faultless perform (withTools .lathe Profile.lathe.toolTable) runIntoAlarm ∧
    c.mode = .alarm ∧ c.pending ≠ none ∧ c.tools.wear 1 ≠ some 0.0 ∧ c.tools.revision = 1 ∧
    Indistinguishable (perform .reset c).state (perform (.load c.text) (c.anew 0)).state ∧
    (perform (.load "G0 X5") c).answer.toBool = true ∧
    Indistinguishable (perform (.load "G0 X5") c).state
      (perform (.load "G0 X5") (c.anew 0)).state := by
  intro c
  have hfaultless : Faultless perform (withTools .lathe Profile.lathe.toolTable) runIntoAlarm := by
    decide +kernel
  have hstate : c.mode = .alarm ∧ c.pending ≠ none ∧ c.tools.wear 1 ≠ some 0.0 ∧
      c.tools.revision = 1 := by decide +kernel
  obtain ⟨hload, -, -, -, hreset⟩ := no_residue hfaultless 0
  have hanswer : (perform (.load "G0 X5") c).answer.toBool = true := by decide +kernel
  obtain ⟨hmode, hpending, hwear, hrevision⟩ := hstate
  exact ⟨hfaultless, hmode, hpending, hwear, hrevision, hreset, hanswer, (hload _ hanswer).2⟩

end Controller

end Lathe
