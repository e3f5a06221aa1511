import Lathe.Proofs.Controller.Failure
import Lathe.Proofs.DryRun.Process
import Lathe.Proofs.History

/-!
# What a dry run reports

Texts are gone through, checked and forgotten again in any order. What is reported afterwards is
that of the last text gone through, and of nothing else:

* `processed_congr`: of what was before it, a dry run sees the lathe only;
* `exists_after_checks_eq`: checks change nothing but their own findings;
* `reports_last_run`: so after any history, the report is that of one replay.
-/

namespace Lathe.DryRun

open Lathe.Action

variable {run other : DryRun} {text : String} {cursor : Option Int}

/-! ## Histories -/

/-- What can be asked of a dry run. -/
inductive Call where
  /-- Go through a text, up to a cursor or to its end. -/
  | process (text : String) (cursor : Option Int)
  /-- Check a text. -/
  | check (text : String)
  /-- Forget everything but the lathe. -/
  | reset

/-- Do what is asked. The answer is the truth value that it answers with, if it does. -/
def perform : Call → Action DryRun (Option Bool)
  | .process text cursor => do return some (← process text cursor)
  | .check text => do return some (← check text)
  | .reset => do change reset; return none

theorem state_perform_process (text : String) (cursor : Option Int) (run : DryRun) :
    (perform (.process text cursor) run).state = (run.processed text cursor).2 := by
  have hresult := result_bind_pure (process text cursor) some run
  rw [result_process] at hresult
  exact congrArg Prod.snd hresult

/-- A dry run is on the lathe on which those before it were. -/
theorem profile_processed (text : String) (cursor : Option Int) (run : DryRun) :
    (run.processed text cursor).2.profile = run.profile := by
  unfold processed
  split
  · rfl
  · split <;> rfl

/-- A check changes nothing but its own findings, whether or not the text can be read. -/
theorem exists_perform_check_eq (text : String) (run : DryRun) :
    ∃ checked, (perform (.check text) run).state = { run with checked } := by
  have hresult := result_bind_pure (check text) some run
  rw [result_check] at hresult
  have hstate := congrArg Prod.snd hresult
  cases hparse : Program.parse text with
  | error fault =>
    rw [hparse] at hstate
    exact ⟨_, hstate⟩
  | ok program =>
    rw [hparse] at hstate
    exact ⟨_, hstate⟩

theorem profile_perform (call : Call) (run : DryRun) :
    (perform call run).state.profile = run.profile := by
  cases call with
  | process text cursor =>
    rw [state_perform_process]
    exact profile_processed text cursor run
  | check text =>
    obtain ⟨checked, hstate⟩ := exists_perform_check_eq text run
    rw [hstate]
  | reset => rfl

/-- Whatever is asked, the lathe stays the same. -/
theorem profile_after (calls : List Call) (run : DryRun) :
    (after perform run calls).profile = run.profile :=
  invariant_after (P := fun r => r.profile = run.profile)
    (fun r call hr => (profile_perform call r).trans hr) rfl calls

/-- However many texts are checked, nothing changes but the findings of the checks. -/
theorem exists_after_checks_eq (texts : List String) (run : DryRun) :
    ∃ checked, after perform run (texts.map .check) = { run with checked } := by
  induction texts generalizing run with
  | nil => exact ⟨run.checked, rfl⟩
  | cons text rest ih =>
    obtain ⟨first, hfirst⟩ := exists_perform_check_eq text run
    obtain ⟨checked, hrest⟩ := ih (perform (.check text) run).state
    refine ⟨checked, hrest.trans ?_⟩
    rw [hfirst]

/-! ## The report -/

/-- Of what was before it, a dry run sees the lathe only. -/
theorem processed_congr (h : run.profile = other.profile) :
    run.processed text cursor = other.processed text cursor := by
  have hbegun (program : List Statement) : run.begun text program = other.begun text program := by
    unfold begun
    rw [h]
  have hsetup : run.setup = other.setup := by
    unfold setup
    rw [h]
  unfold processed ended
  simp only [hbegun, hsetup]

/-- A dry run after a history answers like one on a lathe on which there was none. -/
theorem answer_process_after (profile : Profile) (history : List Call) (text : String)
    (cursor : Option Int) :
    (process text cursor (after perform { profile } history)).answer =
      (({ profile } : DryRun).processed text cursor).1 := by
  rw [answer_process]
  exact congrArg Prod.fst (processed_congr (profile_after history { profile }))

section Replay

variable {setup : Setup} {program : List Statement} {last : Int} {outcome : Outcome}

theorem machine?_of_replay (h : setup.replay program last = .ok outcome)
    (hnone : outcome.error?.isNone = true) :
    outcome.machine? = some (setup.machineAt program outcome.index) := by
  cases outcome with
  | done index m signals warnings => exact congrArg some (Setup.machineAt_index_of_replay h).symm
  | halted index error warnings => cases hnone

theorem exists_firstUnsupported_of_replay (h : setup.replay program last = .ok outcome)
    (hsome : outcome.error?.isNone = false) :
    ∃ b s before, setup.FirstUnsupported program b s ∧ setup.replay program (b - 1) = .ok before ∧
      before.machine? = some (setup.machineAt program outcome.index) := by
  cases outcome with
  | done index m signals warnings => cases hsome
  | halted index error warnings =>
    obtain ⟨b, s, m, signals, hfirst, -, rfl, -, hbefore, -⟩ := Setup.replay_eq_halted h
    exact ⟨b, s, _, hfirst, hbefore, congrArg some (Setup.machineAt_of_replay hbefore).symm⟩

/-- Something fatal is reported of a replay exactly if it halted. -/
theorem anyFatal_report (text : String) (h : setup.replay program last = .ok outcome) :
    Finding.anyFatal (Program.warnings text ++ outcome.warnings ++ outcome.error?.toList) =
      !outcome.error?.isNone := by
  rw [Finding.anyFatal_eq_isEmpty, Setup.filter_isFatal_report text h]
  cases outcome <;> rfl

end Replay

theorem anyFatal_warnings (text : String) : Finding.anyFatal (Program.warnings text) = false := by
  rw [Finding.anyFatal_eq_isEmpty, Program.filter_isFatal_warnings]
  rfl

/-- Let texts be gone through, checked and forgotten in any order on a lathe, then a text be gone
through up to a cursor, and then any texts be checked. If the dry run of that text answers, then
what is reported comes from the replay of its program up to the cursor: the findings are the remarks
on the text, those of the replay, and the finding at which it halted, if it did; the machine and the
path are those of the replay, or, if it halted, of the replay to the statement before the first
unsupported one; and the answer is whether the replay got to the cursor, which is kept, and is
whether nothing fatal was found. If the dry run ends in a fault, then there is no path, the machine
is the initial one, and the run counts as failed though nothing fatal was found. -/
theorem reports_last_run (profile : Profile) (history : List Call) (text : String)
    (cursor : Option Int) (checks : List String) :
    let setup := profile.setup profile.toolTable
    let ended := process text cursor (after perform { profile } history)
    let r := after perform ended.state (checks.map .check)
    (∀ succeeded, ended.answer = .ok succeeded →
      ∃ program outcome m, Program.parse text = .ok program ∧
        setup.replay program (cursor.getD ((program.length : Int) - 1)) = .ok outcome ∧
        r.findings = Program.warnings text ++ outcome.warnings ++ outcome.error?.toList ∧
        r.machine = some m ∧ r.path = m.path ∧
        (succeeded = true → outcome.machine? = some m) ∧
        (succeeded = false → ∃ b s before, setup.FirstUnsupported program b s ∧
          setup.replay program (b - 1) = .ok before ∧ before.machine? = some m) ∧
        succeeded = outcome.error?.isNone ∧ r.succeeded = succeeded ∧
        Finding.anyFatal r.findings = !succeeded) ∧
    ∀ fault, ended.answer = .error fault →
      r.path = [] ∧ r.finalMachine = .initial profile.home ∧ r.succeeded = false ∧
        Finding.anyFatal r.findings = false := by
  -- of the history, only the lathe is left
  have hprofile : (after perform { profile } history).profile = profile :=
    profile_after history { profile }
  generalize after perform ({ profile } : DryRun) history = run at hprofile ⊢
  subst hprofile
  intro setup ended r
  -- nothing that is reported is touched by the checks
  obtain ⟨checked, hr⟩ := exists_after_checks_eq checks ended.state
  rw [show r = { ended.state with checked } from hr]
  constructor
  · intro succeeded hanswer
    obtain ⟨program, outcome, hparse, hreplay, hsucceeded, hstate⟩ :=
      exists_outcome_of_process hanswer
    rw [show ended.state = _ from hstate]
    have hfindings : Program.warnings text ++ (outcome.warnings ++ outcome.error?.toList) =
        Program.warnings text ++ outcome.warnings ++ outcome.error?.toList :=
      (List.append_assoc _ _ _).symm
    refine ⟨program, outcome, _, hparse, hreplay, hfindings, rfl, rfl, ?_, ?_, hsucceeded,
      hsucceeded.symm, ?_⟩
    · rw [hsucceeded]
      exact machine?_of_replay hreplay
    · rw [hsucceeded]
      exact exists_firstUnsupported_of_replay hreplay
    · show Finding.anyFatal (Program.warnings text ++ (outcome.warnings ++ _)) = _
      rw [hfindings, hsucceeded]
      exact anyFatal_report text hreplay
  · intro fault hanswer
    obtain ⟨program, hstate⟩ := exists_begun_of_process hanswer
    rw [show ended.state = _ from hstate]
    exact ⟨rfl, rfl, rfl, anyFatal_warnings text⟩

/-- Whatever was gone through before it, a program that halts at its third statement keeps the path
up to there, and one with a number that is too large keeps none. -/
theorem reports_last_of_three :
    (let ended := process "M19\nG0 X1\nG05\nG0 X2" (some 9)
       (after perform { profile := .lathe } [.process "G1 X7" none, .check "G77"])
     let r := after perform ended.state [.check "G9"]
     ended.answer = .ok false ∧ r.succeeded = false ∧ Finding.anyFatal r.findings = true ∧
       ∃ m, r.machine = some m ∧ r.path = m.path) ∧
    (let ended := process Controller.endlessOffsetText none
       (after perform { profile := .lathe } [.process "G1 X7" none, .reset])
     let r := after perform ended.state [.check "G9"]
     ended.answer.toBool = false ∧ r.path = [] ∧
       r.finalMachine = .initial Profile.lathe.home ∧ Finding.anyFatal r.findings = false) := by
  constructor
  · intro ended r
    have hanswer : ended.answer = .ok false := by
      refine (answer_process_after _ _ _ _).trans (eq_ok_of_toOption ?_)
      decide +kernel
    obtain ⟨program, outcome, m, -, -, -, hmachine, hpath, -, -, -, hsucceeded, hfatal⟩ :=
      (reports_last_run .lathe _ _ _ ["G9"]).1 false hanswer
    exact ⟨hanswer, hsucceeded, hfatal, m, hmachine, hpath⟩
  · intro ended r
    have hfails : ended.answer.toBool = false := by
      rw [answer_process_after, processed]
      rw [Controller.parse_endlessOffsetText]
      decide +kernel
    cases hanswer : ended.answer with
    | ok succeeded =>
      rw [hanswer] at hfails
      cases hfails
    | error fault =>
      obtain ⟨hpath, hmachine, -, hfatal⟩ := (reports_last_run .lathe _ _ _ ["G9"]).2 fault hanswer
      exact ⟨rfl, hpath, hmachine, hfatal⟩

end Lathe.DryRun
