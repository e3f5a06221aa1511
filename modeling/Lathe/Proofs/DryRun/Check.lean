import Lathe.Proofs.DryRun.Process
import Lathe.Proofs.Program.Order
import Mathlib.Data.List.Forall2

/-!
# Checks and dry runs

A check looks at every statement of a program and a dry run at those up to the first that halts it,
each with findings of its own. They agree on whether the program can be run, and the first fatal
finding of the check is that of the dry run.

* `head?_objections_of_replay`: a replay to the last statement halts at the first objection;
* `forall₂_objections`: there is one objection for each unsupported statement;
* `filter_isFatal_checkOf`: the objections are what is fatal among the findings of a check;
* `sorted_checkOf`: and they stand in a report in the order of the statements;
* `check_agrees_with_run`: the agreement.
-/

namespace Lathe

/-! ## Objections -/

namespace Setup

variable {setup : Setup} {program : List Statement} {s : Statement} {f : Finding}
  {outcome : Outcome}

/-- A finding is the objection to a statement for its code. -/
def ObjectsTo (s : Statement) (f : Finding) : Prop :=
  ∃ code, s.code = some code ∧ f = unsupported s code

theorem ObjectsTo.isFatal (h : ObjectsTo s f) : f.isFatal = true := by
  obtain ⟨code, -, rfl⟩ := h
  rfl

theorem ObjectsTo.place_eq (h : ObjectsTo s f) : f.line = s.line ∧ f.start = 0 := by
  obtain ⟨code, -, rfl⟩ := h
  exact ⟨rfl, rfl⟩

/-- There is one objection for each statement that the machine lacks, in the order of the
program. -/
theorem forall₂_objections (setup : Setup) (program : List Statement) :
    List.Forall₂ ObjectsTo (program.filter fun s => !setup.supports s)
      (program.filterMap setup.objection?) := by
  induction program with
  | nil => exact .nil
  | cons s rest ih =>
    cases hsupports : setup.supports s with
    | true =>
      rw [List.filterMap_cons_none (objection?_eq_none_iff.mpr hsupports),
        List.filter_cons_of_neg (by simp [hsupports])]
      exact ih
    | false =>
      obtain ⟨-, code, hcode, -⟩ := supports_eq_false_iff.mp hsupports
      have hobjection := objection?_eq_some_iff.mpr ⟨hsupports, code, hcode, rfl⟩
      rw [List.filterMap_cons_some hobjection, List.filter_cons_of_pos (by simp [hsupports])]
      exact .cons ⟨code, hcode, rfl⟩ ih

theorem filterMap_objection?_eq_nil (h : ∀ s ∈ program, setup.supports s = true) :
    program.filterMap setup.objection? = [] :=
  List.filterMap_eq_nil_iff.mpr fun s hs => objection?_eq_none_iff.mpr (h s hs)

/-- The first objection is the one to the first unsupported statement. -/
theorem FirstUnsupported.head?_objections {b : Nat} (h : setup.FirstUnsupported program b s) :
    (program.filterMap setup.objection?).head? = setup.objection? s := by
  obtain ⟨code, -, hobjection⟩ := h.exists_code
  have hsplit : program = program.take b ++ s :: program.drop (b + 1) := by
    obtain ⟨hb, hget⟩ := List.getElem?_eq_some_iff.mp h.get
    rw [← hget, List.getElem_cons_drop, List.take_append_drop]
  rw [hsplit, List.filterMap_append, filterMap_objection?_eq_nil h.supports_before,
    List.nil_append, List.filterMap_cons_some hobjection, hobjection]
  rfl

/-- A replay to the last statement halts at the first objection that there is. -/
theorem head?_objections_of_replay
    (h : setup.replay program ((program.length : Int) - 1) = .ok outcome) :
    (program.filterMap setup.objection?).head? = outcome.error? := by
  cases outcome with
  | done index m signals warnings =>
    rw [filterMap_objection?_eq_nil (supports_of_replay_last h)]
    rfl
  | halted index error warnings =>
    obtain ⟨b, s, -, -, hfirst, -, -, ⟨code, hcode, rfl⟩, -⟩ := replay_eq_halted h
    rw [hfirst.head?_objections]
    exact objection?_eq_some_iff.mpr ⟨hfirst.unsupported, code, hcode, rfl⟩

end Setup

/-! ## Checks -/

namespace DryRun

open Lathe.Action

variable {run other : DryRun} {text : String} {program : List Statement} {succeeded passed : Bool}

/-- What is fatal among the findings of a check are the objections to the statements. -/
theorem filter_isFatal_checkOf (run : DryRun) (text : String) (program : List Statement) :
    (run.checkOf text program).filter Finding.isFatal =
      program.filterMap run.setup.objection? := by
  have hfatal : ∀ f ∈ program.filterMap run.setup.objection?, f.isFatal = true := by
    intro f hf
    obtain ⟨s, -, hobjection⟩ := List.mem_filterMap.mp hf
    exact Setup.ObjectsTo.isFatal (Setup.objection?_eq_some_iff.mp hobjection).2
  unfold checkOf
  rw [List.filter_append, Program.filter_isFatal_warnings, List.nil_append]
  exact List.filter_eq_self.mpr hfatal

/-- In a report, the fatal findings of a check stand in the order of the statements. -/
theorem sorted_checkOf (run : DryRun) (hparse : Program.parse text = .ok program) :
    (Finding.sorted (run.checkOf text program)).filter Finding.isFatal =
      (run.checkOf text program).filter Finding.isFatal := by
  apply Finding.filter_sorted
  rw [filter_isFatal_checkOf]
  -- of two statements, the earlier one is on no later line
  refine (Program.pairwise_line_of_parse hparse).filterMap _ fun s t hst f hf g hg => ?_
  obtain ⟨hline, hstart⟩ := Setup.ObjectsTo.place_eq (Setup.objection?_eq_some_iff.mp hf).2
  obtain ⟨hline', hstart'⟩ := Setup.ObjectsTo.place_eq (Setup.objection?_eq_some_iff.mp hg).2
  rw [Finding.notAfter_iff]
  omega

/-- A check that answers has looked at every statement of its text. -/
theorem exists_program_of_check (h : (check text run).answer = .ok passed) :
    ∃ program, Program.parse text = .ok program ∧
      (check text run).state.checked = run.checkOf text program ∧
      passed = (program.filterMap run.setup.objection?).head?.isNone := by
  have hresult : (check text).result run = (.ok passed, (check text run).state) := by
    rw [result, h]
  rw [result_check] at hresult
  split at hresult
  next fault hparse => cases hresult
  next program hparse =>
    obtain ⟨hpassed, hstate⟩ := Prod.mk.inj hresult
    refine ⟨program, hparse, congrArg checked hstate.symm, ?_⟩
    rw [← Except.ok.inj hpassed, Finding.anyFatal_eq_isEmpty, filter_isFatal_checkOf, Bool.not_not]
    cases program.filterMap run.setup.objection? <;> rfl

/-- Let a text be gone through and be checked on one lathe, whatever was done before, and let
neither end in a fault. The check passes exactly if the dry run succeeds. If they do not, then the
dry run has one fatal finding and the check has the same one first. The fatal findings of the check
are one for each preparatory statement with a code that the lathe does not have, wherever in the
program it stands, in the order of the statements, and in a report they are in that order, too. -/
theorem check_agrees_with_run (run other : DryRun) (hlathe : other.profile = run.profile)
    (hprocess : (process text none run).answer = .ok succeeded)
    (hcheck : (check text other).answer = .ok passed) :
    let findings := (process text none run).state.findings
    let checked := (check text other).state.checked
    passed = succeeded ∧
    (succeeded = false → ∃ error, findings.filter Finding.isFatal = [error] ∧
      (checked.filter Finding.isFatal).head? = some error) ∧
    (∃ program, Program.parse text = .ok program ∧
      List.Forall₂ Setup.ObjectsTo
        (program.filter fun s =>
          decide (s.kind = .preparatory ∧ ∃ code ∈ s.code, code ∉ run.profile.gCodes))
        (checked.filter Finding.isFatal)) ∧
    (Finding.sorted checked).filter Finding.isFatal = checked.filter Finding.isFatal := by
  have hsetup : other.setup = run.setup := by
    unfold setup
    rw [hlathe]
  obtain ⟨program, outcome, hparse, hreplay, rfl, hstate⟩ := exists_outcome_of_process hprocess
  obtain ⟨program', hparse', hchecked, rfl⟩ := exists_program_of_check hcheck
  obtain rfl : program = program' := Except.ok.inj (hparse.symm.trans hparse')
  have hfirst := Setup.head?_objections_of_replay hreplay
  rw [hstate, hchecked, hsetup, hfirst]
  dsimp only
  rw [sorted_checkOf other hparse, filter_isFatal_checkOf, hsetup, hfirst]
  refine ⟨rfl, fun hfails => ?_, ⟨program, hparse, ?_⟩, rfl⟩
  · obtain ⟨error, herror⟩ := Option.isSome_iff_exists.mp (by simpa using hfails)
    refine ⟨error, ?_, herror⟩
    have hreport := Setup.filter_isFatal_report text hreplay
    rw [List.append_assoc] at hreport
    exact hreport.trans (congrArg Option.toList herror)
  · -- the statements that are not supported are those with a code that the lathe does not have
    have hlacks : (program.filter fun s =>
        decide (s.kind = .preparatory ∧ ∃ code ∈ s.code, code ∉ run.profile.gCodes)) =
        program.filter fun s => !run.setup.supports s := by
      refine List.filter_congr fun s _ => ?_
      rw [Bool.eq_iff_iff, decide_eq_true_iff, Bool.not_eq_true', Setup.supports_eq_false_iff]
      rfl
    rw [hlacks]
    exact Setup.forall₂_objections run.setup program

/-- Of two unsupported statements, the dry run finds the first and the check finds both, also with a
stray character between them and a code that is not a whole number. -/
theorem check_agrees_twoUnsupported :
    let run : DryRun := { profile := .lathe }
    let text := "G05.1 M3 G77\n%G0 X1"
    let findings := (process text none run).state.findings
    let checked := (check text run).state.checked
    (process text none run).answer = .ok false ∧ (check text run).answer = .ok false ∧
      (∃ error, findings.filter Finding.isFatal = [error] ∧
        (checked.filter Finding.isFatal).head? = some error) ∧
      (checked.filter Finding.isFatal).length = 2 := by
  intro run text findings checked
  have hprocess : (process text none run).answer = .ok false := by
    refine (answer_process text none run).trans (eq_ok_of_toOption ?_)
    decide +kernel
  have hcheck : (check text run).answer = .ok false := by
    refine eq_ok_of_toOption ?_
    decide +kernel
  obtain ⟨-, hfirst, -, -⟩ := check_agrees_with_run run run rfl hprocess hcheck
  refine ⟨hprocess, hcheck, hfirst rfl, ?_⟩
  decide +kernel

end DryRun

end Lathe
