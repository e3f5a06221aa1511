import Lathe.Proofs.DryRun.Check
import Lathe.Proofs.DryRun.Report
import Lathe.Proofs.Replay.Lines

/-!
# The findings for the editor

The editor is shown what a dry run has found together with what a check has found, in the order of
their places. The findings of the run are all kept, as often as they were made; of those of the
check only the ones that the run lacks are added, and each of them once.

* `merge_eq`: what a merge gives, in closed form;
* `filter_merge`: findings of one kind are merged by themselves;
* `merge_head?`: a first finding that the run has made already changes nothing;
* `filter_isFatal_process`, `filter_isFatal_check`: of the objections to the statements of a text, a
  dry run finds the first one or none, and a check finds them all;
* `filter_isFatal_editorFindings`: after both, the fatal findings are the objections, each once;
* `editor_report`: how often and in which order everything stands in the report.
-/

namespace Lathe

namespace DryRun

variable {f : Finding} {findings checked : List Finding}

/-! ## Merges -/

/-- The findings of a check that a run has not made, in the order in which they were made first. -/
def additions (findings checked : List Finding) : List Finding :=
  (checked.filter fun f => decide (f ∉ findings)).eraseDups

theorem mem_additions : f ∈ additions findings checked ↔ f ∈ checked ∧ f ∉ findings := by
  rw [additions, List.mem_eraseDups, List.mem_filter, decide_eq_true_iff]

theorem merge_cons_of_mem (h : f ∈ findings) :
    merge findings (f :: checked) = merge findings checked := by
  rw [merge, if_pos (List.contains_iff_mem.mpr h)]

theorem merge_cons_of_not_mem (h : f ∉ findings) :
    merge findings (f :: checked) = merge (findings ++ [f]) checked := by
  rw [merge, if_neg (mt List.contains_iff_mem.mp h)]

/-- A merge keeps the findings of the run and adds to them. -/
theorem merge_eq (findings checked : List Finding) :
    merge findings checked = findings ++ additions findings checked := by
  induction checked generalizing findings with
  | nil => exact (List.append_nil findings).symm
  | cons f rest ih =>
    by_cases hf : f ∈ findings
    · rw [merge_cons_of_mem hf, ih, additions, additions,
        List.filter_cons_of_neg (by simpa using hf)]
    · -- from here on, `f` counts as found
      have hrest : rest.filter (fun g => decide (g ∉ findings ++ [f])) =
          (rest.filter fun g => decide (g ∉ findings)).filter fun g => !g == f := by
        rw [List.filter_filter]
        refine List.filter_congr fun g _ => ?_
        by_cases hg : g = f <;> simp [hg]
      rw [merge_cons_of_not_mem hf, ih, additions, hrest, additions,
        List.filter_cons_of_pos (by simpa using hf), List.eraseDups_cons, List.append_assoc]
      rfl

theorem count_merge_of_mem (h : f ∈ findings) :
    (merge findings checked).count f = findings.count f := by
  have hnew : f ∉ additions findings checked := fun hf => (mem_additions.mp hf).2 h
  rw [merge_eq, List.count_append, List.count_eq_zero_of_not_mem hnew, Nat.add_zero]

theorem count_merge_of_not_mem (hchecked : f ∈ checked) (h : f ∉ findings) :
    (merge findings checked).count f = 1 := by
  have hnew : f ∈ additions findings checked := mem_additions.mpr ⟨hchecked, h⟩
  rw [merge_eq, List.count_append, List.count_eq_zero_of_not_mem h, Nat.zero_add]
  exact List.count_eq_one_of_mem (nodup_eraseDups _) hnew

/-- Findings of one kind are merged by themselves. -/
theorem filter_merge (p : Finding → Bool) (findings checked : List Finding) :
    (merge findings checked).filter p = merge (findings.filter p) (checked.filter p) := by
  induction checked generalizing findings with
  | nil => rfl
  | cons f rest ih =>
    -- a finding of the kind is new to the whole exactly if it is new to those of its kind
    cases hp : p f with
    | true =>
      rw [List.filter_cons_of_pos hp]
      by_cases hf : f ∈ findings
      · rw [merge_cons_of_mem hf, merge_cons_of_mem (List.mem_filter.mpr ⟨hf, hp⟩), ih]
      · rw [merge_cons_of_not_mem hf, merge_cons_of_not_mem (mt List.mem_of_mem_filter hf), ih,
          List.filter_append, List.filter_cons_of_pos hp, List.filter_nil]
    | false =>
      have hneg : ¬p f = true := by simp [hp]
      rw [List.filter_cons_of_neg hneg]
      by_cases hf : f ∈ findings
      · rw [merge_cons_of_mem hf, ih]
      · rw [merge_cons_of_not_mem hf, ih, List.filter_append, List.filter_cons_of_neg hneg,
          List.filter_nil, List.append_nil]

theorem merge_sublist (findings checked : List Finding) :
    List.Sublist (merge findings checked) (findings ++ checked) := by
  induction checked generalizing findings with
  | nil => exact List.sublist_append_left findings []
  | cons f rest ih =>
    by_cases hf : f ∈ findings
    · rw [merge_cons_of_mem hf]
      exact (ih findings).trans ((List.sublist_cons_self f rest).append_left findings)
    · rw [merge_cons_of_not_mem hf]
      simpa using ih (findings ++ [f])

/-- The first finding of a check changes nothing for a run that has made it already. -/
theorem merge_head? (checked : List Finding) :
    merge checked.head?.toList checked = merge [] checked := by
  cases checked with
  | nil => rfl
  | cons f rest => exact merge_cons_of_mem List.mem_cons_self

end DryRun

/-! ## Objections for the editor -/

namespace Setup

variable {setup : Setup} {program : List Statement} {cursor : Int} {s t : Statement}
  {f g : Finding} {outcome : Outcome}

/-- What halts a replay, wherever its cursor is, is the first objection to the program. -/
theorem error?_eq_none_or_head? (h : setup.replay program cursor = .ok outcome) :
    outcome.error? = none ∨
      outcome.error? = (program.filterMap setup.objection?).head? := by
  cases outcome with
  | done index m signals warnings => exact .inl rfl
  | halted index error warnings =>
    obtain ⟨b, s, -, -, hfirst, -, -, ⟨code, hcode, rfl⟩, -⟩ := replay_eq_halted h
    rw [hfirst.head?_objections]
    exact .inr (objection?_eq_some_iff.mpr ⟨hfirst.unsupported, code, hcode, rfl⟩).symm

/-- An objection is told by its line and its code. -/
theorem ObjectsTo.eq_of_line_code (hf : ObjectsTo s f) (hg : ObjectsTo t g)
    (h : (f.line, f.code) = (g.line, g.code)) : f = g := by
  obtain ⟨c, -, rfl⟩ := hf
  obtain ⟨d, -, rfl⟩ := hg
  obtain ⟨hline, hcode⟩ := Prod.mk.inj h
  obtain rfl : c = d := Option.some.inj hcode
  have hlines : s.line = t.line := Int.ofNat_inj.mp hline
  unfold unsupported
  rw [hlines]

end Setup

namespace DryRun

open Lathe.Action

variable {run : DryRun} {text : String} {program : List Statement} {fault : Fault}

/-- The objections to the statements of a text. There are none to a text that cannot be read. -/
def objections (text : String) (run : DryRun) : List Finding :=
  match Program.parse text with
  | .error _ => []
  | .ok program => program.filterMap run.setup.objection?

theorem objections_of_error (hparse : Program.parse text = .error fault) (run : DryRun) :
    run.objections text = [] := by
  rw [objections, hparse]

theorem objections_of_parse (hparse : Program.parse text = .ok program) (run : DryRun) :
    run.objections text = program.filterMap run.setup.objection? := by
  rw [objections, hparse]

theorem mem_objections_iff {f : Finding} :
    f ∈ run.objections text ↔ ∃ program, Program.parse text = .ok program ∧
      ∃ s ∈ program, run.setup.objection? s = some f := by
  cases hparse : Program.parse text with
  | error fault => simp [objections_of_error hparse]
  | ok program => simp [objections_of_parse hparse, List.mem_filterMap]

theorem state_check (text : String) (run : DryRun) :
    (check text run).state =
      { run with checked := Program.warnings text ++ run.objections text } := by
  have hstate := congrArg Prod.snd (result_check text run)
  cases hparse : Program.parse text with
  | error fault =>
    rw [hparse] at hstate
    rw [objections_of_error hparse, List.append_nil]
    exact hstate
  | ok program =>
    rw [hparse] at hstate
    rw [objections_of_parse hparse]
    exact hstate

/-- A dry run does not change what is objected to. -/
theorem objections_process (text : String) (cursor : Option Int) (run : DryRun) :
    (process text cursor run).state.objections text = run.objections text := by
  rw [state_process, objections, objections, setup, profile_processed]
  rfl

/-- There is an objection with a line and a code if some statement on the line has this code and the
lathe does not. -/
theorem exists_mem_objections_iff {line : Int} {code : Option Code} :
    (∃ f ∈ run.objections text, (f.line, f.code) = (line, code)) ↔
      ∃ program, Program.parse text = .ok program ∧ ∃ s ∈ program,
        s.kind = .preparatory ∧ (s.line : Int) = line ∧ s.code = code ∧
          ∃ c ∈ code, c ∉ run.profile.gCodes := by
  constructor
  · rintro ⟨f, hf, hpair⟩
    obtain ⟨program, hparse, s, hs, hobjection⟩ := mem_objections_iff.mp hf
    obtain ⟨hlacks, c, hc, rfl⟩ := Setup.objection?_eq_some_iff.mp hobjection
    obtain ⟨hkind, d, hd, hnew⟩ := Setup.supports_eq_false_iff.mp hlacks
    obtain ⟨rfl, rfl⟩ := Prod.mk.inj hpair
    obtain rfl : c = d := Option.some.inj (hc.symm.trans hd)
    exact ⟨program, hparse, s, hs, hkind, rfl, hc, c, rfl, hnew⟩
  · rintro ⟨program, hparse, s, hs, hkind, rfl, rfl, c, hc, hnew⟩
    have hlacks : run.setup.supports s = false :=
      Setup.supports_eq_false_iff.mpr ⟨hkind, c, hc, hnew⟩
    have hobjection := Setup.objection?_eq_some_iff.mpr ⟨hlacks, c, hc, rfl⟩
    exact ⟨_, mem_objections_iff.mpr ⟨program, hparse, s, hs, hobjection⟩,
      congrArg (Prod.mk _) hc.symm⟩

/-- No two objections to a text have the same line and the same code. -/
theorem eq_of_mem_objections {f g : Finding} (hf : f ∈ run.objections text)
    (hg : g ∈ run.objections text) (h : (f.line, f.code) = (g.line, g.code)) : f = g := by
  obtain ⟨-, -, s, -, hs⟩ := mem_objections_iff.mp hf
  obtain ⟨-, -, t, -, ht⟩ := mem_objections_iff.mp hg
  exact Setup.ObjectsTo.eq_of_line_code (Setup.objection?_eq_some_iff.mp hs).2
    (Setup.objection?_eq_some_iff.mp ht).2 h

/-- The objections stand in the order of a report. -/
theorem pairwise_objections (text : String) (run : DryRun) :
    (run.objections text).Pairwise fun f g => Finding.notAfter f g = true := by
  cases hparse : Program.parse text with
  | error fault =>
    rw [objections_of_error hparse]
    exact .nil
  | ok program =>
    -- a report does not reorder them, and it is in order
    rw [objections_of_parse hparse, ← filter_isFatal_checkOf run text program,
      ← sorted_checkOf run hparse]
    exact (Finding.pairwise_sorted _).filter _

/-- What is fatal among the findings of a dry run is the first objection, or nothing if it has not
got there. -/
theorem filter_isFatal_process (text : String) (cursor : Option Int) (run : DryRun) :
    (process text cursor run).state.findings.filter Finding.isFatal = [] ∨
      (process text cursor run).state.findings.filter Finding.isFatal =
        (run.objections text).head?.toList := by
  rw [state_process]
  unfold processed
  cases hparse : Program.parse text with
  | error fault => exact .inl (Program.filter_isFatal_warnings text)
  | ok program =>
    rw [objections_of_parse hparse]
    dsimp only
    cases hreplay : run.setup.replay program (cursor.getD ((program.length : Int) - 1)) with
    | error fault => exact .inl (Program.filter_isFatal_warnings text)
    | ok outcome =>
      have hreport := Setup.filter_isFatal_report text hreplay
      rw [List.append_assoc] at hreport
      rcases Setup.error?_eq_none_or_head? hreplay with hnone | hhead
      · exact .inl (hreport.trans (congrArg Option.toList hnone))
      · exact .inr (hreport.trans (congrArg Option.toList hhead))

theorem filter_isFatal_check (text : String) (run : DryRun) :
    (check text run).state.checked.filter Finding.isFatal = run.objections text := by
  rw [state_check]
  cases hparse : Program.parse text with
  | error fault =>
    rw [objections_of_error hparse, List.append_nil]
    exact Program.filter_isFatal_warnings text
  | ok program =>
    rw [objections_of_parse hparse]
    exact filter_isFatal_checkOf run text program

/-- After a dry run and a check of one text, what is fatal for the editor are the objections to its
statements, each once. -/
theorem filter_isFatal_editorFindings (text : String) (cursor : Option Int) (run : DryRun) :
    (check text (process text cursor run).state).state.editorFindings.filter Finding.isFatal =
      additions [] (run.objections text) := by
  have hchecked := filter_isFatal_check text (process text cursor run).state
  rw [objections_process] at hchecked
  have hmerged : (merge (process text cursor run).state.findings
      (check text (process text cursor run).state).state.checked).filter Finding.isFatal =
      merge [] (run.objections text) := by
    rw [filter_merge, hchecked]
    -- the dry run has found nothing fatal that the check does not find
    rcases filter_isFatal_process text cursor run with hnil | hhead
    · rw [hnil]
    · rw [hhead, merge_head?]
  have hfindings : (check text (process text cursor run).state).state.findings =
      (process text cursor run).state.findings := by
    rw [state_check]
  rw [editorFindings, hfindings, Finding.filter_sorted, hmerged, merge_eq, List.nil_append]
  rw [hmerged]
  exact (pairwise_objections text run).sublist (merge_sublist [] _)

/-- Whatever a dry run and a check have found, the report for the editor is in the order of lines
and of places in a line. A finding of the run stands in it as often as the run has made it, one that
only the check has made stands in it once, and there is nothing else. Of the findings at one place,
those of the run come first, in their order, and then those of the check alone, in the order in
which they were made first. After a dry run of a text, to its end or up to a cursor, and a check of
the same text, the fatal findings are one for each line and each code that the lathe does not have
and that a preparatory statement on the line has. -/
theorem editor_report (run : DryRun) :
    let report := run.editorFindings
    (report.Pairwise fun f g => f.line < g.line ∨ f.line = g.line ∧ f.start ≤ g.start) ∧
    (∀ f ∈ run.findings, report.count f = run.findings.count f) ∧
    (∀ f ∈ run.checked, f ∉ run.findings → report.count f = 1) ∧
    (∀ f ∈ report, f ∈ run.findings ∨ f ∈ run.checked) ∧
    (∀ line start : Int,
      let here (f : Finding) : Bool := decide (f.line = line ∧ f.start = start)
      report.filter here =
        run.findings.filter here ++ (additions run.findings run.checked).filter here) ∧
    ∀ (text : String) (cursor : Option Int),
      let after := (check text (process text cursor run).state).state
      let fatal := (after.editorFindings.filter Finding.isFatal).map fun f => (f.line, f.code)
      fatal.Nodup ∧
      ∀ (line : Int) (code : Option Code), (line, code) ∈ fatal ↔
        ∃ program, Program.parse text = .ok program ∧ ∃ s ∈ program,
          s.kind = .preparatory ∧ (s.line : Int) = line ∧ s.code = code ∧
            ∃ c ∈ code, c ∉ run.profile.gCodes := by
  refine ⟨?_, fun f hf => ?_, fun f hf hnew => ?_, fun f hf => ?_, fun line start => ?_,
    fun text cursor => ?_⟩
  · exact (Finding.pairwise_sorted _).imp Finding.notAfter_iff.mp
  · exact (Finding.count_sorted f _).trans (count_merge_of_mem hf)
  · exact (Finding.count_sorted f _).trans (count_merge_of_not_mem hf hnew)
  · have hmem := (List.mergeSort_perm (merge run.findings run.checked) _).mem_iff.mp hf
    rw [merge_eq, List.mem_append, mem_additions] at hmem
    exact hmem.imp_right And.left
  · dsimp only
    rw [editorFindings, Finding.filter_place_sorted, merge_eq, List.filter_append]
  · dsimp only
    rw [filter_isFatal_editorFindings]
    have hmem (f : Finding) :
        f ∈ additions [] (run.objections text) ↔ f ∈ run.objections text := by
      rw [mem_additions, and_iff_left List.not_mem_nil]
    refine ⟨(nodup_eraseDups _).map_on fun f hf g hg hpair =>
      eq_of_mem_objections ((hmem f).mp hf) ((hmem g).mp hg) hpair, fun line code => ?_⟩
    rw [List.mem_map, ← exists_mem_objections_iff]
    exact exists_congr fun f => and_congr_left fun _ => hmem f

/-- A code that is repeated on one line is reported once for it, and again for another line; the dry
run has found only the first of them. The stray characters, found by both, are reported once. -/
theorem editor_report_repeatedCodes :
    let run : DryRun := { profile := .lathe }
    let text := "%G05 G05\nG77 % G05"
    let after := (check text (process text none run).state).state
    let fatal := (after.editorFindings.filter Finding.isFatal).map fun f => (f.line, f.code)
    after.findings.length = 3 ∧ after.checked.length = 6 ∧
      (∀ f ∈ after.findings, after.editorFindings.count f = 1) ∧ fatal.Nodup ∧
      (1, some (.whole 5)) ∈ fatal ∧ (2, some (.whole 5)) ∈ fatal ∧
      (2, some (.whole 77)) ∈ fatal := by
  intro run text after fatal
  have hparse : Program.parse text = .ok ((Program.parse text).toOption.getD []) :=
    eq_ok_of_toOption (by decide +kernel)
  obtain ⟨-, -, -, -, -, hfatal⟩ := editor_report run
  obtain ⟨hnodup, hmem⟩ := hfatal text none
  obtain ⟨-, hcount, -⟩ := editor_report after
  have honce : ∀ f ∈ after.findings, after.findings.count f = 1 := by decide +kernel
  refine ⟨by decide +kernel, by decide +kernel, fun f hf => (hcount f hf).trans (honce f hf),
    hnodup, (hmem _ _).mpr ⟨_, hparse, ?_⟩, (hmem _ _).mpr ⟨_, hparse, ?_⟩,
    (hmem _ _).mpr ⟨_, hparse, ?_⟩⟩
  all_goals decide +kernel

end DryRun

end Lathe
