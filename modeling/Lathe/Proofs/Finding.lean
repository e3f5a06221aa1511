import Lathe.Finding

/-!
# Findings in a list

What is fatal among some findings, and what becomes of it in a report. A report puts findings in the
order of their places and keeps the order of those at one place; so findings that are in order
already are not reordered, whatever stands between them (`filter_sorted`).
-/

namespace Lathe.Finding

variable {f g : Finding} {findings : List Finding}

theorem filter_isFatal_eq_nil (h : ∀ f ∈ findings, f.isFatal = false) :
    findings.filter isFatal = [] := by
  refine List.filter_eq_nil_iff.mpr fun f hf => ?_
  rw [h f hf]
  exact Bool.false_ne_true

theorem anyFatal_eq_isEmpty (findings : List Finding) :
    anyFatal findings = !(findings.filter isFatal).isEmpty := by
  unfold anyFatal
  induction findings with
  | nil => rfl
  | cons f rest ih => cases hf : f.isFatal <;> simp [hf, ih]

theorem notAfter_iff :
    notAfter f g = true ↔ f.line < g.line ∨ f.line = g.line ∧ f.start ≤ g.start :=
  decide_eq_true_iff

theorem notAfter_trans (f g h : Finding) (hfg : notAfter f g = true) (hgh : notAfter g h = true) :
    notAfter f h = true := by
  rw [notAfter_iff] at hfg hgh ⊢
  omega

theorem notAfter_total (f g : Finding) : (notAfter f g || notAfter g f) = true := by
  rw [Bool.or_eq_true, notAfter_iff, notAfter_iff]
  omega

/-- Findings that are in order among themselves keep that order in a report. -/
theorem filter_sorted {p : Finding → Bool}
    (h : (findings.filter p).Pairwise fun f g => notAfter f g = true) :
    (sorted findings).filter p = findings.filter p := by
  -- they are found in the report in this order, and there are no others of their kind
  have hsublist : List.Sublist (findings.filter p) (sorted findings) :=
    List.sublist_mergeSort notAfter_trans notAfter_total h List.filter_sublist
  have hfilter : List.Sublist (findings.filter p) ((sorted findings).filter p) := by
    simpa only [List.filter_filter, Bool.and_self] using hsublist.filter p
  have hlength : (findings.filter p).length = ((sorted findings).filter p).length :=
    ((List.mergeSort_perm findings notAfter).filter p).length_eq.symm
  exact (hfilter.eq_of_length hlength).symm

theorem pairwise_sorted (findings : List Finding) :
    (sorted findings).Pairwise fun f g => notAfter f g = true :=
  List.pairwise_mergeSort notAfter_trans notAfter_total findings

theorem count_sorted (f : Finding) (findings : List Finding) :
    (sorted findings).count f = findings.count f :=
  (List.mergeSort_perm findings notAfter).count_eq f

/-- Findings at one place keep their order in a report. -/
theorem filter_place_sorted (line start : Int) (findings : List Finding) :
    (sorted findings).filter (fun f => decide (f.line = line ∧ f.start = start)) =
      findings.filter fun f => decide (f.line = line ∧ f.start = start) := by
  apply filter_sorted
  refine List.pairwise_filter.mpr (List.pairwise_of_forall fun f g hf hg => ?_)
  obtain ⟨hline, hstart⟩ := of_decide_eq_true hf
  obtain ⟨hline', hstart'⟩ := of_decide_eq_true hg
  rw [notAfter_iff]
  omega

end Lathe.Finding
