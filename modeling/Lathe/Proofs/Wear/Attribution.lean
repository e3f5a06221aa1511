import Lathe.Proofs.Wear.Instalment

/-!
# Which tool is charged

There is one meter for all tools. What it has gathered when the tool is changed stays gathered, and
is written to the tool of the pass that passes the threshold, whichever tools have caused it. So an
instalment is charged to the tool that has cut exactly if all of its passes were made with one tool:
if the tool changes only when nothing is gathered, or nothing is written any more after that.

* `WearAccount.PassesOn`: a tool goes on with what another one has gathered, and it is written;
* `WearAccount.Division.ofOneTool_iff`: apart from that, every instalment is of one tool;
* `WearAccount.charged_to_own_tool_iff`: what this means for a run;
* `WearAccount.charged_to_other_tool`: a run in which a tool is charged for another one.
-/

namespace Lathe

namespace WearAccount

/-- All passes of an instalment were made with the tool to which it is written. -/
def Instalment.OfOneTool (i : Instalment) : Prop :=
  ∀ e ∈ i.entries, e.tool = i.closing.tool

theorem Instalment.ofOneTool_iff {i : Instalment} :
    i.OfOneTool ↔ ∀ e ∈ i.gathered, e.tool = i.closing.tool := by
  simp [OfOneTool, entries, or_imp, forall_and]

/-- Of two passes one after the other, the first one is only gathered, the second one is made with
another tool, and from that one on something is written. -/
def PassesOn (entries : List Entry) : Prop :=
  ∃ before e next later, entries = before ++ e :: next :: later ∧ e.delta? = none ∧
    next.tool ≠ e.tool ∧ ∃ writing ∈ next :: later, writing.delta? ≠ none

variable {rate threshold : Float} {e closing : Entry}
  {gathered entries later remainder : List Entry} {instalments : List Instalment}

/-- Where something is passed on, it is from the first pass to the next one or later on. -/
theorem passesOn_cons_iff :
    PassesOn (e :: later) ↔
      (e.delta? = none ∧ (∃ next, later.head? = some next ∧ next.tool ≠ e.tool) ∧
        ∃ writing ∈ later, writing.delta? ≠ none) ∨ PassesOn later := by
  constructor
  · rintro ⟨before, first, next, rest, heq, hdelta, htool, hwriting⟩
    cases before with
    | nil =>
      obtain ⟨rfl, rfl⟩ := List.cons.inj heq
      exact .inl ⟨hdelta, ⟨next, rfl, htool⟩, hwriting⟩
    | cons _ before =>
      exact .inr ⟨before, first, next, rest, (List.cons.inj heq).2, hdelta, htool, hwriting⟩
  · rintro (⟨hdelta, ⟨next, hnext, htool⟩, hwriting⟩ | ⟨before, first, next, rest, rfl, hrest⟩)
    · obtain ⟨rest, rfl⟩ := List.head?_eq_some_iff.mp hnext
      exact ⟨[], e, next, rest, rfl, hdelta, htool, hwriting⟩
    · exact ⟨e :: before, first, next, rest, rfl, hrest⟩

/-- Nothing is passed on where nothing is written. -/
theorem Gathering.not_passesOn (h : Gathering rate threshold entries) : ¬PassesOn entries := by
  rintro ⟨before, e, next, later, rfl, -, -, writing, hmem, hwriting⟩
  apply hwriting
  apply h.delta_eq_none
  exact List.mem_append_right before (List.mem_cons_of_mem e hmem)

/-- Something is passed on in an instalment exactly if it is not of one tool: since it is written at
its end, every change of the tool before that passes something on. -/
theorem passesOn_append_cons_iff (hgathered : ∀ e ∈ gathered, e.delta? = none)
    (hclosing : closing.delta? ≠ none) :
    PassesOn (gathered ++ closing :: later) ↔
      (∃ e ∈ gathered, e.tool ≠ closing.tool) ∨ PassesOn later := by
  induction gathered with
  | nil =>
    rw [List.nil_append, passesOn_cons_iff]
    simp [hclosing]
  | cons first others ih =>
    obtain ⟨hfirst, hothers⟩ := List.forall_mem_cons.mp hgathered
    have hwriting : ∃ writing ∈ others ++ closing :: later, writing.delta? ≠ none :=
      ⟨closing, by simp, hclosing⟩
    rw [List.cons_append, passesOn_cons_iff, ih hothers]
    by_cases hother : ∃ e ∈ others, e.tool ≠ closing.tool
    · simp [hother]
    · -- the others are of one tool, so it is the first pass that decides
      have hnext : ∃ next, (others ++ closing :: later).head? = some next ∧
          next.tool = closing.tool := by
        cases others with
        | nil => exact ⟨closing, rfl, rfl⟩
        | cons next rest =>
          refine ⟨next, rfl, ?_⟩
          by_contra htool
          exact hother ⟨next, List.mem_cons_self, htool⟩
      obtain ⟨next, hhead, htool⟩ := hnext
      simp only [hfirst, hhead, hwriting, hother, Option.some.injEq, exists_eq_left', htool,
        List.mem_cons, exists_eq_or_imp, true_and, and_true, false_or, or_false]
      rw [ne_comm]

/-- The instalments of a division are each of one tool exactly if nothing is passed on. -/
theorem Division.ofOneTool_iff (h : Division rate threshold entries instalments remainder) :
    (∀ i ∈ instalments, i.OfOneTool) ↔ ¬PassesOn entries := by
  obtain ⟨rfl, hsettled, hremainder⟩ := h
  induction instalments with
  | nil => simpa using hremainder.not_passesOn
  | cons i others ih =>
    obtain ⟨hi, hothers⟩ := List.forall_mem_cons.mp hsettled
    obtain ⟨wear, hdelta⟩ := hi.delta_eq
    have hclosing : i.closing.delta? ≠ none := by
      rw [show i.closing.delta? = some _ from hdelta]
      exact Option.some_ne_none _
    have hsplit : (i :: others).flatMap Instalment.entries ++ remainder =
        i.gathered ++ i.closing :: (others.flatMap Instalment.entries ++ remainder) := by
      simp [Instalment.entries]
    rw [hsplit, passesOn_append_cons_iff hi.gathering.delta_eq_none hclosing, not_or,
      ← ih hothers, List.forall_mem_cons, Instalment.ofOneTool_iff]
    simp

/-- Let a meter that has gathered nothing be told of any number of passes. What is written to a tool
is the wear of the passes of an instalment, and these were all made with that tool exactly if
nothing is passed on: if no tool goes on where another one has gathered something, unless nothing is
written from then on. -/
theorem charged_to_own_tool_iff (rate threshold stockDiameter : Float) (tools : ToolTable)
    (passes : List Pass) :
    let a : WearAccount := ⟨{ rate, threshold, stockDiameter }, tools⟩
    let counted := (a.entries passes).filter (Entry.counts stockDiameter)
    ∃ instalments remainder,
      Division rate threshold counted instalments remainder ∧
      (a.entries passes).filterMap Entry.delta? = instalments.filterMap Instalment.delta? ∧
      ((∀ i ∈ instalments, i.OfOneTool) ↔ ¬PassesOn counted) := by
  intro a counted
  obtain ⟨instalments, remainder, hdivision, hdeltas, -⟩ :=
    exists_division (a := a) rfl gathering_nil passes
  exact ⟨instalments, remainder, hdivision, hdeltas, hdivision.ofOneTool_iff⟩

/-- A machine that has just cut. -/
def justCut (tool : Int) (position : Point Float) : Machine :=
  { position, spindle := .clockwise, tool, path := [.uncompensated position .cut 1] }

/-- A short cut with one tool, and a long one with another. -/
def cutByTwo : List Pass :=
  [⟨⟨40.0, 0.0⟩, justCut 1 ⟨40.0, -2.0⟩, .steel⟩, ⟨⟨40.0, -2.0⟩, justCut 2 ⟨40.0, -22.0⟩, .steel⟩]

/-- The second tool is charged for both cuts: what is written to it is not the wear of any passes
that were made with it. -/
theorem charged_to_other_tool :
    let a : WearAccount := ⟨{}, .ofList [{ id := 1 }, { id := 2 }]⟩
    (a.entries cutByTwo).filterMap Entry.delta? = [⟨2, 4.4, 4.4⟩] ∧
    ∀ own, own.Sublist (a.entries cutByTwo) → (∀ e ∈ own, e.tool = 2) →
      total a.meter.rate own ≠ 4.4 := by
  intro a
  refine ⟨by decide +kernel, fun own hown htool => ?_⟩
  -- only the second pass was made with the second tool
  have hsecond : own.Sublist ((a.entries cutByTwo).drop 1) := by
    have hsublist := hown.filter fun e => decide (e.tool = 2)
    rwa [List.filter_eq_self.mpr (by simpa using htool)] at hsublist
  rcases List.sublist_singleton.mp hsecond with rfl | rfl <;> decide +kernel

end WearAccount

end Lathe
