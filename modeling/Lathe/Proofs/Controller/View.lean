import Lathe.Proofs.Controller.History

/-!
# Views of a controller

A view of a controller leaves its memo out and shows the tools and the wear written last in its own
way. A view *suffices* if a refresh goes by nothing else: what it answers, and what the view shows
of the controller after it, is told by what the view shows before. Then all operations go by nothing
else either, and controllers that look alike in the view cannot be told apart by operating them.

* `View.readied_of`, `View.unrefreshed_of`: what precedes a refresh, and what takes the place of
  one, looks at the memo, the tools and the wear written last in no way at all;
* `View.Suffices.steps_eq`: two controllers with sound memos that look alike answer alike to every
  operation of a run, and look alike after each of them.
-/

namespace Lathe.Controller

open Lathe.Action

variable {c d : Controller}

/-- A view of a controller. What it shows is shown as it is when it is looked at again. -/
structure View where
  /-- How the tools are shown. -/
  tools : ToolTable → ToolTable
  /-- How the wear written last is shown. -/
  delta : Option WearDelta → Option WearDelta
  tools_tools : ∀ table, tools (tools table) = tools table
  delta_delta : ∀ written, delta (delta written) = delta written

namespace View

/-- What a view shows of a controller. -/
def of (view : View) (c : Controller) : Controller :=
  { c with
    tools := view.tools c.tools
    delta := view.delta c.delta
    memo := ⟨0, []⟩
    memoises := false }

theorem of_of (view : View) (c : Controller) : view.of (view.of c) = view.of c := by
  simp only [View.of, view.tools_tools, view.delta_delta]

/-- A refresh goes by nothing but what the view shows. -/
def Suffices (view : View) : Prop :=
  ∀ c, (view.of c).refreshed.1 = c.refreshed.1 ∧
    view.of (view.of c).refreshed.2 = view.of c.refreshed.2

/-- What an operation readies is told by what a view shows. -/
theorem readied_of (view : View) (c : Controller) (command : Command) :
    (view.of c).readied command = (c.readied command).map view.of := by
  cases command with
  | load text =>
    -- the memo of a view is as good as cleared
    simp only [readied]
    cases Program.parse text <;> rfl
  | start | seek | setManual =>
    -- the test reads the same on both sides
    simp only [readied, apply_ite (Option.map view.of)]
    rfl
  | tick =>
    simp only [readied, ticked, apply_ite (Option.map view.of), Option.map_some, apply_ite view.of]
    rfl
  | reset | refresh | pause | confirmToolChange | setFeed | setMaterial => rfl

/-- What an operation does without refreshing is told by what a view shows. -/
theorem unrefreshed_of (view : View) (c : Controller) (command : Command) :
    (view.of c).unrefreshed command =
      ((c.unrefreshed command).1, view.of (c.unrefreshed command).2) := by
  cases command with
  | start =>
    simp only [unrefreshed]
    by_cases halarm : c.mode = .alarm
    · rw [if_pos halarm, if_pos (show (view.of c).mode = .alarm from halarm)]
    · rw [if_neg halarm, if_neg (show (view.of c).mode ≠ .alarm from halarm)]
      rfl
  | pause =>
    simp only [unrefreshed, apply_ite view.of]
    rfl
  | setFeed percent =>
    simp only [unrefreshed]
    cases truncate percent <;> rfl
  | load | reset | confirmToolChange | tick | seek | refresh | setManual | setMaterial => rfl

namespace Suffices

variable {view : View}

/-- What an operation does is told by what a view shows that suffices. -/
theorem performed_of (h : view.Suffices) (c : Controller) (command : Command) :
    ((view.of c).performed command).1 = (c.performed command).1 ∧
      view.of ((view.of c).performed command).2 = view.of (c.performed command).2 := by
  unfold performed
  rw [readied_of, unrefreshed_of]
  cases c.readied command with
  | none => exact ⟨rfl, view.of_of _⟩
  | some d =>
    obtain ⟨hanswer, hstate⟩ := h d
    exact ⟨by simp only [Option.map_some, hanswer], hstate⟩

/-- Two controllers with sound memos that look alike answer alike, and look alike afterwards. -/
theorem perform_eq (h : view.Suffices) (hc : c.MemoSound) (hd : d.MemoSound)
    (heq : view.of c = view.of d) (command : Command) :
    (perform command c).answer = (perform command d).answer ∧
      view.of (perform command c).state = view.of (perform command d).state := by
  obtain ⟨hcanswer, cmemo, cmemoises, hcstate⟩ := hc.exists_perform_eq command
  obtain ⟨hdanswer, dmemo, dmemoises, hdstate⟩ := hd.exists_perform_eq command
  obtain ⟨hcview, hcview'⟩ := h.performed_of c command
  obtain ⟨hdview, hdview'⟩ := h.performed_of d command
  -- from the two controllers to what the view shows of them, which is the same, and back
  constructor
  · rw [hcanswer, hdanswer, ← hcview, ← hdview, heq]
  · calc
      view.of (perform command c).state = view.of (c.performed command).2 := by
        rw [hcstate]; rfl
      _ = view.of (d.performed command).2 := by rw [← hcview', ← hdview', heq]
      _ = view.of (perform command d).state := by rw [hdstate]; rfl

/-- Two controllers with sound memos that look alike answer alike to every operation of a run, and
look alike after each of them. -/
theorem steps_eq (h : view.Suffices) (hc : c.MemoSound) (hd : d.MemoSound)
    (heq : view.of c = view.of d) (commands : List Command) :
    (steps perform c commands).map (fun step => (step.answer, view.of step.after)) =
      (steps perform d commands).map (fun step => (step.answer, view.of step.after)) := by
  induction commands generalizing c d with
  | nil => rfl
  | cons command rest ih =>
    obtain ⟨hanswer, hstate⟩ := h.perform_eq hc hd heq command
    rw [steps, steps, List.map_cons, List.map_cons, hanswer, hstate,
      ih (hc.perform command) (hd.perform command) hstate]

end Suffices

end View

end Lathe.Controller
