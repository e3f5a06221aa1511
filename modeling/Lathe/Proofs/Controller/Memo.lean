import Lathe.Proofs.Controller.View

/-!
# The memo is invisible

A controller that keeps the outcomes of replays and one that replays afresh every time cannot be
told apart by operating them: the view that shows everything but the memo suffices
(`suffices_everything`), and so the two answer alike and look alike after every operation of a run
(`memo_invisible`).
-/

namespace Lathe.Controller

open Lathe.Action

variable {c d : Controller}

/-- All that there is to see of a controller: everything but the memo. -/
def bare (c : Controller) : Controller :=
  c.withMemo ⟨0, []⟩ false

/-- The controller that does not keep the outcomes of replays. -/
def forgetful (c : Controller) : Controller :=
  { c with memoises := false }

/-- The view that shows everything but the memo. -/
def View.everything : View where
  tools := id
  delta := id
  tools_tools _ := rfl
  delta_delta _ := rfl

/-- A refresh is decided by what there is to see. -/
theorem suffices_everything : View.everything.Suffices := by
  intro c
  have hbare : (View.everything.of c).refreshed = (c.refreshed.1, c.refreshed.2.bare) :=
    refreshed_withMemo _ _ c
  rw [hbare]
  exact ⟨rfl, rfl⟩

/-- A controller that keeps the outcomes of replays and one that replays afresh every time agree,
for every lathe, every tool table and every list of operations, after each of them: on the answer or
the fault, and on everything else but the memo. That includes the machine displayed, with which
`tick`, `seek` and `refresh` answer. -/
theorem memo_invisible (profile : Profile) (tools : ToolTable) (commands : List Command) :
    (steps perform (withTools profile tools) commands).map
        (fun step => (step.answer, step.after.bare)) =
      (steps perform (withTools profile tools).forgetful commands).map
        (fun step => (step.answer, step.after.bare)) := by
  -- an empty memo is sound, whether or not it is kept up
  have hsound := memoSound_withTools profile tools
  have hforgetful : (withTools profile tools).forgetful.MemoSound :=
    hsound.congr rfl rfl rfl (.refl _)
  exact suffices_everything.steps_eq hsound hforgetful rfl commands

end Lathe.Controller
