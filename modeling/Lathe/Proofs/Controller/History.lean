import Lathe.Proofs.Controller.Operation
import Lathe.Proofs.History

/-!
# Runs of the controller

A run is a history of operations, each of which the controller performs. Whatever is done to it, a
controller can be trusted in two respects.

* `MemoSound.perform`, `MemoSound.after`: no operation and no run makes the memo unsound;
* `InProgram.perform`: no operation moves the cursor out of the program;
* `Coherent.perform`: both of it.
-/

namespace Lathe.Controller

open Lathe.Action

variable {c : Controller} {command : Command}

/-! ## The memo in a run -/

/-- A controller on which nothing was done yet has a sound memo. -/
theorem memoSound_withTools (profile : Profile) (tools : ToolTable) :
    (withTools profile tools).MemoSound :=
  .of_outcomes_eq_nil (Nat.le_refl _) rfl

/-- An operation keeps the memo sound. -/
theorem MemoSound.perform (h : c.MemoSound) (command : Command) :
    (perform command c).state.MemoSound := by
  obtain ⟨memo, hresult, hsound⟩ := perform_yields h command
  have hstate : (Controller.perform command c).state =
      (c.performed command).2.withMemo memo c.memoises := congrArg Prod.snd hresult
  rw [hstate]
  exact hsound

/-- A run keeps the memo sound. -/
theorem MemoSound.after (h : c.MemoSound) (commands : List Command) :
    (Action.after Controller.perform c commands).MemoSound :=
  invariant_after (fun _ command hc => hc.perform command) h commands

/-- On a sound memo, the controller after an operation is the one that `performed` tells, the memo
aside, and so is the answer. -/
theorem MemoSound.exists_perform_eq (h : c.MemoSound) (command : Command) :
    (Controller.perform command c).answer = (c.performed command).1 ∧
      ∃ memo memoises, (Controller.perform command c).state =
        (c.performed command).2.withMemo memo memoises := by
  obtain ⟨memo, hresult, -⟩ := perform_yields h command
  exact ⟨congrArg Prod.fst hresult, memo, c.memoises, congrArg Prod.snd hresult⟩

/-! ## The cursor in a run -/

/-- The cursor stands at a statement; in an empty program it stands at the start. -/
def InProgram (c : Controller) : Prop :=
  c.cursor ≤ c.program.length - 1

/-- In a program that is not empty there is a statement at the cursor. -/
theorem InProgram.lt_length (h : c.InProgram) (hprogram : c.program ≠ []) :
    c.cursor < c.program.length := by
  have hpos : 0 < c.program.length := List.length_pos_iff.mpr hprogram
  have hle : c.cursor ≤ c.program.length - 1 := h
  omega

/-- A controller that is readied to be refreshed has its cursor in the program. -/
theorem Readies.inProgram {d : Controller} (h : Readies c command d) (hc : c.InProgram) :
    d.InProgram := by
  cases h with
  | load | reset => exact Nat.zero_le _
  | start =>
    show (if c.atEnd then 0 else c.cursor) ≤ c.program.length - 1
    split
    · exact Nat.zero_le _
    · exact hc
  | advance _ hend =>
    -- a tick goes on only before the last statement
    have hnext : ¬c.program.length ≤ c.cursor + 1 := of_decide_eq_false hend
    show c.cursor + 1 ≤ c.program.length - 1
    omega
  | seek index =>
    -- places before the program count as its start, and places behind it as its end
    show (min index (c.program.length - 1 : Nat)).toNat ≤ c.program.length - 1
    omega
  | finish | refresh | setManual => exact hc

/-- An operation keeps the cursor in the program, also when it ends in a fault. -/
theorem InProgram.perform (hc : c.InProgram) (hsound : c.MemoSound) (command : Command) :
    (perform command c).state.InProgram := by
  rcases perform_cases hsound command with
    ⟨d, _, e, memo, memoises, hready, hrefreshes, -, hstate⟩ | ⟨d, hleaves, hstate⟩
  · -- refreshing moves neither the cursor nor the program
    have hd : d.cursor ≤ d.program.length - 1 := hready.inProgram hc
    obtain ⟨hcursor, hprogram, -⟩ := hrefreshes.frame
    rw [hstate]
    show e.cursor ≤ e.program.length - 1
    rw [hcursor, hprogram]
    exact hd
  · rw [hstate]
    cases hleaves <;> exact hc

/-- The controller can be trusted in what every run relies on: its memo and its cursor. -/
structure Coherent (c : Controller) : Prop where
  memoSound : c.MemoSound
  inProgram : c.InProgram

theorem coherent_withTools (profile : Profile) (tools : ToolTable) :
    (withTools profile tools).Coherent :=
  ⟨memoSound_withTools profile tools, Nat.zero_le _⟩

/-- An operation keeps a controller coherent, also when it ends in a fault. -/
theorem Coherent.perform (h : c.Coherent) (command : Command) :
    (perform command c).state.Coherent :=
  ⟨h.memoSound.perform command, h.inProgram.perform h.memoSound command⟩

end Lathe.Controller
