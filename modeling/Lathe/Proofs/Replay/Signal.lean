import Lathe.Program.Parse
import Lathe.Proofs.Replay.Register
import Lathe.Proofs.Text.Digit

/-!
# The signals of a replay

The statement at the cursor may ask for a change of the tool or for a reset of its wear. It does so
from what is written in it, while the machine has its active tool from all statements before; this
module says that the two agree.

* `lt_of_integer?`, `Statement.mem_range_of_selectedTool`: a tool is named by two characters, so its
  number has two digits at most, in whatever script they are written;
* `Machine.tool_mem_range_of_run`: so the active tool stays in that range in a run;
* `Setup.signals_of_last_statement`: what a replay asks for, it asks for the active tool, and names
  the place and the line at which the machine is.
-/

namespace Lathe

/-! ## Numbers of tools -/

namespace Text

theorem length_trim_le (inClass : Char → Bool) (cs : List Char) :
    (trim inClass cs).length ≤ cs.length := by
  unfold trim
  rw [List.length_reverse]
  refine Nat.le_trans (List.dropWhile_sublist _).length_le ?_
  rw [List.length_reverse]
  exact (List.dropWhile_sublist _).length_le

end Text

/-- An integer has no more digits than there are characters in its text, blanks and sign included.
-/
theorem lt_of_integer? {cs : List Char} {n : Int} (h : integer? cs = some n) :
    n < (10 ^ cs.length : Nat) := by
  unfold integer? at h
  split at h
  next negative digits hsplit =>
    -- a sign leaves one character less for the digits
    have hdigits : digits.length ≤ (Text.trim Text.isMargin cs).length := by
      split at hsplit
      next heq => cases hsplit; simp [heq]
      next heq => cases hsplit; simp [heq]
      next => cases hsplit; exact Nat.le_refl _
    split at h
    · cases h
    · cases h
      have hvalue : Text.digitsValue digits < 10 ^ cs.length :=
        Nat.lt_of_lt_of_le (Text.digitsValue_lt digits)
          (Nat.pow_le_pow_right (by decide) (Nat.le_trans hdigits (Text.length_trim_le _ cs)))
      unfold Number.signed
      split <;> omega

namespace Statement

variable {s : Statement} {id : Int}

/-- A tool is named by two characters. -/
theorem lt_of_toolNumber (h : s.toolNumber = .ok (some id)) : id < 100 := by
  unfold toolNumber at h
  split at h
  next => cases h
  next code _ =>
    split at h
    next => cases h
    next digits _ =>
      split at h
      · cases h
      · split at h
        next n hn =>
          cases h
          have hlt := lt_of_integer? hn
          have hlength : 10 ^ (digits.take 2).length ≤ 10 ^ 2 :=
            Nat.pow_le_pow_right (by decide) (List.length_take_le 2 digits)
          omega
        next => cases h

/-- A tool that is selected has a number of one or two digits. -/
theorem mem_range_of_selectedTool (h : s.selectedTool = some id) : 1 ≤ id ∧ id ≤ 99 := by
  unfold selectedTool at h
  split at h
  next named _ hnumber =>
    have hlt := lt_of_toolNumber hnumber
    -- only a positive number selects a tool
    split at h
    · cases h
      omega
    · cases h
  next => cases h

end Statement

/-- The active tool has a number of one or two digits after a run, if it has before. -/
theorem Machine.tool_mem_range_of_run {setup : Setup} {m m' : Machine} {count : Nat}
    {warnings warnings' : List Finding} {statements : List Statement}
    (h : setup.run count m warnings statements = .ok (.finish m' warnings'))
    (hm : 1 ≤ m.tool ∧ m.tool ≤ 99) : 1 ≤ m'.tool ∧ m'.tool ≤ 99 := by
  have hread : m'.tool = (Register.lastWritten setup statements .tool).getD m.tool :=
    Register.read_run h .tool
  rw [hread]
  cases hlast : Register.lastWritten setup statements .tool with
  | none => exact hm
  | some id =>
    obtain ⟨s, -, hs⟩ := List.mem_filterMap.mp (List.mem_of_getLast? hlast)
    exact Statement.mem_range_of_selectedTool hs

/-! ## Signals -/

namespace Setup

variable {setup : Setup} {program : List Statement} {s : Statement} {m : Machine}
  {cursor index : Int} {signals : List Signal} {warnings : List Finding}

/-- What a statement asks for right after it was executed, it asks for the active tool and on the
line of the machine: a tool that it names is the active one by then. -/
theorem signalsAt_after_execute {before : Machine} {remarks : List Finding}
    (h : before.execute setup s = .ok (m, remarks)) (index : Int) :
    signalsAt s index m = .ok (
      if s.kind = .tool then [⟨.toolChange, index, m.line, m.tool⟩]
      else if s.isM 100 then [⟨.wearReset, index, m.line, m.tool⟩]
      else []) := by
  have hline : m.line = s.line := Register.read_execute h .line
  have htool : m.tool = s.selectedTool.getD before.tool := Register.read_execute h .tool
  unfold signalsAt
  rw [hline]
  cases hkind : s.kind with
  | preparatory => simp [Statement.isM, hkind]
  | miscellaneous => simp [Statement.isM, hkind, Auxiliary.ofCode?_eq_wearReset_iff]
  | tool =>
    -- executing the statement has read its number, so it can be read again
    obtain ⟨sent, hsent⟩ := signalsAt_of_execute h index m
    cases hnumber : s.toolNumber with
    | error fault => simp [signalsAt, hkind, hnumber] at hsent
    | ok named =>
      -- a number that selects no tool stands for the tool that has been active before
      have hnamed : (named.filter fun id => decide (0 < id)).getD m.tool = m.tool := by
        rcases named with _ | id
        · rfl
        · by_cases hpositive : 0 < id <;>
            simp [htool, Statement.selectedTool, hkind, hnumber, hpositive, Option.filter_some]
      simp only [hnamed, ↓reduceIte]

/-- If a replay gets to its cursor, then its active tool has a number from 1 to 99. It asks for a
tool change exactly if the last statement is a tool statement, for a wear reset exactly if that is
an `M100`, and for nothing else. What it asks for names the active tool, the place that the replay
has got to, and the line of the machine. -/
theorem signals_of_last_statement
    (h : setup.replay program cursor = .ok (.done index m signals warnings)) :
    (1 ≤ m.tool ∧ m.tool ≤ 99) ∧
    signals = match (upTo program cursor).getLast? with
      | none => []
      | some s =>
        if s.kind = .tool then [⟨.toolChange, index, m.line, m.tool⟩]
        else if s.isM 100 then [⟨.wearReset, index, m.line, m.tool⟩]
        else [] := by
  have hrun := run_of_replay_eq_done h
  have hfirst : 1 ≤ (Machine.initial setup.home).tool ∧ (Machine.initial setup.home).tool ≤ 99 := by
    simp [Machine.initial]
  refine ⟨Machine.tool_mem_range_of_run hrun hfirst, ?_⟩
  unfold replay at h
  simp only [hrun] at h
  cases hlast : (upTo program cursor).getLast? with
  | none =>
    simp only [hlast] at h
    cases h
    rfl
  | some s =>
    -- the machine is the one right after the last statement
    obtain ⟨rest, hupTo⟩ := List.getLast?_eq_some_iff.mp hlast
    rw [hupTo] at hrun
    obtain ⟨before, _, -, hexecuted⟩ := exists_run_of_append_eq_finish hrun
    obtain ⟨_, hexecute, -⟩ := exists_execute_of_run_singleton hexecuted
    simp only [hlast, signalsAt_after_execute hexecute] at h
    cases h
    rfl

/-- A tool named in digits of another script, a number that names no tool, and a wear reset. -/
def toolNames : List Statement := [
  { kind := .tool, code := some (.whole 4299), params := [], line := 1, raw := "T٤٢99",
    codeText := "٤٢99" },
  { kind := .tool, code := some (.whole (-7)), params := [], line := 3, raw := "T-7",
    codeText := "-7" },
  { kind := .miscellaneous, code := some (.whole 100), params := [], line := 5, raw := "M100",
    codeText := "100" }]

/-- Tool 42 stays the active one when a tool change is asked for without naming a tool. -/
theorem signals_of_toolNames :
    Program.parse "T٤٢99\n\nT-7\n\nM100" = .ok toolNames ∧
    ∃ m signals, ({} : Setup).replay toolNames 1 = .ok (.done 1 m signals []) ∧
      (1 ≤ m.tool ∧ m.tool ≤ 99) ∧ signals = [⟨.toolChange, 1, 3, 42⟩] := by
  have hreplay : ({} : Setup).replay toolNames 1 =
      .ok (.done 1 (({} : Setup).machineAt toolNames 1) [⟨.toolChange, 1, 3, 42⟩] []) := rfl
  obtain ⟨hrange, hsignals⟩ := signals_of_last_statement hreplay
  exact ⟨by decide +kernel, _, _, hreplay, hrange, hsignals⟩

end Setup

end Lathe
