import Lathe.Program.Parse
import Lathe.Proofs.Action

/-!
# The order of statements

The statements of a program stand in the order of their lines. A line makes statements that name it
(`line_of_readLine`), and the lines of a text are numbered one after the other
(`SourceLine.pairwise_number_ofText`); so of two statements, the earlier one is on no later line
(`pairwise_line_of_parse`).
-/

namespace Lathe

theorem SourceLine.pairwise_number_ofText (text : String) :
    (ofText text).Pairwise fun line below => line.number < below.number := by
  -- the number of a line is its place in the enumeration
  have hnumbers : (((text.toList.splitOn '\n').zipIdx 1).map Prod.snd).Pairwise (· < ·) := by
    rw [List.zipIdx_map_snd]
    exact List.pairwise_lt_range'
  exact List.pairwise_map.mpr (List.pairwise_map.mp hnumbers)

namespace Program

variable {number : Nat} {raw : String} {draft : Draft} {words : List Word} {line : SourceLine}
  {lines : List SourceLine} {statements : List Statement} {s : Statement}

theorem line_of_readWords (h : readWords number raw draft words = .ok statements)
    (hs : s ∈ statements) : s.line = number := by
  induction words generalizing draft statements with
  | nil =>
    cases h
    rw [List.mem_singleton.mp hs]
    rfl
  | cons w rest ih =>
    rw [readWords] at h
    split at h
    · exact ih h hs
    next kind hkind =>
      split at h
      · cases h
      next code hcode =>
        dsimp only at h
        split at h
        · -- the draft is complete, and the word begins the next one
          obtain ⟨others, hnext, rfl⟩ := exists_of_map_eq_ok h
          rcases List.mem_cons.mp hs with rfl | hs
          · rfl
          · exact ih hnext hs
        · exact ih h hs

/-- The statements of a line name it. -/
theorem line_of_readLine (h : readLine line = .ok statements) (hs : s ∈ statements) :
    s.line = line.number := by
  unfold readLine at h
  split at h
  · cases h
    cases hs
  · exact line_of_readWords h hs

theorem exists_of_readLines_cons (h : readLines (line :: lines) = .ok statements) :
    ∃ first others, readLine line = .ok first ∧ readLines lines = .ok others ∧
      statements = first ++ others := by
  rw [readLines] at h
  split at h
  · cases h
  next first hfirst =>
    obtain ⟨others, hothers, hstatements⟩ := exists_of_map_eq_ok h
    exact ⟨first, others, hfirst, hothers, hstatements⟩

theorem exists_line_of_readLines (h : readLines lines = .ok statements) (hs : s ∈ statements) :
    ∃ line ∈ lines, s.line = line.number := by
  induction lines generalizing statements with
  | nil =>
    cases h
    cases hs
  | cons line rest ih =>
    obtain ⟨first, others, hfirst, hothers, rfl⟩ := exists_of_readLines_cons h
    rcases List.mem_append.mp hs with hs | hs
    · exact ⟨line, List.mem_cons_self, line_of_readLine hfirst hs⟩
    · obtain ⟨below, hbelow, hline⟩ := ih hothers hs
      exact ⟨below, List.mem_cons_of_mem line hbelow, hline⟩

theorem pairwise_line_of_readLines (h : readLines lines = .ok statements)
    (hlines : lines.Pairwise fun line below => line.number < below.number) :
    statements.Pairwise fun s t => s.line ≤ t.line := by
  induction lines generalizing statements with
  | nil =>
    cases h
    exact .nil
  | cons line rest ih =>
    obtain ⟨first, others, hfirst, hothers, rfl⟩ := exists_of_readLines_cons h
    obtain ⟨hbelow, hrest⟩ := List.pairwise_cons.mp hlines
    refine List.pairwise_append.mpr ⟨?_, ih hothers hrest, ?_⟩
    · -- on one line, all statements have the same number
      refine List.pairwise_of_forall_mem_list fun s hs t ht => ?_
      exact Nat.le_of_eq ((line_of_readLine hfirst hs).trans (line_of_readLine hfirst ht).symm)
    · intro s hs t ht
      obtain ⟨below, hmem, hline⟩ := exists_line_of_readLines hothers ht
      rw [line_of_readLine hfirst hs, hline]
      exact Nat.le_of_lt (hbelow below hmem)

/-- Of two statements of a program, the earlier one is on no later line. -/
theorem pairwise_line_of_parse {text : String} {program : List Statement}
    (h : parse text = .ok program) : program.Pairwise fun s t => s.line ≤ t.line :=
  pairwise_line_of_readLines h (SourceLine.pairwise_number_ofText text)

end Program

end Lathe
