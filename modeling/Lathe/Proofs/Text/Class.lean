import Lathe.Program.SourceLine

/-!
# Classes of characters

Digits, blanks and letters are given by runs of code points, and so are the characters that have
another upper case. To see that no character is in two classes, it is enough to compare the runs.

* `Text.isBlank_of_isDigit`, `Text.isLetter_of_isDigit`: digits are neither blanks nor letters;
* `Text.upper_of_isBlank`, `Text.upper_of_isDigit`, `Text.upper_of_isLetter`: blanks, digits and
  the letters that begin words are their own upper case.
-/

namespace Lathe.Text

variable {c : Char} {n : Nat} {runs others : List (Nat × Nat)}

/-! ## Runs -/

/-- A code point is in one of some runs, each given by its first and its last code point. -/
def InRuns (runs : List (Nat × Nat)) (n : Nat) : Prop :=
  ∃ run ∈ runs, run.1 ≤ n ∧ n ≤ run.2

/-- Whether each of some runs ends before each of some others begins, or begins after it ends. -/
def apart (runs others : List (Nat × Nat)) : Bool :=
  runs.all fun run => others.all fun other => run.2.blt other.1 || other.2.blt run.1

theorem InRuns.not_of_apart (h : InRuns runs n) (hapart : apart runs others = true) :
    ¬InRuns others n := by
  rintro ⟨other, hother, hfirst, hlast⟩
  obtain ⟨run, hrun, hstart, hstop⟩ := h
  have hbeside := List.all_eq_true.mp (List.all_eq_true.mp hapart run hrun) other hother
  simp only [Bool.or_eq_true, Nat.blt_eq] at hbeside
  omega

/-- The runs of digits. -/
def digitRuns : List (Nat × Nat) :=
  digitZeros.map fun first => (first, first + 9)

/-- The run of the letters that begin words. -/
def letterRuns : List (Nat × Nat) := [(65, 90)]

/-- The runs of the characters that have another upper case. -/
def casedRuns : List (Nat × Nat) :=
  (97, 122) :: caseRuns.map (fun run => (run.first, run.last)) ++
    caseExpansions.map fun expansion => (expansion.1, expansion.1)

theorem inRuns_of_isDigit (h : isDigit c = true) : InRuns digitRuns c.toNat := by
  unfold isDigit digitValue? at h
  rw [Option.isSome_map, List.find?_isSome] at h
  obtain ⟨first, hmem, hrun⟩ := h
  simp only [Bool.and_eq_true, decide_eq_true_eq] at hrun
  exact ⟨(first, first + 9), List.mem_map_of_mem hmem, hrun.1, Nat.le_of_lt_succ hrun.2⟩

theorem isBlank_iff : isBlank c = true ↔ InRuns blankRuns c.toNat := by
  simp only [isBlank, InRuns, List.any_eq_true, Bool.and_eq_true, decide_eq_true_eq]

theorem isLetter_iff : Lexeme.isLetter c = true ↔ InRuns letterRuns c.toNat := by
  simp only [Lexeme.isLetter, Bool.and_eq_true, decide_eq_true_eq, Char.le_def,
    UInt32.le_iff_toNat_le, InRuns, letterRuns, List.mem_singleton, exists_eq_left]
  rfl

/-- A character that is in none of the runs is its own upper case. -/
theorem upper_of_not_inRuns (h : ¬InRuns casedRuns c.toNat) : upper c = [c] := by
  have hsmall : ¬(97 ≤ c.toNat ∧ c.toNat ≤ 122) := by
    exact fun hrun => h ⟨(97, 122), by simp [casedRuns], hrun⟩
  have hexpansion : caseExpansions.lookup c.toNat = none := by
    refine List.lookup_eq_none_iff.mpr fun expansion hmem => ?_
    rw [bne_iff_ne]
    intro heq
    exact h ⟨(expansion.1, expansion.1), by simpa [casedRuns] using .inr (.inr ⟨_, hmem⟩),
      Nat.le_of_eq heq.symm, Nat.le_of_eq heq⟩
  have hrun : caseRuns.findSome? (·.upper? c.toNat) = none := by
    refine List.findSome?_eq_none_iff.mpr fun run hmem => if_neg ?_
    rintro ⟨hfirst, hlast, -⟩
    refine h ⟨(run.first, run.last), ?_, hfirst, hlast⟩
    exact List.mem_append_left _ (List.mem_cons_of_mem _ (List.mem_map_of_mem hmem))
  -- below 128 the case is that of ASCII, and from there on the tables are looked up
  unfold upper
  split
  · have hself : c.toUpper = c := dif_neg (by simpa [UInt32.le_iff_toNat_le] using hsmall)
    rw [hself]
  · simp only [hexpansion, hrun]

/-! ## Apartness -/

/-- Digits are no blanks. -/
theorem isBlank_of_isDigit (h : isDigit c = true) : isBlank c = false := by
  rw [Bool.eq_false_iff, ne_eq, isBlank_iff]
  exact (inRuns_of_isDigit h).not_of_apart (by decide +kernel)

theorem isMargin_of_isDigit (h : isDigit c = true) : isMargin c = false := by
  rw [isMargin, isBlank_of_isDigit h, Bool.false_and]

/-- Digits are no letters. -/
theorem isLetter_of_isDigit (h : isDigit c = true) : Lexeme.isLetter c = false := by
  rw [Bool.eq_false_iff, ne_eq, isLetter_iff]
  exact (inRuns_of_isDigit h).not_of_apart (by decide +kernel)

/-- Letters are no blanks. -/
theorem isBlank_of_isLetter (h : Lexeme.isLetter c = true) : isBlank c = false := by
  rw [Bool.eq_false_iff, ne_eq, isBlank_iff]
  exact (isLetter_iff.mp h).not_of_apart (by decide +kernel)

theorem upper_of_isDigit (h : isDigit c = true) : upper c = [c] :=
  upper_of_not_inRuns ((inRuns_of_isDigit h).not_of_apart (by decide +kernel))

theorem upper_of_isBlank (h : isBlank c = true) : upper c = [c] :=
  upper_of_not_inRuns ((isBlank_iff.mp h).not_of_apart (by decide +kernel))

theorem upper_of_isLetter (h : Lexeme.isLetter c = true) : upper c = [c] :=
  upper_of_not_inRuns ((isLetter_iff.mp h).not_of_apart (by decide +kernel))

end Lathe.Text
