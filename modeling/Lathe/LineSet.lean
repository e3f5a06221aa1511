/-!
# Sets of lines

The editor and the view of the workpiece both mark lines of the program, given by their numbers.
-/

namespace Lathe

/-- A set of line numbers, as the list of its members in increasing order. -/
abbrev LineSet := List Int

/-- The set of the numbers in a list. -/
def LineSet.ofList (numbers : List Int) : LineSet :=
  (numbers.mergeSort fun a b => decide (a ≤ b)).eraseReps

end Lathe
