import Lathe.Proofs.Program.Lines
import Lathe.Proofs.Program.Order
import Lathe.Proofs.Replay.Path
import Mathlib.Data.List.Nodup

/-!
# The lines of a path

Every point of a path names the line that commanded it. The statements of a text stand in the order
of its lines, and a path consists of the points of its statements; so the path runs through the
lines from top to bottom, and a line with its points can be told from the others by its number
alone.

* `Program.line_mem_of_parse`: statements stand on the lines of the text;
* `Setup.pairwise_line_path`: the lines along a path do not decrease;
* `Toolpath.flatMap_onLine`: such a path is put together again from the points of each line;
* `Toolpath.lines_statistics`: the statistics count the lines that have points;
* `Setup.path_line_by_line`: all of this for the replays of a text.
-/

namespace Lathe

/-! ## The lines of a text -/

theorem SourceLine.number_mem_of_mem {text : String} {line : SourceLine} (h : line ∈ ofText text) :
    1 ≤ line.number ∧ line.number ≤ Program.lineCount text := by
  obtain ⟨⟨cs, number⟩, hmem, rfl⟩ := List.mem_map.mp h
  have hnumber : number ∈ ((text.toList.splitOn '\n').zipIdx 1).map Prod.snd :=
    List.mem_map_of_mem hmem
  rw [List.zipIdx_map_snd, List.mem_range'_1, length_splitOn_newline] at hnumber
  show 1 ≤ number ∧ number ≤ text.toList.count '\n' + 1
  omega

/-- The statements of a text stand on its lines. -/
theorem Program.line_mem_of_parse {text : String} {program : List Statement} {s : Statement}
    (h : parse text = .ok program) (hs : s ∈ program) : 1 ≤ s.line ∧ s.line ≤ lineCount text := by
  obtain ⟨line, hline, heq⟩ := exists_line_of_readLines h hs
  rw [heq]
  exact SourceLine.number_mem_of_mem hline

/-! ## The lines along a path -/

/-- The points of a statement are on its line. -/
theorem Statement.line_of_mem_points {s : Statement} {via target : Point Float}
    {point : Point Float × Motion × Int} (h : point ∈ s.points via target) :
    point.2.2 = s.line := by
  unfold points at h
  split at h
  · rw [List.mem_singleton.mp h]
  split at h
  · rw [List.mem_singleton.mp h]
  split at h
  · rcases List.mem_pair.mp h with rfl | rfl <;> rfl
  · cases h

namespace Setup

variable {setup : Setup} {program : List Statement} {cursor index : Int} {m : Machine}
  {signals : List Signal} {warnings : List Finding}

/-- The path of a replay consists of the points of some first statements of the program. -/
theorem exists_points_of_replay
    (h : setup.replay program cursor = .ok (.done index m signals warnings)) :
    ∃ count, m.path.map PathPoint.commanded =
      (program.take count).zipIdx.flatMap fun (s, place) => setup.pointsAt program s place := by
  have hrun := run_of_replay_eq_done h
  rw [upTo_eq_take, List.take_eq_take_min] at hrun
  exact ⟨_, path_of_run (Nat.min_le_right _ _) hrun⟩

/-- A point of the path is on the line of some statement. -/
theorem exists_line_of_mem_path
    (h : setup.replay program cursor = .ok (.done index m signals warnings)) {p : PathPoint}
    (hp : p ∈ m.path) : ∃ s ∈ program, p.line = s.line := by
  obtain ⟨count, hpath⟩ := exists_points_of_replay h
  have hmem : p.commanded ∈ m.path.map PathPoint.commanded := List.mem_map_of_mem hp
  rw [hpath, List.mem_flatMap] at hmem
  obtain ⟨⟨s, place⟩, hplace, hpoint⟩ := hmem
  have hs : s ∈ (program.take count).zipIdx.map Prod.fst := List.mem_map_of_mem hplace
  rw [List.zipIdx_map_fst] at hs
  exact ⟨s, List.mem_of_mem_take hs, Statement.line_of_mem_points hpoint⟩

/-- If the statements of a program are in the order of their lines, so are the points of a path. -/
theorem pairwise_line_path (hprogram : program.Pairwise fun s t => s.line ≤ t.line)
    (h : setup.replay program cursor = .ok (.done index m signals warnings)) :
    m.path.Pairwise fun p q => p.line ≤ q.line := by
  obtain ⟨count, hpath⟩ := exists_points_of_replay h
  have hplaces : (program.take count).zipIdx.Pairwise fun s t => s.1.line ≤ t.1.line := by
    rw [← List.pairwise_map (f := Prod.fst) (R := fun s t : Statement => s.line ≤ t.line),
      List.zipIdx_map_fst]
    exact hprogram.sublist (List.take_sublist _ _)
  have hcommanded : (m.path.map PathPoint.commanded).Pairwise fun p q => p.2.2 ≤ q.2.2 := by
    rw [hpath, List.pairwise_flatMap]
    constructor
    · -- the points of one statement are on one line
      intro ⟨s, place⟩ _
      refine List.pairwise_of_forall_mem_list fun p hp q hq => Int.le_of_eq ?_
      exact (Statement.line_of_mem_points hp).trans (Statement.line_of_mem_points hq).symm
    · refine hplaces.imp fun hst p hp q hq => ?_
      rw [Statement.line_of_mem_points hp, Statement.line_of_mem_points hq]
      exact Int.ofNat_le.mpr hst
  rw [List.pairwise_map] at hcommanded
  exact hcommanded

end Setup

/-! ## The points of each line -/

theorem nodup_eraseDups {α : Type} [DecidableEq α] : ∀ xs : List α, xs.eraseDups.Nodup
  | [] => List.nodup_nil
  | x :: rest => by
    rw [List.eraseDups_cons, List.nodup_cons, List.mem_eraseDups]
    exact ⟨by simp, nodup_eraseDups _⟩
termination_by xs => xs.length
decreasing_by exact Nat.lt_succ_of_le (List.length_filter_le _ _)

namespace Toolpath

variable {path : Toolpath} {first count : Nat}

/-- The points of the first line stand before all the others. -/
theorem onLine_append_filter (hpath : path.Pairwise fun p q => p.line ≤ q.line)
    (hfirst : ∀ p ∈ path, (first : Int) ≤ p.line) :
    path.onLine first ++ path.filter (fun p => !decide (p.line = (first : Int))) = path := by
  induction path with
  | nil => rfl
  | cons p rest ih =>
    obtain ⟨hp, hrest⟩ := List.pairwise_cons.mp hpath
    obtain ⟨hfirst, hfirstRest⟩ := List.forall_mem_cons.mp hfirst
    by_cases hline : p.line = first
    · have htail := ih hrest hfirstRest
      unfold onLine at htail ⊢
      simp only [List.filter_cons, hline, decide_true, ↓reduceIte, Bool.not_true,
        Bool.false_eq_true, List.cons_append, htail]
    · -- the first point is behind the line, and so are all the others
      have hbehind : ∀ q ∈ p :: rest, q.line ≠ first := by
        intro q hq
        have hle : p.line ≤ q.line := by
          rcases List.mem_cons.mp hq with rfl | hq
          · exact Int.le_refl _
          · exact hp q hq
        omega
      have hnone : onLine (p :: rest) first = [] := by
        rw [onLine, List.filter_eq_nil_iff]
        simpa using hbehind
      rw [hnone, List.nil_append, List.filter_eq_self]
      simpa using hbehind

/-- A path whose lines do not decrease is put together again from the points of each line. -/
theorem flatMap_onLine (hpath : path.Pairwise fun p q => p.line ≤ q.line)
    (hlines : ∀ p ∈ path, (first : Int) ≤ p.line ∧ p.line < first + count) :
    (List.range' first count).flatMap (fun line : Nat => path.onLine line) = path := by
  induction count generalizing first path with
  | zero =>
    -- there is no line for a point to be on
    cases path with
    | nil => rfl
    | cons p rest =>
      have hp := hlines p List.mem_cons_self
      omega
  | succ count ih =>
    let others := path.filter fun p => !decide (p.line = (first : Int))
    have hothers : ∀ p ∈ others, ((first + 1 : Nat) : Int) ≤ p.line ∧
        p.line < (first + 1 : Nat) + count := by
      intro p hp
      obtain ⟨hmem, hline⟩ := List.mem_filter.mp hp
      have hbounds := hlines p hmem
      have hne : p.line ≠ first := by simpa using hline
      omega
    -- what is not on the first line does not change the points of a later one
    have hlater : ∀ line ∈ List.range' (first + 1) count,
        path.onLine line = onLine others line := by
      intro line hline
      have hlt : first < line := (List.mem_range'_1.mp hline).1
      unfold onLine
      rw [List.filter_filter]
      refine List.filter_congr fun p _ => ?_
      by_cases hp : p.line = line
      · have hne : (line : Int) ≠ first := by omega
        simp [hp, hne]
      · simp [hp]
    calc (List.range' first (count + 1)).flatMap (fun line : Nat => path.onLine line)
        = path.onLine first ++ (List.range' (first + 1) count).flatMap fun line : Nat =>
            path.onLine line := by
          rw [List.range'_succ, List.flatMap_cons]
      _ = path.onLine first ++ (List.range' (first + 1) count).flatMap fun line : Nat =>
            onLine others line := by
          rw [List.flatMap_congr hlater]
      _ = path.onLine first ++ others := by rw [ih (hpath.filter _) hothers]
      _ = path := onLine_append_filter hpath fun p hp => (hlines p hp).1

/-- The statistics of a path count the lines that have points. -/
theorem lines_statistics (hlines : ∀ p ∈ path, (first : Int) ≤ p.line ∧ p.line < first + count)
    (start : Option (Point Float)) :
    (path.statistics start).lines =
      (List.range' first count).countP fun line : Nat => !(path.onLine line).isEmpty := by
  let used := (List.range' first count).filter fun line : Nat => !(path.onLine line).isEmpty
  have hrange : (List.range' first count).Nodup := List.nodup_range'
  have hused : (used.map (Nat.cast : Nat → Int)).Nodup :=
    (hrange.filter _).map fun _ _ => Int.ofNat_inj.mp
  -- neither list repeats a line, so it is enough that they have the same members
  have hsame : (path.map (·.line)).eraseDups.Perm (used.map (Nat.cast : Nat → Int)) := by
    refine (List.perm_ext_iff_of_nodup (nodup_eraseDups _) hused).mpr fun line => ?_
    rw [List.mem_eraseDups, List.mem_map, List.mem_map]
    constructor
    · rintro ⟨p, hp, rfl⟩
      obtain ⟨hfirst, hlast⟩ := hlines p hp
      have hcast : (p.line.toNat : Int) = p.line := Int.toNat_of_nonneg (by omega)
      refine ⟨p.line.toNat, List.mem_filter.mpr ⟨List.mem_range'_1.mpr (by omega), ?_⟩, hcast⟩
      have hmem : p ∈ path.onLine p.line := List.mem_filter.mpr ⟨hp, by simp⟩
      rw [hcast, Bool.not_eq_true', List.isEmpty_eq_false_iff]
      exact List.ne_nil_of_mem hmem
    · rintro ⟨number, hnumber, rfl⟩
      have hpoints := (List.mem_filter.mp hnumber).2
      rw [Bool.not_eq_true', List.isEmpty_eq_false_iff] at hpoints
      obtain ⟨p, hp⟩ := List.exists_mem_of_ne_nil _ hpoints
      obtain ⟨hmem, hline⟩ := List.mem_filter.mp hp
      exact ⟨p, hmem, of_decide_eq_true hline⟩
  show (path.map (·.line)).eraseDups.length = _
  rw [hsame.length_eq, List.length_map, List.countP_eq_length_filter]

end Toolpath

namespace Setup

variable {setup : Setup} {program : List Statement} {cursor index : Int} {m : Machine}
  {signals : List Signal} {warnings : List Finding}

/-- Let a text be replayed up to some cursor. The lines along the path do not decrease, and all of
them are lines of the text. So the points of the first line, those of the second one and so on to
the last line make up the path, in its order, and the lines that the statistics count are those
that have points. -/
theorem path_line_by_line {text : String} (hparse : Program.parse text = .ok program)
    (h : setup.replay program cursor = .ok (.done index m signals warnings)) :
    m.path.Pairwise (fun p q => p.line ≤ q.line) ∧
    (∀ p ∈ m.path, 1 ≤ p.line ∧ p.line ≤ Program.lineCount text) ∧
    (List.range' 1 (Program.lineCount text)).flatMap (fun line : Nat => m.path.onLine line) =
      m.path ∧
    ∀ start, (m.path.statistics start).lines =
      (List.range' 1 (Program.lineCount text)).countP
        fun line : Nat => !(m.path.onLine line).isEmpty := by
  have horder := pairwise_line_path (Program.pairwise_line_of_parse hparse) h
  have hbounds : ∀ p ∈ m.path, 1 ≤ p.line ∧ p.line ≤ Program.lineCount text := by
    intro p hp
    obtain ⟨s, hs, hline⟩ := exists_line_of_mem_path h hp
    have hmem := Program.line_mem_of_parse hparse hs
    omega
  have hlines : ∀ p ∈ m.path, ((1 : Nat) : Int) ≤ p.line ∧
      p.line < (1 : Nat) + Program.lineCount text := by
    intro p hp
    have hp := hbounds p hp
    omega
  exact ⟨horder, hbounds, Toolpath.flatMap_onLine horder hlines, Toolpath.lines_statistics hlines⟩

/-- Two moves on one line, lines without moves, and a return through a point. -/
def scatteredText : String := "G0 X60 Z2 M3 G1 Z-5\n\n(face) G1 X0\nN30 G28 U1\nM30"

/-- The statements of the text; the third line is a comment. -/
def scatteredProgram : List Statement := [
  { kind := .preparatory, code := some (.whole 0), params := [('X', 60.0), ('Z', 2.0)], line := 1,
    raw := "G0 X60 Z2 M3 G1 Z-5", codeText := "0" },
  { kind := .miscellaneous, code := some (.whole 3), params := [], line := 1,
    raw := "G0 X60 Z2 M3 G1 Z-5", codeText := "3" },
  { kind := .preparatory, code := some (.whole 1), params := [('Z', -5.0)], line := 1,
    raw := "G0 X60 Z2 M3 G1 Z-5", codeText := "1" },
  { kind := .preparatory, code := some (.whole 28), params := [('N', 30.0), ('U', 1.0)], line := 4,
    raw := "N30 G28 U1", codeText := "28" },
  { kind := .miscellaneous, code := some (.whole 30), params := [], line := 5, raw := "M30",
    codeText := "30" }]

/-- Of the five lines of the text, two have points, and each of them has two. -/
theorem scatteredText_line_by_line :
    let m := ({} : Setup).machineAt scatteredProgram 4
    Program.parse scatteredText = .ok scatteredProgram ∧
    ({} : Setup).replay scatteredProgram 4 = .ok (.done 4 m [] []) ∧
    m.path.map (·.line) = [1, 1, 4, 4] ∧
    [1, 2, 3, 4, 5].flatMap m.path.onLine = m.path ∧
    (m.path.statistics none).lines = 2 := by
  intro m
  have hparse : Program.parse scatteredText = .ok scatteredProgram := by decide +kernel
  have hreplay : ({} : Setup).replay scatteredProgram 4 = .ok (.done 4 m [] []) := rfl
  obtain ⟨-, -, hpath, hlines⟩ := path_line_by_line hparse hreplay
  refine ⟨hparse, hreplay, by decide +kernel, hpath, (hlines none).trans ?_⟩
  decide +kernel

end Setup

end Lathe
