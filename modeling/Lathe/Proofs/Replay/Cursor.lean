import Lathe.Proofs.Replay.Halt

/-!
# Replays to different cursors

A replay to a later cursor begins as a replay to an earlier one does, and goes on from where that
one ended. So the outcomes of all replays of a program hang together:

* `run_append`: a run over some statements goes on where the run over the first part of them ended;
* `replay_eq_done_of_le`: if a replay gets to its cursor, so do the replays to earlier ones;
* `replay_of_firstUnsupported_le`: all replays to the first unsupported statement or beyond it halt
  there, with the remarks of the replay to the statement before it;
* `replay_take_append`: the statements behind the cursor do not matter;
* `halts_exactly_at_first_unsupported`: what that makes of the outcome of a replay.
-/

namespace Lathe

namespace Setup

variable {setup : Setup} {program : List Statement} {s : Statement} {code : Code} {m m' : Machine}
  {warnings warnings' : List Finding} {signals : List Signal} {outcome : Outcome}
  {reached : Reached} {count b : Nat} {cursor index j k : Int}

/-- The machine lacks exactly the preparatory statements with a code that is not among its own. -/
theorem supports_eq_false_iff :
    setup.supports s = false ↔
      s.kind = .preparatory ∧ ∃ code, s.code = some code ∧ code ∉ setup.supported := by
  unfold supports
  cases hkind : s.kind with
  | preparatory => cases hcode : s.code <;> simp
  | miscellaneous => simp
  | tool => simp

/-! ## Runs in two parts -/

/-- A run over some statements goes on where the run over the first part of them ended. -/
theorem run_append (setup : Setup) (count : Nat) (m : Machine) (warnings : List Finding)
    (pre post : List Statement) :
    setup.run count m warnings (pre ++ post) =
      match setup.run count m warnings pre with
      | .ok (.finish m' warnings') => setup.run (count + pre.length) m' warnings' post
      | stopped => stopped := by
  induction pre generalizing count m warnings with
  | nil => rfl
  | cons t rest ih =>
    rw [List.cons_append, run, run]
    cases setup.objection? t with
    | some error => rfl
    | none =>
      cases m.execute setup t with
      | error fault => rfl
      | ok done =>
        have hcount : count + (t :: rest).length = count + 1 + rest.length := by
          rw [List.length_cons]
          omega
        rw [hcount]
        exact ih (count + 1) done.1 (warnings ++ done.2)

/-- A run that finished over some statements finished over the first part of them, and from there
over the second. -/
theorem exists_run_of_append_eq_finish {pre post : List Statement}
    (h : setup.run count m warnings (pre ++ post) = .ok (.finish m' warnings')) :
    ∃ between remarks, setup.run count m warnings pre = .ok (.finish between remarks) ∧
      setup.run (count + pre.length) between remarks post = .ok (.finish m' warnings') := by
  rw [run_append] at h
  split at h
  next between remarks hpre => exact ⟨between, remarks, hpre, h⟩
  next hstopped => exact absurd h (hstopped m' warnings')

/-- A run over supported statements meets no obstacle. -/
theorem exists_finish_of_supports {statements : List Statement}
    (hsupports : ∀ t ∈ statements, setup.supports t = true)
    (h : setup.run count m warnings statements = .ok reached) :
    ∃ m' warnings', reached = .finish m' warnings' := by
  cases reached with
  | finish m' warnings' => exact ⟨m', warnings', rfl⟩
  | obstacle b error warnings' =>
    -- the obstacle is one of the statements
    obtain ⟨pre, t, post, -, rfl, -, hobjection, -⟩ := run_eq_obstacle h
    have hsupported : setup.supports t = true :=
      hsupports t (List.mem_append_right pre List.mem_cons_self)
    rw [objection?_eq_none_iff.mpr hsupported] at hobjection
    cases hobjection

/-! ## Earlier and later cursors -/

/-- The statements up to a later cursor begin with those up to an earlier one. -/
theorem exists_upTo_eq_append (program : List Statement) (h : j ≤ k) :
    ∃ rest, upTo program k = upTo program j ++ rest := by
  rw [upTo_eq_take, upTo_eq_take]
  have hle : (j + 1).toNat ≤ (k + 1).toNat := by omega
  obtain ⟨rest, hrest⟩ := List.take_prefix_take_left (l := program) hle
  exact ⟨rest, hrest.symm⟩

/-- If a replay gets to its cursor, so do the replays to earlier ones, and the replay goes on from
the machines and the remarks that they end with. -/
theorem replay_eq_done_of_le (hjk : j ≤ k)
    (h : setup.replay program k = .ok (.done index m signals warnings)) :
    ∃ before sent remarks rest,
      setup.replay program j = .ok (.done (lastIndex program j) before sent remarks) ∧
      setup.run (upTo program j).length before remarks rest = .ok (.finish m warnings) := by
  obtain ⟨rest, hrest⟩ := exists_upTo_eq_append program hjk
  have hrun := run_of_replay_eq_done h
  rw [hrest] at hrun
  obtain ⟨before, remarks, hbefore, hafter⟩ := exists_run_of_append_eq_finish hrun
  obtain ⟨sent, hdone⟩ := replay_eq_done_of_run hbefore
  rw [Nat.zero_add] at hafter
  exact ⟨before, sent, remarks, rest, hdone, hafter⟩

/-- The statements behind the cursor do not matter. -/
theorem replay_take_append (hcursor : cursor < program.length) (rest : List Statement) :
    setup.replay (program.take (cursor + 1).toNat ++ rest) cursor =
      setup.replay program cursor := by
  have hlength : (program.take (cursor + 1).toNat).length = (cursor + 1).toNat := by
    rw [List.length_take]
    omega
  have hupTo : upTo (program.take (cursor + 1).toNat ++ rest) cursor = upTo program cursor := by
    rw [upTo_eq_take, upTo_eq_take, List.take_append_of_le_length (Nat.le_of_eq hlength.symm),
      List.take_of_length_le (Nat.le_of_eq hlength)]
  -- the cursor is in both programs, so in neither of them is it too far
  have hlast :
      lastIndex (program.take (cursor + 1).toNat ++ rest) cursor = lastIndex program cursor := by
    unfold lastIndex
    rw [List.length_append, hlength]
    omega
  unfold replay
  rw [hupTo, hlast]

/-! ## The first unsupported statement -/

namespace FirstUnsupported

/-- An unsupported statement has a code, which makes it unsupported. -/
theorem exists_code (h : setup.FirstUnsupported program b s) :
    ∃ code, s.code = some code ∧ setup.objection? s = some (Setup.unsupported s code) := by
  obtain ⟨-, code, hcode, -⟩ := supports_eq_false_iff.mp h.unsupported
  exact ⟨code, hcode, objection?_eq_some_iff.mpr ⟨h.unsupported, code, hcode, rfl⟩⟩

theorem lt_length (h : setup.FirstUnsupported program b s) : b < program.length :=
  (List.getElem?_eq_some_iff.mp h.get).1

/-- Every unsupported statement stands at the place of the first one or behind it. -/
theorem le_of_unsupported (h : setup.FirstUnsupported program b s) {i : Nat} {t : Statement}
    (hget : program[i]? = some t) (ht : setup.supports t = false) : b ≤ i := by
  refine Decidable.byContradiction fun hlt => ?_
  have hmem : t ∈ program.take b :=
    List.mem_of_getElem? ((List.getElem?_take_of_lt (Nat.lt_of_not_le hlt)).trans hget)
  exact absurd ((h.supports_before t hmem).symm.trans ht) nofun

/-- There is only one first unsupported statement. -/
theorem place_eq {b' : Nat} {s' : Statement} (h : setup.FirstUnsupported program b s)
    (h' : setup.FirstUnsupported program b' s') : b = b' :=
  Nat.le_antisymm (h.le_of_unsupported h'.get h'.unsupported)
    (h'.le_of_unsupported h.get h.unsupported)

/-- A cursor at the first unsupported statement or beyond it: the statements up to there are those
before it, itself, and others. -/
theorem exists_upTo_eq (h : setup.FirstUnsupported program b s) (hb : (b : Int) ≤ cursor) :
    ∃ rest, upTo program cursor = program.take b ++ s :: rest := by
  obtain ⟨rest, hrest⟩ := exists_upTo_eq_append program hb
  have hat : upTo program b = program.take b ++ [s] := by
    have hcount : ((b : Int) + 1).toNat = b + 1 := by omega
    rw [upTo_eq_take, hcount, List.take_add_one, h.get, Option.toList_some]
  exact ⟨rest, by rw [hrest, hat, List.append_assoc, List.singleton_append]⟩

end FirstUnsupported

/-- The statements before a place are those up to the cursor before it. -/
theorem upTo_pred (program : List Statement) (b : Nat) :
    upTo program (b - 1) = program.take b := by
  rw [upTo_eq_take]
  congr 1
  omega

/-- All replays to the first unsupported statement or beyond it halt there, with the remarks of the
replay to the statement before it; they end in a fault exactly if that one does. -/
theorem replay_of_firstUnsupported_le (hfirst : setup.FirstUnsupported program b s)
    (hcode : s.code = some code) (hb : (b : Int) ≤ cursor) :
    setup.replay program cursor =
      (setup.replay program (b - 1)).map fun before =>
        .halted (b - 1) (unsupported s code) before.warnings := by
  obtain ⟨rest, hrest⟩ := hfirst.exists_upTo_eq hb
  obtain ⟨code', hcode', hobjection⟩ := hfirst.exists_code
  rw [hcode, Option.some.injEq] at hcode'
  subst hcode'
  have hlength : (program.take b).length = b :=
    List.length_take_of_le (Nat.le_of_lt hfirst.lt_length)
  -- the run over the statements before decides about both replays
  cases hrun : setup.run 0 (.initial setup.home) [] (program.take b) with
  | error fault =>
    have hbefore : setup.replay program (b - 1) = .error fault := by
      unfold replay
      rw [upTo_pred, hrun]
    have hat : setup.replay program cursor = .error fault := by
      unfold replay
      rw [hrest, run_append, hrun]
    rw [hbefore, hat, Except.map]
  | ok reached =>
    obtain ⟨m, warnings, rfl⟩ := exists_finish_of_supports hfirst.supports_before hrun
    have hrunBefore : setup.run 0 (.initial setup.home) [] (upTo program (b - 1)) =
        .ok (.finish m warnings) := by
      rw [upTo_pred]
      exact hrun
    obtain ⟨signals, hbefore⟩ := replay_eq_done_of_run hrunBefore
    have hat : setup.replay program cursor =
        .ok (.halted (b - 1) (unsupported s code) warnings) := by
      have hobstacle : setup.run 0 (.initial setup.home) [] (upTo program cursor) =
          .ok (.obstacle b (unsupported s code) warnings) := by
        simp only [hrest, run_append, hrun, run, hobjection, hlength, Nat.zero_add]
      unfold replay
      rw [hobstacle]
    rw [hbefore, hat]
    rfl

/-- A replay to the first unsupported statement or beyond it, if it does not end in a fault, halts
there, and the replay to the statement before it does not end in a fault either. -/
theorem exists_eq_halted_of_firstUnsupported_le (hfirst : setup.FirstUnsupported program b s)
    (hb : (b : Int) ≤ cursor) (h : setup.replay program cursor = .ok outcome) :
    ∃ code before, s.code = some code ∧ setup.replay program (b - 1) = .ok before ∧
      outcome = .halted (b - 1) (unsupported s code) before.warnings := by
  obtain ⟨code, hcode, -⟩ := hfirst.exists_code
  rw [replay_of_firstUnsupported_le hfirst hcode hb] at h
  cases hbefore : setup.replay program (b - 1) with
  | error fault =>
    rw [hbefore] at h
    cases h
  | ok before =>
    rw [hbefore] at h
    cases h
    exact ⟨code, before, hcode, rfl, rfl⟩

/-- A replay that does not get as far as the first unsupported statement, and does not end in a
fault, gets to its cursor. -/
theorem exists_replay_eq_done_of_lt (hfirst : setup.FirstUnsupported program b s)
    (hcursor : cursor < b) (h : setup.replay program cursor = .ok outcome) :
    ∃ m signals warnings, outcome = .done (lastIndex program cursor) m signals warnings := by
  cases outcome with
  | done index m signals warnings =>
    obtain ⟨signals', hdone⟩ := replay_eq_done_of_run (run_of_replay_eq_done h)
    rw [hdone, Except.ok.injEq] at h
    exact ⟨m, signals', warnings, h.symm⟩
  | halted index error warnings =>
    -- it would have halted at the first unsupported statement, which is behind the cursor
    obtain ⟨b', s', -, -, hfirst', hb', -⟩ := replay_eq_halted h
    have hsame : b = b' := hfirst.place_eq hfirst'
    omega

/-! ## The outcome of a replay -/

end Setup

/-- A replay that halts before a statement gives no machine and no signals, counts the statements
before it, and reports a fatal finding about the wording of the program, which names the line and
the code of the statement. -/
structure Outcome.HaltedBefore (outcome : Outcome) (b : Nat) (s : Statement) : Prop where
  machine?_eq : outcome.machine? = none
  signals_eq : outcome.signals = []
  index_eq : outcome.index = b - 1
  error?_eq : ∃ error, outcome.error? = some error ∧ error.category = .wording ∧
    error.severity = .fatal ∧ error.line = s.line ∧ error.code = s.code

namespace Setup

variable {setup : Setup} {program : List Statement} {cursor : Int} {outcome : Outcome}

/-- The outcome of a replay that does not end in a fault is an error exactly if the machine lacks
the code of some preparatory statement up to the cursor. The replay then halts before the first such
statement, and so does every replay to that statement or beyond it, with the same outcome. Before
that statement, replays get to their cursors, and their outcomes depend only on the statements up to
there. -/
theorem halts_exactly_at_first_unsupported
    (h : setup.replay program cursor = .ok outcome) :
    (∀ s, setup.supports s = false ↔
      s.kind = .preparatory ∧ ∃ code, s.code = some code ∧ code ∉ setup.supported) ∧
    (outcome.error? ≠ none ↔
      ∃ b s, setup.FirstUnsupported program b s ∧ (b : Int) ≤ lastIndex program cursor) ∧
    ∀ b s, setup.FirstUnsupported program b s →
      ((b : Int) ≤ cursor →
        outcome.HaltedBefore b s ∧
        (∀ later : Int, b ≤ later → setup.replay program later = .ok outcome) ∧
        ∀ earlier : Int, earlier < b → ∃ before,
          setup.replay program earlier = .ok before ∧ before.error? = none ∧
            before.machine? ≠ none) ∧
      (cursor < b →
        outcome.error? = none ∧ outcome.machine? ≠ none ∧
        ∀ rest, setup.replay (program.take (cursor + 1).toNat ++ rest) cursor = .ok outcome) := by
  refine ⟨fun s => supports_eq_false_iff, ?_, fun b s hfirst => ⟨fun hb => ?_, fun hb => ?_⟩⟩
  · -- an outcome that is an error is that of a replay that halted, and the other way round
    constructor
    · intro herror
      cases outcome with
      | done => exact absurd rfl herror
      | halted index error warnings =>
        obtain ⟨b, s, -, -, hfirst, hb, -⟩ := replay_eq_halted h
        have hlt := hfirst.lt_length
        refine ⟨b, s, hfirst, ?_⟩
        unfold lastIndex
        omega
    · rintro ⟨b, s, hfirst, hb⟩
      have hcursor : (b : Int) ≤ cursor := by
        unfold lastIndex at hb
        omega
      obtain ⟨code, before, -, -, rfl⟩ := exists_eq_halted_of_firstUnsupported_le hfirst hcursor h
      exact nofun
  · obtain ⟨code, before, hcode, hbefore, rfl⟩ :=
      exists_eq_halted_of_firstUnsupported_le hfirst hb h
    refine ⟨⟨rfl, rfl, rfl, unsupported s code, rfl, rfl, rfl, rfl, hcode.symm⟩, ?_, ?_⟩
    · intro later hlater
      rw [replay_of_firstUnsupported_le hfirst hcode hlater, hbefore]
      rfl
    · intro earlier hearlier
      -- the replay to the statement before gets there, so those to earlier ones do
      obtain ⟨m, signals, warnings, rfl⟩ := exists_replay_eq_done_of_lt hfirst (by omega) hbefore
      obtain ⟨m', signals', warnings', -, hdone, -⟩ :=
        replay_eq_done_of_le (j := earlier) (by omega) hbefore
      exact ⟨_, hdone, rfl, nofun⟩
  · obtain ⟨m, signals, warnings, rfl⟩ := exists_replay_eq_done_of_lt hfirst hb h
    refine ⟨rfl, nofun, fun rest => ?_⟩
    have hlt := hfirst.lt_length
    rw [replay_take_append (by omega), h]

/-- A program with a remark, a code that the standard machine lacks, and a tool change behind it. -/
def unknownCode : List Statement := [
  { kind := .preparatory, code := some (.whole 0), params := [('X', 10.0)], line := 1,
    raw := "G0 X10", codeText := "0" },
  { kind := .miscellaneous, code := some (.whole 77), params := [], line := 2, raw := "M77",
    codeText := "77" },
  { kind := .preparatory, code := some (.whole 999), params := [], line := 3, raw := "G999",
    codeText := "999" },
  { kind := .tool, code := some (.whole 101), params := [], line := 4, raw := "T0101",
    codeText := "0101" }]

/-- With the cursor far behind the program, the replay halts at the third statement as it does with
the cursor there. -/
theorem halts_at_unknown_code :
    let outcome := Outcome.halted 1 (unsupported unknownCode[2] (.whole 999))
      [.warning 2 (.withoutEffect (.whole 77))]
    ({} : Setup).replay unknownCode 9 = .ok outcome ∧
    ({} : Setup).FirstUnsupported unknownCode 2 unknownCode[2] ∧
    outcome.HaltedBefore 2 unknownCode[2] ∧
    ({} : Setup).replay unknownCode 2 = .ok outcome ∧
    ∃ before, ({} : Setup).replay unknownCode 1 = .ok before ∧ before.machine? ≠ none := by
  intro outcome
  have hreplay : ({} : Setup).replay unknownCode 9 = .ok outcome := rfl
  have hfirst : ({} : Setup).FirstUnsupported unknownCode 2 unknownCode[2] :=
    ⟨rfl, rfl, by decide +kernel⟩
  obtain ⟨-, -, hhalts⟩ := halts_exactly_at_first_unsupported hreplay
  obtain ⟨hbefore, hlater, hearlier⟩ := (hhalts 2 _ hfirst).1 (by decide)
  obtain ⟨before, hdone, -, hmachine⟩ := hearlier 1 (by decide)
  exact ⟨hreplay, hfirst, hbefore, hlater 2 (by decide), before, hdone, hmachine⟩

end Setup

end Lathe
