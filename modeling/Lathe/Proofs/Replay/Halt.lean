import Lathe.Replay.Outcome

/-!
# Where a replay ends

A replay executes the statements up to its cursor as long as the machine supports them. This module
says what its outcome tells about the program:

* `replay_eq_halted`: a replay that halts does so at the first unsupported statement, names it, and
  a replay to the statement before it gets there, with the same remarks;
* `supports_of_replay_eq_done`: a replay that reaches its cursor met supported statements only;
* `signal?_toolChange_of_replay`, `signal?_wearReset_of_replay`: a tool change is asked for exactly
  by a tool statement, and a wear reset exactly by an `M100`.
-/

namespace Lathe

theorem mem_of_lookup_eq_some {α β : Type} [BEq α] [LawfulBEq α] {entries : List (α × β)} {key : α}
    {value : β} (h : entries.lookup key = some value) : (key, value) ∈ entries := by
  obtain ⟨before, after, hentries, -⟩ := List.lookup_eq_some_iff.mp h
  rw [hentries]
  exact List.mem_append_right before List.mem_cons_self

theorem Auxiliary.ofCode?_eq_wearReset_iff {code : Option Code} :
    ofCode? code = some .wearReset ↔ code = some (.whole 100) := by
  constructor
  · intro h
    unfold ofCode? at h
    split at h
    next n =>
      -- of the codes in the table, only the last one resets wear
      have hmem : (n, Auxiliary.wearReset) ∈ codes := mem_of_lookup_eq_some h
      simpa [codes] using hmem
    next => cases h
  · rintro rfl
    rfl

namespace Setup

variable {setup : Setup} {program statements : List Statement} {s : Statement} {error : Finding}
  {m m' : Machine} {remarks warnings warnings' : List Finding} {signals : List Signal}
  {count b : Nat} {cursor index : Int}

/-- There is an objection to a statement exactly when it is not supported, and the objection names
the statement's line and code. -/
theorem objection?_eq_some_iff :
    setup.objection? s = some error ↔
      setup.supports s = false ∧ ∃ code, s.code = some code ∧ error = unsupported s code := by
  unfold objection?
  by_cases h : setup.supports s = true
  · simp [h]
  · simp only [h, Bool.false_eq_true, ↓reduceIte, Option.map_eq_some_iff, true_and]
    exact exists_congr fun code => and_congr_right fun _ => eq_comm

/-- There is no objection to a statement exactly when it is supported. -/
theorem objection?_eq_none_iff : setup.objection? s = none ↔ setup.supports s = true := by
  unfold objection?
  by_cases h : setup.supports s = true
  · simp [h]
  · -- only a preparatory statement with a code can be unsupported, so there is a code to name
    have hcode : s.code ≠ none := by
      intro hnone
      apply h
      unfold supports
      rw [hnone]
      cases s.kind <;> rfl
    simp [h, hcode]

/-! ## Running over some statements -/

/-- Statements over which a run finished are supported and can be executed. -/
theorem executes_of_run_eq_finish
    (h : setup.run count m warnings statements = .ok (.finish m' warnings'))
    (hs : s ∈ statements) :
    setup.supports s = true ∧
      ∃ (before : Machine) (done : Machine × List Finding), before.execute setup s = .ok done := by
  induction statements generalizing count m warnings with
  | nil => cases hs
  | cons t rest ih =>
    rw [run] at h
    cases hobjection : setup.objection? t with
    | some error => simp [hobjection] at h
    | none =>
      cases hexecute : m.execute setup t with
      | error fault => simp [hobjection, hexecute] at h
      | ok done =>
        simp only [hobjection, hexecute] at h
        rcases List.mem_cons.mp hs with rfl | hrest
        · exact ⟨objection?_eq_none_iff.mp hobjection, m, done, hexecute⟩
        · exact ih h hrest

/-- A run that met an obstacle finished over the statements before it. -/
theorem run_eq_obstacle
    (h : setup.run count m warnings statements = .ok (.obstacle b error warnings')) :
    ∃ pre s post m', statements = pre ++ s :: post ∧ b = count + pre.length ∧
      setup.objection? s = some error ∧
      setup.run count m warnings pre = .ok (.finish m' warnings') := by
  induction statements generalizing count m warnings with
  | nil => simp [run] at h
  | cons t rest ih =>
    rw [run] at h
    cases hobjection : setup.objection? t with
    | some e =>
      -- the obstacle is the head of the list
      simp only [hobjection, Except.ok.injEq, Reached.obstacle.injEq] at h
      obtain ⟨rfl, rfl, rfl⟩ := h
      exact ⟨[], t, rest, m, rfl, rfl, hobjection, rfl⟩
    | none =>
      cases hexecute : m.execute setup t with
      | error fault => simp [hobjection, hexecute] at h
      | ok done =>
        simp only [hobjection, hexecute] at h
        -- the obstacle is further on; the run over the part before it starts with `t`
        obtain ⟨pre, s, post, m', rfl, rfl, hs, hpre⟩ := ih h
        refine ⟨t :: pre, s, post, m', rfl, ?_, hs, ?_⟩
        · rw [List.length_cons]; omega
        · rw [run]
          simpa only [hobjection, hexecute] using hpre

/-! ## Replays -/

/-- The statements up to a cursor are counted from the start of the program. -/
theorem upTo_eq_take (program : List Statement) (cursor : Int) :
    upTo program cursor = program.take (cursor + 1).toNat := by
  unfold upTo lastIndex
  rcases Nat.lt_or_ge (cursor + 1).toNat program.length with h | h
  · congr 1
    omega
  · rw [List.take_of_length_le h, List.take_of_length_le (by omega)]

/-- A statement that can be executed can say what it asks for: its tool number, if it has one, was
read before. -/
theorem signalsAt_of_execute {before : Machine} {done : Machine × List Finding}
    (h : before.execute setup s = .ok done) (index : Int) (m : Machine) :
    ∃ signals, signalsAt s index m = .ok signals := by
  unfold signalsAt
  cases hkind : s.kind with
  | preparatory => exact ⟨_, rfl⟩
  | miscellaneous => exact ⟨_, rfl⟩
  | tool =>
    unfold Machine.execute Machine.applyTool at h
    rw [hkind] at h
    cases hnumber : s.toolNumber with
    | error fault => simp [hnumber, Except.map] at h
    | ok id => exact ⟨_, rfl⟩

/-- A replay that gets over all statements up to its cursor is done. -/
theorem replay_eq_done_of_run
    (h : setup.run 0 (.initial setup.home) [] (upTo program cursor) = .ok (.finish m warnings)) :
    ∃ signals, setup.replay program cursor =
      .ok (.done (lastIndex program cursor) m signals warnings) := by
  unfold replay
  rw [h]
  cases hlast : (upTo program cursor).getLast? with
  | none => exact ⟨[], rfl⟩
  | some s =>
    obtain ⟨-, before, done, hdone⟩ :=
      executes_of_run_eq_finish h (List.mem_of_getLast? hlast)
    obtain ⟨signals, hsignals⟩ := signalsAt_of_execute hdone (lastIndex program cursor) m
    refine ⟨signals, ?_⟩
    simp only [hsignals, Except.map]

/-- What the run of a replay did, when the replay is done. -/
theorem run_of_replay_eq_done
    (h : setup.replay program cursor = .ok (.done index m signals warnings)) :
    setup.run 0 (.initial setup.home) [] (upTo program cursor) = .ok (.finish m warnings) := by
  unfold replay at h
  split at h
  next => cases h
  next => cases h
  next m' warnings' hrun =>
    rw [hrun]
    split at h
    next => cases h; rfl
    next s hlast =>
      cases hsignals : signalsAt s (lastIndex program cursor) m' with
      | error fault => simp [hsignals, Except.map] at h
      | ok sent =>
        simp only [hsignals, Except.map, Except.ok.injEq, Outcome.done.injEq] at h
        obtain ⟨-, rfl, -, rfl⟩ := h
        rfl

/-- What the run of a replay did, when the replay halted. -/
theorem run_of_replay_eq_halted
    (h : setup.replay program cursor = .ok (.halted index error warnings)) :
    ∃ b : Nat, index = b - 1 ∧
      setup.run 0 (.initial setup.home) [] (upTo program cursor) =
        .ok (.obstacle b error warnings) := by
  unfold replay at h
  split at h
  next => cases h
  next b error' warnings' hrun =>
    cases h
    exact ⟨b, rfl, hrun⟩
  next m' warnings' hrun =>
    split at h
    next => cases h
    next s hlast =>
      cases hsignals : signalsAt s (lastIndex program cursor) m' <;>
        simp [hsignals, Except.map] at h

/-- A replay that is done met supported statements only. -/
theorem supports_of_replay_eq_done
    (h : setup.replay program cursor = .ok (.done index m signals warnings))
    (hs : program[b]? = some s) (hb : (b : Int) ≤ cursor) : setup.supports s = true := by
  have hmem : s ∈ upTo program cursor := by
    rw [upTo_eq_take]
    exact List.mem_of_getElem? ((List.getElem?_take_of_lt (by omega)).trans hs)
  exact (executes_of_run_eq_finish (run_of_replay_eq_done h) hmem).1

/-- A statement is the first one of a program that the machine does not support. -/
structure FirstUnsupported (setup : Setup) (program : List Statement) (b : Nat) (s : Statement) :
    Prop where
  /-- It stands in the program at place `b`. -/
  get : program[b]? = some s
  /-- It is not supported. -/
  unsupported : setup.supports s = false
  /-- All statements before it are. -/
  supports_before : ∀ t ∈ program.take b, setup.supports t = true

/-- A replay that halts does so at the first unsupported statement of the program. The finding names
that statement, and a replay to the statement before it is done, with the same remarks. -/
theorem replay_eq_halted
    (h : setup.replay program cursor = .ok (.halted index error warnings)) :
    ∃ (b : Nat) (s : Statement) (m : Machine) (signals : List Signal),
      setup.FirstUnsupported program b s ∧ (b : Int) ≤ cursor ∧ index = b - 1 ∧
      (∃ code, s.code = some code ∧ error = unsupported s code) ∧
      setup.replay program (b - 1) = .ok (.done (b - 1) m signals warnings) ∧
      (b = 0 → m = .initial setup.home) := by
  obtain ⟨b, hindex, hrun⟩ := run_of_replay_eq_halted h
  obtain ⟨pre, s, post, m, hsplit, hb, hobjection, hpre⟩ := run_eq_obstacle hrun
  rw [Nat.zero_add] at hb
  rw [upTo_eq_take] at hsplit
  -- the obstacle stands in the program where it stands among the statements up to the cursor
  have hlength : pre.length + 1 ≤ (cursor + 1).toNat := by
    have := congrArg List.length hsplit
    simp only [List.length_take, List.length_append, List.length_cons] at this
    omega
  have hs : program[b]? = some s := by
    have hget := congrArg (·[b]?) hsplit
    simpa [hb, List.getElem?_take_of_lt hlength] using hget
  have htake : program.take b = pre := by
    have := congrArg (List.take b) hsplit
    simpa [hb, List.take_take, Nat.min_eq_left (Nat.le_of_succ_le hlength)] using this
  -- so a replay to the statement before it runs over `pre`, where the run finished
  have hupTo : upTo program (b - 1) = pre := by
    rw [upTo_eq_take, ← htake]
    congr 1
    omega
  have hlt : b < program.length := (List.getElem?_eq_some_iff.mp hs).1
  have hlast : lastIndex program (b - 1) = b - 1 := by
    unfold lastIndex
    omega
  obtain ⟨signals, hdone⟩ := replay_eq_done_of_run (hupTo ▸ hpre)
  rw [hlast] at hdone
  obtain ⟨hunsupported, hnamed⟩ := objection?_eq_some_iff.mp hobjection
  refine ⟨b, s, m, signals, ⟨hs, hunsupported, ?_⟩, by omega, hindex, hnamed, hdone, ?_⟩
  · rw [htake]
    exact fun t ht => (executes_of_run_eq_finish hpre ht).1
  · intro hzero
    have hnil : pre = [] := List.eq_nil_of_length_eq_zero (hb ▸ hzero)
    rw [hnil, run] at hpre
    cases hpre
    rfl

/-! ## Signals -/

/-- The signals of a replay to the place of a statement are those of that statement. -/
theorem signalsAt_of_replay (hs : program[b]? = some s)
    (h : setup.replay program b = .ok (.done index m signals warnings)) :
    signalsAt s b m = .ok signals := by
  have hlt : b < program.length := (List.getElem?_eq_some_iff.mp hs).1
  have hlast : (upTo program b).getLast? = some s := by
    rw [upTo_eq_take, List.getLast?_eq_getElem?, List.length_take,
      List.getElem?_take_of_lt (by omega), ← hs]
    congr 1
    omega
  have hindex : lastIndex program b = b := by
    unfold lastIndex
    omega
  have hrun := run_of_replay_eq_done h
  unfold replay at h
  rw [hrun] at h
  simp only [hlast, hindex] at h
  cases hsignals : signalsAt s b m with
  | error fault => simp [hsignals, Except.map] at h
  | ok sent =>
    simp only [hsignals, Except.map, Except.ok.injEq, Outcome.done.injEq] at h
    rw [h.2.2.1]

/-- A replay to the place of a statement asks for a tool change exactly when it is a tool
statement. The request names that place and the line of the statement. -/
theorem signal?_toolChange_of_replay (hs : program[b]? = some s)
    (h : setup.replay program b = .ok (.done index m signals warnings)) :
    if s.kind = .tool then
      ∃ tool, (Outcome.done index m signals warnings).signal? .toolChange =
        some ⟨.toolChange, b, s.line, tool⟩
    else (Outcome.done index m signals warnings).signal? .toolChange = none := by
  have hsignals := signalsAt_of_replay hs h
  unfold signalsAt at hsignals
  unfold Outcome.signal? Outcome.signals
  cases hkind : s.kind with
  | preparatory =>
    simp only [hkind, Except.ok.injEq] at hsignals
    simp [← hsignals]
  | miscellaneous =>
    simp only [hkind, Except.ok.injEq] at hsignals
    simp only [reduceCtorEq, ↓reduceIte, ← hsignals]
    split <;> simp
  | tool =>
    cases hnumber : s.toolNumber with
    | error fault => simp [hkind, hnumber] at hsignals
    | ok id =>
      simp only [hkind, hnumber, Except.ok.injEq] at hsignals
      simp [← hsignals]

/-- A replay to the place of a statement asks for a wear reset exactly when it is an `M100`. The
request names the tool that is active then. -/
theorem signal?_wearReset_of_replay (hs : program[b]? = some s)
    (h : setup.replay program b = .ok (.done index m signals warnings)) :
    (Outcome.done index m signals warnings).signal? .wearReset =
      if s.isM 100 then some ⟨.wearReset, b, s.line, m.tool⟩ else none := by
  have hsignals := signalsAt_of_replay hs h
  unfold signalsAt at hsignals
  unfold Outcome.signal? Outcome.signals Statement.isM
  cases hkind : s.kind with
  | preparatory =>
    simp only [hkind, Except.ok.injEq] at hsignals
    simp [← hsignals]
  | miscellaneous =>
    simp only [hkind, Except.ok.injEq, Auxiliary.ofCode?_eq_wearReset_iff] at hsignals
    rw [← hsignals]
    by_cases hcode : s.code = some (.whole 100) <;> simp [hcode]
  | tool =>
    cases hnumber : s.toolNumber with
    | error fault => simp [hkind, hnumber] at hsignals
    | ok id =>
      simp only [hkind, hnumber, Except.ok.injEq] at hsignals
      simp [← hsignals]

end Setup

end Lathe
