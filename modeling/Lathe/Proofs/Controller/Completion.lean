import Lathe.Proofs.Controller.Arrival

/-!
# Runs to completion

An operator who attends a run loads a program, starts it, and from then on confirms the tool change
that is pending, if there is one, before every tick. `Controller.attendance` is the list of these
operations for a number of ticks. The run goes through the program statement by statement; it ends
behind the last one, or in an alarm at the first one that is not supported.

* `cameTo_attended`: as long as statements are supported, each tick brings the run to the next one;
* `over_attended_of_supports`, `over_attended_of_firstUnsupported`: the tick with which it is over;
* `requests_attendance`: the tool changes that it has asked for by then;
* `runs_to_completion`: all of it, for every lathe and every program that replays without a fault.
-/

namespace Lathe

/-- The tool changes that the statements of a program ask for, one after the other. -/
def Program.toolChanges (program : List Statement) : List (Request × Int × Nat) :=
  program.zipIdx.filterMap fun (s, place) => s.toolChange? place

theorem Program.toolChanges_take_succ (program : List Statement) (place : Nat) :
    toolChanges (program.take (place + 1)) =
      toolChanges (program.take place) ++
        (program[place]?.bind (Statement.toolChange? place)).toList := by
  unfold toolChanges
  rw [List.take_add_one, List.zipIdx_append, List.filterMap_append]
  congr 1
  cases hget : program[place]? with
  | none => rfl
  | some s =>
    -- the statement is in the program, so as many stand before it as its place says
    have hlength : (program.take place).length = place :=
      List.length_take_of_le (Nat.le_of_lt (List.getElem?_eq_some_iff.mp hget).1)
    rw [hlength, Nat.zero_add]
    cases hchange : s.toolChange? place <;> simp [hchange]

namespace Controller

open Lathe.Action

variable {c d : Controller} {command : Command} {text : String} {setup : Setup}
  {program : List Statement} {place ticks b : Nat} {mode : RunMode}

/-! ## Attending a run -/

/-- What an operator does until the next tick, and the tick. -/
def attend (c : Controller) : List Command :=
  if c.pending.isSome then [.confirmToolChange, .tick] else [.tick]

/-- What an operator does who loads a program, starts it and attends the run for a number of ticks.
-/
def attendance (c : Controller) (text : String) : Nat → List Command
  | 0 => [.load text, .start]
  | ticks + 1 => c.attendance text ticks ++ (after perform c (c.attendance text ticks)).attend

/-- The controller after a program was loaded and started and the run was attended for a number of
ticks. -/
def attended (c : Controller) (text : String) (ticks : Nat) : Controller :=
  after perform c (c.attendance text ticks)

theorem attend_of_pending_eq_none (h : c.pending = none) : c.attend = [.tick] := by
  unfold attend
  rw [h]
  rfl

theorem attend_of_pending_eq_some {request : Signal} (h : c.pending = some request) :
    c.attend = [.confirmToolChange, .tick] := by
  unfold attend
  rw [h]
  rfl

/-- Attending a run up to the next tick is that tick, after the confirmation if one is due. -/
theorem after_attend (c : Controller) :
    after perform c c.attend = (perform .tick c.confirmed).state := by
  cases hpending : c.pending with
  | none =>
    rw [attend_of_pending_eq_none hpending, confirmed_of_pending_eq_none hpending]
    rfl
  | some request =>
    rw [attend_of_pending_eq_some hpending, ← perform_confirmToolChange]
    rfl

theorem attended_succ (c : Controller) (text : String) (ticks : Nat) :
    c.attended text (ticks + 1) = (perform .tick (c.attended text ticks).confirmed).state := by
  unfold attended
  rw [attendance, after_append, after_attend]

/-- A run that is over stays as it is, however long it is attended. -/
theorem Over.attended {later : Nat} (h : (c.attended text ticks).Over mode place)
    (hmode : mode ≠ .running) (hle : ticks ≤ later) : (c.attended text later).Over mode place := by
  induction hle with
  | refl => exact h
  | step _ ih =>
    rw [attended_succ, ih.tick_eq hmode]
    exact ih

/-! ## The beginning of a run -/

theorem result_refresh_of_idle (h : c.mode = .idle) : refresh.result c = (.ok (), c.rest) := by
  unfold refresh
  rw [result_observe_bind]
  simp only [id, h, reduceCtorEq, ↓reduceIte, result_change_bind, result_change]
  split <;> rfl

theorem perform_reset (c : Controller) :
    (perform .reset c).answer = .ok none ∧ (perform .reset c).state = c.rewoundToStart.rest := by
  have hresult := perform_result .reset c
  simp only [readied] at hresult
  rw [result_refresh_of_idle rfl] at hresult
  exact ⟨congrArg Prod.fst hresult, congrArg Prod.snd hresult⟩

/-- The controller when a program was just loaded: at rest at its first statement, with an empty
memo. -/
def loaded (text : String) (program : List Statement) (c : Controller) : Controller :=
  (c.withProgram text program).rewoundToStart.rest

theorem perform_load (hparse : Program.parse text = .ok program) (c : Controller) :
    (perform (.load text) c).answer = .ok none ∧
      (perform (.load text) c).state = c.loaded text program := by
  have hresult := perform_result (.load text) c
  simp only [readied, hparse] at hresult
  rw [result_refresh_of_idle rfl] at hresult
  exact ⟨congrArg Prod.fst hresult, congrArg Prod.snd hresult⟩

theorem after_load (hparse : Program.parse text = .ok program) (c : Controller)
    (commands : List Command) :
    after perform c (.load text :: commands) =
      after perform (c.loaded text program) commands := by
  rw [after, (perform_load hparse c).2]

theorem faultless_load_iff {commands : List Command} (hparse : Program.parse text = .ok program) :
    Faultless perform c (.load text :: commands) ↔
      Faultless perform (c.loaded text program) commands := by
  obtain ⟨hanswer, hstate⟩ := perform_load hparse c
  rw [faultless_cons, hanswer, hstate]
  exact and_iff_right rfl

theorem plays_load (h : c.InOrder) (hparse : Program.parse text = .ok program) :
    (perform (.load text) c).state.Plays c.setup program := by
  obtain ⟨-, hstate⟩ := perform_load hparse c
  refine ⟨h.perform _, ?_, fun cursor => ?_⟩
  · rw [hstate]
    rfl
  · rw [hstate]
    rfl

/-- Starting a program that was just loaded lets the run set out for the first statement. -/
theorem readied_start (c : Controller) (hparse : Program.parse text = .ok program) :
    ∃ d, (perform (.load text) c).state.readied .start = some d ∧ d.SetsOut ∧ d.cursor = 0 := by
  rw [(perform_load hparse c).2]
  exact ⟨_, rfl, ⟨rfl, rfl, nofun⟩, ite_self 0⟩

theorem plays_attended (h : c.InOrder) (hparse : Program.parse text = .ok program) (ticks : Nat) :
    (c.attended text ticks).Plays c.setup program := by
  induction ticks with
  | zero =>
    have hload : loads .start = false := rfl
    exact (plays_load h hparse).perform hload
  | succ ticks ih =>
    rw [attended_succ]
    exact ih.confirmed.perform rfl

/-! ## Where a run is after a number of ticks -/

theorem Plays.faultless_attend (h : c.Plays setup program) (hplayable : setup.Playable program) :
    Faultless Controller.perform c c.attend := by
  have htick : (Controller.perform .tick c.confirmed).answer.toBool = true :=
    h.confirmed.answer_perform hplayable rfl rfl
  have hconfirm : (Controller.perform .confirmToolChange c).answer.toBool = true :=
    h.answer_perform hplayable rfl rfl
  cases hpending : c.pending with
  | none =>
    rw [confirmed_of_pending_eq_none hpending] at htick
    rw [attend_of_pending_eq_none hpending, faultless_cons]
    exact ⟨htick, faultless_nil _ _⟩
  | some request =>
    rw [attend_of_pending_eq_some hpending, faultless_cons, faultless_cons,
      perform_confirmToolChange]
    exact ⟨hconfirm, htick, faultless_nil _ _⟩

/-- No operation of an attended run ends in a fault. -/
theorem faultless_attendance (h : c.InOrder) (hparse : Program.parse text = .ok program)
    (hplayable : c.setup.Playable program) (ticks : Nat) :
    Faultless perform c (c.attendance text ticks) := by
  induction ticks with
  | zero =>
    have hstart : (perform .start (perform (.load text) c).state).answer.toBool = true := by
      refine (plays_load h hparse).answer_perform hplayable rfl ?_
      rw [unrefreshed]
      split <;> rfl
    rw [attendance, faultless_cons, faultless_cons, (perform_load hparse c).1]
    exact ⟨rfl, hstart, faultless_nil _ _⟩
  | succ ticks ih =>
    rw [attendance, faultless_append]
    exact ⟨ih, (plays_attended h hparse ticks).faultless_attend hplayable⟩

/-- As long as the statements are supported, each tick brings the run to the next one. -/
theorem cameTo_attended (h : c.InOrder) (hparse : Program.parse text = .ok program)
    (hplayable : c.setup.Playable program) (hticks : ticks < max program.length 1)
    (hsupports : ∀ t ∈ program.take (ticks + 1), c.setup.supports t = true) :
    (c.attended text ticks).CameTo ticks := by
  induction ticks with
  | zero =>
    obtain ⟨d, hready, hd, hcursor⟩ := readied_start c hparse
    rw [← hcursor] at hsupports
    have hcame := (plays_load h hparse).cameTo_perform hplayable rfl hready hd hsupports
    rwa [hcursor] at hcame
  | succ ticks ih =>
    -- the run has come to the statement before, and the tick finds another one behind it
    have hbefore : (c.attended text ticks).CameTo ticks :=
      ih (by omega) fun t ht =>
        hsupports t (List.take_subset_take_left program (Nat.le_succ _) ht)
    have hplays := plays_attended h hparse ticks
    have hlt : ticks + 1 < (c.attended text ticks).program.length := by
      rw [hplays.program_eq]
      omega
    rw [attended_succ]
    exact hplays.confirmed.cameTo_perform hplayable rfl
      (hbefore.readied_tick hplays.toInOrder hlt) (hbefore.setsOut hplays.toInOrder) hsupports

/-- If all statements are supported, the run is over with the tick behind the last one. -/
theorem over_attended_of_supports (h : c.InOrder) (hparse : Program.parse text = .ok program)
    (hplayable : c.setup.Playable program)
    (hsupports : ∀ t ∈ program, c.setup.supports t = true) :
    (c.attended text (max program.length 1)).Over .idle (program.length - 1) := by
  have hlast : (c.attended text (program.length - 1)).CameTo (program.length - 1) :=
    cameTo_attended h hparse hplayable (by omega)
      fun t ht => hsupports t (List.mem_of_mem_take ht)
  have hplays := plays_attended h hparse (program.length - 1)
  -- an empty program takes one tick too
  have hticks : max program.length 1 = program.length - 1 + 1 := by omega
  rw [hticks, attended_succ]
  refine hlast.over_tick hplays.toInOrder ?_
  rw [hplays.program_eq]
  omega

/-- The run is over, in an alarm, when it comes to the first statement that is not supported. -/
theorem over_attended_of_firstUnsupported {s : Statement} (h : c.InOrder)
    (hparse : Program.parse text = .ok program) (hplayable : c.setup.Playable program)
    (hfirst : c.setup.FirstUnsupported program b s) :
    (c.attended text b).Over .alarm b := by
  cases b with
  | zero =>
    -- it is the start that comes to it
    obtain ⟨d, hready, hd, hcursor⟩ := readied_start c hparse
    rw [← hcursor] at hfirst
    have hover := (plays_load h hparse).over_perform hplayable rfl hready hd hfirst
    rwa [hcursor] at hover
  | succ b =>
    have hinside : b + 1 < program.length := hfirst.lt_length
    have hbefore : (c.attended text b).CameTo b :=
      cameTo_attended h hparse hplayable (by omega) hfirst.supports_before
    have hplays := plays_attended h hparse b
    have hlt : b + 1 < (c.attended text b).program.length := by
      rw [hplays.program_eq]
      exact hinside
    rw [attended_succ]
    exact hplays.confirmed.over_perform hplayable rfl (hbefore.readied_tick hplays.toInOrder hlt)
      (hbefore.setsOut hplays.toInOrder) hfirst

/-! ## The tool changes asked for -/

/-- The tool change that an operation of a run has made pending, if it has. -/
def raised (step : Step Controller Command (Option Bool)) : Option Signal :=
  if step.after.pending = step.before.pending then none else step.after.pending

/-- The tool changes that became pending in a run, one after the other. -/
def requests (c : Controller) (commands : List Command) : List Signal :=
  (steps perform c commands).filterMap raised

variable {step : Step Controller Command (Option Bool)}

theorem raised_of_before (h : step.before.pending = none) : raised step = step.after.pending := by
  unfold raised
  rw [h]
  split
  next hafter => exact hafter.symm
  next => rfl

theorem raised_of_after (h : step.after.pending = none) : raised step = none := by
  unfold raised
  rw [h]
  exact ite_self none

theorem requests_append (c : Controller) (first second : List Command) :
    c.requests (first ++ second) = c.requests first ++ (after perform c first).requests second := by
  unfold requests
  rw [steps_append, List.filterMap_append]

theorem requests_singleton (h : c.pending = none) (command : Command) :
    c.requests [command] = (perform command c).state.pending.toList := by
  unfold requests
  rw [steps, steps, List.filterMap_cons, raised_of_before h]
  cases (perform command c).state.pending <;> rfl

theorem requests_cons (h : (perform command c).state.pending = none) (commands : List Command) :
    c.requests (command :: commands) = (perform command c).state.requests commands := by
  unfold requests
  rw [steps, List.filterMap_cons_none (raised_of_after h)]

/-- Up to the next tick, nothing becomes pending but what is pending after it. -/
theorem requests_attend (c : Controller) :
    c.requests c.attend = (after perform c c.attend).pending.toList := by
  rw [after_attend]
  cases hpending : c.pending with
  | none =>
    rw [attend_of_pending_eq_none hpending, confirmed_of_pending_eq_none hpending]
    exact requests_singleton hpending .tick
  | some request =>
    -- the confirmation takes a change away, so only the tick can bring another one
    have hconfirmed := perform_confirmToolChange c
    rw [attend_of_pending_eq_some hpending, requests_cons (hconfirmed ▸ rfl), hconfirmed]
    exact requests_singleton rfl .tick

theorem requests_attendance_zero (c : Controller) (hparse : Program.parse text = .ok program) :
    c.requests (c.attendance text 0) = (c.attended text 0).pending.toList := by
  -- the program is loaded with nothing pending
  have hnone : (perform (.load text) c).state.pending = none := by
    rw [(perform_load hparse c).2]
    rfl
  unfold attended
  rw [attendance, requests_cons hnone, requests_singleton hnone, after, after, after]

theorem requests_attendance_succ (c : Controller) (text : String) (ticks : Nat) :
    c.requests (c.attendance text (ticks + 1)) =
      c.requests (c.attendance text ticks) ++ (c.attended text (ticks + 1)).pending.toList := by
  unfold attended
  rw [attendance, requests_append, requests_attend, after_append]

/-- If after each tick the change pending is the one that the statement at that place asks for, then
these are the changes that the run has asked for. -/
theorem requests_attendance (c : Controller) (hparse : Program.parse text = .ok program)
    {statements : List Statement}
    (hpending : ∀ place ≤ ticks, (c.attended text place).pending.map Signal.origin =
      statements[place]?.bind (Statement.toolChange? place)) :
    (c.requests (c.attendance text ticks)).map Signal.origin =
      Program.toolChanges (statements.take (ticks + 1)) := by
  induction ticks with
  | zero =>
    have hnil : Program.toolChanges (statements.take 0) = [] := rfl
    rw [requests_attendance_zero c hparse, Program.toolChanges_take_succ, hnil, List.nil_append,
      ← hpending 0 (Nat.le_refl 0), Option.toList_map]
  | succ ticks ih =>
    rw [requests_attendance_succ, Program.toolChanges_take_succ,
      ← ih fun place hplace => hpending place (Nat.le_succ_of_le hplace),
      ← hpending (ticks + 1) (Nat.le_refl _), List.map_append, Option.toList_map]

/-! ## Completion -/

/-- The course of a run that comes to one statement after the other until, with some tick, it is
over. -/
theorem course_attended (h : c.InOrder) (hparse : Program.parse text = .ok program)
    {stop last : Nat} (hcame : ∀ place < stop, (c.attended text place).CameTo place)
    (hover : (c.attended text stop).Over mode last) (hmode : mode = .idle ∨ mode = .alarm)
    (hlast : last ≤ stop ∧ stop ≤ last + 1) (ticks : Nat) :
    (c.attended text ticks).cursor = min ticks last ∧
    ((c.attended text ticks).mode = mode ↔ stop ≤ ticks) ∧
    (c.requests (c.attendance text ticks)).map Signal.origin =
      Program.toolChanges ((program.take stop).take (ticks + 1)) := by
  have hstays {later : Nat} (hle : stop ≤ later) : (c.attended text later).Over mode last :=
    hover.attended (by rcases hmode with rfl | rfl <;> nofun) hle
  refine ⟨?_, ?_, requests_attendance c hparse fun place _ => ?_⟩
  · rcases Nat.lt_or_ge ticks stop with hlt | hge
    · rw [(hcame ticks hlt).cursor_eq]
      omega
    · rw [(hstays hge).cursor_eq]
      omega
  · rcases Nat.lt_or_ge ticks stop with hlt | hge
    · refine iff_of_false ?_ (Nat.not_le_of_lt hlt)
      obtain ⟨hidle, halarm⟩ := (hcame ticks hlt).mode_ne
      rcases hmode with rfl | rfl
      · exact hidle
      · exact halarm
    · exact iff_of_true (hstays hge).mode_eq hge
  · -- when the run is over, nothing is pending, and no statement is left to ask for anything
    rcases Nat.lt_or_ge place stop with hlt | hge
    · rw [(hcame place hlt).pending_eq, (plays_attended h hparse place).program_eq,
        List.getElem?_take_of_lt hlt]
    · rw [(hstays hge).pending_eq, List.getElem?_take_eq_none hge]
      rfl

/-- An operator loads a program whose replays do not end in faults, starts it, and confirms every
tool change before the next tick. Then no operation ends in a fault. If all statements are
supported, the cursor goes through the program, one statement a tick; the run comes to rest with the
tick after the last statement (with the first tick, in an empty program) and not before; and it has
asked for the tool changes of the statements that it has come to, each once and in their order. If
some statement is not supported, the run goes the same way until it comes to the first such
statement, where it stays in an alarm. -/
theorem runs_to_completion (profile : Profile) (tools : ToolTable)
    (hparse : Program.parse text = .ok program)
    (hplayable : (profile.setup tools).Playable program) :
    let c := withTools profile tools
    (∀ ticks, Faultless perform c (c.attendance text ticks)) ∧
    ((∀ s ∈ program, (profile.setup tools).supports s = true) → ∀ ticks,
      let d := after perform c (c.attendance text ticks)
      d.cursor = min ticks (program.length - 1) ∧
      (d.mode = .idle ↔ max program.length 1 ≤ ticks) ∧
      (c.requests (c.attendance text ticks)).map Signal.origin =
        Program.toolChanges (program.take (ticks + 1))) ∧
    ∀ b s, (profile.setup tools).FirstUnsupported program b s → ∀ ticks,
      let d := after perform c (c.attendance text ticks)
      d.cursor = min ticks b ∧
      (d.mode = .alarm ↔ b ≤ ticks) ∧
      (c.requests (c.attendance text ticks)).map Signal.origin =
        Program.toolChanges ((program.take b).take (ticks + 1)) := by
  intro c
  have hc : c.InOrder := inOrder_withTools profile tools
  refine ⟨faultless_attendance hc hparse hplayable, fun hsupports ticks => ?_,
    fun b s hfirst ticks => ?_⟩
  · have hcame (place : Nat) (hplace : place < max program.length 1) :
        (c.attended text place).CameTo place :=
      cameTo_attended hc hparse hplayable hplace
        fun t ht => hsupports t (List.mem_of_mem_take ht)
    have hover := over_attended_of_supports hc hparse hplayable hsupports
    have hcourse := course_attended hc hparse hcame hover (.inl rfl) ⟨by omega, by omega⟩ ticks
    -- the run stops behind the last statement, so none is left out
    rwa [List.take_of_length_le (Nat.le_max_left _ _)] at hcourse
  · have hinside := hfirst.lt_length
    have hcame (place : Nat) (hplace : place < b) : (c.attended text place).CameTo place :=
      cameTo_attended hc hparse hplayable (by omega)
        fun t ht => hfirst.supports_before t (List.take_subset_take_left program hplace ht)
    have hover := over_attended_of_firstUnsupported hc hparse hplayable hfirst
    exact course_attended hc hparse hcame hover (.inr rfl) ⟨Nat.le_refl b, Nat.le_succ b⟩ ticks

/-- A program whose first and whose last statement change the tool. -/
def betweenTools (middle : Statement) : List Statement := [
  { kind := .tool, code := some (.whole 101), params := [], line := 1, raw := "T0101",
    codeText := "0101" },
  middle,
  { kind := .tool, code := some (.whole 202), params := [], line := 3, raw := "T0202",
    codeText := "0202" }]

def supportedMove : Statement :=
  { kind := .preparatory, code := some (.whole 0), params := [('X', 60.0)], line := 2,
    raw := "G0 X60", codeText := "0" }

def unsupportedMove : Statement :=
  { kind := .preparatory, code := some (.whole 77), params := [('X', 60.0)], line := 2,
    raw := "G77 X60", codeText := "77" }

theorem parse_eq_ok_of_toOption (h : (Program.parse text).toOption = some program) :
    Program.parse text = .ok program :=
  eq_ok_of_toOption h

/-- Of three statements, the operator is asked at the first and at the last, and the run ends with
the third tick. With an unsupported one between them, it ends with the first tick, and the operator
is not asked at the last. -/
theorem completes_betweenTools :
    let c := Controller.new .lathe
    let run := c.attendance "T0101\nG0 X60\nT0202"
    let short := c.attendance "T0101\nG77 X60\nT0202"
    (Faultless perform c (run 3) ∧ (after perform c (run 2)).mode ≠ .idle ∧
      (after perform c (run 3)).mode = .idle ∧
      (after perform c (run 2)).cursor = 2 ∧
      (c.requests (run 3)).map Signal.origin = [(.toolChange, 0, 1), (.toolChange, 2, 3)]) ∧
    (Faultless perform c (short 3) ∧ (after perform c (short 0)).mode ≠ .alarm ∧
      (after perform c (short 1)).mode = .alarm ∧ (after perform c (short 3)).cursor = 1 ∧
      (c.requests (short 3)).map Signal.origin = [(.toolChange, 0, 1)]) := by
  intro c run short
  have hread : Program.parse "T0101\nG0 X60\nT0202" = .ok (betweenTools supportedMove) :=
    parse_eq_ok_of_toOption (by decide +kernel)
  have hreadShort : Program.parse "T0101\nG77 X60\nT0202" = .ok (betweenTools unsupportedMove) :=
    parse_eq_ok_of_toOption (by decide +kernel)
  have hfirst : (Profile.lathe.setup Profile.lathe.toolTable).FirstUnsupported
      (betweenTools unsupportedMove) 1 unsupportedMove :=
    ⟨rfl, by decide +kernel, by decide +kernel⟩
  obtain ⟨hfaultless, hsupported, -⟩ :=
    runs_to_completion .lathe Profile.lathe.toolTable hread (by decide +kernel)
  obtain ⟨hfaultlessShort, -, hunsupported⟩ :=
    runs_to_completion .lathe Profile.lathe.toolTable hreadShort (by decide +kernel)
  have hcourse := hsupported (by decide +kernel)
  have hshort := hunsupported 1 _ hfirst
  refine ⟨⟨hfaultless 3, ?_, ?_, (hcourse 2).1, (hcourse 3).2.2⟩,
    hfaultlessShort 3, ?_, ?_, (hshort 3).1, (hshort 3).2.2⟩
  · exact mt (hcourse 2).2.1.mp (by decide)
  · exact (hcourse 3).2.1.mpr (by decide)
  · exact mt (hshort 0).2.1.mp (by decide)
  · exact (hshort 1).2.1.mpr (by decide)

end Controller

end Lathe
