import Lathe.Proofs.Controller.ToolChange

/-!
# The books on tool changes

Of a tool change, the controller keeps the request that is pending and the place at which the
operator was last asked; the run mode and the cursor go with them. The operations change these one
by one, and some end in a fault halfway. `Controller.Bookkept` says how they belong together while
an operation is under way; a refresh then sees to it that the cursor is not before the place at
which the operator was asked.

* `Readies.bookkept`, `Refreshes.bookkept`: what belongs together stays so, also in an operation
  that ends in a fault;
* `Refreshes.rewound_eq_false`: after a refresh, the cursor is not before that place;
* `prompts_bookkept`: so it is after every run.
-/

namespace Lathe.Controller

open Lathe.Action

variable {c d : Controller} {command : Command}

/-- What the controller keeps of a tool change belongs together. -/
structure Bookkept (c : Controller) : Prop where
  /-- With a tool change pending, the run waits. -/
  waits : c.pending ≠ none → c.mode = .paused ∨ c.mode = .alarm
  /-- A tool change that is pending stands on the line of the statement that it names. -/
  line_of_pending : ∀ request, c.pending = some request →
    ∃ s, c.program[request.index.toNat]? = some s ∧ s.line = request.line
  /-- The operator was last asked at a tool statement. -/
  tool_of_prompted : ∀ place, c.prompted = some place →
    ∃ s, c.program[place]? = some s ∧ s.kind = .tool

theorem rewound_eq_false_iff :
    c.rewound = false ↔ ∀ place, c.prompted = some place → place ≤ c.cursor := by
  unfold rewound
  cases c.prompted with
  | none => simp
  | some place => simp

/-- Where nothing is pending and nobody was asked, the books are in order. -/
theorem Bookkept.of_forgotten (hpending : c.pending = none) (hprompted : c.prompted = none) :
    c.Bookkept := by
  constructor
  · exact fun hne => absurd hpending hne
  · intro request h
    cases hpending.symm.trans h
  · intro place h
    cases hprompted.symm.trans h

/-! ## Refreshing -/

theorem Bookkept.unprompted (h : c.Bookkept) : c.unprompted.Bookkept := by
  -- either all is forgotten or all is kept
  by_cases hrewound : c.rewound = true
  · exact .of_forgotten (if_pos hrewound) (if_pos hrewound)
  · have hpending : c.unprompted.pending = c.pending := if_neg hrewound
    have hprompted : c.unprompted.prompted = c.prompted := if_neg hrewound
    constructor
    · rw [hpending]
      exact h.waits
    · rw [hpending]
      exact h.line_of_pending
    · rw [hprompted]
      exact h.tool_of_prompted

/-- Where no change is asked for, displaying an outcome leaves the books alone. -/
theorem books_advanced_of_none {outcome : Outcome} {m : Machine} (h : c.request? outcome = none) :
    (c.advanced outcome m).mode = c.mode ∧ (c.advanced outcome m).pending = c.pending ∧
      (c.advanced outcome m).prompted = c.prompted := by
  simp [Controller.advanced, h]

/-- Where a change is asked for, displaying an outcome enters it and pauses the run. -/
theorem books_advanced_of_some {outcome : Outcome} {m : Machine} {request : Signal}
    (h : c.request? outcome = some request) :
    (c.advanced outcome m).mode = .paused ∧ (c.advanced outcome m).pending = some request ∧
      (c.advanced outcome m).prompted = some c.cursor := by
  simp [Controller.advanced, h]

theorem Bookkept.advanced {index : Int} {m : Machine} {signals : List Signal}
    {warnings : List Finding} (h : c.Bookkept) (hin : c.InProgram) (hprogram : c.program ≠ [])
    (hreplay : c.replayTo c.cursor = .ok (.done index m signals warnings)) :
    (c.advanced (.done index m signals warnings) m).Bookkept := by
  cases hrequest : c.request? (.done index m signals warnings) with
  | none =>
    obtain ⟨hmode, hpending, hprompted⟩ := books_advanced_of_none (m := m) hrequest
    constructor
    · rw [hpending, hmode]
      exact h.waits
    · rw [hpending]
      exact h.line_of_pending
    · rw [hprompted]
      exact h.tool_of_prompted
  | some request =>
    obtain ⟨hmode, hpending, hprompted⟩ := books_advanced_of_some (m := m) hrequest
    obtain ⟨s, tool, hget, hkind, rfl⟩ := exists_of_request? hin hprogram hreplay hrequest
    constructor
    · exact fun _ => .inl hmode
    · intro entered hentered
      rw [hpending, Option.some.injEq] at hentered
      subst hentered
      exact ⟨s, hget, rfl⟩
    · intro place hplace
      rw [hprompted, Option.some.injEq] at hplace
      subst hplace
      exact ⟨s, hget, hkind⟩

/-- A refresh keeps the books in order, also if it ends in a fault. -/
theorem Refreshes.bookkept {answer : Except Fault Unit} (h : Refreshes c answer d)
    (hc : c.Bookkept) (hin : c.InProgram) : d.Bookkept := by
  cases h with
  | alarmed => exact hc
  | resting => exact .of_forgotten rfl rfl
  | blank | faulty => exact hc.unprompted
  | halted =>
    -- an alarm leaves a change pending, and the run waits on
    exact ⟨fun _ => .inr rfl, hc.unprompted.line_of_pending, hc.unprompted.tool_of_prompted⟩
  | done _ hprogram hreplay => exact hc.unprompted.advanced hin hprogram hreplay

theorem unprompted_eq_self (h : c.rewound = false) : c.unprompted = c := by
  unfold Controller.unprompted
  simp [h]

theorem rewound_unprompted (c : Controller) : c.unprompted.rewound = false := by
  rw [rewound_eq_false_iff]
  intro place hplace
  by_cases hrewound : c.rewound = true
  · cases (if_pos hrewound).symm.trans hplace
  · have hprompted : c.prompted = some place := (if_neg hrewound).symm.trans hplace
    exact rewound_eq_false_iff.mp (Bool.eq_false_iff.mpr hrewound) place hprompted

/-- After a refresh, the cursor is not before the place at which the operator was last asked. Only
in an alarm does this have to be so before. -/
theorem Refreshes.rewound_eq_false {answer : Except Fault Unit} (h : Refreshes c answer d)
    (halarm : c.mode = .alarm → c.rewound = false) : d.rewound = false := by
  cases h with
  | alarmed hmode => exact halarm hmode
  | resting => rfl
  | blank | faulty | halted => exact rewound_unprompted c
  | @done index m signals warnings =>
    rw [rewound_eq_false_iff]
    intro place hplace
    change (if (c.unprompted.request? (.done index m signals warnings)).isSome
      then some c.cursor else c.unprompted.prompted) = some place at hplace
    split at hplace
    · cases hplace
      exact Nat.le_refl _
    · exact rewound_eq_false_iff.mp (rewound_unprompted c) place hplace

/-! ## Operations -/

/-- The books are in order in a controller that is readied to be refreshed: a run that goes on had
nothing pending. -/
theorem Readies.bookkept (h : Readies c command d) (hc : c.Bookkept) : d.Bookkept := by
  cases h with
  | load | reset => exact .of_forgotten rfl rfl
  | start hpending =>
    exact ⟨fun hne => absurd hpending hne, hc.line_of_pending, hc.tool_of_prompted⟩
  | finish hmode =>
    refine ⟨fun hne => ?_, hc.line_of_pending, hc.tool_of_prompted⟩
    have hwaits := hc.waits hne
    simp [hmode] at hwaits
  | advance | seek | refresh | setManual =>
    exact ⟨hc.waits, hc.line_of_pending, hc.tool_of_prompted⟩

/-- Of the operations that refresh in an alarm, none moves the cursor. -/
theorem Readies.rewound_of_alarm (h : Readies c command d) (hc : c.rewound = false)
    (hmode : d.mode = .alarm) : d.rewound = false := by
  cases h with
  | load | reset | start | finish => cases hmode
  | advance hrunning => exact absurd (hrunning.symm.trans hmode) nofun
  | seek _ hnot => exact absurd hmode hnot
  | refresh => exact hc
  | setManual _ hidle => exact absurd (hidle.symm.trans hmode) nofun

/-- An operation keeps the books in order, also if it ends in a fault. -/
theorem Bookkept.perform (hc : c.Bookkept) (h : c.Coherent) (command : Command) :
    (perform command c).state.Bookkept := by
  rcases perform_cases h.memoSound command with
    ⟨d, _, e, memo, memoises, hready, hrefreshes, -, hstate⟩ | ⟨d, hleaves, hstate⟩
  · have he : e.Bookkept :=
      hrefreshes.bookkept (hready.bookkept hc) (hready.inProgram h.inProgram)
    rw [hstate]
    exact ⟨he.waits, he.line_of_pending, he.tool_of_prompted⟩
  · rw [hstate]
    cases hleaves with
    | unchanged => exact hc
    | confirm => exact ⟨fun hne => absurd rfl hne, nofun, hc.tool_of_prompted⟩
    | pause => exact ⟨fun _ => .inl rfl, hc.line_of_pending, hc.tool_of_prompted⟩
    | unread | setManual | setFeed | setMaterial =>
      exact ⟨hc.waits, hc.line_of_pending, hc.tool_of_prompted⟩

/-- An operation does not leave the cursor before the place at which the operator was last asked,
also if it ends in a fault. -/
theorem rewound_perform (hc : c.rewound = false) (h : c.MemoSound) (command : Command) :
    (perform command c).state.rewound = false := by
  rcases perform_cases h command with
    ⟨d, _, e, memo, memoises, hready, hrefreshes, -, hstate⟩ | ⟨d, hleaves, hstate⟩
  · rw [hstate]
    exact hrefreshes.rewound_eq_false fun hmode => hready.rewound_of_alarm hc hmode
  · rw [hstate]
    cases hleaves <;> exact hc

/-! ## Runs -/

/-- What holds of a controller and its books after every run. -/
structure InOrder (c : Controller) : Prop extends c.Coherent, c.Bookkept where
  promptedForPending : c.PromptedForPending
  rewound_eq_false : c.rewound = false

/-- An operation leaves a controller in order, also if it ends in a fault. -/
theorem InOrder.perform (hc : c.InOrder) (command : Command) :
    (perform command c).state.InOrder where
  toCoherent := hc.toCoherent.perform command
  toBookkept := hc.toBookkept.perform hc.toCoherent command
  promptedForPending := hc.promptedForPending.perform hc.toCoherent command
  rewound_eq_false := rewound_perform hc.rewound_eq_false hc.memoSound command

theorem inOrder_withTools (profile : Profile) (tools : ToolTable) :
    (withTools profile tools).InOrder where
  toCoherent := coherent_withTools profile tools
  toBookkept := .of_forgotten rfl rfl
  promptedForPending := nofun
  rewound_eq_false := rfl

theorem inOrder_after (profile : Profile) (tools : ToolTable) (commands : List Command) :
    (after perform (withTools profile tools) commands).InOrder :=
  invariant_after (fun _ command hc => hc.perform command) (inOrder_withTools profile tools)
    commands

/-- After every run, with or without faults: if a tool change is pending, then the run is paused or
in an alarm, the operator was last asked at the statement that the request names, and that is a tool
statement on the line of the request. The operator was last asked, if at all, at a tool statement at
or before the cursor. -/
theorem prompts_bookkept (profile : Profile) (tools : ToolTable) (commands : List Command) :
    let c := after perform (withTools profile tools) commands
    (∀ request, c.pending = some request →
      (c.mode = .paused ∨ c.mode = .alarm) ∧
      ∃ (place : Nat) (s : Statement), c.prompted = some place ∧ request.index = place ∧
        c.program[place]? = some s ∧ s.kind = .tool ∧ s.line = request.line) ∧
    ∀ place, c.prompted = some place →
      place ≤ c.cursor ∧ ∃ s, c.program[place]? = some s ∧ s.kind = .tool := by
  intro c
  have hc : c.InOrder :=
    invariant_after (fun _ command hc => hc.perform command) (inOrder_withTools profile tools)
      commands
  constructor
  · intro request hpending
    refine ⟨hc.waits (by rw [hpending]; nofun), ?_⟩
    obtain ⟨place, hprompted, hindex⟩ := hc.promptedForPending request hpending
    obtain ⟨s, hget, hkind⟩ := hc.tool_of_prompted place hprompted
    -- the statement on whose line the request stands is the one at the place prompted
    obtain ⟨s', hget', hline⟩ := hc.line_of_pending request hpending
    rw [hindex, Int.toNat_natCast, hget, Option.some.injEq] at hget'
    subst hget'
    exact ⟨place, s, hprompted, hindex, hget, hkind, hline⟩
  · intro place hprompted
    exact ⟨rewound_eq_false_iff.mp hc.rewound_eq_false place hprompted,
      hc.tool_of_prompted place hprompted⟩

/-- A run in which an operation ends in a fault while a tool change is pending, before the cursor is
moved beyond an unsupported statement. -/
def faultWhileWaiting : List Command :=
  [.load "T0101\nG77\nG1 Z5", .start, .setFeed (0.0 / 0.0), .seek 2]

/-- The change stays pending through the fault and the alarm, and the books tell its place. -/
theorem bookkept_in_alarm :
    let c := after perform (Controller.new .lathe) faultWhileWaiting
    ¬Faultless perform (Controller.new .lathe) faultWhileWaiting ∧ c.mode = .alarm ∧ c.cursor = 2 ∧
      ∃ request place s, c.pending = some request ∧ c.prompted = some place ∧
        request.index = (place : Int) ∧ place ≤ c.cursor ∧ c.program[place]? = some s ∧
        s.kind = .tool ∧ s.line = request.line := by
  intro c
  have hpending : c.pending.isSome = true := by decide +kernel
  obtain ⟨request, hrequest⟩ := Option.isSome_iff_exists.mp hpending
  obtain ⟨hwaits, hplaces⟩ := prompts_bookkept .lathe Profile.lathe.toolTable faultWhileWaiting
  obtain ⟨-, place, s, hprompted, hindex, hget, hkind, hline⟩ := hwaits request hrequest
  obtain ⟨hle, -⟩ := hplaces place hprompted
  exact ⟨by decide +kernel, by decide +kernel, by decide +kernel, request, place, s, hrequest,
    hprompted, hindex, hle, hget, hkind, hline⟩

end Lathe.Controller
