import Lathe.Proofs.Controller.History

/-!
# The tool-change gate

A run is gated where it stands if the statement at the cursor is no tool statement or the operator
was asked for the change there. A refresh always leaves a gated run (`Refreshes.gated`), because it
asks where the operator was not asked yet. The one operation that sets a run going without a refresh
is a confirmation, and it takes no notice of the statement at the cursor: after the cursor was moved
to another tool statement while a change was pending, confirming that change lets the run go on
there, and the operator is never asked.

* `gated_perform_iff`: an operation keeps a run gated exactly when it is no such confirmation.
* `gated_iff_confirmed_in_place`: so a run is gated throughout exactly when it has no such
  confirmation, and then a tick leaves a tool statement only if the operator was asked there.
* `ungated_after_confirmation`: a run that is not gated.
-/

namespace Lathe.Controller

open Lathe.Action

variable {c d : Controller} {command : Command} {commands : List Command}

/-- The statement at the cursor is a tool statement. -/
def AtToolStatement (c : Controller) : Prop :=
  c.statement?.map (·.kind) = some .tool

instance (c : Controller) : Decidable c.AtToolStatement :=
  inferInstanceAs (Decidable (c.statement?.map (·.kind) = some .tool))

/-- While running at a tool statement, the operator was asked for a tool change at this place. -/
def Gated (c : Controller) : Prop :=
  c.mode = .running → c.AtToolStatement → c.prompted = some c.cursor

instance (c : Controller) : Decidable c.Gated :=
  inferInstanceAs (Decidable (c.mode = .running → c.AtToolStatement → c.prompted = some c.cursor))

/-- At a tool statement, an operation confirms a tool change that was asked for elsewhere. -/
def ConfirmsElsewhere (c : Controller) (command : Command) : Prop :=
  confirms command = true ∧ c.mode = .paused ∧ c.AtToolStatement ∧
    ∃ request ∈ c.pending, request.index ≠ c.cursor

instance (c : Controller) (command : Command) : Decidable (c.ConfirmsElsewhere command) :=
  inferInstanceAs (Decidable (confirms command = true ∧ c.mode = .paused ∧ c.AtToolStatement ∧
    ∃ request ∈ c.pending, request.index ≠ c.cursor))

/-! ## What is pending was asked for at the place prompted -/

/-- A tool change that is pending was asked for at the place where the operator was last asked. -/
def PromptedForPending (c : Controller) : Prop :=
  ∀ request, c.pending = some request →
    ∃ place : Nat, c.prompted = some place ∧ request.index = place

/-- What is still pending after a rewind was asked for at the place prompted. -/
theorem PromptedForPending.unprompted (h : c.PromptedForPending) :
    c.unprompted.PromptedForPending := by
  intro request hpending
  change (if c.rewound then none else c.pending) = some request at hpending
  show ∃ place : Nat, (if c.rewound then none else c.prompted) = some place ∧ _
  split at hpending
  next => cases hpending
  next hrewound =>
    rw [if_neg hrewound]
    exact h request hpending

/-- In a replay that gets to the cursor, the statement there asks for a tool change exactly if it is
a tool statement, and the request names the cursor. -/
theorem signal?_toolChange_at_cursor {index : Int} {m : Machine} {signals : List Signal}
    {warnings : List Finding} (hin : c.InProgram) (hprogram : c.program ≠ [])
    (hreplay : c.replayTo c.cursor = .ok (.done index m signals warnings)) :
    if c.AtToolStatement then
      ∃ request : Signal, request.index = c.cursor ∧
        (Outcome.done index m signals warnings).signal? .toolChange = some request
    else (Outcome.done index m signals warnings).signal? .toolChange = none := by
  obtain ⟨s, hget⟩ : ∃ s, c.program[c.cursor]? = some s :=
    ⟨_, List.getElem?_eq_getElem (hin.lt_length hprogram)⟩
  have hsignal := Setup.signal?_toolChange_of_replay hget hreplay
  have htool : c.AtToolStatement ↔ s.kind = .tool := by
    unfold AtToolStatement statement?
    rw [hget, Option.map_some, Option.some.injEq]
  by_cases hkind : s.kind = .tool
  · rw [if_pos hkind] at hsignal
    rw [if_pos (htool.mpr hkind)]
    obtain ⟨tool, hrequest⟩ := hsignal
    exact ⟨_, rfl, hrequest⟩
  · rw [if_neg hkind] at hsignal
    rw [if_neg (mt htool.mp hkind)]
    exact hsignal

/-- A tool change is asked for by the tool statement at the cursor, and names its place and line. -/
theorem exists_of_request? {index : Int} {m : Machine} {signals : List Signal}
    {warnings : List Finding} {request : Signal} (hin : c.InProgram) (hprogram : c.program ≠ [])
    (hreplay : c.replayTo c.cursor = .ok (.done index m signals warnings))
    (hrequest : c.request? (.done index m signals warnings) = some request) :
    ∃ s tool, c.program[c.cursor]? = some s ∧ s.kind = .tool ∧
      request = ⟨.toolChange, c.cursor, s.line, tool⟩ := by
  obtain ⟨s, hget⟩ : ∃ s, c.program[c.cursor]? = some s :=
    ⟨_, List.getElem?_eq_getElem (hin.lt_length hprogram)⟩
  have hsignal := Setup.signal?_toolChange_of_replay hget hreplay
  unfold request? at hrequest
  split at hrequest
  next =>
    split at hsignal
    next hkind =>
      obtain ⟨tool, hasked⟩ := hsignal
      rw [hasked, Option.some.injEq] at hrequest
      exact ⟨s, tool, hget, hkind, hrequest.symm⟩
    next =>
      rw [hsignal] at hrequest
      cases hrequest
  next => cases hrequest

/-- A refresh remembers the place at which it asks for a change. -/
theorem Refreshes.promptedForPending {answer : Except Fault Unit} (h : Refreshes c answer d)
    (hc : c.PromptedForPending) (hin : c.InProgram) : d.PromptedForPending := by
  cases h with
  | alarmed => exact hc
  | resting =>
    intro request hpending
    cases hpending
  | blank | faulty | halted => exact hc.unprompted
  | @done index m signals warnings _ hprogram hreplay =>
    intro request hpending
    change (c.unprompted.request? _).or c.unprompted.pending = some request at hpending
    show ∃ place : Nat, (if (c.unprompted.request? _).isSome then some c.cursor else _) =
      some place ∧ _
    cases hrequest : c.unprompted.request? (.done index m signals warnings) with
    | none =>
      rw [hrequest] at hpending
      exact hc.unprompted request hpending
    | some asked =>
      rw [hrequest, Option.some_or, Option.some.injEq] at hpending
      subst hpending
      -- forgetting an earlier request has moved neither the cursor nor the program
      obtain ⟨s, tool, -, -, rfl⟩ :=
        exists_of_request? (c := c.unprompted) hin hprogram hreplay hrequest
      exact ⟨c.cursor, rfl, rfl⟩

/-- What is pending was asked for at the place prompted, also in a controller that is readied to be
refreshed. -/
theorem Readies.promptedForPending (h : Readies c command d) (hc : c.PromptedForPending) :
    d.PromptedForPending := by
  cases h with
  | load | reset =>
    intro request hpending
    cases hpending
  | start | finish | advance | seek | refresh | setManual => exact hc

/-- An operation keeps track of the place at which it asks for a change. -/
theorem PromptedForPending.perform (hc : c.PromptedForPending) (h : c.Coherent)
    (command : Command) : (perform command c).state.PromptedForPending := by
  rcases perform_cases h.memoSound command with
    ⟨d, _, e, memo, memoises, hready, hrefreshes, -, hstate⟩ | ⟨d, hleaves, hstate⟩
  · rw [hstate]
    exact hrefreshes.promptedForPending (hready.promptedForPending hc)
      (hready.inProgram h.inProgram)
  · rw [hstate]
    cases hleaves with
    | confirm =>
      intro request hpending
      cases hpending
    | unchanged | unread | pause | setManual | setFeed | setMaterial => exact hc

/-! ## The gate -/

/-- After a refresh that did not end in a fault, a run is gated: where the operator was not asked
yet, the refresh has asked and paused. -/
theorem Refreshes.gated (h : Refreshes c (.ok ()) d) (hin : c.InProgram) : d.Gated := by
  intro hrunning htool
  cases h with
  | alarmed hmode => exact absurd (hmode.symm.trans hrunning) nofun
  | resting hmode => exact absurd (hmode.symm.trans hrunning) nofun
  | halted => cases hrunning
  | blank _ hprogram =>
    -- there is no statement at all
    change c.program[c.cursor]?.map (·.kind) = some .tool at htool
    rw [hprogram] at htool
    cases htool
  | @done index m signals warnings _ hprogram hreplay =>
    change c.unprompted.AtToolStatement at htool
    have hsignal := signal?_toolChange_at_cursor (c := c.unprompted) hin hprogram hreplay
    rw [if_pos htool] at hsignal
    obtain ⟨request, -, hrequest⟩ := hsignal
    change (if (c.unprompted.request? _).isSome then RunMode.paused else c.mode) = _ at hrunning
    show (if (c.unprompted.request? _).isSome then some c.cursor else c.unprompted.prompted) =
      some c.cursor
    unfold request? at hrunning ⊢
    rw [hrequest] at hrunning ⊢
    -- a refresh that asks pauses, so a run that goes on was asked here before
    by_cases hask : c.unprompted.mode = .running ∧ c.unprompted.prompted ≠ some c.unprompted.cursor
    · rw [if_pos hask, Option.isSome_some, if_pos rfl]
    · rw [if_neg hask, Option.isSome_none, if_neg nofun] at hrunning ⊢
      exact Decidable.byContradiction fun hprompted => hask ⟨hrunning, hprompted⟩

/-- Confirming a change keeps a run gated, unless the run is paused at a tool statement and the
change was asked for elsewhere. -/
theorem gated_confirmed_iff {request : Signal} (hprompted : c.PromptedForPending)
    (hgated : c.Gated) (hpending : c.pending = some request)
    (hconfirms : confirms command = true) :
    c.confirmed.Gated ↔ ¬c.ConfirmsElsewhere command := by
  obtain ⟨place, hplace, hindex⟩ := hprompted request hpending
  have hhere : c.prompted = some c.cursor ↔ request.index = c.cursor := by
    rw [hplace, hindex, Option.some.injEq, Int.ofNat_inj]
  by_cases hpaused : c.mode = .paused
  · -- the run goes on without a refresh, so nobody looks at the statement at the cursor
    have hmode : c.confirmed.mode = .running := by simp [confirmed, hpending, hpaused]
    constructor
    · rintro hafter ⟨-, -, htool, other, hother, hne⟩
      cases hpending.symm.trans hother
      exact hne (hhere.mp (hafter hmode htool))
    · intro hnot _ htool
      refine hhere.mpr (Decidable.byContradiction fun hne => ?_)
      exact hnot ⟨hconfirms, hpaused, htool, request, hpending, hne⟩
  · have hmode : c.confirmed.mode = c.mode := by simp [confirmed, hpaused]
    refine iff_of_true ?_ fun helsewhere => hpaused helsewhere.2.1
    intro hrunning htool
    exact hgated (hmode.symm.trans hrunning) htool

/-- An operation without a fault keeps a run gated, unless it confirms, at a tool statement, a
change that was asked for elsewhere. -/
theorem gated_perform_iff (h : c.Coherent) (hprompted : c.PromptedForPending) (hgated : c.Gated)
    (hanswer : (perform command c).answer.toBool = true) :
    (perform command c).state.Gated ↔ ¬c.ConfirmsElsewhere command := by
  rcases perform_cases_of_ok h.memoSound hanswer with
    ⟨d, e, memo, memoises, hready, hrefreshes, hstate⟩ | ⟨d, hleaves, hstate⟩
  · -- a refresh looks at the statement at the cursor, and starting refreshes unless it confirms
    rw [hstate]
    refine iff_of_true (hrefreshes.gated (hready.inProgram h.inProgram)) ?_
    rintro ⟨hconfirms, -, -, request, hpending, -⟩
    cases hready with
    | start hnone => exact absurd (hnone.symm.trans hpending) nofun
    | load | reset | finish | advance | seek | refresh | setManual => cases hconfirms
  · rw [hstate]
    cases hleaves with
    | unchanged hconfirms =>
      refine iff_of_true hgated ?_
      rintro ⟨hcommand, hpaused, -, request, hpending, -⟩
      rcases hconfirms hcommand with halarm | hnone
      · exact absurd (halarm.symm.trans hpaused) nofun
      · exact absurd (hnone.symm.trans hpending) nofun
    | pause => exact iff_of_true nofun fun hconfirms => nomatch hconfirms.1
    | unread | setManual | setFeed | setMaterial =>
      exact iff_of_true hgated fun hconfirms => nomatch hconfirms.1
    | @confirm _ request hpending hcommand =>
      have hconfirms : confirms command = true := by
        rcases hcommand with rfl | ⟨rfl, -⟩ <;> rfl
      exact gated_confirmed_iff hprompted hgated hpending hconfirms

/-- A run without a fault that begins gated stays so exactly if no operation of it confirms, at a
tool statement, a change that was asked for elsewhere. -/
theorem gated_steps_iff (h : c.Coherent) (hprompted : c.PromptedForPending) (hgated : c.Gated)
    (hrun : Faultless perform c commands) :
    (∀ step ∈ steps perform c commands, step.after.Gated) ↔
      ∀ step ∈ steps perform c commands, ¬step.before.ConfirmsElsewhere step.event := by
  refine forall_after_iff_of_faultless (I := fun c => c.Coherent ∧ c.PromptedForPending)
    (Q := fun c command => ¬c.ConfirmsElsewhere command) ?_ ⟨h, hprompted⟩ hgated hrun
  rintro c command ⟨h, hprompted⟩ hgated hanswer
  exact ⟨⟨h.perform command, hprompted.perform h command⟩,
    gated_perform_iff h hprompted hgated hanswer⟩

/-- A tick moves a gated run away from a tool statement only if the operator was asked there. -/
theorem prompted_of_tick (hgated : c.Gated) (htool : c.AtToolStatement)
    (hmoves : (perform .tick c).state.cursor ≠ c.cursor) : c.prompted = some c.cursor := by
  -- only while running does a tick do anything
  by_cases hrunning : c.mode = .running
  · exact hgated hrunning htool
  · have hresult := perform_result .tick c
    rw [readied, if_neg hrunning] at hresult
    have hstate : (perform .tick c).state = c := congrArg Prod.snd hresult
    rw [hstate] at hmoves
    exact absurd rfl hmoves

/-- In a run without a fault, the operator is asked at every tool statement at which the run goes
on, exactly if no operation confirms, at a tool statement, a change that was asked for elsewhere.
Without such a confirmation, no tick moves the cursor away from a tool statement at which the
operator was not asked. -/
theorem gated_iff_confirmed_in_place (profile : Profile) (tools : ToolTable)
    (commands : List Command) (hrun : Faultless perform (withTools profile tools) commands) :
    ((∀ step ∈ steps perform (withTools profile tools) commands, step.after.Gated) ↔
      ∀ step ∈ steps perform (withTools profile tools) commands,
        ¬step.before.ConfirmsElsewhere step.event) ∧
    ((∀ step ∈ steps perform (withTools profile tools) commands,
        ¬step.before.ConfirmsElsewhere step.event) →
      ∀ step ∈ steps perform (withTools profile tools) commands, step.event = .tick →
        step.before.AtToolStatement → step.after.cursor ≠ step.before.cursor →
        step.before.prompted = some step.before.cursor) := by
  -- at the start nothing runs and nothing is pending
  have hgated : (withTools profile tools).Gated := nofun
  have hprompted : (withTools profile tools).PromptedForPending := nofun
  have hiff := gated_steps_iff (coherent_withTools profile tools) hprompted hgated hrun
  refine ⟨hiff, ?_⟩
  intro hin step hstep htick htool hmoves
  refine prompted_of_tick (forall_before hgated (hiff.mpr hin) step hstep) htool ?_
  rw [← htick, ← after_of_mem_steps hstep]
  exact hmoves

/-- A program with two tool statements in a row. -/
def twoTools : String := "G0 X60\nT0101\nT0202\nG0 X10"

/-- Two changes that are confirmed where they were asked for. -/
theorem gated_twoTools :
    Faultless perform (Controller.new .lathe)
      [.load twoTools, .start, .tick, .confirmToolChange, .tick, .confirmToolChange, .tick] ∧
    ∀ step ∈ steps perform (Controller.new .lathe)
        [.load twoTools, .start, .tick, .confirmToolChange, .tick, .confirmToolChange, .tick],
      step.after.Gated := by
  refine ⟨by decide +kernel, ?_⟩
  exact (gated_iff_confirmed_in_place .lathe _ _ (by decide +kernel)).1.mpr (by decide +kernel)

/-- While the first change is pending, the cursor is moved to the second tool statement. Confirming
the first change lets the run go on there, and the next tick leaves that statement, although the
operator was asked at the first one only. -/
theorem ungated_after_confirmation :
    let confirmed := after perform (Controller.new .lathe)
      [.load twoTools, .start, .tick, .seek 2, .confirmToolChange]
    Faultless perform (Controller.new .lathe)
      [.load twoTools, .start, .tick, .seek 2, .confirmToolChange, .tick] ∧
    ¬confirmed.Gated ∧ confirmed.AtToolStatement ∧ confirmed.prompted = some 1 ∧
    confirmed.cursor = 2 ∧ (perform .tick confirmed).state.cursor = 3 := by
  decide +kernel

end Lathe.Controller
