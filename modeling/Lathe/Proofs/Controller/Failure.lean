import Lathe.Proofs.Controller.Completion
import Lathe.Proofs.Controller.Memo

/-!
# Operations that end in a fault

A fault does not undo what was done before it. An operation comes upon a fault when it reads a
program, when it replays one, or when it is given a feed override that is no number of percent; by
then it has at most taken over the text, moved the cursor and set the run going.

* `Breaks`: the ways in which an operation ends in a fault, each with its cause and with the
  controller that it leaves;
* `Breaks.perform`, `exists_breaks`: each of them does end in a fault, and there is no other;
* `fault_keeps_all_but_progress`: so, after every run, a fault leaves alone the program, the alarm,
  what is displayed, the tools, the wear and the feed override;
* `fault_moves_cursor`: it does not leave everything alone.
-/

namespace Lathe.Controller

open Lathe.Action

variable {c d : Controller} {command : Command} {fault : Fault}

/-- The ways in which an operation ends in a fault. Confirming a change, pausing, going back to the
start and setting the spindle or the material never do. -/
inductive Breaks (c : Controller) : Command → Fault → Controller → Prop
  | load {text : String} {fault : Fault} (hparse : Program.parse text = .error fault) :
      Breaks c (.load text) fault { c with text }
  | start {fault : Fault} (hpending : c.pending = none) (hmode : c.mode = .idle ∨ c.mode = .paused)
      (hreplay : c.replayTo c.started.cursor = .error fault) :
      Breaks c .start fault c.started.unprompted
  | tick {fault : Fault} (hmode : c.mode = .running) (hend : c.atEnd = false)
      (hreplay : c.replayTo (c.cursor + 1 : Nat) = .error fault) :
      Breaks c .tick fault { c with cursor := c.cursor + 1 }
  | seek (index : Int) {fault : Fault} (hmode : c.mode = .running ∨ c.mode = .paused)
      (hreplay : c.replayTo (c.movedTo index).cursor = .error fault) :
      Breaks c (.seek index) fault (c.movedTo index).unprompted
  | refresh {fault : Fault} (hmode : c.mode = .running ∨ c.mode = .paused)
      (hreplay : c.replayTo c.cursor = .error fault) : Breaks c .refresh fault c
  | setFeed {percent : Float} {fault : Fault} (hpercent : truncate percent = .error fault) :
      Breaks c (.setFeed percent) fault c

/-- All that a fault leaves alone: everything but the text, the mode, the cursor, the books on tool
changes and the memo. -/
structure Untouched (c d : Controller) : Prop where
  program : d.program = c.program
  warnings : d.warnings = c.warnings
  alarm : d.alarm = c.alarm
  machine : d.machine = c.machine
  previous : d.previous = c.previous
  tools : d.tools = c.tools
  meter : d.meter = c.meter
  delta : d.delta = c.delta
  feed : d.feed = c.feed
  manual : d.manual = c.manual
  material : d.material = c.material

/-- Whether a controller was left alone can be seen without its memo. -/
theorem Untouched.of_bare_eq {e : Controller} (h : c.Untouched d) (hbare : e.bare = d.bare) :
    c.Untouched e where
  program := (congrArg Controller.program hbare).trans h.program
  warnings := (congrArg Controller.warnings hbare).trans h.warnings
  alarm := (congrArg Controller.alarm hbare).trans h.alarm
  machine := (congrArg Controller.machine hbare).trans h.machine
  previous := (congrArg Controller.previous hbare).trans h.previous
  tools := (congrArg Controller.tools hbare).trans h.tools
  meter := (congrArg Controller.meter hbare).trans h.meter
  delta := (congrArg Controller.delta hbare).trans h.delta
  feed := (congrArg Controller.feed hbare).trans h.feed
  manual := (congrArg Controller.manual hbare).trans h.manual
  material := (congrArg Controller.material hbare).trans h.material

theorem Breaks.untouched (h : Breaks c command fault d) : c.Untouched d := by
  cases h <;> constructor <;> rfl

/-! ## Each way ends in a fault -/

theorem replayTo_of_program_eq_nil (h : c.program = []) (cursor : Int) :
    (c.replayTo cursor).toBool = true := by
  unfold replayTo Setup.replay Setup.upTo
  rw [h, List.take_nil]
  rfl

/-- A refresh that comes to a replay with a fault has done no more than forget a tool change. -/
theorem refreshed_of_replayTo_eq_error (hmode : c.mode = .running ∨ c.mode = .paused)
    (hreplay : c.replayTo c.cursor = .error fault) :
    c.refreshed = (.error fault, c.unprompted) := by
  -- an empty program replays without a fault
  have hprogram : c.program ≠ [] := by
    intro hnil
    have hok := replayTo_of_program_eq_nil hnil c.cursor
    rw [hreplay] at hok
    cases hok
  unfold refreshed
  rcases hmode with hmode | hmode <;> simp [hmode, hprogram, hreplay]

/-- An operation ends in the fault of the replay to the cursor of the controller that it has
readied. -/
theorem perform_of_readied_of_fault (h : c.MemoSound) (hready : c.readied command = some d)
    (hmode : d.mode = .running ∨ d.mode = .paused)
    (hreplay : d.replayTo d.cursor = .error fault) :
    (perform command c).answer = .error fault ∧
      (perform command c).state.bare = d.unprompted.bare := by
  obtain ⟨memo, memoises, hanswer, hstate⟩ := perform_of_readied h hready
  rw [refreshed_of_replayTo_eq_error hmode hreplay] at hanswer hstate
  exact ⟨hanswer, by rw [hstate]; rfl⟩

theorem Breaks.perform (h : Breaks c command fault d) (hc : c.InOrder) :
    (perform command c).answer = .error fault ∧
      (Controller.perform command c).state.bare = d.bare := by
  cases h with
  | @load text _ hparse =>
    have hresult := perform_result (.load text) c
    simp only [readied, unrefreshed, hparse] at hresult
    exact ⟨congrArg Prod.fst hresult, congrArg (fun r => r.2.bare) hresult⟩
  | start hpending hmode hreplay =>
    exact perform_of_readied_of_fault hc.memoSound (if_pos ⟨hpending, hmode⟩) (.inl rfl) hreplay
  | tick hmode hend hreplay =>
    have hready : c.readied .tick = some { c with cursor := c.cursor + 1 } := by
      simp [readied, ticked, hmode, hend]
    -- going on does not bring the cursor before the place at which the operator was asked
    have hrewound : { c with cursor := c.cursor + 1 }.rewound = false :=
      rewound_eq_false_iff.mpr fun place hplace =>
        Nat.le_succ_of_le (rewound_eq_false_iff.mp hc.rewound_eq_false place hplace)
    have hperform := perform_of_readied_of_fault hc.memoSound hready (.inl hmode) hreplay
    rwa [unprompted_eq_self hrewound] at hperform
  | seek index hmode hreplay =>
    have halarm : c.mode ≠ .alarm := by
      intro halarm
      simp [halarm] at hmode
    exact perform_of_readied_of_fault hc.memoSound (if_neg halarm) hmode hreplay
  | refresh hmode hreplay =>
    have hready : c.readied .refresh = some c := rfl
    have hperform := perform_of_readied_of_fault hc.memoSound hready hmode hreplay
    rwa [unprompted_eq_self hc.rewound_eq_false] at hperform
  | @setFeed percent _ hpercent =>
    have hresult := perform_result (.setFeed percent) c
    simp only [readied, unrefreshed, hpercent] at hresult
    exact ⟨congrArg Prod.fst hresult, congrArg (fun r => r.2.bare) hresult⟩

/-! ## There is no other way -/

/-- Of the operations that do not refresh, those end in a fault that read a text or a number of
percent. -/
theorem exists_breaks_of_unrefreshed (hready : c.readied command = none)
    (h : (c.unrefreshed command).1 = .error fault) : ∃ d, Breaks c command fault d := by
  cases command with
  | load text =>
    rw [readied] at hready
    split at hready
    next => cases hready
    next reason hparse =>
      rw [unrefreshed, hparse] at h
      cases h
      exact ⟨_, .load hparse⟩
  | setFeed percent =>
    rw [unrefreshed] at h
    split at h
    next => cases h
    next reason hpercent =>
      cases h
      exact ⟨_, .setFeed hpercent⟩
  | start =>
    rw [unrefreshed] at h
    split at h <;> cases h
  | pause | reset | confirmToolChange | tick | seek | refresh | setManual | setMaterial => cases h

/-- Of the operations that refresh, those end in a fault whose replay does. -/
theorem Readies.exists_breaks (h : Readies c command d) (hrefresh : d.refreshed.1 = .error fault) :
    ∃ e, Breaks c command fault e := by
  have hrefreshes := refreshes_refreshed d
  rw [hrefresh] at hrefreshes
  generalize d.refreshed.2 = e at hrefreshes
  cases hrefreshes with
  | faulty hmode _ hreplay =>
    cases h with
    | load | reset | finish =>
      -- at rest, nothing is replayed
      simp [rewoundToStart] at hmode
    | setManual _ hidle => simp [hidle] at hmode
    | start hpending hstart => exact ⟨_, .start hpending hstart hreplay⟩
    | advance hrunning hend => exact ⟨_, .tick hrunning hend hreplay⟩
    | seek index => exact ⟨_, .seek index hmode hreplay⟩
    | refresh => exact ⟨_, .refresh hmode hreplay⟩

theorem exists_breaks (h : c.MemoSound) (hanswer : (perform command c).answer = .error fault) :
    ∃ d, Breaks c command fault d := by
  cases hready : c.readied command with
  | some d =>
    obtain ⟨-, -, hrefreshed, -⟩ := perform_of_readied h hready
    rw [hanswer] at hrefreshed
    cases hd : d.refreshed.1 with
    | error reason =>
      rw [hd] at hrefreshed
      cases hrefreshed
      exact (readies_of_readied hready).exists_breaks hd
    | ok _ =>
      rw [hd] at hrefreshed
      cases hrefreshed
  | none =>
    have hresult := perform_result command c
    rw [hready] at hresult
    exact exists_breaks_of_unrefreshed hready ((congrArg Prod.fst hresult).symm.trans hanswer)

/-! ## Faults in a run -/

/-- After every run, an operation ends in a fault exactly in one of the ways of `Breaks`, and leaves
the controller that is told there, the memo aside. Whatever the operation, the program, the alarm,
the machine on display, the tools, the wear and the feed override are as they were before. -/
theorem fault_keeps_all_but_progress (profile : Profile) (tools : ToolTable)
    (commands : List Command) (command : Command) (fault : Fault) :
    let c := after perform (withTools profile tools) commands
    let e := (perform command c).state
    ((perform command c).answer = .error fault ↔ ∃ d, Breaks c command fault d) ∧
    ∀ d, Breaks c command fault d → e.bare = d.bare ∧ c.Untouched e := by
  intro c e
  have hc : c.InOrder := inOrder_after profile tools commands
  refine ⟨⟨exists_breaks hc.memoSound, ?_⟩, ?_⟩
  · rintro ⟨d, hbreaks⟩
    exact (hbreaks.perform hc).1
  · intro d hbreaks
    have hbare : e.bare = d.bare := (hbreaks.perform hc).2
    exact ⟨hbare, hbreaks.untouched.of_bare_eq hbare⟩

/-! ## A fault in the middle of a run -/

theorem parse_ofList (cs : List Char) :
    Program.parse (String.ofList cs) = Program.readLines (SourceLine.ofTextFrom 1 cs) := by
  unfold Program.parse SourceLine.ofText
  rw [String.toList_ofList]

/-- So many digits that the number is beyond the largest one. -/
def endlessDigits : List Char := List.replicate 310 '9'

/-- The second statement names a tool by such a number. -/
def endlessOffset : List Statement := [
  { kind := .preparatory, code := some (.whole 0), params := [('X', 60.0)], line := 1,
    raw := "G0 X60", codeText := "0" },
  { kind := .preparatory, code := some (.whole 43), params := [('H', 1.0 / 0.0)], line := 2,
    raw := String.ofList ("G43 H".toList ++ endlessDigits), codeText := "43" }]

def endlessOffsetText : String := String.ofList ("G0 X60\nG43 H".toList ++ endlessDigits)

theorem parse_endlessOffsetText : Program.parse endlessOffsetText = .ok endlessOffset := by
  apply parse_eq_ok_of_toOption
  unfold endlessOffsetText
  rw [parse_ofList]
  decide +kernel

/-- The run at its first statement. The next tick comes upon the second one. -/
theorem after_endlessOffset :
    after perform (Controller.new .lathe) [.load endlessOffsetText, .start] =
      after perform ((Controller.new .lathe).loaded endlessOffsetText endlessOffset) [.start] :=
  after_load parse_endlessOffsetText _ _

/-- A tick that comes upon a fault has moved the cursor: the controller is not as it was. -/
theorem fault_moves_cursor :
    let c := after perform (Controller.new .lathe) [.load endlessOffsetText, .start]
    (perform .tick c).answer.toBool = false ∧ (perform .tick c).state.cursor ≠ c.cursor := by
  rw [after_endlessOffset]
  decide +kernel

theorem Breaks.bare_eq_of_tick (h : Breaks c .tick fault d) :
    d.bare = { c.bare with cursor := c.cursor + 1 } := by
  cases h
  rfl

/-- The first statement is still on display, and the cursor is all that the fault has changed. -/
theorem fault_moves_only_cursor :
    let c := after perform (withTools .lathe Profile.lathe.toolTable)
      [.load endlessOffsetText, .start]
    let e := (perform .tick c).state
    ∃ fault, (perform .tick c).answer = .error fault ∧
      e.bare = { c.bare with cursor := c.cursor + 1 } ∧ c.Untouched e := by
  have hkeeps := fault_keeps_all_but_progress .lathe Profile.lathe.toolTable
    [.load endlessOffsetText, .start] .tick
  have hfails : (perform .tick (after perform (Controller.new .lathe)
      [.load endlessOffsetText, .start])).answer.toBool = false := by
    rw [after_endlessOffset]
    decide +kernel
  rw [Controller.new] at hfails
  -- all that matters of the run is that the next tick ends in a fault
  generalize after perform (withTools .lathe Profile.lathe.toolTable)
    [.load endlessOffsetText, .start] = run at hkeeps hfails ⊢
  intro c e
  cases hanswer : (perform .tick c).answer with
  | ok answer =>
    change (perform .tick c).answer.toBool = false at hfails
    rw [hanswer] at hfails
    cases hfails
  | error fault =>
    obtain ⟨hiff, hleaves⟩ := hkeeps fault
    obtain ⟨d, hbreaks⟩ := hiff.mp hanswer
    obtain ⟨hbare, huntouched⟩ := hleaves d hbreaks
    exact ⟨fault, rfl, hbare.trans hbreaks.bare_eq_of_tick, huntouched⟩

end Lathe.Controller
