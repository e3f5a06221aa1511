import Mathlib.Data.Int.Interval
import Lathe.Proofs.Controller.Completion

/-!
# How much the memo keeps

The memo keeps one outcome for a cursor. The cursors that are asked for are the places of the
statements, and, where an alarm displays the machine before the statement that caused it, the place
before that one. If that is the first statement of the program, no statement stands there, and the
memo can keep one outcome more than there are statements.

* `result_refresh`: what a refresh does, with the memo that it leaves;
* `Memo.Within`: the memo keeps one outcome for a cursor, and only for cursors in some range;
* `Compact.perform`: every operation keeps the memo within the cursors that are asked for;
* `memo_bounded_unless_first_unsupported`: the memo is bounded by the number of statements for those
  programs, and only those, whose first statement is supported.
-/

namespace Lathe

/-! ## The cursors of a memo -/

namespace Memo

variable {memo : Memo} {cursor low high : Int} {outcome : Outcome}

/-- The cursors whose outcomes are kept. -/
def cursors (memo : Memo) : List Int :=
  memo.outcomes.map (·.1)

theorem get?_eq_none_iff : memo.get? cursor = none ↔ cursor ∉ memo.cursors := by
  simp only [get?, cursors, List.lookup_eq_none_iff, List.mem_map, not_exists, not_and]
  constructor
  · rintro h entry hentry rfl
    simpa using h entry hentry
  · intro h entry hentry
    simpa using fun heq => h entry hentry (Eq.symm heq)

theorem length_cursors (memo : Memo) : memo.cursors.length = memo.outcomes.length :=
  List.length_map _

theorem revision_forRevision (memo : Memo) (revision : Nat) :
    (memo.forRevision revision).revision = revision := by
  unfold forRevision
  split
  next h => exact h
  next => rfl

theorem forRevision_of_revision_eq {revision : Nat} (h : memo.revision = revision) :
    memo.forRevision revision = memo :=
  if_pos h

/-- No outcome is added when those for an earlier table are dropped. -/
theorem length_forRevision_le (memo : Memo) (revision : Nat) :
    (memo.forRevision revision).outcomes.length ≤ memo.outcomes.length := by
  unfold forRevision
  split
  · exact Nat.le_refl _
  · exact Nat.zero_le _

/-- The memo keeps one outcome for a cursor, and only for cursors from `low` up to `high`. -/
structure Within (memo : Memo) (low high : Int) : Prop where
  nodup : memo.cursors.Nodup
  mem : ∀ cursor ∈ memo.cursors, low ≤ cursor ∧ cursor < high

theorem within_nil (revision : Nat) (low high : Int) : Within ⟨revision, []⟩ low high :=
  ⟨List.nodup_nil, fun _ h => absurd h List.not_mem_nil⟩

theorem Within.forRevision (h : memo.Within low high) (revision : Nat) :
    (memo.forRevision revision).Within low high := by
  unfold Memo.forRevision
  split
  · exact h
  · exact within_nil revision low high

theorem Within.insert (h : memo.Within low high) (hnew : cursor ∉ memo.cursors)
    (hcursor : low ≤ cursor ∧ cursor < high) : (memo.insert cursor outcome).Within low high := by
  refine ⟨List.nodup_cons.mpr ⟨hnew, h.nodup⟩, ?_⟩
  intro other hother
  rcases List.mem_cons.mp hother with rfl | hmem
  · exact hcursor
  · exact h.mem other hmem

/-- A memo is bounded by the number of cursors that it can have. -/
theorem Within.length_le (h : memo.Within low high) :
    memo.outcomes.length ≤ (high - low).toNat := by
  have hsubset : memo.cursors.toFinset ⊆ Finset.Ico low high := fun cursor hcursor =>
    Finset.mem_Ico.mpr (h.mem cursor (List.mem_toFinset.mp hcursor))
  have hcard := Finset.card_le_card hsubset
  rwa [List.toFinset_card_of_nodup h.nodup, length_cursors, Int.card_Ico] at hcard

/-- A memo that keeps the outcomes for a range of cursors is as long as that range. -/
theorem le_length (h : ∀ cursor, low ≤ cursor → cursor < high → cursor ∈ memo.cursors) :
    (high - low).toNat ≤ memo.outcomes.length := by
  have hsubset : Finset.Ico low high ⊆ memo.cursors.toFinset := by
    intro cursor hcursor
    obtain ⟨hlow, hhigh⟩ := Finset.mem_Ico.mp hcursor
    exact List.mem_toFinset.mpr (h cursor hlow hhigh)
  have hcard := (Finset.card_le_card hsubset).trans memo.cursors.toFinset_card_le
  rwa [Int.card_Ico, length_cursors] at hcard

end Memo

/-! ## Programs that halt at once -/

namespace Setup

variable {setup : Setup} {program : List Statement}

/-- Whether a program begins with a statement that the machine does not support. -/
def haltsAtOnce (setup : Setup) : List Statement → Bool
  | [] => false
  | s :: _ => !setup.supports s

theorem haltsAtOnce_iff :
    setup.haltsAtOnce program = true ↔ ∃ s, setup.FirstUnsupported program 0 s := by
  cases program with
  | nil => exact ⟨nofun, fun ⟨s, h⟩ => absurd h.get nofun⟩
  | cons s rest =>
    rw [haltsAtOnce, Bool.not_eq_true']
    constructor
    · intro hs
      exact ⟨s, rfl, hs, fun t ht => absurd ht List.not_mem_nil⟩
    · rintro ⟨t, hget, hunsupported, -⟩
      obtain rfl : s = t := Option.some.inj hget
      exact hunsupported

theorem ne_nil_of_haltsAtOnce (h : setup.haltsAtOnce program = true) : program ≠ [] := by
  rintro rfl
  cases h

/-- Nothing is executed before the first statement, so nothing can end in a fault there. -/
theorem exists_replay_before (setup : Setup) (program : List Statement) :
    ∃ signals, setup.replay program (-1) =
      .ok (.done (lastIndex program (-1)) (.initial setup.home) signals []) := by
  apply replay_eq_done_of_run
  rw [upTo_eq_take]
  rfl

/-- A program that begins with an unsupported statement halts before it, wherever the cursor is. -/
theorem exists_replay_eq_halted (h : setup.haltsAtOnce program = true) (place : Nat) :
    ∃ error, setup.replay program place = .ok (.halted (-1) error []) := by
  obtain ⟨s, hfirst⟩ := haltsAtOnce_iff.mp h
  obtain ⟨code, hcode, -⟩ := hfirst.exists_code
  obtain ⟨signals, hbefore⟩ := exists_replay_before setup program
  refine ⟨unsupported s code, ?_⟩
  rw [replay_of_firstUnsupported_le hfirst hcode (Int.natCast_nonneg place)]
  show (setup.replay program (-1)).map _ = _
  rw [hbefore]
  rfl

end Setup

namespace Controller

open Lathe.Action

variable {c d : Controller} {command : Command} {cursor low high : Int} {text : String}
  {program : List Statement}

/-! ## The memo that a refresh leaves -/

/-- The memo after the outcome at a cursor was asked for. -/
def consulted (cursor : Int) (c : Controller) : Memo :=
  let memo := c.memo.forRevision c.tools.revision
  match c.replayTo cursor with
  | .ok outcome =>
    if c.memoises = true ∧ cursor ∉ memo.cursors then memo.insert cursor outcome else memo
  | .error _ => memo

/-- The controller after the outcome at a cursor was asked for. -/
def asked (cursor : Int) (c : Controller) : Controller :=
  c.withMemo (c.consulted cursor) c.memoises

/-- The memo after a refresh: the outcome at the cursor is asked for, and after an alarm the one
before the statement that caused it. -/
def refreshedMemo (c : Controller) : Memo :=
  if c.mode = .alarm ∨ c.mode = .idle ∨ c.program = [] then c.memo
  else
    match c.replayTo c.cursor with
    | .ok (.halted index _ _) => (c.asked c.cursor).consulted index
    | _ => c.consulted c.cursor

/-- On a sound memo, asking for an outcome leaves a sound memo and changes nothing else. -/
theorem result_outcomeAt (h : c.MemoSound) (cursor : Int) :
    (outcomeAt cursor).result c = (c.replayTo cursor, c.asked cursor) ∧
      (c.asked cursor).MemoSound := by
  obtain ⟨memo, hresult, hsound⟩ := outcomeAt_yields h cursor
  suffices hmemo : ((outcomeAt cursor).result c).2.memo = c.consulted cursor by
    rw [hresult] at hmemo
    change memo = _ at hmemo
    rw [hmemo] at hresult hsound
    exact ⟨hresult, hsound⟩
  unfold outcomeAt consulted
  rw [result_change_bind, result_observe_bind]
  -- the cursor is looked up in the memo after that is brought up to date
  generalize c.memo.forRevision c.tools.revision = current
  have hafresh : ((if c.memoises then current.get? cursor else none) = none) ↔
      (c.memoises = true → cursor ∉ current.cursors) := by
    rw [← Memo.get?_eq_none_iff]
    cases c.memoises <;> simp
  cases hknown : if c.memoises then current.get? cursor else none with
  | some outcome =>
    have hkept : ¬(c.memoises = true ∧ cursor ∉ current.cursors) := by
      intro h
      rw [hafresh.mpr fun _ => h.2] at hknown
      cases hknown
    simp only [result_pure, if_neg hkept]
    cases c.replayTo cursor <;> rfl
  | none =>
    have hnew := hafresh.mp hknown
    rw [result_report_bind, result_observe_bind]
    show Controller.memo (result (ofExcept (c.replayTo cursor) >>= _) _).2 = _
    cases c.replayTo cursor with
    | error fault => rfl
    | ok outcome =>
      rw [result_bind_of_ok (result_ofExcept _ _), result_change_bind, result_pure]
      by_cases hmemoises : c.memoises = true
      · simp only [hmemoises, hnew hmemoises, not_false_eq_true, and_self, ↓reduceIte]
      · simp only [hmemoises, Bool.false_eq_true, false_and, ↓reduceIte]

/-- The memo after an alarm is raised. -/
theorem memo_raiseAlarm (h : c.MemoSound) (index : Int) (error : Finding) :
    ((raiseAlarm index error).result c).2.memo = c.consulted index := by
  have halarmed : { c with alarm := some error, mode := .alarm }.MemoSound :=
    h.congr rfl rfl rfl (.refl _)
  obtain ⟨hresult, -⟩ := result_outcomeAt halarmed index
  unfold raiseAlarm
  rw [result_change_bind, result_bind_of_ok (result_setMode _ _), result_report_bind]
  cases hreplay : c.replayTo index with
  | error fault =>
    rw [result_bind_of_error (hresult.trans (congrArg (·, _) hreplay))]
    rfl
  | ok outcome =>
    rw [result_bind_of_ok (hresult.trans (congrArg (·, _) hreplay))]
    cases outcome.machine? <;> rfl

/-- The memo after the machine at the cursor is displayed. -/
theorem memo_showCursor (h : c.MemoSound) :
    (showCursor.result c).2.memo =
      match c.replayTo c.cursor with
      | .ok (.halted index _ _) => (c.asked c.cursor).consulted index
      | _ => c.consulted c.cursor := by
  obtain ⟨hresult, hsound⟩ := result_outcomeAt h c.cursor
  unfold showCursor
  rw [result_observe_bind]
  cases hreplay : c.replayTo c.cursor with
  | error fault =>
    rw [result_bind_of_error (hresult.trans (congrArg (·, _) hreplay))]
    rfl
  | ok outcome =>
    rw [result_bind_of_ok (hresult.trans (congrArg (·, _) hreplay))]
    cases outcome with
    | halted index error warnings => exact memo_raiseAlarm hsound index error
    | done index m signals warnings =>
      rw [result_observe_bind]
      simp only [decide_eq_true_eq]
      rw [result_obeySignals_moveTo]
      rfl

/-- On a sound memo, a refresh does what `refreshed` says and leaves the memo that `refreshedMemo`
says. -/
theorem result_refresh (h : c.MemoSound) :
    refresh.result c = (c.refreshed.1, c.refreshed.2.withMemo c.refreshedMemo c.memoises) := by
  obtain ⟨memo, hresult, -⟩ := refresh_yields h
  suffices hmemo : (refresh.result c).2.memo = c.refreshedMemo by
    rw [hresult] at hmemo ⊢
    rw [← hmemo]
    rfl
  have hforget : (if c.rewound then c.forgetPrompt else c) = c.unprompted := by
    unfold unprompted
    split <;> rfl
  have hunprompted : c.unprompted.MemoSound := h.congr rfl rfl rfl (.refl _)
  unfold refresh refreshedMemo
  rw [result_observe_bind]
  by_cases halarm : c.mode = .alarm
  · simp [halarm]
  by_cases hidle : c.mode = .idle
  · simp [hidle, hforget]
    rfl
  by_cases hprogram : c.program = []
  · simp [halarm, hidle, hprogram, hforget]
    rfl
  · simp only [id, halarm, hidle, hprogram, ↓reduceIte, result_change_bind, hforget, or_self,
      List.isEmpty_iff]
    exact memo_showCursor hunprompted

/-- On a sound memo, an operation leaves the memo of the refresh that it ends with, if it does. -/
theorem memo_perform (h : c.MemoSound) (command : Command) :
    (perform command c).state.memo =
      match c.readied command with
      | some d => d.refreshedMemo
      | none => c.memo := by
  have hstate : (perform command c).state = ((perform command).result c).2 := rfl
  rw [hstate, perform_result]
  cases hready : c.readied command with
  | some d =>
    dsimp only
    rw [result_refresh ((readies_of_readied hready).memoSound h).2]
    rfl
  | none =>
    obtain ⟨hmemo, -⟩ := (leaves_unrefreshed hready).memoSound h
    dsimp only
    rw [hmemo]
    rfl

/-! ## The cursors that are asked for -/

/-- The first cursor that is asked for: that of the first statement, or the place before it if an
alarm there displays the machine before it. -/
def lowest (c : Controller) : Int :=
  if c.setup.haltsAtOnce c.program then -1 else 0

/-- The memo keeps outcomes for cursors that are asked for, and for each of them at most one. -/
def Compact (c : Controller) : Prop :=
  c.memo.Within c.lowest c.program.length

/-- Which statements are supported is a matter of the lathe, not of its tools. -/
theorem haltsAtOnce_setup_eq (hprofile : d.profile = c.profile) (program : List Statement) :
    d.setup.haltsAtOnce program = c.setup.haltsAtOnce program := by
  unfold setup
  rw [hprofile]
  rfl

theorem lowest_eq_of_eq (hprofile : d.profile = c.profile) (hprogram : d.program = c.program) :
    d.lowest = c.lowest := by
  unfold lowest
  rw [hprogram, haltsAtOnce_setup_eq hprofile]

theorem Compact.congr (h : c.Compact) (hmemo : d.memo = c.memo) (hprofile : d.profile = c.profile)
    (hprogram : d.program = c.program) : d.Compact := by
  unfold Compact
  rw [hmemo, hprogram, lowest_eq_of_eq hprofile hprogram]
  exact h

theorem Compact.length_le (h : c.Compact) :
    c.memo.outcomes.length ≤
      c.program.length + (if c.setup.haltsAtOnce c.program then 1 else 0) := by
  have hlength := Memo.Within.length_le h
  unfold lowest at hlength
  split at hlength <;> simp_all only [Bool.false_eq_true, ↓reduceIte] <;> omega

theorem within_consulted (h : c.memo.Within low high) (hcursor : low ≤ cursor ∧ cursor < high) :
    (c.consulted cursor).Within low high := by
  have hcurrent := h.forRevision c.tools.revision
  unfold consulted
  dsimp only
  split
  · split
    next hnew => exact hcurrent.insert hnew.2 hcursor
    next => exact hcurrent
  · exact hcurrent

/-- A refresh asks for cursors of the program only, or for the one before it if it halts at once. -/
theorem Compact.refreshedMemo (h : c.Compact) (hin : c.InProgram) :
    c.refreshedMemo.Within c.lowest c.program.length := by
  unfold Controller.refreshedMemo
  split
  · exact h
  next hshown =>
    have hlt : c.cursor < c.program.length := hin.lt_length fun hnil => hshown (.inr (.inr hnil))
    have hlowest : c.lowest ≤ 0 := by
      unfold lowest
      split <;> omega
    have hconsulted : (c.consulted c.cursor).Within c.lowest c.program.length :=
      within_consulted h (by omega)
    split
    next index error warnings hreplay =>
      obtain ⟨b, s, -, -, hfirst, hb, rfl, -⟩ := Setup.replay_eq_halted hreplay
      refine within_consulted (c := c.asked c.cursor) hconsulted ⟨?_, by omega⟩
      -- the place before the obstacle is that of a statement, unless the obstacle comes first
      cases b with
      | zero =>
        have honce : c.setup.haltsAtOnce c.program = true := Setup.haltsAtOnce_iff.mpr ⟨s, hfirst⟩
        unfold lowest
        rw [if_pos honce]
        omega
      | succ place => omega
    next => exact hconsulted

theorem Readies.compact (h : Readies c command d) (hc : c.Compact) : d.Compact := by
  cases h with
  | load => exact Memo.within_nil _ _ _
  | start | reset | finish | advance | seek | refresh | setManual => exact hc.congr rfl rfl rfl

theorem Leaves.compact (h : Leaves c command d) (hc : c.Compact) : d.Compact := by
  cases h with
  | unchanged => exact hc
  | unread | confirm | pause | setManual | setFeed | setMaterial => exact hc.congr rfl rfl rfl

/-- An operation keeps the memo within the cursors that are asked for, also when it ends in a
fault. -/
theorem Compact.perform (h : c.Compact) (hc : c.Coherent) (command : Command) :
    (perform command c).state.Compact := by
  have hmemo := memo_perform hc.memoSound command
  have hresult := perform_result command c
  cases hready : c.readied command with
  | some d =>
    have hreadies := readies_of_readied hready
    have hd := (hreadies.compact h).refreshedMemo (hreadies.inProgram hc.inProgram)
    obtain ⟨memo, memoises, -, hstate⟩ := perform_of_readied hc.memoSound hready
    -- the refresh keeps the program and the lathe, so the same cursors are asked for as before it
    obtain ⟨-, hprogram, hprofile⟩ := (refreshes_refreshed d).frame
    rw [hready] at hmemo
    unfold Compact
    rw [hmemo, hstate]
    show d.refreshedMemo.Within d.refreshed.2.lowest d.refreshed.2.program.length
    rw [lowest_eq_of_eq hprofile hprogram, hprogram]
    exact hd
  | none =>
    rw [hready] at hresult
    have hstate : (Controller.perform command c).state = (c.unrefreshed command).2 :=
      congrArg Prod.snd hresult
    have hleaves := leaves_unrefreshed hready
    rw [← hstate] at hleaves
    exact hleaves.compact h

/-- An operation changes neither the lathe nor whether outcomes are kept. -/
theorem perform_frame (h : c.MemoSound) (command : Command) :
    (perform command c).state.profile = c.profile ∧
      (perform command c).state.memoises = c.memoises := by
  constructor
  · rcases perform_cases h command with
      ⟨d, answer, e, memo, memoises, hready, hrefreshes, -, hstate⟩ | ⟨d, hleaves, hstate⟩
    · obtain ⟨-, -, hprofile⟩ := hrefreshes.frame
      rw [hstate]
      refine hprofile.trans ?_
      cases hready <;> rfl
    · rw [hstate]
      cases hleaves <;> rfl
  · -- whether outcomes are kept is not told by the ways in which an operation ends
    obtain ⟨memo, hresult, -⟩ := perform_yields h command
    exact congrArg (·.2.memoises) hresult

/-- After every run, the memo keeps to the cursors that are asked for. -/
theorem compact_after (profile : Profile) (tools : ToolTable) (commands : List Command) :
    let c := after perform (withTools profile tools) commands
    c.Compact ∧ c.Coherent ∧ c.profile = profile ∧ c.memoises = true := by
  refine invariant_after
    (P := fun c : Controller =>
      c.Compact ∧ c.Coherent ∧ c.profile = profile ∧ c.memoises = true)
    ?_ ?_ commands
  · rintro c command ⟨hcompact, hc, hprofile, hmemoises⟩
    obtain ⟨hlathe, hkeeps⟩ := perform_frame hc.memoSound command
    exact ⟨hcompact.perform hc command, hc.perform command, hlathe.trans hprofile,
      hkeeps.trans hmemoises⟩
  · exact ⟨Memo.within_nil _ _ _, coherent_withTools profile tools, rfl, rfl⟩

/-! ## Filling the memo -/

/-- The outcome at a cursor is kept, once it was asked for, and so are those kept before for the
tools as they are. -/
theorem mem_cursors_consulted (hmemoises : c.memoises = true) {outcome : Outcome}
    (hreplay : c.replayTo cursor = .ok outcome) {other : Int}
    (hother : other = cursor ∨ other ∈ (c.memo.forRevision c.tools.revision).cursors) :
    other ∈ (c.consulted cursor).cursors := by
  unfold consulted
  simp only [hreplay, hmemoises, true_and]
  split
  next => exact List.mem_cons.mpr hother
  next hkept =>
    rcases hother with rfl | hmem
    · exact Decidable.of_not_not hkept
    · exact hmem

theorem revision_consulted (cursor : Int) (c : Controller) :
    (c.consulted cursor).revision = c.tools.revision := by
  have hcurrent := c.memo.revision_forRevision c.tools.revision
  unfold consulted
  dsimp only
  split
  · split <;> exact hcurrent
  · exact hcurrent

/-- Let the machine be displayed at a place, and go back to the start after the alarm there. -/
def visit (place : Nat) : List Command :=
  [.pause, .seek place, .reset]

/-- A program that halts at once waits at its start, and for the tools as they are the memo keeps
the outcomes of the first `count` places, and of the one before them. -/
structure Filled (c : Controller) (program : List Statement) (count : Nat) : Prop where
  memoSound : c.MemoSound
  memoises : c.memoises = true
  program_eq : c.program = program
  mode_eq : c.mode = .idle
  haltsAtOnce : c.setup.haltsAtOnce program = true
  mem_places : ∀ place < count, (place : Int) ∈ (c.memo.forRevision c.tools.revision).cursors
  mem_before : 0 < count → -1 ∈ (c.memo.forRevision c.tools.revision).cursors

/-- A controller that is not at rest and comes to a place of a program that halts at once stops with
an alarm, and its memo keeps the outcomes at that place and before the first one. -/
theorem result_refresh_of_haltsAtOnce (hc : c.MemoSound) (hmode : c.mode = .paused)
    (honce : c.setup.haltsAtOnce c.program = true) :
    ∃ error m, (refresh.result c).2 =
      (c.unprompted.stopped error m).withMemo ((c.asked c.cursor).consulted (-1)) c.memoises := by
  obtain ⟨error, hreplay⟩ := Setup.exists_replay_eq_halted honce c.cursor
  have hprogram := Setup.ne_nil_of_haltsAtOnce honce
  replace hreplay : c.replayTo c.cursor = .ok (.halted (-1) error []) := hreplay
  refine ⟨error, c.machineTo (-1), ?_⟩
  rw [result_refresh hc]
  simp only [refreshed, refreshedMemo, hmode, hprogram, hreplay, reduceCtorEq, or_self, ↓reduceIte]

/-- The outcomes at a place and before the first one are kept, and so are those kept before for the
tools as they are. -/
theorem mem_cursors_of_haltsAtOnce (hmemoises : c.memoises = true)
    (honce : c.setup.haltsAtOnce c.program = true) (place : Nat) {other : Int}
    (hother : other = -1 ∨ other = place ∨
      other ∈ (c.memo.forRevision c.tools.revision).cursors) :
    other ∈ ((c.asked place).consulted (-1)).cursors := by
  obtain ⟨error, hat⟩ := Setup.exists_replay_eq_halted honce place
  obtain ⟨signals, hbefore⟩ := Setup.exists_replay_before c.setup c.program
  have hcurrent : (c.asked place).memo.forRevision (c.asked place).tools.revision =
      c.consulted place :=
    Memo.forRevision_of_revision_eq (revision_consulted place c)
  apply mem_cursors_consulted (c := c.asked place) hmemoises hbefore
  rw [hcurrent]
  exact hother.imp_right fun h => mem_cursors_consulted hmemoises hat h

/-- The controller when it is paused at a place. -/
def pausedAt (place : Nat) (c : Controller) : Controller :=
  { c with mode := .paused, cursor := place }

/-- A visit to a place is a reset after the alarm there. -/
theorem after_visit {place : Nat} (hmode : c.mode = .idle) (hplace : place < c.program.length) :
    after perform c (visit place) = (refresh.result (c.pausedAt place)).2.rewoundToStart.rest := by
  have hpause : (perform .pause c).state = { c with mode := .paused } := by
    show ((perform .pause).result c).2 = _
    rw [perform_result]
    simp only [readied, unrefreshed, hmode, reduceCtorEq, ↓reduceIte]
  have hseek : (perform (.seek place) { c with mode := .paused }).state =
      (refresh.result (c.pausedAt place)).2 := by
    -- the place is in the program, so the cursor is moved just there
    have hmoved : movedTo place { c with mode := .paused } = c.pausedAt place := by
      have hcursor : (min (place : Int) (c.program.length - 1 : Nat)).toNat = place := by omega
      unfold movedTo pausedAt
      simp only [hcursor]
    show ((perform (.seek place)).result { c with mode := .paused }).2 = _
    rw [perform_result]
    simp only [readied, reduceCtorEq, ↓reduceIte, hmoved]
  unfold visit after after after after
  rw [hpause, hseek, (perform_reset _).2]

/-- What a reset does not touch. -/
theorem reset_frame (c : Controller) :
    c.rewoundToStart.rest.setup = c.setup ∧ c.rewoundToStart.rest.tools = c.tools ∧
      c.rewoundToStart.rest.program = c.program ∧ c.rewoundToStart.rest.memo = c.memo ∧
      c.rewoundToStart.rest.memoises = c.memoises := by
  simp only [setup, rewoundToStart, rest, forgetPrompt, and_self]

/-- A visit to the next place adds its outcome. -/
theorem Filled.visit {count : Nat} (h : c.Filled program count) (hcount : count < program.length) :
    (after perform c (visit count)).Filled program (count + 1) := by
  obtain ⟨hsound, hmemoises, rfl, hmode, honce, hplaces, -⟩ := h
  have hpaused : (c.pausedAt count).MemoSound := hsound.congr rfl rfl rfl (.refl _)
  have hmem (other : Int) := @mem_cursors_of_haltsAtOnce (c.pausedAt count) hmemoises honce count
    other
  obtain ⟨error, m, hrefresh⟩ := result_refresh_of_haltsAtOnce hpaused rfl honce
  have hvisited := hsound.after (Controller.visit count)
  have hidle : (after perform c (Controller.visit count)).mode = .idle := by
    rw [after_visit hmode hcount]
    rfl
  -- of the controller after the reset, only what the reset did not touch matters
  obtain ⟨hsetup, htools, hprogram, hmemo, hkeeps⟩ :=
    reset_frame (refresh.result (c.pausedAt count)).2
  rw [← after_visit hmode hcount, hrefresh] at hsetup htools hprogram hmemo hkeeps
  have hrevision : (after perform c (Controller.visit count)).memo.revision =
      (after perform c (Controller.visit count)).tools.revision := by
    rw [hmemo, htools]
    exact revision_consulted (-1) _
  have hcurrent := Memo.forRevision_of_revision_eq hrevision
  refine ⟨hvisited, hkeeps.trans hmemoises, hprogram, hidle, hsetup ▸ honce, ?_, ?_⟩
  · intro place hplace
    rw [hcurrent, hmemo]
    rcases Nat.lt_succ_iff_lt_or_eq.mp hplace with hlt | rfl
    · exact hmem place (.inr (.inr (hplaces place hlt)))
    · exact hmem place (.inr (.inl rfl))
  · intro _
    rw [hcurrent, hmemo]
    exact hmem (-1) (.inl rfl)

/-- A program that halts at once, visited at all its places, fills the memo with one outcome more
than it has statements. -/
theorem length_lt_of_visits (hsound : c.MemoSound) (hmemoises : c.memoises = true)
    (hmode : c.mode = .idle) (honce : c.setup.haltsAtOnce c.program = true) :
    ∃ later, (after perform c later).program = c.program ∧
      c.program.length < (after perform c later).memo.outcomes.length := by
  have hfilled (count : Nat) (hcount : count ≤ c.program.length) :
      (after perform c ((List.range count).flatMap visit)).Filled c.program count := by
    induction count with
    | zero => exact ⟨hsound, hmemoises, rfl, hmode, honce, nofun, nofun⟩
    | succ count ih =>
      rw [List.range_succ, List.flatMap_append, List.flatMap_singleton, after_append]
      exact (ih (by omega)).visit hcount
  obtain ⟨-, -, hprogram, -, -, hplaces, hbefore⟩ := hfilled _ (Nat.le_refl _)
  refine ⟨_, hprogram, ?_⟩
  have hpos : 0 < c.program.length :=
    List.length_pos_iff.mpr (Setup.ne_nil_of_haltsAtOnce honce)
  generalize after perform c _ = d at hplaces hbefore ⊢
  -- the places from the one before the first statement on are one more than there are statements
  have hlength : ((c.program.length : Int) - -1).toNat ≤
      (d.memo.forRevision d.tools.revision).outcomes.length := by
    apply Memo.le_length
    intro cursor hlow hhigh
    by_cases hfirst : cursor = -1
    · rw [hfirst]
      exact hbefore hpos
    · have hcursor : ((cursor.toNat : Nat) : Int) = cursor := by omega
      rw [← hcursor]
      exact hplaces cursor.toNat (by omega)
  have hkept := d.memo.length_forRevision_le d.tools.revision
  omega

/-- After every run, the memo keeps at most one outcome for a cursor, and only for cursors in the
program and, if the first statement is not supported, for the one before it; so it keeps at most as
many outcomes as the program has statements, and in that case one more. Whatever was done before a
program is loaded, it can be run so that the memo keeps more outcomes than it has statements exactly
if its first statement is not supported. -/
theorem memo_bounded_unless_first_unsupported (profile : Profile) (tools : ToolTable)
    (commands : List Command) :
    let c := after perform (withTools profile tools) commands
    c.Compact ∧
    c.memo.outcomes.length ≤
      c.program.length + (if c.setup.haltsAtOnce c.program then 1 else 0) ∧
    ∀ text program, Program.parse text = .ok program →
      ((∀ later, (after perform c (.load text :: later)).program = program →
          (after perform c (.load text :: later)).memo.outcomes.length ≤ program.length) ↔
        c.setup.haltsAtOnce program = false) := by
  intro c
  obtain ⟨hcompact, hc, hprofile, hmemoises⟩ := compact_after profile tools commands
  refine ⟨hcompact, hcompact.length_le, ?_⟩
  intro text program hparse
  obtain ⟨-, hload⟩ := perform_load hparse c
  constructor
  · intro hbounded
    refine Bool.eq_false_iff.mpr fun honce => ?_
    -- if it halted at once, visits to all its places would break the bound
    have hsound := hc.memoSound.perform (.load text)
    rw [hload] at hsound
    obtain ⟨later, hprogram, hlt⟩ := length_lt_of_visits hsound hmemoises rfl honce
    have hle := hbounded later
    rw [after_load hparse] at hle
    exact absurd (hle hprogram) (Nat.not_le_of_lt hlt)
  · intro hsupported later hprogram
    -- the bound holds after the whole run, from the new controller on
    obtain ⟨hcompact', -, hprofile', -⟩ :=
      compact_after profile tools (commands ++ .load text :: later)
    rw [after_append] at hcompact' hprofile'
    have hle := hcompact'.length_le
    rw [haltsAtOnce_setup_eq (hprofile'.trans hprofile.symm), hprogram, hsupported] at hle
    exact hle

/-- A move and a statement that is not supported. -/
def unsupportedSecond : List Statement :=
  [{ supportedMove with line := 1 }, unsupportedMove]

/-- However a program is run whose alarm is at the second statement, the memo keeps at most one
outcome for each of its two statements. -/
theorem memo_bounded_unsupportedSecond :
    Program.parse "G0 X60\nG77 X60" = .ok unsupportedSecond ∧
      ∀ later, let c := after perform (new .lathe) (.load "G0 X60\nG77 X60" :: later)
        c.program = unsupportedSecond → c.memo.outcomes.length ≤ 2 := by
  have hparse : Program.parse "G0 X60\nG77 X60" = .ok unsupportedSecond :=
    parse_eq_ok_of_toOption (by decide +kernel)
  obtain ⟨-, -, hiff⟩ := memo_bounded_unless_first_unsupported .lathe Profile.lathe.toolTable []
  exact ⟨hparse, (hiff _ unsupportedSecond hparse).mpr (by decide +kernel)⟩

/-- A program of one statement, which is not supported: its alarm leaves two outcomes in the memo,
one at the statement and one before it. -/
theorem memo_overfull :
    let c := after perform (new .lathe) [.load "G77", .start]
    c.program.length = 1 ∧ c.memo.cursors = [-1, 0] := by
  decide +kernel

end Controller

end Lathe
