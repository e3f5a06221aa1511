import Lathe.Proofs.Controller.Charge
import Lathe.Proofs.Controller.Display
import Lathe.Proofs.Controller.Failure

/-!
# Refreshing what is displayed already

A refresh that finds the display up to date shows the same again. That it costs no wear either rests
on two things, and there are exceptions to both. The machine stands still, and the meter has to see
that it does; it does not where the position is not made of numbers. And the statement at the cursor
is obeyed again: a tool change is asked for only once, but an `M100` resets the wear every time,
also the wear of the move that it has made itself.

* `Refreshes.again`: what a second refresh does;
* `refresh_settles`: when two refreshes are as good as one, and when one is as good as none, after
  every run without a fault;
* `refresh_repeats_charge`: a standstill that is charged, and a reset that is obeyed twice.
-/

namespace Lathe

theorem Machine.isCutting_idle (home : Point Float) (manual : ManualSpindle) :
    (Machine.idle home manual).isCutting = false := by
  simp [isCutting, idle]

namespace Controller

open Lathe.Action

variable {c d : Controller} {command : Command} {commands : List Command} {fault : Fault}
  {answer : Except Fault Unit} {index : Int} {m : Machine} {signals : List Signal}
  {warnings : List Finding}

/-- Two controllers show the same to the operator, the wear aside. -/
structure SameDisplay (c d : Controller) : Prop where
  mode_eq : d.mode = c.mode
  cursor_eq : d.cursor = c.cursor
  alarm_eq : d.alarm = c.alarm
  pending_eq : d.pending = c.pending
  prompted_eq : d.prompted = c.prompted
  machine_eq : d.machine = c.machine

theorem SameDisplay.refl (c : Controller) : c.SameDisplay c :=
  ⟨rfl, rfl, rfl, rfl, rfl, rfl⟩

/-- The tool is charged although the machine stays where it is. -/
def ChargedAtRest (c : Controller) : Prop :=
  c.mode ≠ .alarm ∧ c.account.charges c.machine.position c.machine = true

/-- A refresh obeys an `M100`. -/
def ResetsWear (c : Controller) : Prop :=
  c.mode = .running ∧ ∃ s, c.statement? = some s ∧ s.isM 100 = true

/-- Nothing is gathered, and the active tool, if there is one, is as good as new. -/
def Unworn (c : Controller) : Prop :=
  c.meter.pending = 0.0 ∧ ∀ wear, c.tools.wear c.machine.tool = some wear → wear = 0.0

theorem not_chargedAtRest_of_showsRest (h : c.ShowsRest) : ¬c.ChargedAtRest := by
  rintro ⟨-, hcharges⟩
  obtain ⟨manual, hmachine⟩ := h
  rw [WearAccount.charges_eq, hmachine, Machine.isCutting_idle] at hcharges
  cases hcharges

/-! ## Where a move is counted from -/

/-- The next move is counted from the machine on display. -/
def Anchored (c : Controller) : Prop :=
  c.previous = c.machine.position

theorem Refreshes.anchored (h : Refreshes c answer d) (hc : c.Anchored) : d.Anchored := by
  cases h with
  | alarmed | blank | faulty => exact hc
  | resting | halted | done => rfl

/-- What a controller displays, and counts moves from, is up to date. -/
structure UpToDate (c : Controller) : Prop extends c.InOrder, c.Displays where
  anchored : c.Anchored

theorem UpToDate.perform (hc : c.UpToDate) (hanswer : (perform command c).answer.toBool = true) :
    (perform command c).state.UpToDate := by
  refine ⟨hc.toInOrder.perform command, hc.toDisplays.perform hc.memoSound hanswer, ?_⟩
  rcases perform_cases hc.memoSound command with
    ⟨d, _, e, memo, memoises, hready, hrefreshes, -, hstate⟩ | ⟨d, hleaves, hstate⟩
  · have hd : d.Anchored := by cases hready <;> exact hc.anchored
    rw [hstate]
    exact hrefreshes.anchored hd
  · rw [hstate]
    cases hleaves <;> exact hc.anchored

theorem upToDate_after (profile : Profile) (tools : ToolTable)
    (hrun : Faultless perform (withTools profile tools) commands) :
    (after perform (withTools profile tools) commands).UpToDate := by
  refine invariant_of_faultless (fun _ _ hc hanswer => hc.perform hanswer) ?_ hrun
  exact ⟨inOrder_withTools profile tools, ⟨⟨rfl, rfl, rfl⟩, fun _ => ⟨rfl, _, rfl⟩⟩, rfl⟩

/-- The replay that has led to the machine on display. -/
theorem ShowsCursor.machine_eq (h : c.ShowsCursor)
    (hreplay : c.replayTo c.cursor = .ok (.done index m signals warnings)) : c.machine = m := by
  obtain ⟨outcome, hok, hmachine⟩ := h
  cases hok.symm.trans hreplay
  exact (Option.some.inj hmachine).symm

/-! ## The second refresh -/

theorem refreshed_of_alarm (h : c.mode = .alarm) : c.refreshed = (.ok (), c) :=
  if_pos h

theorem refreshed_of_blank (hmode : c.mode = .running ∨ c.mode = .paused)
    (hprogram : c.program = []) : c.refreshed = (.ok (), c.unprompted) := by
  unfold refreshed
  rcases hmode with hmode | hmode <;> simp [hmode, hprogram]

theorem refreshed_of_done (hmode : c.mode = .running ∨ c.mode = .paused)
    (hprogram : c.program ≠ [])
    (hreplay : c.replayTo c.cursor = .ok (.done index m signals warnings)) :
    c.refreshed = (.ok (), c.unprompted.advanced (.done index m signals warnings) m) := by
  unfold refreshed
  rcases hmode with hmode | hmode <;> simp [hmode, hprogram, hreplay]

/-- After an outcome was displayed, it does not ask for a tool change again. -/
theorem request?_advanced (outcome : Outcome) (m : Machine) (c : Controller) :
    (c.advanced outcome m).request? outcome = none := by
  cases hrequest : c.request? outcome with
  | none =>
    obtain ⟨hmode, -, hprompted⟩ := books_advanced_of_none (m := m) hrequest
    rw [← hrequest, request?, request?, hmode, hprompted]
    rfl
  | some request =>
    obtain ⟨hmode, -, -⟩ := books_advanced_of_some (m := m) hrequest
    rw [request?, hmode]
    rfl

theorem mode_advanced_of_running {outcome : Outcome}
    (h : (c.advanced outcome m).mode = .running) : c.mode = .running := by
  change (if (c.request? outcome).isSome then RunMode.paused else c.mode) = .running at h
  split at h
  · cases h
  · exact h

/-- Displaying an outcome again shows the same, and makes no difference to the wear unless the
machine is charged for standing still. -/
theorem advanced_again (hc : c.UpToDate) (hmode : c.mode = .running ∨ c.mode = .paused)
    (hprogram : c.program ≠ [])
    (hreplay : c.replayTo c.cursor = .ok (.done index m signals warnings)) :
    let d := c.advanced (.done index m signals warnings) m
    let e := d.advanced (.done index m signals warnings) m
    d.refreshed = (.ok (), e) ∧ d.SameDisplay e ∧
      (d.account.Same e.account ↔ ¬d.ChargedAtRest) := by
  intro d e
  have hrefreshes : Refreshes c (.ok ()) d := by
    have hdone := Refreshes.done hmode hprogram hreplay
    rwa [unprompted_eq_self hc.rewound_eq_false] at hdone
  have hreplay' : d.replayTo d.cursor = .ok (.done index m signals warnings) :=
    (hrefreshes.replayTo_eq c.cursor).trans hreplay
  have hmode' : d.mode = .running ∨ d.mode = .paused := by
    show (if (c.request? _).isSome then RunMode.paused else c.mode) = _ ∨
      (if (c.request? _).isSome then RunMode.paused else c.mode) = _
    split
    · exact .inr rfl
    · exact hmode
  have halarm : d.mode ≠ .alarm := by
    intro halarm
    simp [halarm] at hmode'
  obtain ⟨hemode, hepending, heprompted⟩ :=
    books_advanced_of_none (m := m) (request?_advanced (.done index m signals warnings) m c)
  refine ⟨?_, ⟨hemode, rfl, rfl, hepending, heprompted, rfl⟩, ?_⟩
  · have hrewound : d.rewound = false :=
      hrefreshes.rewound_eq_false fun _ => hc.rewound_eq_false
    have hrefreshed := refreshed_of_done hmode' hprogram hreplay'
    rwa [unprompted_eq_self hrewound] at hrefreshed
  · obtain ⟨s, hs⟩ : ∃ s, c.program[c.cursor]? = some s :=
      ⟨_, List.getElem?_eq_getElem (hc.inProgram.lt_length hprogram)⟩
    have haccount : e.account = (if d.mode = .running ∧ s.isM 100 then d.account.renew m.tool
        else d.account).charge m.position m c.material := account_advanced (c := d) hs hreplay'
    by_cases hrenews : d.mode = .running ∧ s.isM 100 = true
    · -- a run that goes on displays the machine at the cursor, so the first refresh did not move it
      have hrunning : c.mode = .running := mode_advanced_of_running hrenews.1
      have hshows : c.ShowsCursor := hc.showsCursor_of_running hrunning hprogram
      have hprevious : c.previous = m.position := by
        rw [hc.anchored, hshows.machine_eq hreplay]
      have hfirst : d.account = (c.account.renew m.tool).charge m.position m c.material := by
        have hfirst := account_advanced hs hreplay
        rwa [if_pos ⟨hrunning, hrenews.2⟩, hprevious] at hfirst
      have hsame := WearAccount.same_renew_charge_position c.account m c.material
      have hrest := WearAccount.charges_charge_position (c.account.renew m.tool) m c.material
      rw [if_pos hrenews] at haccount
      rw [← hfirst] at hsame hrest
      rw [haccount]
      refine iff_of_true hsame ?_
      rintro ⟨-, hcharges⟩
      exact absurd (hrest.symm.trans hcharges) nofun
    · rw [if_neg hrenews] at haccount
      rw [haccount, WearAccount.same_charge_position_iff, ChargedAtRest, Bool.eq_false_iff]
      exact not_congr ⟨fun h => ⟨halarm, h⟩, fun h => h.2⟩

/-- A second refresh ends as the first one did, and shows the same. -/
theorem Refreshes.again (h : Refreshes c answer d) (hc : c.UpToDate) :
    ∃ e, d.refreshed = (answer, e) ∧ d.SameDisplay e ∧
      (d.account.Same e.account ↔ ¬d.ChargedAtRest) := by
  have hself : c.unprompted = c := unprompted_eq_self hc.rewound_eq_false
  cases h with
  | alarmed hmode =>
    exact ⟨c, refreshed_of_alarm hmode, .refl c, iff_of_true (.refl _) fun h => h.1 hmode⟩
  | resting hmode =>
    refine ⟨c.rest, refreshed_of_idle hmode, .refl _, iff_of_true (.refl _) ?_⟩
    exact not_chargedAtRest_of_showsRest ⟨c.manual, rfl⟩
  | blank hmode hprogram =>
    rw [hself]
    have hrefreshed := refreshed_of_blank hmode hprogram
    rw [hself] at hrefreshed
    exact ⟨c, hrefreshed, .refl c,
      iff_of_true (.refl _) (not_chargedAtRest_of_showsRest (hc.blank hprogram).2)⟩
  | faulty hmode hprogram hreplay =>
    rw [hself]
    have hrefreshed := refreshed_of_replayTo_eq_error hmode hreplay
    rw [hself] at hrefreshed
    -- the replay does not get to the cursor, so the machine at rest is still on display
    have hshows : ¬c.ShowsCursor := by
      rintro ⟨outcome, hok, -⟩
      cases hok.symm.trans hreplay
    have hrest : c.ShowsRest := by
      have hdisplays := hc.displaysIn
      rcases hmode with hmode | hmode <;> rw [hmode] at hdisplays
      · exact absurd (hdisplays hprogram) hshows
      · exact (hdisplays.resolve_left hshows).2
    exact ⟨c, hrefreshed, .refl c, iff_of_true (.refl _) (not_chargedAtRest_of_showsRest hrest)⟩
  | halted =>
    exact ⟨_, refreshed_of_alarm rfl, .refl _, iff_of_true (.refl _) fun h => h.1 rfl⟩
  | done hmode hprogram hreplay =>
    rw [hself]
    exact ⟨_, advanced_again hc hmode hprogram hreplay⟩

/-! ## The first refresh -/

/-- Where the display is up to date and its position made of numbers, a refresh makes a difference
to the wear only by an `M100` at the cursor. -/
theorem same_account_refreshed_iff (hc : c.UpToDate) (hmode : c.mode = .running ∨ c.mode = .paused)
    (hshows : c.ShowsCursor) (hfinite : c.machine.position.isFinite = true) :
    c.account.Same c.refreshed.2.account ↔ (c.ResetsWear → c.Unworn) := by
  have hself : c.unprompted = c := unprompted_eq_self hc.rewound_eq_false
  by_cases hprogram : c.program = []
  · rw [refreshed_of_blank hmode hprogram, hself]
    refine iff_of_true (.refl _) ?_
    rintro ⟨-, s, hs, -⟩
    rw [statement?, hprogram] at hs
    cases hs
  · obtain ⟨s, hs⟩ : ∃ s, c.program[c.cursor]? = some s :=
      ⟨_, List.getElem?_eq_getElem (hc.inProgram.lt_length hprogram)⟩
    obtain ⟨outcome, hok, hmachine⟩ := hshows
    cases outcome with
    | halted => cases hmachine
    | done index m signals warnings =>
      obtain rfl : m = c.machine := Option.some.inj hmachine
      have hresets : c.ResetsWear ↔ c.mode = .running ∧ s.isM 100 = true := by
        unfold ResetsWear statement?
        simp [hs]
      rw [refreshed_of_done hmode hprogram hok, hself, account_advanced hs hok, hc.anchored,
        WearAccount.charge_of_charges_eq_false
          (WearAccount.charges_position_of_isFinite _ hfinite), hresets]
      split
      next hrenews =>
        rw [WearAccount.same_renew_iff]
        exact ⟨fun hunworn _ => hunworn, fun h => h hrenews⟩
      next hrenews => exact iff_of_true (.refl _) fun h => absurd h hrenews

/-- After every run without a fault, a second refresh answers as the first one did and shows the
same. It makes no difference to the wear exactly if the machine is not charged for standing still,
which never happens where the position is made of numbers. There, moreover, already the first
refresh makes no difference to the wear if the display was up to date before, unless it obeys an
`M100` and there is wear to be reset. -/
theorem refresh_settles (profile : Profile) (tools : ToolTable)
    (hrun : Faultless perform (withTools profile tools) commands) :
    let c := after perform (withTools profile tools) commands
    let once := (perform .refresh c).state
    let twice := (perform .refresh once).state
    ((perform .refresh once).answer = (perform .refresh c).answer ∧ once.SameDisplay twice) ∧
    (once.account.Same twice.account ↔ ¬once.ChargedAtRest) ∧
    (once.machine.position.isFinite = true → ¬once.ChargedAtRest) ∧
    (c.mode = .running ∨ c.mode = .paused → c.ShowsCursor → c.machine.position.isFinite = true →
      (c.account.Same once.account ↔ (c.ResetsWear → c.Unworn))) := by
  intro c once twice
  have hc : c.UpToDate := upToDate_after profile tools hrun
  have honce : once.MemoSound := hc.memoSound.perform .refresh
  have hready (c : Controller) : c.readied .refresh = some c := rfl
  obtain ⟨memo, memoises, hanswer, hstate⟩ := perform_of_readied hc.memoSound (hready c)
  obtain ⟨memo', memoises', hanswer', hstate'⟩ := perform_of_readied honce (hready once)
  obtain ⟨e, hrefreshed, hdisplay, hwear⟩ := (refreshes_refreshed c).again hc
  change once = c.refreshed.2.withMemo memo memoises at hstate
  change twice = once.refreshed.2.withMemo memo' memoises' at hstate'
  -- the memo makes no difference to the second refresh
  have hagain : once.refreshed = (c.refreshed.1, e.withMemo memo memoises) := by
    rw [hstate, refreshed_withMemo, hrefreshed]
  rw [hagain] at hanswer' hstate'
  refine ⟨⟨hanswer'.trans hanswer.symm, ?_⟩, ?_, ?_, ?_⟩
  · rw [hstate, hstate']
    exact ⟨hdisplay.mode_eq, hdisplay.cursor_eq, hdisplay.alarm_eq, hdisplay.pending_eq,
      hdisplay.prompted_eq, hdisplay.machine_eq⟩
  · rw [hstate, hstate']
    exact hwear
  · rintro hfinite ⟨-, hcharges⟩
    rw [WearAccount.charges_position_of_isFinite _ hfinite] at hcharges
    cases hcharges
  · intro hmode hshows hfinite
    rw [hstate]
    exact same_account_refreshed_iff hc hmode hshows hfinite

/-! ## Refreshes that make a difference -/

/-- A run up to a reset with a move of its own. -/
def runToReset : List Command :=
  [.load resetBetweenCuts, .start, .confirmToolChange, .tick, .tick, .tick]

/-- The machine after that move, as it is computed without reading the program again. -/
theorem after_runToReset (profile : Profile) :
    after perform (Controller.new profile) runToReset =
      after perform ((Controller.new profile).loaded resetBetweenCuts resetProgram)
        [.start, .confirmToolChange, .tick, .tick, .tick] :=
  after_load parse_resetBetweenCuts _ _

theorem faultless_runToReset : Faultless perform (Controller.new .lathe) runToReset := by
  rw [runToReset, faultless_load_iff parse_resetBetweenCuts]
  decide +kernel

/-- Refreshing at the reset erases the wear of its move, and refreshing again changes nothing. -/
theorem refresh_settles_at_reset :
    let c := after perform (withTools .lathe Profile.lathe.toolTable) runToReset
    let once := (perform .refresh c).state
    let twice := (perform .refresh once).state
    Faultless perform (withTools .lathe Profile.lathe.toolTable) runToReset ∧
      once.SameDisplay twice ∧ once.account.Same twice.account ∧ c.ResetsWear ∧
      ¬c.account.Same once.account := by
  obtain ⟨⟨-, hdisplay⟩, hagain, hfinite, hfirst⟩ :=
    refresh_settles .lathe Profile.lathe.toolTable faultless_runToReset
  have hc := upToDate_after .lathe Profile.lathe.toolTable faultless_runToReset
  have hfacts : let c := after perform (Controller.new .lathe) runToReset
      c.mode = .running ∧ c.cursor = 3 ∧ c.program = resetProgram ∧ c.tools.wear 1 = some 2.0 ∧
        c.machine.tool = 1 ∧ c.machine.position.isFinite = true ∧
        (perform .refresh c).state.machine.position.isFinite = true := by
    rw [after_runToReset]
    decide +kernel
  rw [Controller.new] at hfacts
  generalize after perform (withTools .lathe Profile.lathe.toolTable) runToReset = c
    at hc hdisplay hagain hfinite hfirst hfacts ⊢
  obtain ⟨hmode, hcursor, hprogram, hwear, htool, hposition, hposition'⟩ := hfacts
  have hresets : c.ResetsWear := by
    refine ⟨hmode, ?_⟩
    rw [statement?, hprogram, hcursor]
    exact ⟨_, rfl, rfl⟩
  have hshows : c.ShowsCursor :=
    hc.showsCursor_of_running hmode (hprogram ▸ List.cons_ne_nil _ _)
  refine ⟨faultless_runToReset, hdisplay, hagain.mpr (hfinite hposition'), hresets, ?_⟩
  rw [hfirst (.inl hmode) hshows hposition]
  intro hunworn
  have hzero : (2.0 : Float) = 0.0 := (hunworn hresets).2 2.0 (htool ▸ hwear)
  exact absurd hzero (by decide +kernel)

/-- A lathe on which wear is gathered and never written. -/
def gatheringLathe : Profile := { Profile.lathe with wearThreshold := 1.0 / 0.0 }

def endlessCutText : String := String.ofList ("M3\nG1 X40 Z-".toList ++ endlessDigits)

/-- The second statement cuts without an end. -/
def endlessCut : List Statement := [
  { kind := .miscellaneous, code := some (.whole 3), params := [], line := 1, raw := "M3",
    codeText := "3" },
  { kind := .preparatory, code := some (.whole 1), params := [('X', 40.0), ('Z', -1.0 / 0.0)],
    line := 2, raw := String.ofList ("G1 X40 Z-".toList ++ endlessDigits), codeText := "1" }]

theorem parse_endlessCutText : Program.parse endlessCutText = .ok endlessCut := by
  apply parse_eq_ok_of_toOption
  unfold endlessCutText
  rw [parse_ofList]
  decide +kernel

/-- Two refreshes can differ from one, and one from none. A first refresh at a cut without an end
gathers an endless amount of wear; a second one takes the standstill for a move, and writes the tool
off. And a refresh at a reset erases the wear of the move that the reset has made. -/
theorem refresh_repeats_charge :
    (let c := after perform (Controller.new gatheringLathe) [.load endlessCutText, .seek 1, .pause]
     let once := (perform .refresh c).state
     let twice := (perform .refresh once).state
     Faultless perform (Controller.new gatheringLathe) [.load endlessCutText, .seek 1, .pause] ∧
       (perform .refresh c).answer.toBool = true ∧ (perform .refresh once).answer.toBool = true ∧
       once.meter.pending = 1.0 / 0.0 ∧ once.tools.wear 1 = some 0.0 ∧
       twice.meter.pending = 0.0 ∧ twice.tools.wear 1 = some 100.0) ∧
    (let c := after perform (Controller.new .lathe) runToReset
     Faultless perform (Controller.new .lathe) runToReset ∧ c.tools.wear 1 = some 2.0 ∧
       (perform .refresh c).state.tools.wear 1 = some 0.0) := by
  constructor
  · rw [after_load parse_endlessCutText, faultless_load_iff parse_endlessCutText]
    decide +kernel
  · rw [after_runToReset]
    exact ⟨faultless_runToReset, by decide +kernel⟩

end Controller

end Lathe
