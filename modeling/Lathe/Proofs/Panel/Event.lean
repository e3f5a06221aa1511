import Lathe.Panel.Event
import Lathe.Proofs.Controller.Completion
import Lathe.Proofs.History
import Mathlib.Logic.Relation

/-!
# What an event does to a run

Of all that the panel holds, a run goes by the controller, by whether the run timer is running, and
by the positions of the controls: its `Drive`. What the panel shows, says and marks makes no
difference to them.

* `Drives`: what an event can do to the drive, as a list of cases;
* `drives_perform`: an event without a fault does one of these;
* `Drives.memoSound`: whatever it does, the memo of the controller stays sound.
-/

namespace Lathe

/-! ## Operations of the controller -/

namespace Controller

open Lathe.Action

variable {α : Type} {c : Controller}

/-- An operation that answers leaves what `perform` leaves. -/
theorem ensures_of_perform {action : Action Controller α} {command : Command}
    {f : α → Option Bool} (h : perform command = action >>= fun a => pure (f a)) :
    action.Ensures c fun _ d => d = (perform command c).state := by
  intro a d hresult
  have hperform : (perform command).result c = (.ok (f a), d) := by
    rw [h, result_bind_of_ok hresult]
    rfl
  exact (congrArg Prod.snd hperform).symm

/-- Starting answers whether there was no alarm, and does nothing in one. -/
theorem ensures_start :
    start.Ensures c fun started d =>
      started = false ∧ c.mode = .alarm ∧ d = c ∨
      started = true ∧ c.mode ≠ .alarm ∧ d = (perform .start c).state := by
  intro started d hresult
  have hstate := ensures_of_perform (show perform .start = _ from rfl) started d hresult
  rw [result_start] at hresult
  split at hresult
  next halarm =>
    cases hresult
    exact .inl ⟨rfl, halarm, rfl⟩
  next hmode =>
    refine .inr ⟨?_, hmode, hstate⟩
    split at hresult
    next hpending =>
      rw [result_confirmToolChange, hpending] at hresult
      cases hresult
      rfl
    next =>
      split at hresult
      next =>
        obtain ⟨hanswer, -⟩ := Prod.mk.inj hresult
        obtain ⟨-, -, rfl⟩ := exists_of_map_eq_ok hanswer
        rfl
      next =>
        cases hresult
        rfl

/-- A text that is loaded without a fault has a program, and the machine is at rest with it. -/
theorem ensures_load (text : String) :
    (load text).Ensures c fun _ d =>
      ∃ program, Program.parse text = .ok program ∧ d = c.loaded text program := by
  intro _ d hresult
  rw [result_load] at hresult
  split at hresult
  next => cases hresult
  next program hparse =>
    rw [result_refresh_of_idle rfl] at hresult
    cases hresult
    exact ⟨program, hparse, rfl⟩

end Controller

namespace Panel

open Lathe.Action

/-! ## Drives -/

/-- What a run goes by. -/
structure Drive where
  /-- The controller. -/
  controller : Controller
  /-- Whether the run timer is running. -/
  ticking : Bool
  /-- The operator's controls. -/
  controls : Controls

/-- What a run goes by, of all that the panel holds. -/
def drive (panel : Panel) : Drive :=
  ⟨panel.controller, panel.runTimer.active, panel.controls⟩

/-- An operation of the controller. -/
def Drive.operated (command : Controller.Command) (d : Drive) : Drive :=
  { d with controller := (Controller.perform command d.controller).state }

/-- The controller has a program loaded, and the run timer is stopped. -/
def Drive.loaded (text : String) (program : List Statement) (d : Drive) : Drive :=
  { d with controller := d.controller.loaded text program, ticking := false }

/-- Whether an event changes over to another lathe. -/
def Drive.switches (d : Drive) : Event → Bool
  | .machine name => d.controls.machine != name
  | _ => false

/-- The run timer fires once: the controller ticks, and the timer goes on unless the run is over. -/
inductive Fires (d : Drive) : Drive → Prop
  | last (hticking : d.ticking = true)
      (hmode : (d.operated .tick).controller.mode = .idle ∨
        (d.operated .tick).controller.mode = .alarm) :
      Fires d { d.operated .tick with ticking := false }
  | next (hticking : d.ticking = true)
      (hmode : ¬((d.operated .tick).controller.mode = .idle ∨
        (d.operated .tick).controller.mode = .alarm)) : Fires d (d.operated .tick)

/-- What an event can do to the drive, one case for each way. -/
inductive Drives (d : Drive) : Event → Drive → Prop
  -- a control is moved to where it is, or only the text, the files or the displays are concerned
  | keep {event : Event} (hevent : d.switches event = false) : Drives d event d
  -- the buttons, and the run timer
  | refuse (halarm : d.controller.mode = .alarm) : Drives d .start d
  | start (hmode : d.controller.mode ≠ .alarm) :
      Drives d .start { d.operated .start with ticking := true }
  | pause : Drives d .pause (d.operated .pause)
  | reset : Drives d .reset { d.operated .reset with ticking := false }
  | confirm : Drives d .confirm (d.operated .confirmToolChange)
  | fire (count : Nat) {e : Drive} (hfires : Relation.ReflTransGen Fires d e) :
      Drives d (.runTimeouts count) e
  -- the text in the editor is looked at
  | load {event : Event} {text : String} {program : List Statement}
      (hevent : event = .syntaxTimeout ∨ ∃ path, event = .openFile path)
      (hparse : Program.parse text = .ok program) : Drives d event (d.loaded text program)
  -- a control is moved
  | feed (percent : Int) :
      Drives d (.feed percent)
        { d with
          controller := d.controller.withFeed (clamp Controller.highestFeed percent)
          controls := { d.controls with feed := clamp Controller.highestFeed percent } }
  | material (material : Material) :
      Drives d (.material material)
        { d.operated (.setMaterial material) with controls := { d.controls with material } }
  | manual {event : Event} {spindle : Spindle} {speed : Int} (manual : ManualSpindle)
      (hevent : (∃ s, event = .spindle s) ∨ ∃ n, event = .speed n) :
      Drives d event
        { d.operated (.setManual manual) with controls := { d.controls with spindle, speed } }
  -- the new controller has only its lathe and the text
  | switch {name text : String} {program : List Statement}
      (hevent : d.switches (.machine name) = true) (hparse : Program.parse text = .ok program) :
      Drives d (.machine name)
        { controller := (Controller.new (.preset name)).loaded text program
          ticking := false
          controls := { d.controls with machine := name } }

/-! ## Events -/

section Events

variable {p : Panel} {α : Type} {Q : α → Panel → Prop}

@[simp]
theorem ensures_onController (action : Action Controller α) :
    (onController action).Ensures p Q ↔
      action.Ensures p.controller fun a c => Q a { p with controller := c } :=
  ensures_onPart _ _ action

@[simp]
theorem ensures_onDryRun (action : Action DryRun α) :
    (onDryRun action).Ensures p Q ↔
      action.Ensures p.dryRun fun a run => Q a { p with dryRun := run } :=
  ensures_onPart _ _ action

theorem ensures_startTimer :
    startTimer.Ensures p fun _ q => q.drive = { p.drive with ticking := true } := by
  unfold startTimer
  simp only [ensures_bind, ensures_observe, ensures_ofExcept, ensures_change]
  intro interval _
  rfl

theorem ensures_adjustTimer : adjustTimer.Ensures p fun _ q => q.drive = p.drive := by
  unfold adjustTimer
  simp only [ensures_bind, ensures_observe, ensures_ofExcept, ensures_change]
  intro interval _
  rfl

/-- Looking at the text loads it and stops the run timer. -/
theorem ensures_checkText :
    checkText.Ensures p fun _ q =>
      ∃ program, Program.parse p.editor.text = .ok program ∧
        q.drive = p.drive.loaded p.editor.text program := by
  unfold checkText
  simp only [ensures_bind, ensures_observe, ensures_change, ensures_onDryRun, ensures_onController]
  -- what the dry run finds is shown, and that is all
  refine ensures_of_forall fun _ run => ensures_of_forall fun _ run' => ?_
  refine (Controller.ensures_load _).imp ?_
  rintro _ c ⟨program, hparse, rfl⟩
  exact ⟨program, hparse, rfl⟩

theorem ensures_start : start.Ensures p fun _ q => Drives p.drive .start q.drive := by
  unfold start
  simp only [ensures_bind, ensures_onController, ensures_ite, ensures_change]
  refine Controller.ensures_start.imp ?_
  -- the answer of the controller decides whether the timer is started
  rintro _ c (⟨rfl, halarm, rfl⟩ | ⟨rfl, hmode, rfl⟩)
  · exact ⟨fun hstarted => absurd hstarted Bool.false_ne_true, fun _ => .refuse halarm⟩
  · refine ⟨fun _ => ensures_startTimer.imp fun _ q hq => ?_, absurd rfl⟩
    change Drives p.drive .start q.drive
    rw [hq]
    exact .start hmode

theorem ensures_pause : pause.Ensures p fun _ q => Drives p.drive .pause q.drive := by
  unfold pause
  simp only [ensures_bind, ensures_onController, ensures_change]
  refine (Controller.ensures_of_perform (show Controller.perform .pause = _ from rfl)).imp ?_
  rintro _ c rfl
  exact .pause

theorem ensures_reset : reset.Ensures p fun _ q => Drives p.drive .reset q.drive := by
  unfold reset
  simp only [ensures_bind, ensures_onController, ensures_change]
  refine (Controller.ensures_of_perform (show Controller.perform .reset = _ from rfl)).imp ?_
  rintro _ c rfl
  exact .reset

theorem ensures_confirm : confirm.Ensures p fun _ q => Drives p.drive .confirm q.drive := by
  unfold confirm
  rw [ensures_bind, ensures_observe]
  cases hpending : p.controller.pending with
  | none => exact (ensures_change _).mpr (.keep rfl)
  | some request =>
    simp only [ensures_bind, ensures_onController, ensures_ite, ensures_change]
    refine (Controller.ensures_of_perform
      (show Controller.perform .confirmToolChange = _ from rfl)).imp ?_
    rintro _ c rfl
    exact ⟨fun _ => .confirm, fun _ => .confirm⟩

theorem ensures_tick (hticking : p.drive.ticking = true) :
    tick.Ensures p fun _ q => Fires p.drive q.drive := by
  unfold tick
  simp only [ensures_bind, ensures_onController, ensures_ite, ensures_change, ensures_observe,
    decide_eq_true_eq]
  refine (Controller.ensures_of_perform (show Controller.perform .tick = _ from rfl)).imp ?_
  rintro _ c rfl
  constructor
  · intro hmode
    exact .last hticking hmode
  · intro hmode
    refine ensures_adjustTimer.imp fun _ q hq => ?_
    change Fires p.drive q.drive
    rw [hq]
    exact .next hticking hmode

theorem ensures_runTimeouts (count : Nat) :
    (runTimeouts count).Ensures p fun _ q => Relation.ReflTransGen Fires p.drive q.drive := by
  induction count generalizing p with
  | zero => exact (ensures_pure ()).mpr .refl
  | succ n ih =>
    unfold runTimeouts runTimeout
    simp only [ensures_bind, ensures_ite, ensures_observe, ensures_pure]
    constructor
    · intro hticking
      refine (ensures_tick hticking).imp fun _ q hfires => ?_
      exact ih.imp fun _ r hrest => .head hfires hrest
    · intro _
      exact ih

theorem ensures_syntaxTimeout :
    syntaxTimeout.Ensures p fun _ q => Drives p.drive .syntaxTimeout q.drive := by
  unfold syntaxTimeout
  simp only [ensures_bind, ensures_change]
  refine ensures_checkText.imp ?_
  rintro _ q ⟨program, hparse, hq⟩
  rw [hq]
  exact .load (.inl rfl) hparse

theorem ensures_setFeed (percent : Int) :
    (setFeed percent).Ensures p fun _ q => Drives p.drive (.feed percent) q.drive := by
  unfold setFeed
  simp only [ensures_bind, ensures_onController, ensures_ite, ensures_change, ensures_observe,
    ensures_pure]
  refine ⟨fun _ => .keep rfl, fun _ => ⟨fun _ => ?_, fun _ => .feed percent⟩⟩
  refine ensures_adjustTimer.imp fun _ q hq => ?_
  rw [hq]
  exact .feed percent

theorem ensures_setMaterial (material : Material) :
    (setMaterial material).Ensures p fun _ q => Drives p.drive (.material material) q.drive := by
  unfold setMaterial Controller.setMaterial
  simp only [ensures_bind, ensures_onController, ensures_ite, ensures_change, ensures_observe,
    ensures_pure]
  exact ⟨fun _ => .keep rfl, fun _ => .material material⟩

/-- The controller is handed the spindle as it is set, and the controls stay as they are. -/
theorem ensures_applySpindle :
    applySpindle.Ensures p fun _ q =>
      ∃ manual, q.drive = p.drive.operated (.setManual manual) := by
  unfold applySpindle
  simp only [ensures_bind, ensures_onController, ensures_change, ensures_observe]
  refine (Controller.ensures_of_perform
    (show Controller.perform (.setManual _) = _ from rfl)).imp ?_
  rintro _ c rfl
  exact ⟨_, rfl⟩

theorem ensures_setSpindle (spindle : Spindle) :
    (setSpindle spindle).Ensures p fun _ q => Drives p.drive (.spindle spindle) q.drive := by
  unfold setSpindle
  simp only [ensures_bind, ensures_ite, ensures_change, ensures_observe, ensures_pure]
  refine ⟨fun _ => .keep rfl, fun _ => ensures_applySpindle.imp ?_⟩
  rintro _ q ⟨manual, hq⟩
  rw [hq]
  exact .manual manual (.inl ⟨spindle, rfl⟩)

theorem ensures_setSpeed (speed : Int) :
    (setSpeed speed).Ensures p fun _ q => Drives p.drive (.speed speed) q.drive := by
  unfold setSpeed
  simp only [ensures_bind, ensures_ite, ensures_change, ensures_observe, ensures_pure]
  refine ⟨fun _ => .keep rfl, fun _ => ensures_applySpindle.imp ?_⟩
  rintro _ q ⟨manual, hq⟩
  rw [hq]
  exact .manual manual (.inr ⟨speed, rfl⟩)

theorem ensures_setMachine (name : String) :
    (setMachine name).Ensures p fun _ q => Drives p.drive (.machine name) q.drive := by
  unfold setMachine
  simp only [ensures_bind, ensures_ite, ensures_change, ensures_observe, ensures_pure,
    ensures_report, decide_eq_true_eq]
  constructor
  · intro hsame
    exact .keep (bne_eq_false_iff_eq.mpr hsame)
  · intro hname
    refine ensures_checkText.imp ?_
    rintro _ q ⟨program, hparse, hq⟩
    rw [hq]
    exact .switch (bne_iff_ne.mpr hname) hparse

theorem ensures_lookUp (path : String) {find : Folder → α} :
    (lookUp path find).Ensures p fun _ q => q = p := by
  unfold lookUp
  simp only [ensures_bind, ensures_ite, ensures_observe, ensures_ofExcept]
  refine ⟨fun _ found hfault => ?_, fun _ => trivial⟩
  cases hfault

theorem ensures_openFile (path : String) :
    (openFile path).Ensures p fun _ q => Drives p.drive (.openFile path) q.drive := by
  unfold openFile
  simp only [ensures_ite, ensures_bind, ensures_pure]
  refine ⟨fun _ => .keep rfl, fun _ => (ensures_lookUp path).imp ?_⟩
  rintro found _ rfl
  cases found with
  | error problem => exact (ensures_change _).mpr (.keep rfl)
  | ok text =>
    simp only [ensures_bind, ensures_change]
    refine ensures_checkText.imp ?_
    rintro _ q ⟨program, hparse, hq⟩
    rw [hq]
    exact .load (.inr ⟨path, rfl⟩) hparse

theorem ensures_saveFile (path : String) :
    (saveFile path).Ensures p fun _ q => Drives p.drive (.saveFile path) q.drive := by
  unfold saveFile
  simp only [ensures_ite, ensures_bind, ensures_pure, ensures_observe]
  refine ⟨fun _ => .keep rfl, fun _ => (ensures_lookUp path).imp ?_⟩
  rintro saved _ rfl
  cases saved with
  | error problem => exact (ensures_change _).mpr (.keep rfl)
  | ok folder =>
    simp only [ensures_bind, ensures_change]
    exact .keep rfl

/-- An event without a fault drives the run in one of these ways. -/
theorem ensures_perform (event : Event) :
    (perform event).Ensures p fun _ q => Drives p.drive event q.drive := by
  cases event with
  | start => exact ensures_start
  | pause => exact ensures_pause
  | reset => exact ensures_reset
  | confirm => exact ensures_confirm
  | runTimeouts count => exact (ensures_runTimeouts count).imp fun _ _ => .fire count
  | syntaxTimeout => exact ensures_syntaxTimeout
  | edit text => exact (ensures_change _).mpr (.keep rfl)
  | select anchor cursor => exact (ensures_change _).mpr (.keep rfl)
  | feed percent => exact ensures_setFeed percent
  | material material => exact ensures_setMaterial material
  | spindle spindle => exact ensures_setSpindle spindle
  | speed speed => exact ensures_setSpeed speed
  | machine name => exact ensures_setMachine name
  | openFile path => exact ensures_openFile path
  | saveFile path => exact ensures_saveFile path

theorem drives_perform {event : Event} (h : (perform event p).answer.toBool = true) :
    Drives p.drive event (perform event p).state.drive :=
  (ensures_perform event).of_toBool h

end Events

/-! ## The memo of the controller -/

/-- What the run timer preserves when it fires once, it preserves however often it fires. -/
theorem invariant_of_fires {P : Drive → Prop} (hstep : ∀ d e, Fires d e → P d → P e) {d e : Drive}
    (h : Relation.ReflTransGen Fires d e) (hd : P d) : P e := by
  induction h with
  | refl => exact hd
  | tail _ hlast ih => exact hstep _ _ hlast ih

theorem memoSound_loaded {c : Controller} (h : c.MemoSound) (text : String)
    (program : List Statement) : (c.loaded text program).MemoSound :=
  .of_outcomes_eq_nil h.revision_le rfl

theorem Fires.memoSound {d e : Drive} (h : Fires d e) (hd : d.controller.MemoSound) :
    e.controller.MemoSound := by
  cases h with
  | last | next => exact hd.perform .tick

/-- An event without a fault keeps the memo of the controller sound. -/
theorem Drives.memoSound {d e : Drive} {event : Event} (h : Drives d event e)
    (hd : d.controller.MemoSound) : e.controller.MemoSound := by
  cases h with
  | keep | refuse => exact hd
  | start | pause | reset | confirm | material | manual => exact hd.perform _
  | fire count hfires => exact invariant_of_fires (fun _ _ => Fires.memoSound) hfires hd
  | load => exact memoSound_loaded hd _ _
  | switch => exact memoSound_loaded (Controller.memoSound_withTools _ _) _ _
  | feed percent => exact hd.congr rfl rfl rfl (.refl _)

end Panel

end Lathe
