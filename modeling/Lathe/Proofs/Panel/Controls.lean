import Lathe.Proofs.Panel.Opening

/-!
# The controls and the controller

The operator sets the feed override and the material on the panel, and the controller goes by its
own copies of them. A control that is moved hands its new position on, and no operation of the
controller changes what it was given; but a change of the lathe brings a controller of its own,
which goes by the full feed and by steel, wherever the controls are.

* `Controller.settings_perform`: no other operation changes the feed override or the material;
* `Drives.agrees_iff`: an event breaks the agreement exactly if it changes the lathe while the
  controls are not where a new controller expects them;
* `controls_agree_iff`: so the controls agree with the controller all the time exactly if no such
  event was among them.
-/

namespace Lathe

/-! ## The settings of the controller -/

namespace Controller

variable {c d : Controller} {command : Command} {answer : Except Fault Unit}

/-- Whether an operation hands the controller a setting. -/
def adjusts : Command → Bool
  | .setFeed _ | .setMaterial _ => true
  | _ => false

theorem Readies.settings (h : Readies c command d) :
    d.feed = c.feed ∧ d.material = c.material := by
  cases h <;> exact ⟨rfl, rfl⟩

theorem Refreshes.settings (h : Refreshes c answer d) :
    d.feed = c.feed ∧ d.material = c.material := by
  cases h <;> exact ⟨rfl, rfl⟩

/-- An operation that hands over no setting keeps those that there are, also in a fault. -/
theorem settings_perform (hsound : c.MemoSound) (hcommand : adjusts command = false) :
    (perform command c).state.feed = c.feed ∧ (perform command c).state.material = c.material := by
  rcases perform_cases hsound command with
    ⟨d, _, e, memo, memoises, hready, hrefreshes, -, hstate⟩ | ⟨d, hleaves, hstate⟩
  · obtain ⟨hfeed, hmaterial⟩ := hready.settings
    obtain ⟨hfeed', hmaterial'⟩ := hrefreshes.settings
    rw [hstate]
    exact ⟨hfeed'.trans hfeed, hmaterial'.trans hmaterial⟩
  · rw [hstate]
    cases hleaves with
    | unchanged | unread | confirm | pause | setManual => exact ⟨rfl, rfl⟩
    | setFeed | setMaterial => cases hcommand

end Controller

/-! ## Agreement -/

namespace Panel

open Lathe.Action

variable {d e : Drive} {event : Event}

/-- The controller goes by the feed override and the material that the controls show. -/
def Drive.Agrees (d : Drive) : Prop :=
  d.controller.feed = d.controls.feed ∧ d.controller.material = d.controls.material

theorem Drive.Agrees.operated (h : d.Agrees) (hsound : d.controller.MemoSound)
    (command : Controller.Command) (hcommand : Controller.adjusts command = false) :
    (d.operated command).Agrees := by
  obtain ⟨hfeed, hmaterial⟩ := Controller.settings_perform hsound hcommand
  exact ⟨hfeed.trans h.1, hmaterial.trans h.2⟩

theorem Fires.agrees (h : Fires d e) (hsound : d.controller.MemoSound) (hd : d.Agrees) :
    e.Agrees := by
  have htick := hd.operated hsound .tick rfl
  cases h with
  | last | next => exact htick

/-- The position that a control is given is one that the controller takes as it is. -/
theorem feed_withFeed_clamp (c : Controller) (percent : Int) :
    (c.withFeed (clamp Controller.highestFeed percent)).feed =
      clamp Controller.highestFeed percent := by
  unfold Controller.withFeed clamp
  dsimp only
  omega

/-- As long as the lathe stays the same, so does the agreement. -/
theorem Drives.agrees (h : Drives d event e) (hsound : d.controller.MemoSound) (hd : d.Agrees)
    (hevent : d.switches event = false) : e.Agrees := by
  cases h with
  | keep | refuse => exact hd
  | start => exact hd.operated hsound .start rfl
  | pause => exact hd.operated hsound .pause rfl
  | reset => exact hd.operated hsound .reset rfl
  | confirm => exact hd.operated hsound .confirmToolChange rfl
  | manual manual => exact hd.operated hsound (.setManual manual) rfl
  | fire count hfires =>
    have hfired := invariant_of_fires (P := fun d => d.controller.MemoSound ∧ d.Agrees)
      (fun _ _ hfires hd => ⟨hfires.memoSound hd.1, hfires.agrees hd.1 hd.2⟩) hfires ⟨hsound, hd⟩
    exact hfired.2
  | load => exact hd
  | feed percent => exact ⟨feed_withFeed_clamp d.controller percent, hd.2⟩
  | material => exact ⟨hd.1, rfl⟩
  | switch hswitches =>
    rw [hswitches] at hevent
    cases hevent

/-- After a change of the lathe, the controls agree with a controller that was never adjusted. -/
theorem Drives.agrees_iff_of_switches (h : Drives d event e) (hevent : d.switches event = true) :
    e.Agrees ↔ d.controls.feed = 100 ∧ d.controls.material = .steel := by
  cases h with
  | keep hkeeps =>
    rw [hkeeps] at hevent
    cases hevent
  | switch =>
    -- the new controller is loaded with the text, which leaves its settings alone
    show 100 = d.controls.feed ∧ Material.steel = d.controls.material ↔ _
    rw [eq_comm, @eq_comm _ Material.steel]
  | load hload =>
    obtain rfl | ⟨path, rfl⟩ := hload
    all_goals cases hevent
  | manual manual hmanual =>
    obtain ⟨spindle, rfl⟩ | ⟨speed, rfl⟩ := hmanual
    all_goals cases hevent
  | refuse | start | pause | reset | confirm | fire | feed | material => cases hevent

/-- An event without a fault breaks the agreement exactly if it changes the lathe while the controls
are elsewhere than a new controller expects them. -/
theorem Drives.agrees_iff (h : Drives d event e) (hsound : d.controller.MemoSound) (hd : d.Agrees) :
    e.Agrees ↔
      (d.switches event = true → d.controls.feed = 100 ∧ d.controls.material = .steel) := by
  cases hevent : d.switches event with
  | true => simpa using h.agrees_iff_of_switches hevent
  | false => exact iff_of_true (h.agrees hsound hd hevent) nofun

/-- Controls that agree with the controller do so all the time exactly if the lathe is never changed
while they are elsewhere than a new controller expects them. -/
theorem agrees_iff_of_faultless {p : Panel} {events : List Event}
    (hsound : p.drive.controller.MemoSound) (hagrees : p.drive.Agrees)
    (h : Faultless perform p events) :
    (∀ q ∈ p :: (steps perform p events).map (·.after),
      q.controller.feed = q.controls.feed ∧ q.controller.material = q.controls.material) ↔
    ∀ step ∈ steps perform p events, step.before.drive.switches step.event = true →
      step.before.controls.feed = 100 ∧ step.before.controls.material = .steel := by
  rw [List.forall_mem_cons, List.forall_mem_map]
  refine (and_iff_right hagrees).trans ?_
  refine forall_after_iff_of_faultless (P := fun p => p.drive.Agrees)
    (I := fun p => p.drive.controller.MemoSound)
    (Q := fun p event => p.drive.switches event = true →
      p.controls.feed = 100 ∧ p.controls.material = .steel) ?_ hsound hagrees h
  intro q event hq hagrees hanswer
  have hdrives := drives_perform hanswer
  exact ⟨hdrives.memoSound hq, hdrives.agrees_iff hq hagrees⟩

theorem agrees_opened : opened.drive.Agrees := by
  rw [drive_opened]
  exact ⟨rfl, rfl⟩

theorem memoSound_opened : opened.drive.controller.MemoSound := by
  rw [drive_opened]
  exact memoSound_loaded (Controller.memoSound_withTools _ _) _ _

/-- Let anything happen to the panel after it was opened, in any order, and let nothing end in a
fault. The controller goes by the feed override and the material that the controls show, from the
opening on and after each event, exactly if the lathe was never changed while the feed was not at a
hundred percent or the material was not steel. -/
theorem controls_agree_iff (events : List Event) (h : Faultless perform opened events) :
    (∀ p ∈ opened :: (steps perform opened events).map (·.after),
      p.controller.feed = p.controls.feed ∧ p.controller.material = p.controls.material) ↔
    ∀ step ∈ steps perform opened events, step.before.drive.switches step.event = true →
      step.before.controls.feed = 100 ∧ step.before.controls.material = .steel :=
  agrees_iff_of_faultless memoSound_opened agrees_opened h

/-- The lathe is changed first, and then the controls are moved: they agree with the controller. -/
theorem controls_agree_after_adjustment :
    let events : List Event := [.edit "", .machine "lathe_g44", .feed 50, .material .aluminum]
    Faultless perform opened events ∧
      (after perform opened events).controls.feed = 50 ∧
      (after perform opened events).controls.material = .aluminum ∧
      ∀ p ∈ opened :: (steps perform opened events).map (·.after),
        p.controller.feed = p.controls.feed ∧ p.controller.material = p.controls.material := by
  intro events
  have hfaultless : Faultless perform opened events := by
    rw [opened_eq]
    decide +kernel
  have hshown : (after perform opened events).controls.feed = 50 ∧
      (after perform opened events).controls.material = .aluminum := by
    rw [opened_eq]
    decide +kernel
  refine ⟨hfaultless, hshown.1, hshown.2, (controls_agree_iff events hfaultless).mpr ?_⟩
  rw [opened_eq]
  decide +kernel

/-- The controls are moved first, and then the lathe is changed: the slider shows half the feed and
the material chosen is aluminum, and the controller goes by the full feed and by steel. -/
theorem controls_disagree_after_switch :
    let events : List Event := [.edit "", .feed 50, .material .aluminum, .machine "lathe_g44"]
    let p := after perform opened events
    Faultless perform opened events ∧ p.controls.feed = 50 ∧ p.controller.feed = 100 ∧
      p.controls.material = .aluminum ∧ p.controller.material = .steel := by
  rw [opened_eq]
  decide +kernel

end Panel

end Lathe
