import Lathe.Proofs.Action

/-!
# Histories

A history is a list of events, each of which is met by an action. `Action.after` is the state at its
end, and `Action.steps` lists its events with what each of them found and brought about. An action
that ends in a fault does not end the history; a history without such actions is `Action.Faultless`.

* `after_append`, `steps_append`, `faultless_append`: a history after another one;
* `invariant_after`: what every action preserves holds after every history;
* `invariant_of_faultless`: what every action without a fault preserves holds after every history
  without a fault;
* `forall_after_iff_of_faultless`: a property that an event may break holds all the time exactly if
  no event breaks it.
-/

namespace Lathe.Action

variable {σ ε α : Type} {perform : ε → Action σ α} {s : σ} {event : ε} {events : List ε}
  {P : σ → Prop}

/-- An event of a history, with the state that it found, the answer to it and the state after it. -/
structure Step (σ ε α : Type) where
  before : σ
  event : ε
  answer : Except Fault α
  after : σ

/-- The state after a history. -/
def after (perform : ε → Action σ α) (s : σ) : List ε → σ
  | [] => s
  | event :: rest => after perform (perform event s).state rest

/-- The events of a history, one after the other. -/
def steps (perform : ε → Action σ α) (s : σ) : List ε → List (Step σ ε α)
  | [] => []
  | event :: rest =>
    ⟨s, event, (perform event s).answer, (perform event s).state⟩ ::
      steps perform (perform event s).state rest

/-- No action of a history ends in a fault. -/
def Faultless (perform : ε → Action σ α) (s : σ) (events : List ε) : Prop :=
  ∀ step ∈ steps perform s events, step.answer.toBool = true

instance (perform : ε → Action σ α) (s : σ) (events : List ε) :
    Decidable (Faultless perform s events) :=
  inferInstanceAs (Decidable (∀ step ∈ steps perform s events, step.answer.toBool = true))

theorem faultless_cons :
    Faultless perform s (event :: events) ↔
      (perform event s).answer.toBool = true ∧
        Faultless perform (perform event s).state events := by
  unfold Faultless
  rw [steps, List.forall_mem_cons]

theorem faultless_nil (perform : ε → Action σ α) (s : σ) : Faultless perform s [] :=
  fun _ hstep => absurd hstep List.not_mem_nil

theorem after_append (perform : ε → Action σ α) (s : σ) (first second : List ε) :
    after perform s (first ++ second) = after perform (after perform s first) second := by
  induction first generalizing s with
  | nil => rfl
  | cons event rest ih => exact ih (perform event s).state

theorem steps_append (perform : ε → Action σ α) (s : σ) (first second : List ε) :
    steps perform s (first ++ second) =
      steps perform s first ++ steps perform (after perform s first) second := by
  induction first generalizing s with
  | nil => rfl
  | cons event rest ih =>
    rw [List.cons_append, steps, steps, ih (perform event s).state, List.cons_append]
    rfl

theorem faultless_append {first second : List ε} :
    Faultless perform s (first ++ second) ↔
      Faultless perform s first ∧ Faultless perform (after perform s first) second := by
  unfold Faultless
  rw [steps_append, List.forall_mem_append]

/-- An event of a history brings about what its action does to the state that it found. -/
theorem after_of_mem_steps {step : Step σ ε α} (h : step ∈ steps perform s events) :
    step.after = (perform step.event step.before).state := by
  induction events generalizing s with
  | nil => cases h
  | cons event rest ih =>
    rcases List.mem_cons.mp h with rfl | hrest
    · rfl
    · exact ih hrest

/-- What holds at the start and after each event of a history is what each event finds. -/
theorem forall_before (h : P s) (hafter : ∀ step ∈ steps perform s events, P step.after) :
    ∀ step ∈ steps perform s events, P step.before := by
  induction events generalizing s with
  | nil => exact nofun
  | cons event rest ih =>
    rw [steps, List.forall_mem_cons] at hafter ⊢
    exact ⟨h, ih hafter.1 hafter.2⟩

/-- What every action preserves holds after every history. -/
theorem invariant_after (hstep : ∀ s event, P s → P (perform event s).state) (h : P s)
    (events : List ε) : P (after perform s events) := by
  induction events generalizing s with
  | nil => exact h
  | cons event rest ih => exact ih (hstep s event h)

/-- What every action without a fault preserves holds after every history without a fault. -/
theorem invariant_of_faultless
    (hstep : ∀ s event, P s → (perform event s).answer.toBool = true → P (perform event s).state)
    (h : P s) (hevents : Faultless perform s events) : P (after perform s events) := by
  induction events generalizing s with
  | nil => exact h
  | cons event rest ih =>
    obtain ⟨hfirst, hrest⟩ := faultless_cons.mp hevents
    exact ih (hstep s event h hfirst) hrest

/-- Let every action without a fault preserve `I`, and let it preserve `P` exactly if `Q` holds of
the state and the event that it meets. Then `P` holds all the time exactly if `Q` does. -/
theorem forall_after_iff_of_faultless {I : σ → Prop} {Q : σ → ε → Prop}
    (hstep : ∀ s event, I s → P s → (perform event s).answer.toBool = true →
      I (perform event s).state ∧ (P (perform event s).state ↔ Q s event))
    (hI : I s) (hP : P s) (hevents : Faultless perform s events) :
    (∀ step ∈ steps perform s events, P step.after) ↔
      ∀ step ∈ steps perform s events, Q step.before step.event := by
  induction events generalizing s with
  | nil => exact iff_of_true nofun nofun
  | cons event rest ih =>
    obtain ⟨hfirst, hrest⟩ := faultless_cons.mp hevents
    obtain ⟨hI', hiff⟩ := hstep s event hI hP hfirst
    rw [steps, List.forall_mem_cons, List.forall_mem_cons]
    -- the rest begins in a state of which `P` holds, on either side of the equivalence
    constructor
    · rintro ⟨hP', hothers⟩
      exact ⟨hiff.mp hP', (ih hI' hP' hrest).mp hothers⟩
    · rintro ⟨hQ, hothers⟩
      have hP' := hiff.mpr hQ
      exact ⟨hP', (ih hI' hP' hrest).mpr hothers⟩

end Lathe.Action
