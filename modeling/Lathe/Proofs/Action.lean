import Lathe.Action

/-!
# Results of actions

What an action answers and the state that it leaves, without what it reports. The laws of this
module run an action step by step: a step that answers hands its state on, and a step that ends in a
fault ends the whole action.

`Action.Ensures` is for actions of which only a property matters: it says what holds whenever the
action answers, and its laws take an action apart from the end to the beginning.
-/

namespace Lathe

/-- A computation whose answer is known to be one has it. -/
theorem eq_ok_of_toOption {ε α : Type} {r : Except ε α} {a : α} (h : r.toOption = some a) :
    r = .ok a := by
  cases r with
  | error e => cases h
  | ok b => exact congrArg Except.ok (Option.some.inj h)

theorem exists_of_map_eq_ok {ε α β : Type} {r : Except ε α} {f : α → β} {b : β}
    (h : r.map f = .ok b) : ∃ a, r = .ok a ∧ b = f a := by
  cases r with
  | error e => cases h
  | ok a => exact ⟨a, rfl, (Except.ok.inj h).symm⟩

namespace Action

variable {σ α β : Type}

/-- The answer of an action and the state after it. -/
def result (action : Action σ α) (s : σ) : Except Fault α × σ :=
  ((action s).answer, (action s).state)

/-- The state that an action leaves. -/
def final (action : Action σ α) (s : σ) : σ :=
  (action s).state

theorem final_of_result {action : Action σ α} {s t : σ} {answer : Except Fault α}
    (h : action.result s = (answer, t)) : action.final s = t :=
  congrArg Prod.snd h

@[simp]
theorem result_pure (a : α) (s : σ) : result (pure a : Action σ α) s = (.ok a, s) := rfl

@[simp]
theorem result_change (f : σ → σ) (s : σ) : (change f).result s = (.ok (), f s) := rfl

@[simp]
theorem result_ofExcept (r : Except Fault α) (s : σ) :
    (ofExcept r : Action σ α).result s = (r, s) := rfl

@[simp]
theorem result_ite (p : Prop) [Decidable p] (first second : Action σ α) (s : σ) :
    result (if p then first else second) s = if p then first.result s else second.result s := by
  split <;> rfl

/-- After a step that answers, the action goes on from the state reached. -/
theorem result_bind_of_ok {first : Action σ α} {next : α → Action σ β} {s t : σ} {a : α}
    (h : first.result s = (.ok a, t)) : (first >>= next).result s = (next a).result t := by
  obtain ⟨hanswer, rfl⟩ := Prod.mk.inj h
  unfold result
  rw [bind_apply_of_ok hanswer]

/-- After a step that ends in a fault, nothing more is done. -/
theorem result_bind_of_error {first : Action σ α} {next : α → Action σ β} {s t : σ}
    {fault : Fault} (h : first.result s = (.error fault, t)) :
    (first >>= next).result s = (.error fault, t) := by
  obtain ⟨hanswer, rfl⟩ := Prod.mk.inj h
  unfold result
  rw [bind_apply_of_error hanswer]

/-- An action whose answer is replaced. -/
theorem result_bind_pure (first : Action σ α) (f : α → β) (s : σ) :
    (first >>= fun a => pure (f a)).result s =
      ((first.result s).1.map f, (first.result s).2) := by
  rcases h : first.result s with ⟨fault | a, t⟩
  · exact result_bind_of_error h
  · exact result_bind_of_ok h

@[simp]
theorem result_observe_bind (f : σ → α) (next : α → Action σ β) (s : σ) :
    (observe f >>= next).result s = (next (f s)).result s := rfl

@[simp]
theorem result_change_bind (f : σ → σ) (next : Unit → Action σ β) (s : σ) :
    (change f >>= next).result s = (next ()).result (f s) := rfl

@[simp]
theorem result_report_bind (f : σ → List Log.Record) (next : Unit → Action σ β) (s : σ) :
    (report f >>= next).result s = (next ()).result s := rfl

/-! ## What an action ensures -/

section Ensures

variable {τ : Type} {s : σ} {Q R : α → σ → Prop}

/-- If the action answers, then its answer and the state after it are as told. -/
def Ensures (action : Action σ α) (s : σ) (Q : α → σ → Prop) : Prop :=
  ∀ a t, action.result s = (.ok a, t) → Q a t

theorem Ensures.imp {action : Action σ α} (h : action.Ensures s Q) (hQ : ∀ a t, Q a t → R a t) :
    action.Ensures s R :=
  fun a t hresult => hQ a t (h a t hresult)

/-- What an action ensures holds after it, if it answers. -/
theorem Ensures.of_toBool {action : Action σ Unit} {Q : Unit → σ → Prop} (h : action.Ensures s Q)
    (hanswer : (action s).answer.toBool = true) : Q () (action s).state := by
  cases hunit : (action s).answer with
  | error fault =>
    rw [hunit] at hanswer
    cases hanswer
  | ok _ => exact h () _ (Prod.ext hunit rfl)

theorem ensures_of_forall {action : Action σ α} (h : ∀ a t, Q a t) : action.Ensures s Q :=
  fun a t _ => h a t

@[simp]
theorem ensures_pure (a : α) : (pure a : Action σ α).Ensures s Q ↔ Q a s := by
  constructor
  · intro h
    exact h a s rfl
  · rintro h _ _ ⟨⟩
    exact h

@[simp]
theorem ensures_observe (f : σ → α) : (observe f).Ensures s Q ↔ Q (f s) s :=
  ensures_pure (f s)

@[simp]
theorem ensures_change {Q : Unit → σ → Prop} (f : σ → σ) :
    (change f).Ensures s Q ↔ Q () (f s) := by
  constructor
  · intro h
    exact h () (f s) rfl
  · rintro h _ _ ⟨⟩
    exact h

@[simp]
theorem ensures_report {Q : Unit → σ → Prop} (f : σ → List Log.Record) :
    (report f).Ensures s Q ↔ Q () s :=
  ensures_pure ()

@[simp]
theorem ensures_ofExcept (r : Except Fault α) :
    (ofExcept r : Action σ α).Ensures s Q ↔ ∀ a, r = .ok a → Q a s := by
  constructor
  · rintro h a rfl
    exact h a s rfl
  · intro h a t hresult
    obtain ⟨hanswer, rfl⟩ := Prod.mk.inj hresult
    exact h a hanswer

@[simp]
theorem ensures_bind {Q : β → σ → Prop} (first : Action σ α) (next : α → Action σ β) :
    (first >>= next).Ensures s Q ↔ first.Ensures s fun a t => (next a).Ensures t Q := by
  constructor
  · intro h a t hfirst b u hnext
    exact h b u ((result_bind_of_ok hfirst).trans hnext)
  · intro h b u hresult
    -- the first action has answered, or the whole would not have
    rcases hfirst : first.result s with ⟨fault | a, t⟩
    · rw [result_bind_of_error hfirst] at hresult
      cases hresult
    · rw [result_bind_of_ok hfirst] at hresult
      exact h a t hfirst b u hresult

@[simp]
theorem ensures_ite (p : Prop) [Decidable p] (first second : Action σ α) :
    (if p then first else second).Ensures s Q ↔
      (p → first.Ensures s Q) ∧ (¬p → second.Ensures s Q) := by
  split
  next hp => simp [hp]
  next hp => simp [hp]

@[simp]
theorem ensures_onPart {t : τ} {Q : α → τ → Prop} (get : τ → σ) (set : σ → τ → τ)
    (action : Action σ α) :
    (onPart get set action).Ensures t Q ↔ action.Ensures (get t) fun a s => Q a (set s t) := by
  constructor
  · intro h a s hresult
    obtain ⟨hanswer, rfl⟩ := Prod.mk.inj hresult
    exact h a _ (Prod.ext hanswer rfl)
  · rintro h a _ hresult
    obtain ⟨hanswer, rfl⟩ := Prod.mk.inj hresult
    exact h a _ (Prod.ext hanswer rfl)

end Ensures

end Action

end Lathe
