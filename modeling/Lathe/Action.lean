import Lathe.Fault
import Lathe.Log

/-!
# Actions

An action works on a state, reports what it does, and either answers or ends in a fault. A fault
does not undo what was done before it: the state reached is kept, and so are the records.
-/

namespace Lathe

/-- What an action on a state of type `σ` brings about. -/
structure Effect (σ α : Type) where
  /-- The state afterwards. -/
  state : σ
  /-- What was reported. -/
  records : List Log.Record
  /-- The answer, or the fault that took its place. -/
  answer : Except Fault α

/-- An action on a state of type `σ` that answers with an `α`. -/
def Action (σ α : Type) : Type := σ → Effect σ α

namespace Action

variable {σ τ α β : Type}

/-- Answer without doing anything. -/
protected def pure (a : α) : Action σ α :=
  fun s => ⟨s, [], .ok a⟩

/-- One action after the other; a fault in the first keeps the second from starting. -/
protected def bind (first : Action σ α) (next : α → Action σ β) : Action σ β := fun s =>
  let done := first s
  match done.answer with
  | .error fault => ⟨done.state, done.records, .error fault⟩
  | .ok a =>
    let later := next a done.state
    ⟨later.state, done.records ++ later.records, later.answer⟩

instance : Monad (Action σ) where
  pure := Action.pure
  bind := Action.bind

/-- Answer with something read off the state. -/
def observe (f : σ → α) : Action σ α :=
  fun s => ⟨s, [], .ok (f s)⟩

/-- Change the state. -/
def change (f : σ → σ) : Action σ Unit :=
  fun s => ⟨f s, [], .ok ()⟩

/-- Report something. -/
def report (f : σ → List Log.Record) : Action σ Unit :=
  fun s => ⟨s, f s, .ok ()⟩

/-- Answer with the result of a computation, or end in its fault. -/
def ofExcept (r : Except Fault α) : Action σ α :=
  fun s => ⟨s, [], r⟩

/-- An action on a part of the state. -/
def onPart (get : τ → σ) (set : σ → τ → τ) (action : Action σ α) : Action τ α := fun t =>
  let done := action (get t)
  ⟨set done.state t, done.records, done.answer⟩

@[simp]
theorem pure_apply (a : α) (s : σ) : (Pure.pure a : Action σ α) s = ⟨s, [], .ok a⟩ := rfl

@[simp]
theorem observe_apply (f : σ → α) (s : σ) : observe f s = ⟨s, [], .ok (f s)⟩ := rfl

@[simp]
theorem change_apply (f : σ → σ) (s : σ) : change f s = ⟨f s, [], .ok ()⟩ := rfl

@[simp]
theorem report_apply (f : σ → List Log.Record) (s : σ) : report f s = ⟨s, f s, .ok ()⟩ := rfl

@[simp]
theorem ofExcept_apply (r : Except Fault α) (s : σ) :
    (ofExcept r : Action σ α) s = ⟨s, [], r⟩ := rfl

/-- After an action that answers, the next one goes on from the state reached. -/
theorem bind_apply_of_ok {first : Action σ α} {next : α → Action σ β} {s : σ} {a : α}
    (h : (first s).answer = .ok a) :
    (first >>= next) s =
      ⟨(next a (first s).state).state, (first s).records ++ (next a (first s).state).records,
        (next a (first s).state).answer⟩ := by
  change Action.bind first next s = _
  simp only [Action.bind, h]

/-- After an action that ends in a fault, nothing more is done. -/
theorem bind_apply_of_error {first : Action σ α} {next : α → Action σ β} {s : σ} {fault : Fault}
    (h : (first s).answer = .error fault) :
    (first >>= next) s = ⟨(first s).state, (first s).records, .error fault⟩ := by
  change Action.bind first next s = _
  simp only [Action.bind, h]

end Action

end Lathe
