/-!
# Associations

Values under keys, listed in the order in which the keys first appeared: the parameters of a
statement by letter, the members of an object by name.

* `Association.put`: the association with a value set under a key;
* `map_fst_put`, `lookup_put`, `mem_put`: its keys, its values and its entries;
* `put_of_not_mem`: a new key comes last.
-/

namespace Lathe

/-- Values under keys, in the order in which the keys first appeared. -/
abbrev Association (α β : Type) := List (α × β)

namespace Association

variable {α β : Type} [DecidableEq α] {entries : Association α β} {key other : α} {value : β}

/-- Set the value under `key`: a key that is present keeps its place, a new one goes to the end. -/
def put (key : α) (value : β) : Association α β → Association α β
  | [] => [(key, value)]
  | (k, v) :: rest => if k = key then (k, value) :: rest else (k, v) :: put key value rest

/-- The keys are the same, unless the one that is put is new. -/
theorem map_fst_put :
    (entries.put key value).map Prod.fst =
      if key ∈ entries.map Prod.fst then entries.map Prod.fst
      else entries.map Prod.fst ++ [key] := by
  induction entries with
  | nil => rfl
  | cons entry rest ih =>
    obtain ⟨first, old⟩ := entry
    by_cases hfirst : first = key
    · simp [put, hfirst]
    · have hmem : key ∈ first :: rest.map Prod.fst ↔ key ∈ rest.map Prod.fst := by
        simp [Ne.symm hfirst]
      simp only [put, if_neg hfirst, List.map_cons, ih, hmem]
      split <;> rfl

theorem lookup_cons_eq {rest : Association α β} :
    ((key, value) :: rest).lookup other =
      if other = key then some value else rest.lookup other := by
  rw [List.lookup_cons]
  by_cases h : other = key
  · simp [h]
  · rw [beq_false_of_ne h, if_neg h]

/-- The value under a key is the one that was put last. -/
theorem lookup_put :
    (entries.put key value).lookup other =
      if other = key then some value else entries.lookup other := by
  induction entries with
  | nil => exact lookup_cons_eq
  | cons entry rest ih =>
    obtain ⟨first, old⟩ := entry
    by_cases hfirst : first = key
    · rw [put, if_pos hfirst, lookup_cons_eq, lookup_cons_eq, hfirst]
      split <;> rfl
    · rw [put, if_neg hfirst, lookup_cons_eq, lookup_cons_eq, ih]
      by_cases hother : other = first
      · rw [if_pos hother, if_pos hother, if_neg (hother ▸ hfirst)]
      · rw [if_neg hother, if_neg hother]

/-- What is in an association was there before, or is what was put. -/
theorem mem_put {entry : α × β} (h : entry ∈ entries.put key value) :
    entry = (key, value) ∨ entry ∈ entries := by
  induction entries with
  | nil => exact .inl (List.mem_singleton.mp h)
  | cons other rest ih =>
    obtain ⟨first, old⟩ := other
    by_cases hfirst : first = key
    · rw [put, if_pos hfirst, hfirst] at h
      exact (List.mem_cons.mp h).imp_right (List.mem_cons_of_mem _)
    · rw [put, if_neg hfirst] at h
      rcases List.mem_cons.mp h with rfl | hrest
      · exact .inr List.mem_cons_self
      · exact (ih hrest).imp_right (List.mem_cons_of_mem _)

theorem put_of_not_mem (h : key ∉ entries.map Prod.fst) :
    entries.put key value = entries ++ [(key, value)] := by
  induction entries with
  | nil => rfl
  | cons entry rest ih =>
    rw [List.map_cons, List.mem_cons, not_or] at h
    rw [put, if_neg (Ne.symm h.1), ih h.2, List.cons_append]

end Association

end Lathe
