import Lathe.Json.Conversion
import Lathe.Json.Order
import Mathlib.Data.List.Pairwise
import Mathlib.Tactic.MkIffOfInductiveProp

/-!
# Sets of integers

Codes are kept as a set, written in order, and read into a set again. If they are integers, they can
be put in order without losing any of them, and nothing is left out when the set is made again.

* `IsIntegerSet`: integers of which no two are the same;
* `exists_sorted?_eq`: integers can be put in order;
* `IsIntegerSet.distinct_eq`: a set of integers has no repetitions to leave out.
-/

namespace Lathe.Json

variable {value x y : Json} {values others : List Json}

/-! ## Simple values -/

theorem depth_of_isSimple (h : value.isSimple = true) : value.depth = 0 := by
  cases value with
  | arr items => nomatch h
  | obj members => nomatch h
  | _ => rfl

theorem exists_magnitude_float (x : Float) : ∃ m, magnitude? (.float x) = some m := by
  rw [magnitude?]
  split <;> exact ⟨_, rfl⟩

theorem same_self_of_isSimple (h : value.isSimple = true) : value.same value = true := by
  cases value with
  | null => rfl
  | bool b => simp [same, magnitude?]
  | int n => simp [same, magnitude?]
  | float x =>
    obtain ⟨m, hm⟩ := exists_magnitude_float x
    simp [same, hm]
  | str s => simp [same]
  | units points => simp [same]
  | arr items => nomatch h
  | obj members => nomatch h

theorem sameItems_self (h : ∀ item ∈ values, item.isSimple = true) :
    sameItems values values = true := by
  induction values with
  | nil => rfl
  | cons item items ih =>
    obtain ⟨hitem, hitems⟩ := List.forall_mem_cons.mp h
    rw [sameItems, same_self_of_isSimple hitem, ih hitems]
    rfl

theorem depthOfItems_le {k : Nat} (h : ∀ item ∈ values, item.depth ≤ k) :
    depthOfItems values ≤ k := by
  induction values with
  | nil => exact Nat.zero_le k
  | cons item items ih =>
    obtain ⟨hitem, hitems⟩ := List.forall_mem_cons.mp h
    exact Nat.max_le.mpr ⟨hitem, ih hitems⟩

/-! ## Integers -/

/-- An integer; truth values count as 0 and 1. -/
def IsInteger : Json → Prop
  | .int _ => True
  | .bool _ => True
  | _ => False

instance : DecidablePred IsInteger
  | .int _ | .bool _ => .isTrue trivial
  | .null | .float _ | .str _ | .units _ | .arr _ | .obj _ => .isFalse id

theorem isSimple_of_isInteger (h : x.IsInteger) : x.isSimple = true := by
  cases x <;> first | rfl | exact h.elim

theorem exists_magnitude_of_isInteger (h : x.IsInteger) : ∃ m, magnitude? x = some m := by
  cases x <;> first | exact ⟨_, rfl⟩ | exact h.elim

theorem same_eq_of_isInteger (hx : x.IsInteger) (hy : y.IsInteger) :
    x.same y = decide (magnitude? x = magnitude? y) := by
  cases x <;> cases y <;> first | exact hx.elim | exact hy.elim | simp [same, magnitude?]

theorem exists_mapM_magnitude (h : ∀ value ∈ values, value.IsInteger) :
    ∃ magnitudes, values.mapM magnitude? = some magnitudes ∧
      magnitudes.length = values.length := by
  induction values with
  | nil => exact ⟨[], rfl, rfl⟩
  | cons value values ih =>
    obtain ⟨hvalue, hvalues⟩ := List.forall_mem_cons.mp h
    obtain ⟨m, hm⟩ := exists_magnitude_of_isInteger hvalue
    obtain ⟨magnitudes, hmap, hlength⟩ := ih hvalues
    exact ⟨m :: magnitudes, by simp [hm, hmap], by simp [hlength]⟩

/-- Integers can be put in order, and all of them are in it. -/
theorem exists_sorted?_eq (h : ∀ value ∈ values, value.IsInteger) :
    ∃ sorted, sorted? values = some sorted ∧ sorted.Perm values := by
  obtain ⟨magnitudes, hmap, hlength⟩ := exists_mapM_magnitude h
  unfold sorted?
  split
  · exact ⟨[], rfl, .refl _⟩
  · exact ⟨_, rfl, .refl _⟩
  · -- each value is paired with its magnitude, the pairs are sorted, and the values taken out again
    rw [hmap]
    refine ⟨_, rfl, ((List.mergeSort_perm _ _).map Prod.fst).trans ?_⟩
    rw [List.map_fst_zip (Nat.le_of_eq hlength.symm)]

/-! ## Sets -/

/-- Integers of which no two are the same. -/
@[mk_iff]
structure IsIntegerSet (values : List Json) : Prop where
  isInteger : ∀ value ∈ values, value.IsInteger
  distinct : values.Pairwise fun x y => x.same y = false

instance : DecidablePred IsIntegerSet := fun values =>
  decidable_of_iff _ (isIntegerSet_iff values).symm

/-- Integers are the same if their magnitudes are equal, in whatever order they are compared. -/
theorem pairwise_same_iff (h : ∀ value ∈ values, value.IsInteger) :
    (values.Pairwise fun x y => x.same y = false) ↔
      values.Pairwise fun x y => magnitude? x ≠ magnitude? y :=
  List.Pairwise.iff_of_mem fun hx hy => by
    rw [same_eq_of_isInteger (h _ hx) (h _ hy), decide_eq_false_iff_not]

theorem IsIntegerSet.perm (h : IsIntegerSet values) (hperm : others.Perm values) :
    IsIntegerSet others := by
  have hisInteger : ∀ value ∈ others, value.IsInteger := fun value hvalue =>
    h.isInteger value (hperm.mem_iff.mp hvalue)
  refine ⟨hisInteger, (pairwise_same_iff hisInteger).mpr ?_⟩
  exact ((pairwise_same_iff h.isInteger).mp h.distinct).perm hperm.symm Ne.symm

theorem foldl_distinct (kept : List Json) (h : IsIntegerSet (kept ++ values)) :
    values.foldl (fun kept value => if kept.any (same value) then kept else kept ++ [value]) kept =
      kept ++ values := by
  induction values generalizing kept with
  | nil => rw [List.append_nil, List.foldl_nil]
  | cons value values ih =>
    have hvalue := h.isInteger value (List.mem_append_right _ List.mem_cons_self)
    -- no value before this one is the same, so it is kept
    have hnew : ¬kept.any (same value) = true := by
      rw [List.any_eq_true]
      rintro ⟨other, hother, hsame⟩
      have hne := (List.pairwise_append.mp ((pairwise_same_iff h.isInteger).mp h.distinct)).2.2
        other hother value List.mem_cons_self
      rw [same_eq_of_isInteger hvalue (h.isInteger _ (List.mem_append_left _ hother)),
        decide_eq_true_eq] at hsame
      exact hne hsame.symm
    rw [List.foldl_cons, if_neg hnew, ih, List.append_assoc, List.singleton_append]
    rwa [List.append_assoc, List.singleton_append]

/-- A set of integers has no repetitions to leave out. -/
theorem IsIntegerSet.distinct_eq (h : IsIntegerSet values) : Json.distinct values = values :=
  foldl_distinct [] h

end Lathe.Json
