import Lathe.Text.Digit
import Mathlib.Data.List.Basic
import Mathlib.Data.List.Induction
import Mathlib.Tactic.Ring

/-!
# Digits and the numbers that they denote

Digits denote a number, most significant first. The digits of an integer denote that integer, and no
number has more digits than it is written with.

* `digitsValue_append`: the value of digits after other digits;
* `digitsValue_toDigits`: the digits of an integer denote the integer;
* `digitsValue_lt`: a number has no more digits than it is written with.
-/

namespace Lathe.Text

theorem digitValue?_lt {c : Char} {value : Nat} (h : digitValue? c = some value) : value < 10 := by
  obtain ⟨first, hfirst, rfl⟩ := Option.map_eq_some_iff.mp h
  have hrun := List.find?_some hfirst
  simp only [Bool.and_eq_true, decide_eq_true_eq] at hrun
  omega

theorem digitsValue_append (cs ds : List Char) :
    digitsValue (cs ++ ds) = digitsValue cs * 10 ^ ds.length + digitsValue ds := by
  have hfold : ∀ n : Nat, ds.foldl (fun n c => 10 * n + (digitValue? c).getD 0) n =
      n * 10 ^ ds.length + digitsValue ds := by
    unfold digitsValue
    induction ds with
    | nil => simp
    | cons d ds ih =>
      intro n
      rw [List.foldl_cons, List.foldl_cons, ih, ih (10 * 0 + _), List.length_cons, pow_succ]
      ring
  rw [digitsValue, List.foldl_append, hfold]
  rfl

theorem digitsValue_digitChar {d : Nat} (hd : d < 10) : digitsValue [d.digitChar] = d := by
  have hdigits : ∀ d < 10, digitsValue [Nat.digitChar d] = d := by decide
  exact hdigits d hd

theorem digitsValue_replicate_zero (n : Nat) : digitsValue (List.replicate n '0') = 0 := by
  induction n with
  | zero => rfl
  | succ n ih => rw [List.replicate_succ', digitsValue_append, ih]; rfl

theorem digitsValue_append_zeros (cs : List Char) (n : Nat) :
    digitsValue (cs ++ List.replicate n '0') = digitsValue cs * 10 ^ n := by
  rw [digitsValue_append, digitsValue_replicate_zero, List.length_replicate, add_zero]

theorem digitsValue_zeros_append (n : Nat) (cs : List Char) :
    digitsValue (List.replicate n '0' ++ cs) = digitsValue cs := by
  rw [digitsValue_append, digitsValue_replicate_zero, zero_mul, zero_add]

/-- The digits of an integer denote the integer. -/
theorem digitsValue_toDigits (n : Nat) : digitsValue (Nat.toDigits 10 n) = n := by
  induction n using Nat.strong_induction_on with
  | _ n ih =>
    rw [Nat.toDigits_eq_if (by decide)]
    split_ifs with hn
    · exact digitsValue_digitChar hn
    · rw [digitsValue_append, ih _ (by omega), digitsValue_digitChar (Nat.mod_lt _ (by decide)),
        List.length_singleton]
      omega

/-- Only the number zero is written with a zero in front. -/
theorem head?_toDigits_ne_zero {n : Nat} (hn : 0 < n) : (Nat.toDigits 10 n).head? ≠ some '0' := by
  induction n using Nat.strong_induction_on with
  | _ n ih =>
    rw [Nat.toDigits_eq_if (by decide)]
    split_ifs with hlt
    · rw [List.head?_singleton, Ne, Option.some.injEq]
      have hdigits : ∀ d < 10, Nat.digitChar d = '0' → d = 0 := by decide
      exact fun h => hn.ne' (hdigits n hlt h)
    · rw [List.head?_append_of_ne_nil _ Nat.toDigits_ne_nil]
      exact ih _ (by omega) (by omega)

/-- A number has no more digits than it is written with. -/
theorem digitsValue_lt (cs : List Char) : digitsValue cs < 10 ^ cs.length := by
  -- the value is folded from the left, so it is the last digit that is taken off
  induction cs using List.reverseRecOn with
  | nil => decide
  | append_singleton cs c ih =>
    have hdigit : digitsValue [c] < 10 := by
      simp only [digitsValue, List.foldl_cons, List.foldl_nil, mul_zero, zero_add]
      cases hvalue : digitValue? c with
      | none => decide
      | some value => exact digitValue?_lt hvalue
    rw [digitsValue_append, List.length_append, List.length_singleton, pow_one, pow_succ]
    omega

end Lathe.Text
