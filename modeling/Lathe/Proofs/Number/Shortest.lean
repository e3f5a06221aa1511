import Lathe.Number.Decimal
import Lathe.Proofs.Number.Rounding
import Lathe.Proofs.Text.Digit

/-!
# Shortest decimals

The decimal that is written for a number lies between the middles to the neighbours of that number,
so that it is rounded to the number again. If none with up to sixteen digits does, the nearest one
with seventeen digits does: a unit of its last digit is smaller than the distance of two numbers.

* `Decimal.value`: the rational number that a decimal denotes;
* `Decimal.value_ofScaled`: trailing zeros are dropped without changing it;
* `Decimal.exists_shortest_eq`: the shortest decimal is rounded to the number that it stands for.
-/

namespace Lathe

namespace Number

variable {m : Nat} {e : Int} {c : Nat} {p : Int}

theorem exists_dropTrailingZeros (ds : List Char) :
    ∃ n, ds = dropTrailingZeros ds ++ List.replicate n '0' := by
  cases ds with
  | nil => exact ⟨0, rfl⟩
  | cons d ds =>
    refine ⟨(ds.reverse.takeWhile (· == '0')).length, ?_⟩
    have hzeros : ds.reverse.takeWhile (· == '0') =
        List.replicate (ds.reverse.takeWhile (· == '0')).length '0' := by
      rw [List.eq_replicate_iff]
      refine ⟨rfl, fun c hc => ?_⟩
      have := List.all_takeWhile (p := (· == '0')) (l := ds.reverse)
      simpa using List.all_eq_true.mp this c hc
    rw [dropTrailingZeros, List.cons_append, ← List.reverse_replicate, ← hzeros,
      ← List.reverse_append, List.takeWhile_append_dropWhile, List.reverse_reverse]

theorem dropTrailingZeros_ne_nil {ds : List Char} (h : ds ≠ []) : dropTrailingZeros ds ≠ [] := by
  cases ds with
  | nil => exact absurd rfl h
  | cons d ds => exact List.cons_ne_nil _ _

theorem lt_pow_decimalLength (n : Nat) : n < 10 ^ decimalLength n :=
  (Nat.length_toDigits_le_iff (by decide) Nat.length_toDigits_pos).mp le_rfl

theorem pow_decimalLength_le {n : Nat} (hn : 0 < n) : 10 ^ (decimalLength n - 1) ≤ n := by
  by_contra hlt
  have hpos : 0 < decimalLength n := Nat.length_toDigits_pos
  rw [not_le] at hlt
  by_cases hone : decimalLength n = 1
  · rw [hone] at hlt
    omega
  · have := (Nat.length_toDigits_le_iff (by decide) (by omega)).mpr hlt
    change decimalLength n ≤ decimalLength n - 1 at this
    omega

/-! ## Quotients -/

/-- Multiples of a power of two are compared with multiples of a power of ten as integers. -/
theorem exists_common_denominator (k p : Int) : ∃ d : ℚ, 0 < d ∧
    (∀ a : Nat, ((a * Nat.pow 2 k.toNat * Nat.pow 10 (-p).toNat : Nat) : ℚ) = a * 2 ^ k * d) ∧
    ∀ c : Nat, ((c * (Nat.pow 2 (-k).toNat * Nat.pow 10 p.toNat) : Nat) : ℚ) = c * 10 ^ p * d := by
  refine ⟨2 ^ (-k).toNat * 10 ^ (-p).toNat, by positivity, fun a => ?_, fun c => ?_⟩
  · rw [zpow_eq_div two_ne_zero k]
    simp only [Nat.pow_eq]
    push_cast
    field_simp
  · rw [zpow_eq_div (by norm_num) p]
    simp only [Nat.pow_eq]
    push_cast
    field_simp

theorem quotient_div (m : Nat) (e : Int) :
    ((quotient m e).1 / (quotient m e).2 : ℚ) = m * 2 ^ e := by
  rw [quotient, zpow_eq_div two_ne_zero]
  simp only [Nat.pow_eq]
  push_cast
  ring

theorem pow_leadingPower_le {num den : Nat} (hnum : 0 < num) (hden : 0 < den) :
    (10 : ℚ) ^ leadingPower num den ≤ num / den := by
  have hden' : (0 : ℚ) < den := by exact_mod_cast hden
  rw [leadingPower]
  split_ifs with h
  · rw [zpow_eq_div (by norm_num), div_le_div_iff₀ (by positivity) hden']
    simp only [Nat.pow_eq] at h
    rw [mul_comm]
    exact_mod_cast h
  · have hnum_le : (10 : ℚ) ^ (decimalLength num - 1) ≤ num := by
      exact_mod_cast pow_decimalLength_le hnum
    have hden_lt : (den : ℚ) ≤ 10 ^ decimalLength den := by
      exact_mod_cast (lt_pow_decimalLength den).le
    have hpos : 0 < decimalLength num := Nat.length_toDigits_pos
    have hpower : (decimalLength num : Int) - decimalLength den - 1 =
        (decimalLength num - 1 : Nat) - (decimalLength den : Nat) := by omega
    rw [hpower, zpow_sub₀ (by norm_num), zpow_natCast, zpow_natCast]
    gcongr

/-! ## Decimals -/

namespace Decimal

/-- The rational number that a decimal denotes. -/
def value (d : Decimal) : ℚ :=
  Text.digitsValue d.digits * 10 ^ (d.exponent - d.digits.length + 1)

theorem value_ofScaled (c : Nat) (p : Int) : (ofScaled c p).value = c * 10 ^ p := by
  obtain ⟨n, hn⟩ := exists_dropTrailingZeros (Nat.toDigits 10 c)
  have hvalue : c = Text.digitsValue (dropTrailingZeros (Nat.toDigits 10 c)) * 10 ^ n := by
    rw [← Text.digitsValue_append_zeros, ← hn, Text.digitsValue_toDigits]
  have hlength : (Nat.toDigits 10 c).length =
      (dropTrailingZeros (Nat.toDigits 10 c)).length + n := by
    conv_lhs => rw [hn]
    rw [List.length_append, List.length_replicate]
  rw [value, ofScaled]
  dsimp only
  rw [hlength]
  conv_rhs => rw [hvalue]
  push_cast
  rw [mul_assoc, ← zpow_natCast, ← zpow_add₀ (by norm_num)]
  congr 2
  ring

/-- A decimal is a run of digits that does not begin with a zero. -/
structure Proper (d : Decimal) : Prop where
  ne_nil : d.digits ≠ []
  isDigit : ∀ c ∈ d.digits, c.isDigit
  head_ne : d.digits.head? ≠ some '0'

theorem proper_ofScaled (hc : 0 < c) (p : Int) : (ofScaled c p).Proper := by
  obtain ⟨n, hn⟩ := exists_dropTrailingZeros (Nat.toDigits 10 c)
  have hne : dropTrailingZeros (Nat.toDigits 10 c) ≠ [] :=
    dropTrailingZeros_ne_nil Nat.toDigits_ne_nil
  constructor
  · exact hne
  · intro d hd
    apply Nat.isDigit_of_mem_toDigits (n := c) (by decide) le_rfl
    rw [hn]
    exact List.mem_append_left _ hd
  · have hhead := Text.head?_toDigits_ne_zero hc
    rwa [hn, List.head?_append_of_ne_nil _ hne] at hhead

end Decimal

/-! ## Decimals of a number -/

/-- An integer that passes the test for a decimal of the number gives a decimal that is rounded to
it. -/
theorem roundsTo_of_fits (hm : 0 < m) {two den down unit : Nat}
    (hquotient : quotient 1 (e - 2) = (two, den)) (hdown : Nat.pow 10 (-p).toNat = down)
    (hunit : den * Nat.pow 10 p.toNat = unit)
    (hfits : (if m % 2 = 0 then
        decide ((4 * m - gapBelow m e) * two * down ≤ c * unit ∧
          c * unit ≤ (4 * m + 2) * two * down)
      else
        decide ((4 * m - gapBelow m e) * two * down < c * unit ∧
          c * unit < (4 * m + 2) * two * down)) = true) : RoundsTo m e (c * 10 ^ p) := by
  obtain ⟨d, hd, hbinary, hdecimal⟩ := exists_common_denominator (e - 2) p
  obtain ⟨rfl, rfl⟩ := Prod.mk.inj hquotient
  subst hdown hunit
  rw [one_mul] at hfits
  have hgap := gapBelow_le_two m e
  -- The middles are integers over the common denominator too, so the test compares integers.
  have hlow : middleBelow m e * d =
      ((4 * m - gapBelow m e) * Nat.pow 2 (e - 2).toNat * Nat.pow 10 (-p).toNat : Nat) := by
    rw [hbinary, middleBelow, Nat.cast_sub (by omega)]
    push_cast
    rfl
  have hhigh : middleAbove m e * d =
      ((4 * m + 2) * Nat.pow 2 (e - 2).toNat * Nat.pow 10 (-p).toNat : Nat) := by
    rw [hbinary, middleAbove]
    push_cast
    rfl
  split_ifs at hfits with heven
  · obtain ⟨hlow', hhigh'⟩ := of_decide_eq_true hfits
    refine ⟨?_, ?_, fun hodd => by omega⟩
    · rwa [← mul_le_mul_iff_of_pos_right hd, hlow, ← hdecimal, Nat.cast_le]
    · rwa [← mul_le_mul_iff_of_pos_right hd, hhigh, ← hdecimal, Nat.cast_le]
  · obtain ⟨hlow', hhigh'⟩ := of_decide_eq_true hfits
    have hlt : middleBelow m e < c * 10 ^ p := by
      rwa [← mul_lt_mul_iff_of_pos_right hd, hlow, ← hdecimal, Nat.cast_lt]
    have hgt : c * 10 ^ p < middleAbove m e := by
      rwa [← mul_lt_mul_iff_of_pos_right hd, hhigh, ← hdecimal, Nat.cast_lt]
    exact ⟨hlt.le, hgt.le, fun _ => ⟨hlt, hgt⟩⟩

namespace Decimal

/-- Of two candidates, one that passes its test is chosen. -/
theorem passes_of_eq_some {near far : Bool} {a b d : Decimal}
    (h : (if near then some a else if far then some b else none) = some d) :
    near ∧ d = a ∨ far ∧ d = b := by
  split_ifs at h with hnear hfar
  · exact .inl ⟨hnear, (Option.some.inj h).symm⟩
  · exact .inr ⟨hfar, (Option.some.inj h).symm⟩

theorem exists_of_within? {count : Nat} {d : Decimal} (hm : 0 < m)
    (h : within? m e count = some d) :
    ∃ c p, d = ofScaled c p ∧ RoundsTo m e (c * 10 ^ p) := by
  rw [within?] at h
  obtain ⟨hfits, rfl⟩ | ⟨hfits, rfl⟩ := passes_of_eq_some h
  · exact ⟨_, _, rfl, roundsTo_of_fits hm rfl rfl rfl hfits⟩
  · exact ⟨_, _, rfl, roundsTo_of_fits hm rfl rfl rfl hfits⟩

/-- What differs from a number by at most half a unit in the seventeenth digit is rounded to it. -/
theorem roundsTo_of_close {q u : ℚ} (hlegal : Legal m e) (hu : 0 < u)
    (hunit : u * 10 ^ 16 ≤ m * 2 ^ e) (hlow : m * 2 ^ e - u / 2 ≤ q)
    (hhigh : q ≤ m * 2 ^ e + u / 2) : RoundsTo m e q := by
  have hpow : (0 : ℚ) < 2 ^ e := by positivity
  have hmantissa : (m : ℚ) + 1 ≤ 2 ^ 53 := by exact_mod_cast hlegal.mantissa_lt
  have hbelow : u / 2 < gapBelow m e * 2 ^ e / 4 := by
    unfold gapBelow
    -- Below the first mantissa with a leading bit, numbers are twice as dense.
    split_ifs with hfirst
    · rw [hfirst.1, leadingBit] at hunit
      push_cast at hunit ⊢
      linarith
    · push_cast
      nlinarith
  have habove : u / 2 < 2 ^ e / 2 := by nlinarith
  have hlt : middleBelow m e < q := by
    rw [middleBelow, zpow_sub_two]
    linarith
  have hgt : q < middleAbove m e := by
    rw [middleAbove, zpow_sub_two]
    linarith
  exact ⟨hlt.le, hgt.le, fun _ => ⟨hlt, hgt⟩⟩

theorem exists_nearest_eq (hlegal : Legal m e) (hm : 0 < m) :
    ∃ c p, nearest 17 (quotient m e).1 (quotient m e).2 = ofScaled c p ∧
      RoundsTo m e (c * 10 ^ p) := by
  have hnum : 0 < (quotient m e).1 := Nat.mul_pos hm (Nat.pow_pos (by decide))
  have hden : 0 < (quotient m e).2 := Nat.pow_pos (by decide)
  have hleading := pow_leadingPower_le hnum hden
  refine ⟨_, _, rfl, ?_⟩
  -- `10 ^ p` is a unit of the seventeenth digit
  generalize hp : leadingPower (quotient m e).1 (quotient m e).2 - (17 : Nat) + 1 = p
  have hu : (0 : ℚ) < 10 ^ p := by positivity
  have hunit : (10 : ℚ) ^ p * 10 ^ 16 ≤ m * 2 ^ e := by
    rw [quotient_div] at hleading
    convert hleading using 1
    rw [← zpow_natCast, ← zpow_add₀ (by norm_num), ← hp]
    congr 1
    push_cast
    ring
  have hscaled : (((quotient m e).1 * Nat.pow 10 (-p).toNat : Nat) /
      ((quotient m e).2 * Nat.pow 10 p.toNat : Nat) : ℚ) * 10 ^ p = m * 2 ^ e := by
    have hden' : ((quotient m e).2 : ℚ) ≠ 0 := by exact_mod_cast hden.ne'
    rw [← quotient_div, zpow_eq_div (by norm_num) p]
    simp only [Nat.pow_eq]
    push_cast
    field_simp
  have hscale : 0 < (quotient m e).2 * Nat.pow 10 p.toNat :=
    Nat.mul_pos hden (Nat.pow_pos (by decide))
  obtain ⟨hlow, hhigh⟩ := roundDiv_bounds (n := (quotient m e).1 * Nat.pow 10 (-p).toNat) hscale
  apply roundsTo_of_close hlegal hu hunit
  · rw [← hscaled]
    nlinarith
  · rw [← hscaled]
    nlinarith

/-- The shortest decimal of a number is rounded to that number. -/
theorem exists_shortest_eq (hlegal : Legal m e) (hm : 0 < m) :
    ∃ c p, shortest m e = ofScaled c p ∧ RoundsTo m e (c * 10 ^ p) := by
  rw [shortest]
  cases hfound : (List.range 16).findSome? fun i => within? m e (i + 1) with
  -- what no test has found needs none: seventeen digits are enough for every number
  | none => exact exists_nearest_eq hlegal hm
  | some d =>
    obtain ⟨i, -, hwithin⟩ := List.exists_of_findSome?_eq_some hfound
    exact exists_of_within? hm hwithin

theorem roundsTo_shortest (hlegal : Legal m e) (hm : 0 < m) :
    RoundsTo m e (shortest m e).value := by
  obtain ⟨c, p, heq, hrounds⟩ := exists_shortest_eq hlegal hm
  rwa [heq, value_ofScaled]

theorem proper_shortest (hlegal : Legal m e) (hm : 0 < m) : (shortest m e).Proper := by
  obtain ⟨c, p, heq, hrounds⟩ := exists_shortest_eq hlegal hm
  have hc : 0 < c := by
    have hpos := hrounds.pos hm
    by_contra hc
    obtain rfl : c = 0 := by omega
    simp at hpos
  rw [heq]
  exact proper_ofScaled hc p

end Decimal

/-- Whoever reads the shortest decimal of a number reads the number. -/
theorem ofDecimal_shortest {x : Float} {negative : Bool} (h : exact x = .finite negative m e)
    (hm : 0 < m) (hvalue : c * 10 ^ p = (Decimal.shortest m e).value) :
    ofDecimal negative c p = x := by
  have hlegal := legal_of_exact h
  have hrounds : RoundsTo m e (c * 10 ^ p) := by
    rw [hvalue]
    exact Decimal.roundsTo_shortest hlegal hm
  rw [ofDecimal_eq hlegal hm hrounds, signed_ofBits h]

/-- Zero is read with its sign. -/
theorem ofDecimal_zero {x : Float} {negative : Bool} (h : exact x = .finite negative 0 e) :
    ofDecimal negative 0 p = x := by
  obtain rfl : e = -1074 := (legal_of_exact h).leading.resolve_left (by decide)
  have hzero : Float.ofBits (UInt64.ofNat (magnitudeBits 0 (-1074))) = 0.0 := by decide +kernel
  have hx := signed_ofBits h
  dsimp only at hx
  rw [hzero] at hx
  rw [ofDecimal, if_pos (Or.inl rfl : 0 = 0 ∨ _), hx]

end Number

end Lathe
