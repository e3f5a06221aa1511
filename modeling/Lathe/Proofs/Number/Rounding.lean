import Lathe.Number.Division
import Lathe.Proofs.Number.Bits

/-!
# Rounding

The rational numbers that are rounded to a number are those between the middles to its neighbours;
the middles belong to it if its mantissa is even. The next number below is only half as far as the
next one above if the mantissa is the smallest one with a leading bit.

* `RoundsTo`: a rational number is rounded to a given number;
* `ofQuotient?_eq`: a quotient is read as the number to which it is rounded;
* `ofDecimal_eq`: so is a decimal.
-/

namespace Lathe.Number

/-! ## Rounding to an integer -/

theorem roundDiv_eq {num den m : Nat} (hden : 0 < den) (hlow : 2 * m * den ≤ 2 * num + den)
    (hhigh : 2 * num ≤ (2 * m + 1) * den)
    (hodd : m % 2 = 1 → 2 * m * den < 2 * num + den ∧ 2 * num < (2 * m + 1) * den) :
    roundDiv num den = m := by
  have hdiv := Nat.div_add_mod num den
  have hmod := Nat.mod_lt num hden
  rw [roundDiv]
  generalize num / den = q at *
  generalize num % den = r at *
  -- the integer is the quotient or the next one
  obtain hm | rfl | rfl | hm : m < q ∨ m = q ∨ m = q + 1 ∨ q + 1 < m := by omega
  · exfalso
    have : (2 * m + 1) * den < 2 * q * den := Nat.mul_lt_mul_of_pos_right (by omega) hden
    nlinarith
  · rw [if_neg]
    rintro (hr | ⟨hr, hq⟩)
    · nlinarith
    · nlinarith [(hodd hq).2]
  · rw [if_pos]
    by_cases hr : den < 2 * r
    · exact .inl hr
    · refine .inr ⟨by nlinarith, ?_⟩
      by_contra hq
      nlinarith [(hodd (by omega)).1]
  · exfalso
    have : (2 * q + 2) * den < 2 * m * den := Nat.mul_lt_mul_of_pos_right (by omega) hden
    nlinarith

/-- An integer within a half of a quotient is what the quotient is rounded to, if it is even or the
quotient is not exactly in the middle. -/
theorem roundDiv_eq_of_rat {num den m : Nat} (hden : 0 < den) (hlow : (m - 1 / 2 : ℚ) ≤ num / den)
    (hhigh : (num / den : ℚ) ≤ m + 1 / 2)
    (hodd : m % 2 = 1 → (m - 1 / 2 : ℚ) < num / den ∧ (num / den : ℚ) < m + 1 / 2) :
    roundDiv num den = m := by
  have hden' : (0 : ℚ) < den := by exact_mod_cast hden
  rw [le_div_iff₀ hden'] at hlow
  rw [div_le_iff₀ hden'] at hhigh
  rw [lt_div_iff₀ hden', div_lt_iff₀ hden'] at hodd
  apply roundDiv_eq hden
  · have : (2 * m * den : ℚ) ≤ 2 * num + den := by linarith
    exact_mod_cast this
  · have : (2 * num : ℚ) ≤ (2 * m + 1) * den := by linarith
    exact_mod_cast this
  · intro hm
    obtain ⟨hlow', hhigh'⟩ := hodd hm
    constructor
    · have : (2 * m * den : ℚ) < 2 * num + den := by linarith
      exact_mod_cast this
    · have : (2 * num : ℚ) < (2 * m + 1) * den := by linarith
      exact_mod_cast this

/-- A quotient is rounded to an integer within a half of it. -/
theorem roundDiv_bounds {n d : Nat} (hd : 0 < d) :
    (n / d - 1 / 2 : ℚ) ≤ roundDiv n d ∧ (roundDiv n d : ℚ) ≤ n / d + 1 / 2 := by
  have hd' : (0 : ℚ) < d := by exact_mod_cast hd
  have hdiv := Nat.div_add_mod n d
  have hmod := Nat.mod_lt n hd
  have hbounds : 2 * n ≤ (2 * roundDiv n d + 1) * d ∧ 2 * roundDiv n d * d ≤ 2 * n + d := by
    rw [roundDiv]
    generalize n / d = q at *
    generalize n % d = r at *
    split_ifs with h
    · exact ⟨by nlinarith, by rcases h with h | ⟨h, -⟩ <;> nlinarith⟩
    · have hr : ¬d < 2 * r := fun hr => h (.inl hr)
      exact ⟨by nlinarith, by nlinarith⟩
  have hlow : (2 * n : ℚ) ≤ (2 * roundDiv n d + 1) * d := by exact_mod_cast hbounds.1
  have hhigh : (2 * roundDiv n d * d : ℚ) ≤ 2 * n + d := by exact_mod_cast hbounds.2
  constructor
  · rw [sub_le_iff_le_add, div_le_iff₀ hd']
    linarith
  · rw [← sub_le_iff_le_add, le_div_iff₀ hd']
    linarith

/-! ## Powers -/

theorem zpow_eq_div {b : ℚ} (hb : b ≠ 0) (k : Int) :
    b ^ k = b ^ k.toNat / b ^ (-k).toNat := by
  rw [← zpow_natCast, ← zpow_natCast, ← zpow_sub₀ hb]
  congr 1
  omega

theorem scaled_div (num den : Nat) (shift : Int) :
    ((scaled num den shift).1 / (scaled num den shift).2 : ℚ) = num / den * 2 ^ shift := by
  rw [scaled, zpow_eq_div two_ne_zero]
  simp only [Nat.pow_eq, Nat.cast_mul, Nat.cast_pow, Nat.cast_ofNat]
  rw [mul_div_mul_comm]

/-- A power of two that brings a number below 53 bits is at most one that brings it to 53 bits. -/
theorem le_of_zpow {q : ℚ} (hq : 0 < q) {s t : Int} (hs : q * 2 ^ s < 2 ^ 53)
    (ht : 2 ^ 52 ≤ q * 2 ^ t) : s ≤ t := by
  have hlt : q * 2 ^ s < q * 2 ^ (t + 1) := by
    calc q * 2 ^ s < 2 ^ 53 := hs
      _ = 2 ^ 52 * 2 := by norm_num
      _ ≤ q * 2 ^ t * 2 := by gcongr
      _ = q * 2 ^ (t + 1) := by rw [zpow_add_one₀ two_ne_zero, mul_assoc]
  have hpow : (2 : ℚ) ^ s < 2 ^ (t + 1) := lt_of_mul_lt_mul_left hlt hq.le
  have := (zpow_lt_zpow_iff_right₀ one_lt_two).mp hpow
  omega

/-- The first guess of the shift brings a quotient to 52 or 53 bits. -/
theorem guessedShift_bounds {num den : Nat} (hnum : num ≠ 0) (hden : den ≠ 0) :
    (2 ^ 51 : ℚ) < num / den * 2 ^ (52 - ((num.log2 : Int) - den.log2)) ∧
      (num / den * 2 ^ (52 - ((num.log2 : Int) - den.log2)) : ℚ) < 2 ^ 53 := by
  have hnum_le : (2 ^ num.log2 : ℚ) ≤ num := by exact_mod_cast Nat.log2_self_le hnum
  have hnum_lt : (num : ℚ) < 2 ^ (num.log2 + 1) := by exact_mod_cast Nat.lt_log2_self
  have hden_le : (2 ^ den.log2 : ℚ) ≤ den := by exact_mod_cast Nat.log2_self_le hden
  have hden_lt : (den : ℚ) < 2 ^ (den.log2 + 1) := by exact_mod_cast Nat.lt_log2_self
  have hshift : (2 : ℚ) ^ (52 - ((num.log2 : Int) - den.log2)) =
      2 ^ 52 * 2 ^ den.log2 / 2 ^ num.log2 := by
    rw [sub_sub_eq_add_sub, zpow_sub₀ two_ne_zero, zpow_add₀ two_ne_zero, zpow_natCast,
      zpow_natCast]
    rfl
  have hnum_pos : (0 : ℚ) < 2 ^ num.log2 := by positivity
  have hden_pos : (0 : ℚ) < den := lt_of_lt_of_le (by positivity) hden_le
  rw [hshift, div_mul_div_comm]
  rw [pow_succ] at hnum_lt hden_lt
  constructor
  · rw [lt_div_iff₀ (by positivity)]
    nlinarith
  · rw [div_lt_iff₀ (by positivity)]
    nlinarith

theorem scaled_snd_pos (num : Nat) {den : Nat} (hden : 0 < den) (shift : Int) :
    0 < (scaled num den shift).2 :=
  Nat.mul_pos hden (Nat.pow_pos two_pos)

/-- One shift brings a quotient to 53 bits, and it is taken unless it is too large. -/
theorem exists_roundingShift_eq {num den : Nat} (hnum : num ≠ 0) (hden : 0 < den) :
    ∃ best : Int, roundingShift num den = min 1074 best ∧
      (2 ^ 52 : ℚ) ≤ num / den * 2 ^ best ∧ (num / den * 2 ^ best : ℚ) < 2 ^ 53 := by
  obtain ⟨hguess, hguess'⟩ := guessedShift_bounds hnum hden.ne'
  rw [roundingShift]
  dsimp only
  refine ⟨_, rfl, ?_⟩
  generalize (52 - ((num.log2 : Int) - den.log2)) = guess at *
  have hbits : (scaled num den guess).2 * leadingBit ≤ (scaled num den guess).1 ↔
      (2 ^ 52 : ℚ) ≤ num / den * 2 ^ guess := by
    have hpos : (0 : ℚ) < (scaled num den guess).2 := by
      exact_mod_cast scaled_snd_pos num hden guess
    rw [← scaled_div, le_div_iff₀ hpos, mul_comm]
    norm_cast
  split_ifs with h
  · exact ⟨hbits.mp h, hguess'⟩
  · -- the guess leaves only 52 bits
    rw [hbits, not_le] at h
    rw [zpow_add_one₀ two_ne_zero, ← mul_assoc]
    exact ⟨by linarith, by linarith⟩

/-- The shift before rounding is the one that brings the quotient to 53 bits, or the largest one if
it does not. -/
theorem roundingShift_eq {num den : Nat} (hnum : num ≠ 0) (hden : 0 < den) {shift : Int}
    (hshift : shift ≤ 1074) (hlt : (num / den * 2 ^ shift : ℚ) < 2 ^ 53)
    (hle : (2 ^ 52 : ℚ) ≤ num / den * 2 ^ shift ∨ shift = 1074) :
    roundingShift num den = shift := by
  obtain ⟨best, heq, hbest, hbest'⟩ := exists_roundingShift_eq hnum hden
  have hq : (0 : ℚ) < num / den := by
    have : (0 : ℚ) < num := by exact_mod_cast Nat.pos_of_ne_zero hnum
    positivity
  have hle_best : shift ≤ best := le_of_zpow hq hlt hbest
  obtain hle | rfl := hle
  · have hbest_le : best ≤ shift := le_of_zpow hq hbest' hle
    omega
  · omega

/-! ## Numbers to which a quotient is rounded -/

/-- How far below a number the numbers begin that are rounded to it, in quarters of its last bit. -/
def gapBelow (m : Nat) (e : Int) : Nat :=
  if m = leadingBit ∧ -1074 < e then 1 else 2

/-- The middle between `m * 2 ^ e` and the number below it. -/
def middleBelow (m : Nat) (e : Int) : ℚ :=
  (4 * m - gapBelow m e) * 2 ^ (e - 2)

/-- The middle between `m * 2 ^ e` and the number above it. -/
def middleAbove (m : Nat) (e : Int) : ℚ :=
  (4 * m + 2) * 2 ^ (e - 2)

/-- A rational number is rounded to `m * 2 ^ e`. -/
structure RoundsTo (m : Nat) (e : Int) (q : ℚ) : Prop where
  middleBelow_le : middleBelow m e ≤ q
  le_middleAbove : q ≤ middleAbove m e
  of_odd : m % 2 = 1 → middleBelow m e < q ∧ q < middleAbove m e

variable {m : Nat} {e : Int} {q : ℚ}

theorem gapBelow_le_two (m : Nat) (e : Int) : gapBelow m e ≤ 2 := by
  unfold gapBelow
  split_ifs <;> omega

theorem zpow_sub_two (e : Int) : (2 : ℚ) ^ (e - 2) = 2 ^ e / 4 := by
  rw [zpow_sub₀ two_ne_zero]
  norm_num

theorem middleBelow_pos (hm : 0 < m) : 0 < middleBelow m e := by
  have hgap : (gapBelow m e : ℚ) ≤ 2 := by exact_mod_cast gapBelow_le_two m e
  have hm' : (1 : ℚ) ≤ m := by exact_mod_cast hm
  have : (0 : ℚ) < 4 * m - gapBelow m e := by linarith
  unfold middleBelow
  positivity

theorem RoundsTo.pos (h : RoundsTo m e q) (hm : 0 < m) : 0 < q :=
  (middleBelow_pos hm).trans_le h.middleBelow_le

/-- What is rounded to `m * 2 ^ e`, brought to the scale of the mantissa. -/
theorem RoundsTo.scaled_bounds (h : RoundsTo m e q) :
    m - gapBelow m e / 4 ≤ q * 2 ^ (-e) ∧ q * 2 ^ (-e) ≤ m + 1 / 2 ∧
      (m % 2 = 1 → m - gapBelow m e / 4 < q * 2 ^ (-e) ∧ q * 2 ^ (-e) < m + 1 / 2) := by
  obtain ⟨hlow, hhigh, hodd⟩ := h
  have hpow : (0 : ℚ) < 2 ^ e := by positivity
  unfold middleBelow middleAbove at *
  rw [zpow_sub_two] at *
  rw [zpow_neg, ← div_eq_mul_inv]
  simp only [le_div_iff₀ hpow, lt_div_iff₀ hpow, div_le_iff₀ hpow, div_lt_iff₀ hpow]
  refine ⟨by linarith, by linarith, fun hm => ?_⟩
  obtain ⟨hlow', hhigh'⟩ := hodd hm
  constructor <;> linarith

theorem ofQuotient?_of_roundingShift {num den bits c : Nat} {shift : Int} (hnum : num ≠ 0)
    (hshift : roundingShift num den = shift)
    (hround : roundDiv (scaled num den shift).1 (scaled num den shift).2 = c)
    (hbits : (1074 - shift).toNat * leadingBit + c = bits) (hlt : bits < 2047 * leadingBit) :
    ofQuotient? num den = some (Float.ofBits (UInt64.ofNat bits)) := by
  rw [ofQuotient?, if_neg hnum, hshift]
  dsimp only
  rw [hround, hbits, if_pos hlt]

/-- If the quotient has as many bits as the mantissa, it is rounded to the mantissa. -/
theorem ofQuotient?_of_le {num den : Nat} (hlegal : Legal m e) (hnum : num ≠ 0) (hden : 0 < den)
    (h : RoundsTo m e (num / den)) (hbits : (2 ^ 52 : ℚ) ≤ num / den * 2 ^ (-e) ∨ -e = 1074) :
    ofQuotient? num den = some (Float.ofBits (UInt64.ofNat (magnitudeBits m e))) := by
  obtain ⟨hlow, hhigh, hodd⟩ := h.scaled_bounds
  have hgap : (gapBelow m e : ℚ) ≤ 2 := by exact_mod_cast gapBelow_le_two m e
  have hmantissa : (m : ℚ) + 1 ≤ 2 ^ 53 := by exact_mod_cast hlegal.mantissa_lt
  have hsmallest := hlegal.le_exponent
  have hround : roundDiv (scaled num den (-e)).1 (scaled num den (-e)).2 = m := by
    apply roundDiv_eq_of_rat (scaled_snd_pos num hden _)
    · rw [scaled_div]
      linarith
    · rw [scaled_div]
      exact hhigh
    · intro hm
      rw [scaled_div]
      obtain ⟨hlow', hhigh'⟩ := hodd hm
      exact ⟨by linarith, hhigh'⟩
  apply ofQuotient?_of_roundingShift hnum (roundingShift_eq hnum hden (by omega) _ hbits) hround _
    hlegal.magnitudeBits_lt
  · linarith
  · rw [sub_neg_eq_add, add_comm 1074, magnitudeBits]

/-- If it has one bit less, the mantissa is the first one with a leading bit: the quotient is
rounded to twice this mantissa, on the scale of the numbers below it. -/
theorem ofQuotient?_of_lt {num den : Nat} (hlegal : Legal m e) (hnum : num ≠ 0) (hden : 0 < den)
    (h : RoundsTo m e (num / den)) (hbelow : (num / den * 2 ^ (-e) : ℚ) < 2 ^ 52)
    (hne : -e ≠ 1074) :
    ofQuotient? num den = some (Float.ofBits (UInt64.ofNat (magnitudeBits m e))) := by
  obtain ⟨hlow, -, -⟩ := h.scaled_bounds
  have hgap : (gapBelow m e : ℚ) ≤ 2 := by exact_mod_cast gapBelow_le_two m e
  have hsmallest := hlegal.le_exponent
  have hfirst : m = leadingBit := by
    have hle : leadingBit ≤ m := hlegal.leading.resolve_right (by omega)
    have hlt : (m : ℚ) < 2 ^ 52 + 1 := by linarith
    have hlt : m < leadingBit + 1 := by exact_mod_cast hlt
    omega
  rw [gapBelow, if_pos ⟨hfirst, by omega⟩, hfirst] at hlow
  have hdouble : (num / den * 2 ^ (1 - e) : ℚ) = num / den * 2 ^ (-e) * 2 := by
    rw [mul_assoc, ← zpow_add_one₀ two_ne_zero, neg_add_eq_sub]
  generalize (num / den * 2 ^ (-e) : ℚ) = r at *
  norm_num [leadingBit] at hlow hbelow
  have hshift : roundingShift num den = 1 - e := by
    apply roundingShift_eq hnum hden (by omega)
    · rw [hdouble]
      linarith
    · rw [hdouble]
      left
      linarith
  have hround : roundDiv (scaled num den (1 - e)).1 (scaled num den (1 - e)).2 = 2 ^ 53 := by
    apply roundDiv_eq_of_rat (scaled_snd_pos num hden _)
    · rw [scaled_div, hdouble]
      norm_num
      linarith
    · rw [scaled_div, hdouble]
      norm_num
      linarith
    · omega
  apply ofQuotient?_of_roundingShift hnum hshift hround _ hlegal.magnitudeBits_lt
  rw [magnitudeBits, hfirst, leadingBit]
  omega

/-- A quotient is read as the number to which it is rounded. -/
theorem ofQuotient?_eq {num den : Nat} (hlegal : Legal m e) (hm : 0 < m) (hden : 0 < den)
    (h : RoundsTo m e (num / den)) :
    ofQuotient? num den = some (Float.ofBits (UInt64.ofNat (magnitudeBits m e))) := by
  have hnum : num ≠ 0 := by
    rintro rfl
    simpa using h.pos hm
  by_cases hbits : (2 ^ 52 : ℚ) ≤ num / den * 2 ^ (-e) ∨ -e = 1074
  · exact ofQuotient?_of_le hlegal hnum hden h hbits
  · rw [not_or, not_le] at hbits
    exact ofQuotient?_of_lt hlegal hnum hden h hbits.1 hbits.2

/-! ## Decimals -/

/-- Nothing that is rounded to a number other than zero is below the half of the smallest one. -/
theorem RoundsTo.le_of_legal (h : RoundsTo m e q) (hlegal : Legal m e) (hm : 0 < m) :
    (2 : ℚ) ^ (-1075 : Int) ≤ q := by
  have hgap : (gapBelow m e : ℚ) ≤ 2 := by exact_mod_cast gapBelow_le_two m e
  have hm' : (1 : ℚ) ≤ m := by exact_mod_cast hm
  have hpow : (2 : ℚ) ^ (-1076 : Int) ≤ 2 ^ (e - 2) :=
    zpow_le_zpow_right₀ one_le_two (by linarith [hlegal.le_exponent])
  have hquarters : (2 : ℚ) ≤ 4 * m - gapBelow m e := by linarith
  calc (2 : ℚ) ^ (-1075 : Int) = 2 * 2 ^ (-1076 : Int) := by
        rw [← zpow_one_add₀ two_ne_zero, ← sub_eq_add_neg, ← neg_sub]
        rfl
    _ ≤ (4 * m - gapBelow m e) * 2 ^ (e - 2) := by gcongr
    _ ≤ q := h.middleBelow_le

/-- Nothing that is rounded to a number is beyond the power of two above all of them. -/
theorem RoundsTo.ge_of_legal (h : RoundsTo m e q) (hlegal : Legal m e) : q ≤ 2 ^ (1024 : Int) := by
  have hm : (m : ℚ) + 1 ≤ 2 ^ 53 := by exact_mod_cast hlegal.mantissa_lt
  have hpow : (2 : ℚ) ^ (e - 2) ≤ 2 ^ (969 : Int) :=
    zpow_le_zpow_right₀ one_le_two (by linarith [hlegal.exponent_le])
  calc q ≤ (4 * m + 2) * 2 ^ (e - 2) := h.le_middleAbove
    _ ≤ 2 ^ (55 : Int) * 2 ^ (969 : Int) := by
        gcongr
        norm_num at hm ⊢
        linarith
    _ = 2 ^ (1024 : Int) := (zpow_add₀ two_ne_zero 55 969).symm

/-- A number of some binary digits has at least a third as many decimal ones. -/
theorem lt_ten_pow (c : Nat) : c < 10 ^ (c.log2 / 3 + 1) := by
  calc c < 2 ^ (c.log2 + 1) := Nat.lt_log2_self
    _ ≤ 2 ^ (3 * (c.log2 / 3 + 1)) := Nat.pow_le_pow_right two_pos (by omega)
    _ = 8 ^ (c.log2 / 3 + 1) := pow_mul 2 3 _
    _ ≤ 10 ^ (c.log2 / 3 + 1) := Nat.pow_le_pow_left (by omega) _

section Decimal

variable {c : Nat} {k : Int}

theorem RoundsTo.ne_zero (h : RoundsTo m e (c * 10 ^ k)) (hm : 0 < m) : c ≠ 0 := by
  rintro rfl
  simpa using h.pos hm

/-- A decimal that is rounded to a number other than zero is not taken for zero. -/
theorem RoundsTo.le_exponent (h : RoundsTo m e (c * 10 ^ k)) (hlegal : Legal m e) (hm : 0 < m) :
    -400 ≤ k + c.log2 / 3 + 1 := by
  by_contra hk
  rw [not_le] at hk
  have hc : (c : ℚ) ≤ 10 ^ (c.log2 / 3 + 1) := by exact_mod_cast (lt_ten_pow c).le
  have hpow : (10 : ℚ) ^ (-400 : Int) < 2 ^ (-1075 : Int) := by
    rw [zpow_neg, zpow_neg, inv_lt_inv₀ (by positivity) (by positivity)]
    exact_mod_cast (by decide +kernel : (2 : Nat) ^ 1075 < 10 ^ 400)
  have hlt : (c * 10 ^ k : ℚ) < 2 ^ (-1075 : Int) := by
    calc (c * 10 ^ k : ℚ) ≤ 10 ^ (c.log2 / 3 + 1) * 10 ^ k := by gcongr
      _ = 10 ^ (k + c.log2 / 3 + 1 : Int) := by
          rw [← zpow_natCast, ← zpow_add₀ (by norm_num)]
          congr 1
          push_cast
          ring
      _ ≤ 10 ^ (-400 : Int) := zpow_le_zpow_right₀ (by norm_num) hk.le
      _ < 2 ^ (-1075 : Int) := hpow
  exact absurd (h.le_of_legal hlegal hm) hlt.not_ge

/-- Nor for an infinity. -/
theorem RoundsTo.exponent_le (h : RoundsTo m e (c * 10 ^ k)) (hlegal : Legal m e) (hm : 0 < m) :
    k ≤ 400 := by
  by_contra hk
  rw [not_le] at hk
  have hc : (1 : ℚ) ≤ c := by exact_mod_cast Nat.pos_of_ne_zero (h.ne_zero hm)
  have hlt : (2 : ℚ) ^ (1024 : Int) < c * 10 ^ k := by
    calc (2 : ℚ) ^ (1024 : Int) < 10 ^ (400 : Int) := by
          exact_mod_cast (by decide +kernel : (2 : Nat) ^ 1024 < 10 ^ 400)
      _ ≤ 10 ^ k := zpow_le_zpow_right₀ (by norm_num) hk.le
      _ ≤ c * 10 ^ k := le_mul_of_one_le_left (by positivity) hc
  exact absurd (h.ge_of_legal hlegal) hlt.not_ge

/-- A decimal is read as the number to which it is rounded. -/
theorem ofDecimal_eq {negative : Bool} (hlegal : Legal m e) (hm : 0 < m)
    (h : RoundsTo m e (c * 10 ^ k)) :
    let magnitude := Float.ofBits (UInt64.ofNat (magnitudeBits m e))
    ofDecimal negative c k = if negative then -magnitude else magnitude := by
  intro magnitude
  have hlow : ¬(c = 0 ∨ k + c.log2 / 3 + 1 < -400) :=
    not_or.mpr ⟨h.ne_zero hm, (h.le_exponent hlegal hm).not_gt⟩
  have hquotient : ofQuotient? (c * Nat.pow 10 k.toNat) (Nat.pow 10 (-k).toNat) =
      some magnitude := by
    apply ofQuotient?_eq hlegal hm (Nat.pow_pos (by decide))
    convert h using 1
    rw [zpow_eq_div (by norm_num) k]
    simp only [Nat.pow_eq]
    push_cast
    ring
  rw [ofDecimal, if_neg hlow, if_neg (h.exponent_le hlegal hm).not_gt, hquotient,
    Option.getD_some]

end Decimal

end Lathe.Number
