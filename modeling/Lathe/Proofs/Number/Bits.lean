import Lathe.Proofs.Number.Infinite
import Mathlib

/-!
# Bit patterns of numbers

A number is determined by its bit pattern, and the bit pattern by a sign, an exponent and a
mantissa. Without the sign, the bit pattern of a number `m * 2 ^ e` is `(e + 1074) * 2 ^ 52 + m`: if
there is a leading bit, it adds one to the exponent in front of it.

* `pack_unpack_of_ne`: what is taken apart and put together again is as it was;
* `Legal`: the mantissas and exponents that numbers have;
* `signed_ofBits`: a number from its sign, mantissa and exponent;
* `eq_infinity_of_exact`: there is one infinity of each sign.
-/

namespace Lathe.Number

open Float.Model

/-! ## Fields -/

section Fields

variable (b : BitVec Format.binary64.numBits)

theorem toNat_unpackExponent :
    (UnpackedFloat.unpackExponent b).toNat = b.toNat / leadingBit % 2048 := by
  simp [UnpackedFloat.unpackExponent, leadingBit, Nat.shiftRight_eq_div_pow]

theorem toNat_unpackMantissa : (UnpackedFloat.unpackMantissa b).toNat = b.toNat % leadingBit := by
  simp [UnpackedFloat.unpackMantissa, leadingBit]

theorem toNat_unpackSign :
    (UnpackedFloat.unpackSign b).toNat = b.toNat / leadingBit / 2048 := by
  have hb : b.toNat < 2 ^ 64 := b.isLt
  have hsign : (UnpackedFloat.unpackSign b).toNat = b.toNat / 2 ^ 63 % 2 := by
    simp [UnpackedFloat.unpackSign, Nat.shiftRight_eq_div_pow]
  rw [hsign, leadingBit]
  omega

variable {b}

/-- What is taken apart and put together again is as it was, if it is a real number. -/
theorem pack_unpack_of_ne (h : UnpackedFloat.unpackExponent b ≠ -1#_) :
    UnpackedFloat.pack .binary64 (UnpackedFloat.unpack .binary64 b) = b := by
  rw [UnpackedFloat.pack_unpack b (by decide), if_neg]
  rw [UnpackedFloat.isNaNBits, decide_eq_true_eq]
  exact fun hnan => h hnan.1

theorem unpack_eq_neg {a : BitVec Format.binary64.numBits}
    (hexponent : UnpackedFloat.unpackExponent a = UnpackedFloat.unpackExponent b)
    (hmantissa : UnpackedFloat.unpackMantissa a = UnpackedFloat.unpackMantissa b)
    (hsign : UnpackedFloat.Sign.ofBitVec (UnpackedFloat.unpackSign a) =
      -UnpackedFloat.Sign.ofBitVec (UnpackedFloat.unpackSign b)) :
    UnpackedFloat.unpack .binary64 a = (UnpackedFloat.unpack .binary64 b).neg := by
  simp only [UnpackedFloat.unpack, hexponent, hmantissa, hsign]
  split_ifs <;> rfl

/-- With the first bit set, a bit pattern is that of the negated number. -/
theorem unpack_of_toNat_eq_add {a : BitVec Format.binary64.numBits} (hb : b.toNat < 2 ^ 63)
    (ha : a.toNat = 2 ^ 63 + b.toNat) :
    UnpackedFloat.unpack .binary64 a = (UnpackedFloat.unpack .binary64 b).neg := by
  apply unpack_eq_neg
  · apply BitVec.eq_of_toNat_eq
    rw [toNat_unpackExponent, toNat_unpackExponent, ha, leadingBit]
    omega
  · apply BitVec.eq_of_toNat_eq
    rw [toNat_unpackMantissa, toNat_unpackMantissa, ha, leadingBit]
    omega
  · have hpositive : UnpackedFloat.unpackSign b = 0#1 := by
      apply BitVec.eq_of_toNat_eq
      rw [toNat_unpackSign, leadingBit, BitVec.toNat_ofNat]
      omega
    have hnegative : UnpackedFloat.unpackSign a = 1#1 := by
      apply BitVec.eq_of_toNat_eq
      rw [toNat_unpackSign, leadingBit, BitVec.toNat_ofNat]
      omega
    rw [hpositive, hnegative]
    rfl

end Fields

/-! ## Numbers -/

theorem toBits_ofBits {bits : UInt64} (h : bits.toNat / leadingBit % 2048 ≠ 2047) :
    (Float.ofBits bits).toBits = bits :=
  congrArg UInt64.ofBitVec (pack_unpack_of_ne (mt unpackExponent_eq_iff.mp h))

/-- Negation sets the first bit. -/
theorem toBits_neg_ofBits {bits : Nat} (h : bits < 2047 * leadingBit) :
    (-Float.ofBits (UInt64.ofNat bits)).toBits = UInt64.ofNat (2 ^ 63 + bits) := by
  have hlt : bits < 2 ^ 63 := Nat.lt_of_lt_of_le h (by decide)
  have hbits : (UInt64.ofNat bits).toNat = bits :=
    UInt64.toNat_ofNat_of_lt' (show bits < 2 ^ 64 by omega)
  have hsigned : (UInt64.ofNat (2 ^ 63 + bits)).toNat = 2 ^ 63 + bits :=
    UInt64.toNat_ofNat_of_lt' (show 2 ^ 63 + bits < 2 ^ 64 by omega)
  have hpositive : (Float.ofBits (UInt64.ofNat bits)).toBits = UInt64.ofNat bits := by
    apply toBits_ofBits
    rw [hbits]
    unfold leadingBit at h ⊢
    omega
  have hunpack : UnpackedFloat.unpack .binary64 (UInt64.ofNat (2 ^ 63 + bits)).toBitVec =
      (UnpackedFloat.unpack .binary64 (UInt64.ofNat bits).toBitVec).neg := by
    apply unpack_of_toNat_eq_add
    · exact Nat.lt_of_le_of_lt (Nat.le_of_eq hbits) hlt
    · exact hsigned.trans (congrArg _ hbits.symm)
  calc (-Float.ofBits (UInt64.ofNat bits)).toBits
      = .ofBitVec (UnpackedFloat.pack .binary64 (UnpackedFloat.unpack .binary64
          (Float.ofBits (UInt64.ofNat bits)).toBits.toBitVec).neg) := rfl
    _ = (Float.ofBits (UInt64.ofNat (2 ^ 63 + bits))).toBits := by
        rw [hpositive, ← hunpack]
        rfl
    _ = UInt64.ofNat (2 ^ 63 + bits) := by
        apply toBits_ofBits
        rw [hsigned]
        unfold leadingBit at h ⊢
        omega

/-- The mantissas and exponents that numbers have. -/
structure Legal (m : Nat) (e : Int) : Prop where
  mantissa_lt : m < 2 * leadingBit
  le_exponent : -1074 ≤ e
  exponent_le : e ≤ 971
  leading : leadingBit ≤ m ∨ e = -1074

variable {x : Float} {negative : Bool} {m : Nat} {e : Int}

/-- The bit pattern of a number without its sign. -/
def magnitudeBits (m : Nat) (e : Int) : Nat :=
  (e + 1074).toNat * leadingBit + m

theorem Legal.magnitudeBits_lt (h : Legal m e) : magnitudeBits m e < 2047 * leadingBit := by
  obtain ⟨hm, hlow, hhigh, -⟩ := h
  unfold magnitudeBits
  unfold leadingBit at hm ⊢
  omega

theorem legal_of_exact (h : exact x = .finite negative m e) : Legal m e := by
  unfold exact at h
  dsimp only at h
  split_ifs at h with hlargest hfraction hsmallest
  · obtain ⟨-, rfl, rfl⟩ := Exact.finite.inj h
    have hlt := Nat.mod_lt x.toBits.toNat (show 0 < leadingBit by decide)
    exact ⟨by omega, by omega, by omega, .inr rfl⟩
  · obtain ⟨-, rfl, rfl⟩ := Exact.finite.inj h
    have hlt := Nat.mod_lt x.toBits.toNat (show 0 < leadingBit by decide)
    exact ⟨by omega, by omega, by omega, .inl (by omega)⟩

/-- The bit pattern of a real number, by its sign, its mantissa and its exponent. -/
theorem toBits_of_exact (h : exact x = .finite negative m e) :
    x.toBits.toNat = (if negative then 2 ^ 63 else 0) + magnitudeBits m e := by
  have hbits : x.toBits.toNat < 2 ^ 64 := x.toBits.toNat_lt
  unfold exact at h
  dsimp only at h
  split_ifs at h with hlargest hfraction hsmallest
  all_goals
    obtain ⟨hnegative, rfl, rfl⟩ := Exact.finite.inj h
    subst hnegative
    simp only [decide_eq_true_eq]
    unfold magnitudeBits
    unfold leadingBit at *
    split <;> omega

/-- A real number is that of its bit pattern without the sign, negated if it has the sign. -/
theorem signed_ofBits (h : exact x = .finite negative m e) :
    let magnitude := Float.ofBits (UInt64.ofNat (magnitudeBits m e))
    (if negative then -magnitude else magnitude) = x := by
  intro magnitude
  have hlt := (legal_of_exact h).magnitudeBits_lt
  have hbits := toBits_of_exact h
  apply Float.toBits_inj.mp
  apply UInt64.toNat_inj.mp
  rw [hbits]
  cases negative with
  | true =>
    rw [if_pos rfl, if_pos rfl, toBits_neg_ofBits hlt]
    unfold leadingBit at hlt
    exact UInt64.toNat_ofNat_of_lt' (show 2 ^ 63 + magnitudeBits m e < 2 ^ 64 by omega)
  | false =>
    have htoNat : (UInt64.ofNat (magnitudeBits m e)).toNat = magnitudeBits m e :=
      UInt64.toNat_ofNat_of_lt' (Nat.lt_of_lt_of_le hlt (by decide))
    rw [if_neg Bool.false_ne_true, if_neg Bool.false_ne_true, Nat.zero_add, toBits_ofBits, htoNat]
    rw [htoNat]
    unfold leadingBit at hlt ⊢
    omega

/-- There is one infinity of each sign. -/
theorem eq_infinity_of_exact (h : exact x = .infinite negative) :
    x = if negative then -1.0 / 0.0 else 1.0 / 0.0 := by
  have hpositive : (1.0 / 0.0 : Float).toBits = 0x7ff0000000000000 := by decide +kernel
  have hnegative : (-1.0 / 0.0 : Float).toBits = 0xfff0000000000000 := by decide +kernel
  have hbits : x.toBits.toNat < 2 ^ 64 := x.toBits.toNat_lt
  unfold exact at h
  dsimp only at h
  split_ifs at h with hlargest hfraction
  · obtain rfl := Exact.infinite.inj h
    apply Float.toBits_inj.mp
    apply UInt64.toNat_inj.mp
    simp only [decide_eq_true_eq]
    unfold leadingBit at *
    split
    · rw [hnegative]
      exact (by omega : x.toBits.toNat = 0xfff0000000000000)
    · rw [hpositive]
      exact (by omega : x.toBits.toNat = 0x7ff0000000000000)

end Lathe.Number
