import Lathe.Fault
import Lathe.Program.Numeral

/-!
# Numbers that are no real numbers

A number has an integer part unless it is an infinity or not a number. Which of these it is can be
read off its bit pattern, and a numeral never denotes what is not a number: at worst it denotes an
infinity.

* `truncate_eq_error_iff`: the numbers that have no integer part, with the reason;
* `Numeral.isNaN_value`: no numeral is read as what is not a number.
-/

namespace Lathe

namespace Number

open Float.Model

variable {x : Float}

/-! ## Bit patterns -/

section Bits

variable {b : BitVec Format.binary64.numBits}

theorem unpackExponent_eq_iff :
    UnpackedFloat.unpackExponent b = -1#_ ↔ b.toNat / leadingBit % 2048 = 2047 := by
  have hfield : (UnpackedFloat.unpackExponent b).toNat = b.toNat / leadingBit % 2048 := by
    simp [UnpackedFloat.unpackExponent, leadingBit, Nat.shiftRight_eq_div_pow]
  rw [← BitVec.toNat_inj, hfield]
  rfl

theorem unpackMantissa_eq_iff :
    UnpackedFloat.unpackMantissa b = 0#_ ↔ b.toNat % leadingBit = 0 := by
  have hfraction : (UnpackedFloat.unpackMantissa b).toNat = b.toNat % leadingBit := by
    simp [UnpackedFloat.unpackMantissa, leadingBit]
  rw [← BitVec.toNat_inj, hfraction]
  rfl

/-- The bit patterns of real numbers are those with another exponent than the largest one. -/
theorem isFinite_unpack_of_ne (h : UnpackedFloat.unpackExponent b ≠ -1#_) :
    (UnpackedFloat.unpack .binary64 b).isFinite = true := by
  unfold UnpackedFloat.unpack
  dsimp only
  rw [if_neg h]
  -- subnormal numbers, of which zero is one, and normal ones
  by_cases hexponent : UnpackedFloat.unpackExponent b = 0#_
  · rw [if_pos hexponent]
    by_cases hmantissa : UnpackedFloat.unpackMantissa b = 0#_
    · rw [dif_pos hmantissa]
      rfl
    · rw [dif_neg hmantissa]
      rfl
  · rw [if_neg hexponent]
    rfl

end Bits

theorem isNaN_of_isFinite {u : UnpackedFloat} (h : u.isFinite = true) : u.isNaN = false := by
  cases u <;> first | rfl | cases h

theorem isInf_of_isFinite {u : UnpackedFloat} (h : u.isFinite = true) : u.isInf = false := by
  cases u <;> first | rfl | cases h

/-- Whether a number is an infinity or not a number, by its bit pattern. -/
theorem isInf_and_isNaN (x : Float) :
    let bits := x.toBits.toNat
    x.isInf = decide (bits / leadingBit % 2048 = 2047 ∧ bits % leadingBit = 0) ∧
      x.isNaN = decide (bits / leadingBit % 2048 = 2047 ∧ bits % leadingBit ≠ 0) := by
  intro bits
  have hexponent : @UnpackedFloat.unpackExponent .binary64 x.toBits.toBitVec = -1#_ ↔
      bits / leadingBit % 2048 = 2047 := unpackExponent_eq_iff
  have hmantissa : @UnpackedFloat.unpackMantissa .binary64 x.toBits.toBitVec = 0#_ ↔
      bits % leadingBit = 0 := unpackMantissa_eq_iff
  show (UnpackedFloat.unpack .binary64 x.toBits.toBitVec).isInf = _ ∧
    (UnpackedFloat.unpack .binary64 x.toBits.toBitVec).isNaN = _
  by_cases hfield : bits / leadingBit % 2048 = 2047
  · unfold UnpackedFloat.unpack
    dsimp only
    rw [if_pos (hexponent.mpr hfield)]
    by_cases hfraction : bits % leadingBit = 0
    · rw [if_pos (hmantissa.mpr hfraction), decide_eq_true ⟨hfield, hfraction⟩,
        decide_eq_false fun h => h.2 hfraction]
      exact ⟨rfl, rfl⟩
    · rw [if_neg (mt hmantissa.mp hfraction), decide_eq_false fun h => hfraction h.2,
        decide_eq_true ⟨hfield, hfraction⟩]
      exact ⟨rfl, rfl⟩
  · have hfinite := isFinite_unpack_of_ne (mt hexponent.mp hfield)
    rw [isInf_of_isFinite hfinite, isNaN_of_isFinite hfinite]
    simp [hfield]

end Number

/-- A number has no integer part exactly if it is an infinity or not a number, and the reason says
which of them it is. -/
theorem truncate_eq_error_iff {x : Float} {fault : Fault} :
    truncate x = .error fault ↔
      fault = .notReal .infinite ∧ x.isInf = true ∨ fault = .notReal .nan ∧ x.isNaN = true := by
  obtain ⟨hinf, hnan⟩ := Number.isInf_and_isNaN x
  rw [hinf, hnan]
  unfold truncate Number.truncate Number.exact
  dsimp only
  by_cases hfield : x.toBits.toNat / Number.leadingBit % 2048 = 2047
  · by_cases hfraction : x.toBits.toNat % Number.leadingBit = 0
    · simp [hfield, hfraction, eq_comm]
    · simp [hfield, hfraction, eq_comm]
  · by_cases hzero : x.toBits.toNat / Number.leadingBit % 2048 = 0
    · simp [hzero]
    · simp [hfield, hzero]

namespace Number

open Float.Model

/-! ## Reading decimals -/

/-- Only what is not a number is packed as what is not a number. -/
theorem isNaN_unpack_pack (u : UnpackedFloat) : (pack u).unpack.isNaN = u.isNaN := by
  show (UnpackedFloat.unpack .binary64 (UnpackedFloat.pack .binary64 u)).isNaN = _
  fun_cases UnpackedFloat.pack .binary64 u with
  | case1 => rfl
  | case2 s => cases s <;> rfl
  | case3 s => cases s <;> rfl
  | case4 s m e hm biased h => cases s <;> rfl
  | case5 s m e hm bits biased h hnormal =>
    apply isNaN_of_isFinite
    apply isFinite_unpack_of_ne
    rw [UnpackedFloat.unpackExponent_packComponents]
    -- the exponent is below the largest one
    intro hexponent
    have hbiased : biased % 2048 = 2047 := congrArg BitVec.toNat hexponent
    change ¬2048 ≤ biased + 1 at h
    omega
  | case6 s m e hm bits biased h hnormal =>
    apply isNaN_of_isFinite
    apply isFinite_unpack_of_ne
    rw [UnpackedFloat.unpackExponent_packComponents]
    decide

theorem isNaN_neg (x : Float) : (-x).isNaN = x.isNaN := by
  refine (isNaN_unpack_pack x.toModel.unpack.neg).trans ?_
  show _ = x.toModel.unpack.isNaN
  cases x.toModel.unpack <;> rfl

/-- A bit pattern below that of the infinity is that of a number. -/
theorem isNaN_ofBits {bits : Nat} (h : bits < 2047 * leadingBit) :
    (Float.ofBits (UInt64.ofNat bits)).isNaN = false := by
  refine (isNaN_unpack_pack (UnpackedFloat.unpack .binary64 (UInt64.ofNat bits).toBitVec)).trans ?_
  apply isNaN_of_isFinite
  apply isFinite_unpack_of_ne
  rw [ne_eq, unpackExponent_eq_iff]
  have hbits : (UInt64.ofNat bits).toBitVec.toNat = bits := by
    show bits % 2 ^ 64 = bits
    unfold leadingBit at h
    omega
  rw [hbits]
  unfold leadingBit at h ⊢
  omega

theorem isNaN_of_ofQuotient? {num den : Nat} (h : ofQuotient? num den = some x) :
    x.isNaN = false := by
  unfold ofQuotient? at h
  split at h
  · cases h
    decide +kernel
  · dsimp only at h
    split at h
    next hbits =>
      cases h
      exact isNaN_ofBits hbits
    next => cases h

/-- No decimal is read as what is not a number. -/
theorem isNaN_ofDecimal (negative : Bool) (m : Nat) (e : Int) :
    (ofDecimal negative m e).isNaN = false := by
  have hinfinity : (1.0 / 0.0 : Float).isNaN = false := by decide +kernel
  unfold ofDecimal
  dsimp only
  rw [apply_ite Float.isNaN, isNaN_neg, ite_self]
  split
  · decide +kernel
  split
  · exact hinfinity
  cases hquotient : ofQuotient? (m * Nat.pow 10 e.toNat) (Nat.pow 10 (-e).toNat) with
  | none => exact hinfinity
  | some x => exact isNaN_of_ofQuotient? hquotient

end Number

/-- No numeral denotes what is not a number. -/
theorem Numeral.isNaN_value (numeral : List Char) : (value numeral).isNaN = false :=
  Number.isNaN_ofDecimal _ _ _

end Lathe
