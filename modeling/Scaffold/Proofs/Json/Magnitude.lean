import Mathlib

/-!
How large the double nearest to an integer gets. The exponent is followed through the rounding of a
mantissa: it grows by little more than the bits of the mantissa.
-/

namespace Scaffold.Magnitude

open Float.Model Float.Model.UnpackedFloat

/-- Zero, or a number with an exponent of at most `bound`. -/
inductive ExponentAtMost (bound : Int) : UnpackedFloat → Prop where
  | zero (sign : Sign) : ExponentAtMost bound (.zero sign)
  | finite {sign : Sign} {mantissa : Nat} {exponent : Int} {positive : 0 < mantissa}
      (le : exponent ≤ bound) : ExponentAtMost bound (.finite sign mantissa exponent positive)

namespace ExponentAtMost

variable {bound : Int} {u : UnpackedFloat}

theorem mono {b : Int} (h : ExponentAtMost bound u) (le : bound ≤ b) :
    ExponentAtMost b u := by
  cases h with
  | zero sign => exact .zero sign
  | finite small => exact .finite (Int.le_trans small le)

theorem isFinite (h : ExponentAtMost bound u) : u.isFinite := by
  cases h <;> rfl

theorem neg (h : ExponentAtMost bound u) : ExponentAtMost bound u.neg := by
  cases h with
  | zero sign => exact .zero _
  | finite small => exact .finite small

end ExponentAtMost

/-! The sizes of the format. -/

theorem mantissaBits_binary64 : Format.binary64.mantissaBits = 53 := rfl

theorem exponentBias_binary64 : Format.binary64.exponentBias = 1023 := rfl

variable {m n bits : Nat} {e f bound : Int}

/-! Rounding. -/

theorem mantissa_ofMantissaAndAccuracy (m : Nat) (accuracy : Accuracy) :
    (ExtendedMantissa.ofMantissaAndAccuracy m accuracy).mantissa = m := by
  unfold ExtendedMantissa.ofMantissaAndAccuracy
  split <;> rfl

theorem mantissa_shiftRight_le (em : ExtendedMantissa) (n : Nat) :
    (em >>> n).mantissa ≤ em.mantissa := by
  change (n.repeat ExtendedMantissa.shiftRightOne em).mantissa ≤ em.mantissa
  induction n with
  | zero => exact Nat.le_refl _
  | succ n ih => exact Nat.le_trans (Nat.div_le_self _ _) ih

theorem roundedMantissa_le (em : ExtendedMantissa) : em.roundedMantissa ≤ em.mantissa + 1 := by
  unfold ExtendedMantissa.roundedMantissa
  cases em.accuracy with
  | exact => exact Nat.le_succ _
  | inexact side => cases side <;> simp only [Accuracy.roundToNearestEven] <;> omega

theorem mantissa_shiftToTargetExponent_le (accuracy : Accuracy) :
    (shiftToTargetExponent .binary64 m e accuracy).1.mantissa ≤ m := by
  have shifted := mantissa_shiftRight_le (ExtendedMantissa.ofMantissaAndAccuracy m accuracy)
    (Format.binary64.targetExponent (totalExponent m e) - e).toNat
  rwa [mantissa_ofMantissaAndAccuracy] at shifted

theorem exponent_shiftToTargetExponent_le (accuracy : Accuracy) (low : -1074 ≤ bound)
    (size : m < 2 ^ bits) (le : e ≤ bound) :
    (shiftToTargetExponent .binary64 m e accuracy).2 ≤ bound + bits := by
  have log : m.log2 ≤ bits := by
    rcases Nat.eq_zero_or_pos m with rfl | positive
    · simp
    · exact Nat.le_of_lt ((Nat.log2_lt (Nat.pos_iff_ne_zero.1 positive)).2 size)
  change e + ((Format.binary64.targetExponent (totalExponent m e) - e).toNat : Int) ≤ bound + bits
  simp only [Format.targetExponent, totalExponent, Format.mantissaBits, Format.minExponent]
  omega

theorem exponentAtMost_roundWithAccuracy (sign : Sign) (accuracy : Accuracy)
    (low : -1074 ≤ bound) (size : m < 2 ^ bits) (le : e ≤ bound) :
    ExponentAtMost (bound + 2 * bits + 1) (roundWithAccuracy .binary64 sign m e accuracy) := by
  have first := exponent_shiftToTargetExponent_le accuracy low size le
  have rounded := roundedMantissa_le (shiftToTargetExponent .binary64 m e accuracy).1
  have shifted := mantissa_shiftToTargetExponent_le (m := m) (e := e) accuracy
  unfold roundWithAccuracy
  generalize shiftToTargetExponent .binary64 m e accuracy = em at first rounded shifted
  have grown : em.1.roundedMantissa < 2 ^ (bits + 1) := by
    rw [Nat.pow_succ]
    omega
  -- the second shift makes up for a mantissa that rounding has carried over
  have second := exponent_shiftToTargetExponent_le .exact (by omega) grown first
  dsimp only
  split
  · exact .zero sign
  · exact .finite (Int.le_trans second (by push_cast; omega))

theorem exponentAtMost_round (sign : Sign) (size : m < 2 ^ bits) :
    ExponentAtMost (2 * bits + 105) (UnpackedFloat.round .binary64 sign m 0) := by
  unfold UnpackedFloat.round decreaseExponent
  generalize spread : (0 - Format.binary64.targetExponent (totalExponent m 0)).toNat = shift
  have short : shift ≤ 52 := by
    simp only [Format.targetExponent, totalExponent, Format.mantissaBits] at spread
    omega
  have grown : m <<< shift < 2 ^ (bits + 52) := by
    rw [Nat.shiftLeft_eq, Nat.pow_add]
    exact Nat.mul_lt_mul_of_lt_of_le size (Nat.pow_le_pow_right (by decide) short)
      (Nat.two_pow_pos _)
  have below : 0 - (shift : Int) ≤ 0 := by omega
  have rounded := exponentAtMost_roundWithAccuracy sign .exact (by decide) grown below
  rw [← spread] at rounded
  exact rounded.mono (by push_cast; omega)

/-! Packing. -/

theorem unpack_pack (u : UnpackedFloat) :
    (Float.Model.pack u).unpack =
      UnpackedFloat.unpack .binary64 (UnpackedFloat.pack .binary64 u) := by
  unfold Float.Model.unpack Float.Model.pack
  rfl

/-- An exponent short of the last one, which is that of the infinities, stays what it is. -/
theorem exponentAtMost_unpack_packComponents {sign : Sign} {exponent : BitVec 11}
    {mantissa : BitVec 52} (le : exponent.toNat ≤ bound + 1075) (low : -1074 ≤ bound)
    (high : bound ≤ 971) :
    ExponentAtMost bound
      (UnpackedFloat.unpack .binary64 (packComponents .binary64 sign exponent mantissa)) := by
  have notLast : exponent ≠ -1#11 := by
    rintro rfl
    have last : (-1#11 : BitVec 11).toNat = 2047 := rfl
    omega
  unfold UnpackedFloat.unpack
  simp only [unpackMantissa_packComponents, unpackExponent_packComponents, if_neg notLast,
    exponentBias_binary64]
  split
  · split
    · exact .zero _
    · rename_i zero _
      subst zero
      refine .finite ?_
      rw [BitVec.toNat_zero]
      omega
  · refine .finite ?_
    omega

theorem exponentAtMost_pack {u : UnpackedFloat} (h : ExponentAtMost bound u) (low : -1074 ≤ bound)
    (high : bound ≤ 971) : ExponentAtMost bound (Float.Model.pack u).unpack := by
  rw [unpack_pack]
  cases h with
  | zero sign =>
      rw [UnpackedFloat.pack, packedZero]
      refine exponentAtMost_unpack_packComponents ?_ low high
      rw [BitVec.ofNat_eq_ofNat, BitVec.toNat_zero]
      omega
  | @finite sign mantissa exponent positive le =>
      rw [UnpackedFloat.pack]
      have bias := exponentBias_binary64
      dsimp only
      split
      · omega
      · split
        · refine exponentAtMost_unpack_packComponents ?_ low high
          have stored := Nat.mod_le
            (exponent + Format.binary64.exponentBias + (52 : Nat)).toNat (2 ^ 11)
          rw [BitVec.toNat_ofNat]
          omega
        · refine exponentAtMost_unpack_packComponents ?_ low high
          rw [BitVec.toNat_zero]
          omega

theorem mantissa_unpack_lt {x : Float.Model} {sign : Sign} {positive : 0 < m}
    (unpacked : x.unpack = .finite sign m e positive) : m < 2 ^ 53 := by
  unfold Float.Model.unpack UnpackedFloat.unpack at unpacked
  dsimp only at unpacked
  split at unpacked
  · split at unpacked <;> cases unpacked
  · split at unpacked
    · split at unpacked
      · cases unpacked
      · cases unpacked
        exact Nat.lt_trans (BitVec.isLt _) (by decide)
    · cases unpacked
      exact BitVec.isLt _

/-! Whole numbers. -/

theorem exponentAtMost_ofNat (size : n < 2 ^ bits) :
    ExponentAtMost (2 * bits + 105) (UnpackedFloat.ofNat .binary64 n) := by
  unfold UnpackedFloat.ofNat UnpackedFloat.ofInt UnpackedFloat.normalize
  split
  · refine exponentAtMost_round .negative ?_
    have nothing : (-(n : Int)).toNat = 0 := by omega
    rw [nothing]
    exact Nat.two_pow_pos _
  · exact .zero _
  · exact exponentAtMost_round .positive size

theorem exponentAtMost_mul_finite {s t : Sign} {hm : 0 < m} {hn : 0 < n}
    (size : m * n < 2 ^ bits) (le : e + f ≤ bound) (low : -1074 ≤ bound) :
    ExponentAtMost (bound + 2 * bits + 1)
      (UnpackedFloat.mul .binary64 (.finite s m e hm) (.finite t n f hn)) := by
  unfold UnpackedFloat.mul
  exact exponentAtMost_roundWithAccuracy (s * t) .exact low size le

theorem exponentAtMost_ofScientific (size : n < 2 ^ bits) :
    ExponentAtMost (2 * bits + 107) (UnpackedFloat.ofScientific .binary64 n 0) := by
  unfold UnpackedFloat.ofScientific
  split
  · exact .zero _
  · split
    · rename_i large
      have range : (0 : Int) < 2 ^ Format.binary64.exponentBits := Int.pow_pos (by decide)
      exact absurd large (Int.not_lt_of_ge (Int.le_of_lt range))
    · split
      · exact .zero _
      · rw [if_pos (Int.le_refl 0)]
        have grown : n <<< Format.binary64.mantissaBits * 10 ^ (0 : Int).toNat <
            2 ^ (bits + 53) := by
          rw [mantissaBits_binary64, Nat.shiftLeft_eq, Nat.pow_add, Int.toNat_zero, Nat.pow_zero,
            Nat.mul_one]
          exact Nat.mul_lt_mul_of_pos_right size (by decide)
        have below : -(Format.binary64.mantissaBits : Int) + 0 ≤ 0 := by omega
        exact (exponentAtMost_mul_finite grown below (by decide)).mono (by push_cast; omega)

theorem unpack_one :
    (Float.ofBits 0x3FF0000000000000).toModel.unpack =
      .finite .positive (2 ^ 52) (-52) (by decide) := rfl

theorem exponentAtMost_mul_one {x : Float.Model} (h : ExponentAtMost bound x.unpack)
    (low : -1022 ≤ bound) :
    ExponentAtMost (bound + 159)
      (UnpackedFloat.mul .binary64 x.unpack (.finite .positive (2 ^ 52) (-52) (by decide))) := by
  generalize unpacked : x.unpack = u at h
  cases h with
  | zero sign => exact .zero _
  | @finite sign mantissa exponent positive le =>
      have size : mantissa * 2 ^ 52 < 2 ^ 105 := by
        have small := mantissa_unpack_lt unpacked
        omega
      have below : exponent + -52 ≤ bound - 52 := by omega
      exact (exponentAtMost_mul_finite size below (by omega)).mono (by omega)

theorem exponentAtMost_float_ofNat (size : n < 2 ^ 64) :
    ExponentAtMost 400 (Float.ofNat n).toModel.unpack := by
  change ExponentAtMost 400 (Float.ofScientific n false 0).toModel.unpack
  unfold Float.ofScientific
  split
  · have whole : n.toUInt64.toNat < 2 ^ 64 := n.toUInt64.toNat_lt
    have left := exponentAtMost_pack (exponentAtMost_ofNat whole) (by decide) (by decide)
    have product := (exponentAtMost_mul_one left (by decide)).mono (b := 400) (by decide)
    rw [← unpack_one] at product
    exact exponentAtMost_pack product (by decide) (by decide)
  · have scaled := (exponentAtMost_ofScientific size).mono (b := 400) (by decide)
    exact exponentAtMost_pack scaled (by decide) (by decide)

/-- The double nearest to a whole number of 64 bits is finite, and so is that of its negation. -/
theorem isFinite_ofInt {k : Int} (size : k.natAbs < 2 ^ 64) : (Float.ofInt k).isFinite := by
  cases k with
  | ofNat n => exact (exponentAtMost_float_ofNat size).isFinite
  | negSucc n =>
      have positive := exponentAtMost_float_ofNat (n := n.succ) size
      exact (exponentAtMost_pack positive.neg (by decide) (by decide)).isFinite

end Scaffold.Magnitude
