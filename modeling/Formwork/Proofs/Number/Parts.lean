/-
  Formwork.Proofs.Number.Parts: the exact value of a float, and the operations on floats.

  The operations of the language unpack their operands, compute, and pack the result. What they
  unpack is what `parts` decodes (`unpack_eq_parts`): the two read the same bits. Packing keeps
  a result finite as long as its power of two is in range (`isFinite_pack`), so whether the result
  of an operation is finite can be told before it is packed.

  - `isFinite_iff`, `isInf_iff`, `isNaN_iff`: the three kinds of floats, by their parts.
  - `parts_bounds`: how large the significand and the power of two of a float may be.
  - `isFinite_neg`: a float and its negation are finite together.
-/

import Formwork.Number.Binary64
import Mathlib

namespace Formwork.Binary64

open Float.Model (UnpackedFloat)
open Float.Model.UnpackedFloat

variable {x : Float} {negative : Bool} {m : Nat} {q : Int}

/-! ## Fields -/

theorem hiddenBit_pos : 0 < hiddenBit := by
  decide

def signOf (negative : Bool) : Sign := if negative then .negative else .positive

theorem toNat_unpackExponent (b : BitVec 64) :
    (@unpackExponent .binary64 b).toNat = b.toNat / hiddenBit % 2048 := by
  simp [unpackExponent, BitVec.extractLsb, BitVec.extractLsb', Nat.shiftRight_eq_div_pow, hiddenBit]

theorem toNat_unpackMantissa (b : BitVec 64) :
    (@unpackMantissa .binary64 b).toNat = b.toNat % hiddenBit := by
  simp [unpackMantissa, BitVec.extractLsb, BitVec.extractLsb', Nat.shiftRight_eq_div_pow, hiddenBit]

theorem ofBitVec_unpackSign (b : BitVec 64) :
    Sign.ofBitVec (@unpackSign .binary64 b) = signOf (decide (0x8000000000000000 ≤ b.toNat)) := by
  have hs : (@unpackSign .binary64 b).toNat = b.toNat / 2 ^ 63 := by
    simp [unpackSign, BitVec.extractLsb, BitVec.extractLsb', Nat.shiftRight_eq_div_pow]
    have := b.isLt
    omega
  have hz : @unpackSign .binary64 b = 0#1 ↔ b.toNat < 2 ^ 63 := by
    rw [← BitVec.toNat_inj, hs, BitVec.toNat_zero]
    omega
  unfold Sign.ofBitVec signOf
  by_cases h : 2 ^ 63 ≤ b.toNat
  · rw [if_neg (by rw [hz]; omega), if_pos (by simpa using h)]
  · rw [if_pos (by rw [hz]; omega), if_neg (by simpa using h)]

theorem unpackExponent_eq_ones (b : BitVec 64) :
    @unpackExponent .binary64 b = -1#11 ↔ b.toNat / hiddenBit % 2048 = 2047 := by
  rw [← BitVec.toNat_inj, toNat_unpackExponent]
  rfl

theorem unpackExponent_eq_zero (b : BitVec 64) :
    @unpackExponent .binary64 b = 0#11 ↔ b.toNat / hiddenBit % 2048 = 0 := by
  rw [← BitVec.toNat_inj, toNat_unpackExponent]
  rfl

theorem unpackMantissa_eq_zero (b : BitVec 64) :
    @unpackMantissa .binary64 b = 0#52 ↔ b.toNat % hiddenBit = 0 := by
  rw [← BitVec.toNat_inj, toNat_unpackMantissa]
  rfl

theorem toNat_implicit_append (m : BitVec 52) : (1#1 ++ m).toNat = hiddenBit + m.toNat := by
  rw [BitVec.toNat_append, ← Nat.shiftLeft_add_eq_or_of_lt m.isLt]
  rfl

/-! ## Parts -/

def Parts.unpacked : Parts → UnpackedFloat
  | .nan => .notANumber
  | .infinite negative => .infinity (signOf negative)
  | .finite negative m q => if h : 0 < m then .finite (signOf negative) m q h else .zero (signOf negative)

/-- The operations of the language take a float for what its parts say. -/
theorem unpack_eq_parts (x : Float) : x.toModel.unpack = (parts x).unpacked := by
  have hb : x.toBits.toNat = x.toModel.toBits.toBitVec.toNat := rfl
  have hbias : (Float.Model.Format.binary64.exponentBias : Int) + (52 : Nat) = 1075 := by decide
  unfold Float.Model.unpack parts
  rw [hb]
  generalize x.toModel.toBits.toBitVec = b
  unfold Float.Model.UnpackedFloat.unpack
  simp only [beq_iff_eq, ofBitVec_unpackSign, toNat_unpackExponent, toNat_unpackMantissa, toNat_implicit_append, hbias]
  by_cases hones : b.toNat / hiddenBit % 2048 = 2047
  · rw [if_pos ((unpackExponent_eq_ones b).mpr hones), if_pos hones]
    by_cases hm : b.toNat % hiddenBit = 0
    · rw [if_pos ((unpackMantissa_eq_zero b).mpr hm), if_pos hm]
      rfl
    · rw [if_neg (mt (unpackMantissa_eq_zero b).mp hm), if_neg hm]
      rfl
  · rw [if_neg (mt (unpackExponent_eq_ones b).mp hones), if_neg hones]
    by_cases hz : b.toNat / hiddenBit % 2048 = 0
    · rw [if_pos ((unpackExponent_eq_zero b).mpr hz), if_pos hz]
      by_cases hm : b.toNat % hiddenBit = 0
      · rw [dif_pos ((unpackMantissa_eq_zero b).mpr hm)]
        simp [hm, Parts.unpacked]
      · rw [dif_neg (mt (unpackMantissa_eq_zero b).mp hm)]
        simp [Nat.pos_iff_ne_zero, hz, hm, Parts.unpacked]
    · rw [if_neg (mt (unpackExponent_eq_zero b).mp hz), if_neg hz, Parts.unpacked,
        dif_pos (Nat.add_pos_left hiddenBit_pos _)]

theorem isNaN_iff : x.isNaN = true ↔ parts x = .nan := by
  change x.toModel.unpack.isNaN = true ↔ _
  rw [unpack_eq_parts]
  unfold Parts.unpacked
  split
  · simp [UnpackedFloat.isNaN, *]
  · simp [UnpackedFloat.isNaN, *]
  · split <;> simp [UnpackedFloat.isNaN, *]

theorem isInf_iff : x.isInf = true ↔ ∃ negative, parts x = .infinite negative := by
  change x.toModel.unpack.isInf = true ↔ _
  rw [unpack_eq_parts]
  unfold Parts.unpacked
  split
  · simp [UnpackedFloat.isInf, *]
  · simp [UnpackedFloat.isInf, *]
  · split <;> simp [UnpackedFloat.isInf, *]

theorem isFinite_iff : x.isFinite = true ↔ ∃ negative m q, parts x = .finite negative m q := by
  change x.toModel.unpack.isFinite = true ↔ _
  rw [unpack_eq_parts]
  unfold Parts.unpacked
  split
  · simp [UnpackedFloat.isFinite, *]
  · simp [UnpackedFloat.isFinite, *]
  · split <;> simp [UnpackedFloat.isFinite, *]

theorem isNaN_of_isFinite (h : x.isFinite = true) : x.isNaN = false := by
  obtain ⟨_, _, _, hx⟩ := isFinite_iff.mp h
  rw [← Bool.not_eq_true, isNaN_iff, hx]
  simp

theorem isInf_of_isFinite (h : x.isFinite = true) : x.isInf = false := by
  obtain ⟨_, _, _, hx⟩ := isFinite_iff.mp h
  rw [← Bool.not_eq_true, isInf_iff, hx]
  simp

theorem isNaN_of_isInf (h : x.isInf = true) : x.isNaN = false := by
  obtain ⟨_, hx⟩ := isInf_iff.mp h
  rw [← Bool.not_eq_true, isNaN_iff, hx]
  simp

theorem isFinite_of_isNaN_of_isInf (hnan : x.isNaN = false) (hinf : x.isInf = false) : x.isFinite = true := by
  rw [isFinite_iff]
  cases hx : parts x with
  | nan =>
    rw [isNaN_iff.mpr hx] at hnan
    cases hnan
  | infinite negative =>
    rw [isInf_iff.mpr ⟨negative, hx⟩] at hinf
    cases hinf
  | finite negative m q => exact ⟨negative, m, q, rfl⟩

/-- A significand has at most one bit more than its encoding, and the power of two is in range. -/
theorem parts_bounds (h : parts x = .finite negative m q) : m < 2 * hiddenBit ∧ -1074 ≤ q ∧ q ≤ 971 := by
  have hrem : x.toBits.toNat % hiddenBit < hiddenBit := Nat.mod_lt _ hiddenBit_pos
  have hexp : x.toBits.toNat / hiddenBit % 2048 < 2048 := Nat.mod_lt _ (by decide)
  unfold parts at h
  simp only [beq_iff_eq] at h
  split at h
  · split at h <;> cases h
  · rename_i hones
    split at h
    · cases h
      omega
    · cases h
      omega

/-! ## Results of operations -/

/-- A result is packed as a finite float: its power of two is in range. -/
def Fits : UnpackedFloat → Prop
  | .zero _ => True
  | .finite _ _ e _ => e ≤ 971
  | _ => False

theorem isFinite_iff_exponent (b : BitVec 64) :
    (UnpackedFloat.unpack .binary64 b).isFinite = true ↔ @unpackExponent .binary64 b ≠ -1#11 := by
  unfold UnpackedFloat.unpack
  by_cases hones : @unpackExponent .binary64 b = -1#11
  · rw [if_pos hones]
    split <;> simp [UnpackedFloat.isFinite, hones]
  · rw [if_neg hones, iff_true_right hones]
    repeat' split
    all_goals rfl

theorem isFinite_pack (u : UnpackedFloat) : (Float.Model.pack u).unpack.isFinite = true ↔ Fits u := by
  change (UnpackedFloat.unpack .binary64 (UnpackedFloat.pack .binary64 u)).isFinite = true ↔ _
  rw [isFinite_iff_exponent]
  have hbias : (Float.Model.Format.binary64.exponentBias : Int) = 1023 := by decide
  cases u with
  | notANumber =>
    rw [UnpackedFloat.pack, packedNaN, unpackExponent_packComponents]
    simp [Fits]
  | infinity s =>
    rw [UnpackedFloat.pack, packedInfinity, unpackExponent_packComponents]
    simp [Fits]
  | zero s =>
    rw [UnpackedFloat.pack, packedZero, unpackExponent_packComponents]
    exact iff_of_true (by decide) trivial
  | finite s m e hm =>
    simp only [UnpackedFloat.pack, Fits, hbias]
    split
    · rename_i hover
      rw [packedInfinity, unpackExponent_packComponents]
      refine iff_of_false (fun h => h rfl) ?_
      change 2 ^ 11 ≤ _ at hover
      push_cast at hover
      omega
    · rename_i hover
      change ¬ 2 ^ 11 ≤ _ at hover
      push_cast at hover
      refine iff_of_true ?_ (by omega)
      split
      · rw [unpackExponent_packComponents, Ne, ← BitVec.toNat_inj, BitVec.toNat_ofNat]
        change ¬ _ % 2 ^ 11 = 2047
        push_cast
        omega
      · rw [unpackExponent_packComponents]
        decide

/-- A result is packed as NaN only if it is none. -/
theorem isNaN_pack (u : UnpackedFloat) : (Float.Model.pack u).unpack.isNaN = u.isNaN := by
  cases u with
  | notANumber => decide +kernel
  | infinity s => cases s <;> decide +kernel
  | zero s => cases s <;> decide +kernel
  | finite s m e hm =>
    by_cases he : e ≤ 971
    · have hfinite : (Float.Model.pack (.finite s m e hm)).unpack.isFinite = true := (isFinite_pack _).mpr he
      generalize (Float.Model.pack (.finite s m e hm)).unpack = v at hfinite
      cases v with
      | notANumber => cases hfinite
      | infinity s | zero s | finite s m e hm => rfl
    · -- out of range it becomes an infinity
      have hbias : (Float.Model.Format.binary64.exponentBias : Int) = 1023 := by decide
      have hpack : UnpackedFloat.pack .binary64 (.finite s m e hm) = packedInfinity .binary64 s := by
        simp only [UnpackedFloat.pack, hbias]
        rw [if_pos]
        push_cast
        omega
      change (UnpackedFloat.unpack .binary64 (UnpackedFloat.pack .binary64 (.finite s m e hm))).isNaN = false
      rw [hpack]
      cases s <;> decide +kernel

theorem fits_neg (u : UnpackedFloat) : Fits u.neg ↔ Fits u := by
  cases u <;> rfl

/-- What is unpacked as finite can be packed again. -/
theorem fits_unpack (b : BitVec 64) :
    Fits (UnpackedFloat.unpack .binary64 b) ↔ (UnpackedFloat.unpack .binary64 b).isFinite = true := by
  have hbias : (Float.Model.Format.binary64.exponentBias : Int) + (52 : Nat) = 1075 := by decide
  unfold UnpackedFloat.unpack
  by_cases hones : @unpackExponent .binary64 b = -1#11
  · rw [if_pos hones]
    split <;> simp [Fits, UnpackedFloat.isFinite]
  · have hexp : ((@unpackExponent .binary64 b).toNat : Int) ≤ 2046 := by
      have := mt (unpackExponent_eq_ones b).mpr hones
      rw [toNat_unpackExponent]
      omega
    simp only [hbias]
    rw [if_neg hones]
    split
    · rename_i hzero
      split
      · exact iff_of_true trivial rfl
      · refine iff_of_true ?_ rfl
        change ((@unpackExponent .binary64 b).toNat : Int) - 1075 + 1 ≤ 971
        rw [hzero]
        decide
    · refine iff_of_true ?_ rfl
      change ((@unpackExponent .binary64 b).toNat : Int) - 1075 ≤ 971
      omega

/-- A float and its negation are finite together. -/
theorem isFinite_neg (x : Float) : (-x).isFinite = x.isFinite := by
  rw [Bool.eq_iff_iff]
  change (Float.Model.pack x.toModel.unpack.neg).unpack.isFinite = true ↔ _
  rw [isFinite_pack, fits_neg]
  exact fits_unpack _

/-- Bits stand for a finite float unless their exponent is the greatest one. -/
theorem isFinite_ofBits (b : UInt64) : (Float.ofBits b).isFinite = true ↔ b.toNat / hiddenBit % 2048 ≠ 2047 := by
  change (Float.Model.pack (UnpackedFloat.unpack .binary64 b.toBitVec)).unpack.isFinite = true ↔ _
  rw [isFinite_pack, fits_unpack, isFinite_iff_exponent, Ne, unpackExponent_eq_ones, UInt64.toNat_toBitVec]

end Formwork.Binary64
