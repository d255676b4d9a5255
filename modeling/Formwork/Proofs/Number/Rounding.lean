/-
  Formwork.Proofs.Number.Rounding: when a sum stays finite.

  A sum of floats is computed exactly and rounded to a significand of 53 bits. The significand
  is shifted to the place of its last bit, and rounding raises it by one at most, so the result is
  finite when its leading bit stands below the greatest one that floats have (`fits_round`), or at
  that bit when rounding does not carry over it (`fits_round_of_carry`).

  - `isFinite_add_half`, `isNaN_add_half`: adding a half leaves a float finite, infinite or no number.
  - `isNaN_mul`: a product of finite floats is a number.
-/

import Formwork.Proofs.Number.Parts

namespace Formwork.Binary64

open Float.Model (UnpackedFloat Format totalExponent)
open Float.Model.UnpackedFloat

variable {s : Sign} {m : Nat} {e : Int} {a : Accuracy}

/-! ## Shifting and rounding -/

theorem mantissa_shift (em : ExtendedMantissa) (k : Nat) : (em >>> k).mantissa = em.mantissa / 2 ^ k := by
  induction k with
  | zero => simp [HShiftRight.hShiftRight, Nat.repeat]
  | succ k ih =>
    change (em >>> k).mantissa / 2 = _
    rw [ih, Nat.div_div_eq_div_mul, Nat.pow_succ]

theorem roundBit_shift (em : ExtendedMantissa) (k : Nat) :
    (em >>> (k + 1)).roundBit = (em.mantissa / 2 ^ k % 2 != 0) := by
  rw [← mantissa_shift]
  rfl

theorem roundedMantissa_le (em : ExtendedMantissa) : em.roundedMantissa ≤ em.mantissa + 1 := by
  obtain ⟨m, roundBit, stickyBit⟩ := em
  cases roundBit <;> cases stickyBit <;>
    simp only [ExtendedMantissa.roundedMantissa, ExtendedMantissa.accuracy, Accuracy.roundToNearestEven] <;> omega

theorem roundedMantissa_eq {em : ExtendedMantissa} (h : em.roundBit = false) : em.roundedMantissa = em.mantissa := by
  obtain ⟨m, roundBit, stickyBit⟩ := em
  cases h
  cases stickyBit <;> rfl

/-- The power of two of the last place of a significand with this leading bit. -/
theorem targetExponent_eq (m : Nat) (e : Int) :
    Format.binary64.targetExponent (totalExponent m e) = max (m.log2 + e - 52) (-1074) := by
  change max ((m.log2 : Int) + 1 + e - 53) (-1074) = _
  congr 1
  omega

theorem mantissa_shiftToExponent (m : Nat) (e target : Int) :
    (shiftToExponent m e .exact target).1.mantissa = m / 2 ^ (target - e).toNat :=
  mantissa_shift _ _

/-- A significand of 53 bits, rounded, gets one bit more at most. -/
theorem roundedMantissa_shiftToExponent_le {target : Int} (h : (m.log2 : Int) + e - 52 ≤ target) :
    (shiftToExponent m e .exact target).1.roundedMantissa ≤ 2 ^ 53 := by
  refine Nat.le_trans (roundedMantissa_le _) ?_
  rw [mantissa_shiftToExponent, Nat.succ_le_iff, Nat.div_lt_iff_lt_mul (Nat.two_pow_pos _), ← Nat.pow_add]
  exact Nat.lt_of_lt_of_le Nat.lt_log2_self (Nat.pow_le_pow_right (by decide) (by omega))

/-! ## Results in range -/

/-- A rounded significand of 54 bits is shifted once more, which may raise its power of two by one. -/
theorem fits_second_shift {r : Nat} {e : Int} (hr : r ≤ 2 ^ 53) (he : -1074 ≤ e)
    (h : e ≤ 970 ∨ (e ≤ 971 ∧ r < 2 ^ 53)) : (shiftToTargetExponent .binary64 r e .exact).2 ≤ 971 := by
  have hlog : (r.log2 : Int) ≤ 53 ∧ (r < 2 ^ 53 → (r.log2 : Int) ≤ 52) := by
    rcases Nat.eq_zero_or_pos r with rfl | hpos
    · simp
    · have h54 := (Nat.log2_lt (Nat.ne_of_gt hpos)).mpr (show r < 2 ^ 54 by omega)
      refine ⟨by omega, fun hlt => ?_⟩
      have h53 := (Nat.log2_lt (Nat.ne_of_gt hpos)).mpr hlt
      omega
  change e + ((Format.binary64.targetExponent (totalExponent r e) - e).toNat : Int) ≤ 971
  rw [targetExponent_eq]
  rcases h with h | ⟨h, hlt⟩
  · omega
  · have := hlog.2 hlt
    omega

theorem fits_roundWithAccuracy {target : Int} (htarget : target = max ((m.log2 : Int) + e - 52) (-1074))
    (hle : e ≤ target) (h : target ≤ 970 ∨
      (target ≤ 971 ∧ (shiftToExponent m e .exact target).1.roundedMantissa < 2 ^ 53)) :
    Fits (roundWithAccuracy .binary64 s m e .exact) := by
  have hr : (shiftToExponent m e .exact target).1.roundedMantissa ≤ 2 ^ 53 :=
    roundedMantissa_shiftToExponent_le (by omega)
  have hfirst : shiftToTargetExponent .binary64 m e .exact = ((shiftToExponent m e .exact target).1, target) := by
    unfold shiftToTargetExponent
    simp only [targetExponent_eq, ← htarget]
    refine Prod.ext rfl ?_
    change e + ((target - e).toNat : Int) = target
    omega
  have hsecond := fits_second_shift hr (by omega) h
  unfold roundWithAccuracy
  rw [hfirst]
  simp only
  split
  · trivial
  · exact hsecond

theorem log2_shiftLeft (hm : 0 < m) (k : Nat) : (m <<< k).log2 = m.log2 + k := by
  induction k with
  | zero => rw [Nat.shiftLeft_zero, Nat.add_zero]
  | succ k ih =>
    rw [Nat.shiftLeft_succ, Nat.log2_two_mul, ih, Nat.add_assoc]
    rw [Nat.shiftLeft_eq]
    exact Nat.ne_of_gt (Nat.mul_pos hm (Nat.two_pow_pos k))

/-- The significand that is rounded, and the place of its last bit. -/
theorem round_eq (s : Sign) (hm : 0 < m) (e : Int) :
    ∃ m' e', round .binary64 s m e = roundWithAccuracy .binary64 s m' e' .exact ∧
      (m'.log2 : Int) + e' = m.log2 + e ∧ e' ≤ max ((m.log2 : Int) + e - 52) (-1074) ∧
      (e ≤ max ((m.log2 : Int) + e - 52) (-1074) → m' = m ∧ e' = e) := by
  refine ⟨_, _, rfl, ?_, ?_, ?_⟩
  · rw [log2_shiftLeft hm]
    push_cast
    omega
  · rw [targetExponent_eq]
    omega
  · intro hle
    have hzero : (e - Format.binary64.targetExponent (totalExponent m e)).toNat = 0 := by
      rw [targetExponent_eq]
      omega
    constructor
    · rw [hzero, Nat.shiftLeft_zero]
    · rw [hzero]
      omega

/-- A number below `2 ^ 1023` is rounded to a finite float. -/
theorem fits_round (s : Sign) (hm : 0 < m) (h : (m.log2 : Int) + e ≤ 1022) : Fits (round .binary64 s m e) := by
  obtain ⟨m', e', hround, hlog, hle, -⟩ := round_eq s hm e
  rw [hround]
  exact fits_roundWithAccuracy rfl (by omega) (Or.inl (by omega))

/-- So is one below `2 ^ 1024` whose 53 leading bits are not rounded up to 54. -/
theorem fits_round_of_carry (s : Sign) (hm : 0 < m) (h : (m.log2 : Int) + e = 1023) (he : e ≤ 971)
    (hcarry : (shiftToExponent m e .exact 971).1.roundedMantissa < 2 ^ 53) : Fits (round .binary64 s m e) := by
  obtain ⟨m', e', hround, hlog, hle, hself⟩ := round_eq s hm e
  obtain ⟨rfl, rfl⟩ := hself (by omega)
  rw [hround]
  have htarget : (971 : Int) = max ((m'.log2 : Int) + e' - 52) (-1074) := by omega
  exact fits_roundWithAccuracy htarget he (Or.inr ⟨Int.le_refl _, hcarry⟩)

/-! ## Rounding gives a number -/

theorem isNaN_roundWithAccuracy (s : Sign) (m : Nat) (e : Int) :
    (roundWithAccuracy .binary64 s m e .exact).isNaN = false := by
  unfold roundWithAccuracy
  simp only
  split <;> rfl

theorem isNaN_normalize (n e : Int) (s : Sign) : (UnpackedFloat.normalize .binary64 n e s).isNaN = false := by
  unfold UnpackedFloat.normalize
  split
  · exact isNaN_roundWithAccuracy _ _ _
  · rfl
  · exact isNaN_roundWithAccuracy _ _ _

/-! ## Adding a half -/

/-- A significand and a half. The two are brought to the lower of their places. -/
def plusHalf (s : Sign) (m : Nat) (e : Int) : Int :=
  s.apply ((m <<< (e - min e (-53)).toNat : Nat) : Int) + ((hiddenBit <<< (-53 - min e (-53)).toNat : Nat) : Int)

theorem natAbs_plusHalf_le : (plusHalf s m e).natAbs ≤
    m * 2 ^ (e - min e (-53)).toNat + hiddenBit * 2 ^ (-53 - min e (-53)).toNat := by
  unfold plusHalf
  rw [Nat.shiftLeft_eq, Nat.shiftLeft_eq]
  cases s <;> simp only [Sign.apply] <;> omega

/-- Far below the greatest floats there is room for a half. -/
theorem log2_plusHalf_le (hm : m < 2 * hiddenBit) (he : e ≤ 900) (hne : plusHalf s m e ≠ 0) :
    ((plusHalf s m e).natAbs.log2 : Int) + min e (-53) ≤ 1022 := by
  have hbound : (plusHalf s m e).natAbs < 2 ^ ((e - min e (-53)).toNat + (-53 - min e (-53)).toNat + 54) := by
    refine Nat.lt_of_le_of_lt natAbs_plusHalf_le ?_
    generalize (e - min e (-53)).toNat = i
    generalize (-53 - min e (-53)).toNat = j
    have hi : m * 2 ^ i ≤ 2 * hiddenBit * 2 ^ i * 2 ^ j :=
      Nat.le_trans (Nat.mul_le_mul_right _ (Nat.le_of_lt hm)) (Nat.le_mul_of_pos_right _ (Nat.two_pow_pos j))
    have hj : hiddenBit * 2 ^ j < 2 * hiddenBit * 2 ^ i * 2 ^ j := by
      rw [Nat.mul_right_comm]
      refine Nat.lt_of_lt_of_le ?_ (Nat.le_mul_of_pos_right _ (Nat.two_pow_pos i))
      exact Nat.mul_lt_mul_of_pos_right (by decide) (Nat.two_pow_pos j)
    have hpow : 2 ^ (i + j + 54) = 2 * (2 * hiddenBit * 2 ^ i * 2 ^ j) := by
      rw [Nat.pow_add, Nat.pow_add, show (2 : Nat) ^ 54 = 2 * (2 * hiddenBit) from rfl]
      ac_rfl
    omega
  have hlog := (Nat.log2_lt (Int.natAbs_ne_zero.mpr hne)).mpr hbound
  omega

theorem plusHalf_of_nonneg (he : 0 ≤ e) :
    ∃ i : Nat, (i : Int) = e + 53 ∧ 53 ≤ i ∧ plusHalf s m e = s.apply ((m * 2 ^ i : Nat) : Int) + (2 ^ 52 : Nat) := by
  refine ⟨(e + 53).toNat, by omega, by omega, ?_⟩
  unfold plusHalf
  rw [show min e (-53) = -53 by omega, show e - -53 = e + 53 by omega, Nat.shiftLeft_eq]
  rfl

/-- From whole numbers on, a half is less than a unit of the last place. -/
theorem natAbs_plusHalf_lt (hm : m < 2 * hiddenBit) (he : 0 ≤ e) (hne : plusHalf s m e ≠ 0) :
    ((plusHalf s m e).natAbs.log2 : Int) - 53 ≤ e + 52 := by
  obtain ⟨i, hi, h53, hv⟩ := plusHalf_of_nonneg (s := s) (m := m) he
  have hunit : 2 ^ 53 ≤ 2 ^ i := Nat.pow_le_pow_right (by decide) h53
  have hbound : (plusHalf s m e).natAbs < 2 ^ (53 + i) := by
    have hmul : (m + 1) * 2 ^ i ≤ 2 ^ 53 * 2 ^ i := Nat.mul_le_mul_right _ (by rw [hiddenBit] at hm; omega)
    rw [Nat.add_mul] at hmul
    rw [hv, Nat.pow_add]
    cases s <;> simp only [Sign.apply] <;> omega
  have hlog := (Nat.log2_lt (Int.natAbs_ne_zero.mpr hne)).mpr hbound
  omega

/-- There the significand stays as it is, or one below it is rounded up to it. -/
theorem roundedMantissa_plusHalf_le (hm : 0 < m) (he : 1 ≤ e) :
    (shiftToExponent (plusHalf s m e).natAbs (-53) .exact e).1.roundedMantissa ≤ m := by
  obtain ⟨i, hi, h53, hv⟩ := plusHalf_of_nonneg (s := s) (m := m) (by omega : 0 ≤ e)
  obtain ⟨j, rfl⟩ : ∃ j, i = j + 1 := ⟨i - 1, by omega⟩
  have hhalf : 2 ^ 52 < 2 ^ j := Nat.pow_lt_pow_right (by decide) (by omega)
  have hshift : (e - -53).toNat = j + 1 := by omega
  have hdouble : m * 2 ^ (j + 1) = 2 * m * 2 ^ j := by
    rw [Nat.pow_succ]
    ac_rfl
  have hpos : 0 < m * 2 ^ (j + 1) := Nat.mul_pos hm (Nat.two_pow_pos _)
  have hlow : 2 ^ 52 < m * 2 ^ (j + 1) := by
    rw [hdouble]
    exact Nat.lt_of_lt_of_le hhalf (Nat.le_mul_of_pos_left _ (by omega))
  cases s with
  | positive =>
    have habs : (plusHalf .positive m e).natAbs = 2 * m * 2 ^ j + 2 ^ 52 := by
      rw [hv, Sign.apply, hdouble]
      omega
    have hbit : (shiftToExponent (plusHalf .positive m e).natAbs (-53) .exact e).1.roundBit = false := by
      unfold shiftToExponent
      rw [hshift, roundBit_shift]
      change ((plusHalf .positive m e).natAbs / 2 ^ j % 2 != 0) = false
      rw [habs, Nat.add_comm, Nat.add_mul_div_right _ _ (Nat.two_pow_pos j), Nat.div_eq_of_lt hhalf]
      simp
    rw [roundedMantissa_eq hbit, mantissa_shiftToExponent, hshift, habs, ← hdouble]
    refine Nat.le_of_lt_succ ((Nat.div_lt_iff_lt_mul (Nat.two_pow_pos _)).mpr ?_)
    rw [Nat.succ_mul, Nat.pow_succ]
    omega
  | negative =>
    have habs : (plusHalf .negative m e).natAbs < m * 2 ^ (j + 1) := by
      rw [hv, Sign.apply]
      omega
    refine Nat.le_trans (roundedMantissa_le _) ?_
    rw [mantissa_shiftToExponent, hshift]
    exact (Nat.div_lt_iff_lt_mul (Nat.two_pow_pos _)).mpr habs

/-- A finite float and a half have a finite sum. -/
theorem fits_plusHalf (hpos : 0 < m) (hm : m < 2 * hiddenBit) (he : e ≤ 971) :
    Fits (UnpackedFloat.normalize .binary64 (plusHalf s m e) (min e (-53)) .positive) := by
  have hround : ∀ sign, plusHalf s m e ≠ 0 →
      Fits (round .binary64 sign (plusHalf s m e).natAbs (min e (-53))) := by
    intro sign hne
    have hnat : 0 < (plusHalf s m e).natAbs := Int.natAbs_pos.mpr hne
    by_cases hsmall : e ≤ 900
    · exact fits_round sign hnat (log2_plusHalf_le hm hsmall hne)
    · have hlog := natAbs_plusHalf_lt hm (by omega) hne
      by_cases htop : ((plusHalf s m e).natAbs.log2 : Int) - 53 ≤ 1022
      · exact fits_round sign hnat (by omega)
      · -- only the greatest power of two is left
        obtain rfl : e = 971 := by omega
        refine fits_round_of_carry sign hnat (by omega) (by omega) ?_
        have := roundedMantissa_plusHalf_le (s := s) hpos (by decide : (1 : Int) ≤ 971)
        rw [hiddenBit] at hm
        change (shiftToExponent (plusHalf s m 971).natAbs (-53) .exact 971).1.roundedMantissa < 2 ^ 53
        omega
  unfold UnpackedFloat.normalize
  split
  · rename_i hlt
    rw [show (-plusHalf s m e).toNat = (plusHalf s m e).natAbs by have := Int.compare_eq_lt.mp hlt; omega]
    exact hround _ (by have := Int.compare_eq_lt.mp hlt; omega)
  · trivial
  · rename_i hgt
    rw [show (plusHalf s m e).toNat = (plusHalf s m e).natAbs by have := Int.compare_eq_gt.mp hgt; omega]
    exact hround _ (by have := Int.compare_eq_gt.mp hgt; omega)

theorem unpack_half : (0.5 : Float).toModel.unpack = .finite .positive hiddenBit (-53) hiddenBit_pos := by
  have hparts : parts 0.5 = .finite false hiddenBit (-53) := by decide +kernel
  rw [unpack_eq_parts, hparts]
  rfl

/-- A half does not take a float out of the finite ones, nor bring it back. -/
theorem isFinite_add_half (x : Float) : (x + 0.5).isFinite = x.isFinite := by
  rw [Bool.eq_iff_iff]
  change (Float.Model.pack (add .binary64 x.toModel.unpack (0.5 : Float).toModel.unpack)).unpack.isFinite = true ↔ _
  rw [isFinite_pack, unpack_half, unpack_eq_parts, isFinite_iff]
  cases hx : parts x with
  | nan => exact iff_of_false (fun h => h) (by simp)
  | infinite negative => exact iff_of_false (fun h => h) (by simp)
  | finite negative m q =>
    refine iff_of_true ?_ ⟨_, _, _, rfl⟩
    obtain ⟨hm, -, hq⟩ := parts_bounds hx
    unfold Parts.unpacked
    simp only
    split
    · rename_i hpos
      exact fits_plusHalf hpos hm hq
    · change (-53 : Int) ≤ 971
      decide

theorem isNaN_add_half (x : Float) : (x + 0.5).isNaN = x.isNaN := by
  change (Float.Model.pack (add .binary64 x.toModel.unpack (0.5 : Float).toModel.unpack)).unpack.isNaN =
    x.toModel.unpack.isNaN
  rw [isNaN_pack, unpack_half]
  cases x.toModel.unpack with
  | notANumber | infinity s | zero s => rfl
  | finite s m e hm => exact isNaN_normalize _ _ _

/-! ## Products -/

/-- Finite floats have a product, which may be infinite. -/
theorem isNaN_mul {x y : Float} (hx : x.isFinite = true) (hy : y.isFinite = true) : (x * y).isNaN = false := by
  change x.toModel.unpack.isFinite = true at hx
  change y.toModel.unpack.isFinite = true at hy
  change (Float.Model.pack (mul .binary64 x.toModel.unpack y.toModel.unpack)).unpack.isNaN = false
  rw [isNaN_pack]
  generalize x.toModel.unpack = u at hx
  generalize y.toModel.unpack = v at hy
  cases u with
  | notANumber | infinity s => cases hx
  | zero s =>
    cases v with
    | notANumber | infinity t => cases hy
    | zero t | finite t n d hn => rfl
  | finite s m e hm =>
    cases v with
    | notANumber | infinity t => cases hy
    | zero t => rfl
    | finite t n d hn => exact isNaN_roundWithAccuracy _ _ _

end Formwork.Binary64
