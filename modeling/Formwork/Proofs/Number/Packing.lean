/-
  Formwork.Proofs.Number.Packing: the operations of the language round to the nearest float.

  An operation cuts off bits and keeps two about them: the first one, and whether anything
  follows (`Leaves`). These two decide the nearest float.

  - `toNat_pack_roundWithAccuracy`, `toNat_pack_round`: what is packed after rounding is the
    float nearest to the exact value.
-/

import Formwork.Proofs.Number.Nearest

namespace Formwork.Binary64

open Float.Model (UnpackedFloat Format totalExponent)
open Float.Model.UnpackedFloat

variable {v : ℚ} {m n num den : ℕ} {e : ℤ} {s : Sign} {acc : Accuracy} {em : ExtendedMantissa}

/-! ## Cutting off bits -/

def half (bit : Bool) : ℚ := if bit then 1 / 2 else 0

theorem half_odd (m : ℕ) : half (m % 2 != 0) = (m % 2 : ℕ) / 2 := by
  rcases Nat.mod_two_eq_zero_or_one m with h | h <;> rw [h] <;> simp [half]

theorem half_bounds (bit : Bool) : 0 ≤ half bit ∧ half bit ≤ 1 / 2 := by
  cases bit <;> norm_num [half]

theorem half_pos_iff (bit : Bool) : bit = true ↔ 0 < half bit := by
  cases bit <;> norm_num [half]

theorem mantissa_ofMantissaAndAccuracy (m : ℕ) (acc : Accuracy) :
    (ExtendedMantissa.ofMantissaAndAccuracy m acc).mantissa = m := by
  cases acc with
  | exact => rfl
  | inexact o => cases o <;> rfl

/-- What is left of a value when bits are cut off: a significand, the bit behind it, and whether anything
follows that. -/
def Leaves (em : ExtendedMantissa) (v : ℚ) : Prop :=
  ∃ rest, 0 ≤ rest ∧ rest < 1 / 2 ∧ v = em.mantissa + half em.roundBit + rest ∧ (em.stickyBit = true ↔ 0 < rest)

theorem Leaves.shiftRightOne (h : Leaves em v) : Leaves em.shiftRightOne (v / 2) := by
  obtain ⟨rest, hlow, hhigh, hv, hsticky⟩ := h
  have hhalf : (em.mantissa : ℚ) = 2 * (em.mantissa / 2 : ℕ) + (em.mantissa % 2 : ℕ) := by
    exact_mod_cast (Nat.div_add_mod em.mantissa 2).symm
  have hbit := half_bounds em.roundBit
  refine ⟨half em.roundBit / 2 + rest / 2, by linarith, by linarith, ?_, ?_⟩
  · change v / 2 = (em.mantissa / 2 : ℕ) + half (em.mantissa % 2 != 0) + (half em.roundBit / 2 + rest / 2)
    rw [half_odd, hv, hhalf]
    ring
  · change (em.roundBit || em.stickyBit) = true ↔ _
    rw [Bool.or_eq_true, hsticky, half_pos_iff]
    constructor
    · rintro (h | h) <;> linarith
    · intro h
      by_contra hnone
      rw [not_or] at hnone
      linarith

theorem Leaves.shift (h : Leaves em v) (k : ℕ) : Leaves (em >>> k) (v / 2 ^ k) := by
  induction k with
  | zero => simpa [HShiftRight.hShiftRight, Nat.repeat] using h
  | succ k ih =>
    rw [pow_succ, ← div_div]
    exact ih.shiftRightOne

/-- Rounding by the two bits is rounding the value. -/
theorem Leaves.roundedMantissa (h : Leaves em v) : em.roundedMantissa = nearestEven v := by
  obtain ⟨rest, hlow, hhigh, hv, hsticky⟩ := h
  obtain ⟨m, roundBit, stickyBit⟩ := em
  have hfrac : v - m = half roundBit + rest := by
    rw [hv]
    ring
  have hfloor : ⌊v⌋₊ = m := by
    have hbit := half_bounds roundBit
    have hlow' : (m : ℚ) ≤ v := by linarith
    rw [Nat.floor_eq_iff ((Nat.cast_nonneg m).trans hlow')]
    exact ⟨hlow', by linarith⟩
  unfold nearestEven
  simp only [hfloor, hfrac]
  cases roundBit <;> cases stickyBit
  · obtain rfl : rest = 0 := le_antisymm (not_lt.mp (by simpa using hsticky)) hlow
    rw [if_pos (by norm_num [half])]
    rfl
  · rw [if_pos (by simpa [half] using hhigh)]
    rfl
  · obtain rfl : rest = 0 := le_antisymm (not_lt.mp (by simpa using hsticky)) hlow
    rw [if_neg (by norm_num [half]), if_neg (by norm_num [half])]
    change m + m % 2 = _
    split <;> omega
  · have hpos : 0 < rest := hsticky.mp rfl
    rw [if_neg (by simpa [half] using hlow), if_pos (by simpa [half] using hpos)]
    rfl

/-- Nothing is left behind a whole number. -/
theorem leaves_natCast (m : ℕ) : Leaves (.ofMantissaAndAccuracy m .exact) m :=
  ⟨0, le_rfl, by norm_num, by simp [ExtendedMantissa.ofMantissaAndAccuracy, half],
    by simp [ExtendedMantissa.ofMantissaAndAccuracy]⟩

theorem leaves_shifted (m : ℕ) (e : ℤ) : Leaves (.ofMantissaAndAccuracy m .exact) ((m : ℚ) * 2 ^ e / 2 ^ e) := by
  rw [mul_div_cancel_right₀ _ (zpow_pos two_pos _).ne']
  exact leaves_natCast m

/-- What a division leaves is told by its remainder. -/
theorem leaves_div (num : ℕ) (hden : 0 < den) :
    Leaves (.ofMantissaAndAccuracy (num / den) (accuracyOfFraction (num % den) den)) ((num : ℚ) / den) := by
  have hdenQ : (0 : ℚ) < den := by exact_mod_cast hden
  have hval : (num : ℚ) / den = (num / den : ℕ) + (num % den : ℕ) / den := by
    rw [div_eq_iff hdenQ.ne', add_mul, div_mul_cancel₀ _ hdenQ.ne', mul_comm]
    exact_mod_cast (Nat.div_add_mod num den).symm
  have hhigh : ((num % den : ℕ) : ℚ) / den < 1 := by
    rw [div_lt_one hdenQ]
    exact_mod_cast Nat.mod_lt num hden
  rw [hval, accuracyOfFraction]
  generalize num / den = quotient
  split
  · rename_i hzero
    rw [hzero, Nat.cast_zero, zero_div, add_zero]
    exact leaves_natCast quotient
  rename_i hrem
  have hpos : ((num % den : ℕ) : ℚ) / den > 0 := div_pos (by exact_mod_cast Nat.pos_of_ne_zero hrem) hdenQ
  cases hcompare : compare (2 * (num % den)) den with
  | lt =>
    have hlt : ((num % den : ℕ) : ℚ) / den < 1 / 2 := by
      rw [div_lt_div_iff₀ hdenQ two_pos]
      have := compare_lt_iff_lt.mp hcompare
      norm_cast
      omega
    exact ⟨_, hpos.le, hlt, by simp [ExtendedMantissa.ofMantissaAndAccuracy, half], iff_of_true rfl hpos⟩
  | eq =>
    have heq : ((num % den : ℕ) : ℚ) / den = 1 / 2 := by
      rw [div_eq_div_iff hdenQ.ne' two_ne_zero]
      have := compare_eq_iff_eq.mp hcompare
      norm_cast
      omega
    rw [heq]
    exact ⟨0, le_rfl, by norm_num, by simp [ExtendedMantissa.ofMantissaAndAccuracy, half],
      by simp [ExtendedMantissa.ofMantissaAndAccuracy]⟩
  | gt =>
    have hgt : 1 / 2 < ((num % den : ℕ) : ℚ) / den := by
      rw [div_lt_div_iff₀ two_pos hdenQ]
      have := compare_gt_iff_gt.mp hcompare
      norm_cast
      omega
    exact ⟨(num % den : ℕ) / den - 1 / 2, by linarith, by linarith,
      by simp [ExtendedMantissa.ofMantissaAndAccuracy, half], iff_of_true rfl (by linarith)⟩

/-! ## Rounding and packing -/

def signBits : Sign → ℕ
  | .negative => 2 ^ 63
  | .positive => 0

theorem toNat_packComponents (s : Sign) (e : BitVec 11) (m : BitVec 52) :
    (packComponents .binary64 s e m).toNat = signBits s + (e.toNat * hiddenBit + m.toNat) := by
  have hsign : s.toBitVec.toNat * 2 ^ 63 = signBits s := by cases s <;> rfl
  unfold packComponents
  rw [BitVec.toNat_append, ← Nat.shiftLeft_add_eq_or_of_lt m.isLt, BitVec.toNat_append,
    ← Nat.shiftLeft_add_eq_or_of_lt e.isLt, Nat.shiftLeft_eq, Nat.shiftLeft_eq, ← hsign, hiddenBit]
  change (_ * 2 ^ 11 + _) * 2 ^ 52 + _ = _
  ring

/-- A packed infinity. -/
theorem toNat_packedInfinity (s : Sign) : (packedInfinity .binary64 s).toNat = signBits s + infinityBits := by
  have hones : (-1#11 : BitVec 11).toNat = 2047 := by decide
  have hzero : (0 : BitVec 52).toNat = 0 := by decide
  rw [packedInfinity, toNat_packComponents]
  change signBits s + ((-1#11 : BitVec 11).toNat * hiddenBit + (0 : BitVec 52).toNat) = _
  rw [hones, hzero, infinityBits, Nat.add_zero]

/-- A significand of at most 53 bits, at a place that floats have, is packed as it is. -/
theorem toNat_pack_finite (hm : 0 < m) (hlt : m < 2 ^ 53) (he : -1074 ≤ e) (hlong : 2 ^ 52 ≤ m ∨ e = -1074) :
    (UnpackedFloat.pack .binary64 (.finite s m e hm)).toNat =
      signBits s + min infinityBits ((e + 1074).toNat * hiddenBit + m) := by
  have hbias : (Format.binary64.exponentBias : ℤ) = 1023 := by decide
  simp only [UnpackedFloat.pack, hbias]
  split
  · rename_i hover
    change 2 ^ 11 ≤ _ at hover
    push_cast at hover
    have hplace : 2046 ≤ (e + 1074).toNat := by omega
    have hlow : hiddenBit ≤ m := hlong.resolve_right fun h => by omega
    have hbits : 2046 * hiddenBit + hiddenBit ≤ (e + 1074).toNat * hiddenBit + m :=
      Nat.add_le_add (Nat.mul_le_mul_right _ hplace) hlow
    rw [toNat_packedInfinity, Nat.min_eq_left (by rwa [infinityBits, show 2047 = 2046 + 1 from rfl, Nat.add_one_mul])]
  · rename_i hover
    change ¬ 2 ^ 11 ≤ _ at hover
    push_cast at hover
    split
    · rename_i hnormal
      change m.log2 + 1 = 53 at hnormal
      have hlow : 2 ^ 52 ≤ m := (Nat.le_log2 hm.ne').mp (by omega)
      rw [toNat_packComponents, BitVec.toNat_ofNat, BitVec.toNat_ofNat, infinityBits, hiddenBit]
      change _ + (_ % 2 ^ 11 * _ + m % 2 ^ 52) = _
      push_cast
      omega
    · rename_i hshort
      change ¬ m.log2 + 1 = 53 at hshort
      have hlow : m < 2 ^ 52 := by
        rw [← Nat.log2_lt hm.ne']
        have := (Nat.log2_lt hm.ne').mpr hlt
        omega
      rw [toNat_packComponents, BitVec.toNat_ofNat, infinityBits, hiddenBit]
      change _ + (0 * _ + m % 2 ^ 52) = _
      omega

/-- A significand of 54 bits, which rounding may give, is halved before it is packed. -/
theorem toNat_pack_second_shift (hm : m ≤ 2 ^ 53) (he : -1074 ≤ e) (hlong : 2 ^ 52 ≤ m ∨ e = -1074) :
    (UnpackedFloat.pack .binary64
      (if h : (shiftToTargetExponent .binary64 m e .exact).1.mantissa = 0 then .zero s
        else .finite s _ (shiftToTargetExponent .binary64 m e .exact).2 (Nat.pos_of_ne_zero h))).toNat =
      signBits s + min infinityBits ((e + 1074).toNat * hiddenBit + m) := by
  have hmantissa : (shiftToTargetExponent .binary64 m e .exact).1.mantissa =
      m / 2 ^ (max ((m.log2 : ℤ) + e - 52) (-1074) - e).toNat := by
    rw [shiftToTargetExponent, targetExponent_eq, mantissa_shiftToExponent]
  have hexponent : (shiftToTargetExponent .binary64 m e .exact).2 =
      e + (max ((m.log2 : ℤ) + e - 52) (-1074) - e).toNat := by
    rw [shiftToTargetExponent, targetExponent_eq, shiftToExponent]
  generalize (shiftToTargetExponent .binary64 m e .exact).1.mantissa = m' at hmantissa
  generalize (shiftToTargetExponent .binary64 m e .exact).2 = e' at hexponent
  rcases Nat.eq_zero_or_pos m with rfl | hpos
  · obtain rfl : e = -1074 := hlong.resolve_left (by decide)
    obtain rfl : m' = 0 := by rw [hmantissa, Nat.zero_div]
    rw [dif_pos rfl]
    exact toNat_packComponents s 0 0
  rcases Nat.lt_or_eq_of_le hm with hlt | rfl
  · have hlog := (Nat.log2_lt hpos.ne').mpr hlt
    have hshift : (max ((m.log2 : ℤ) + e - 52) (-1074) - e).toNat = 0 := by omega
    obtain rfl : m' = m := by rw [hmantissa, hshift, Nat.pow_zero, Nat.div_one]
    obtain rfl : e' = e := by rw [hexponent, hshift, Nat.cast_zero, add_zero]
    rw [dif_neg hpos.ne']
    exact toNat_pack_finite hpos hlt he hlong
  · have hlog : (2 ^ 53).log2 = 53 := Nat.log2_two_pow
    rw [hlog] at hmantissa hexponent
    have hshift : (max (((53 : ℕ) : ℤ) + e - 52) (-1074) - e).toNat = 1 := by omega
    rw [hshift] at hmantissa hexponent
    obtain rfl : m' = 2 ^ 52 := hmantissa
    obtain rfl : e' = e + 1 := hexponent
    rw [dif_neg (by decide), toNat_pack_finite (by decide) (by decide) (by omega) (Or.inl le_rfl), hiddenBit]
    omega

/-- What is left of a value tells its place. -/
theorem targetExponent_of_leaves (hv : 0 < v) (hleaves : Leaves (.ofMantissaAndAccuracy m acc) (v / 2 ^ e))
    (hlow : m = 0 → e ≤ -1074) : Format.binary64.targetExponent (totalExponent m e) = placeOf v := by
  have hscale : (0 : ℚ) < 2 ^ e := zpow_pos two_pos _
  obtain ⟨hfloor, hceil⟩ : (m : ℚ) * 2 ^ e ≤ v ∧ v < (m + 1) * 2 ^ e := by
    obtain ⟨rest, hrest, hhalf, hval, -⟩ := hleaves
    have hbit := half_bounds (ExtendedMantissa.ofMantissaAndAccuracy m acc).roundBit
    rw [mantissa_ofMantissaAndAccuracy] at hval
    rw [← le_div_iff₀ hscale, ← div_lt_iff₀ hscale]
    constructor <;> linarith
  rw [targetExponent_eq, placeOf]
  rcases Nat.eq_zero_or_pos m with rfl | hpos
  · have hlog : Int.log 2 v < e := (log_lt_iff hv).mpr (by simpa using hceil)
    have he := hlow rfl
    have hzero : ((0 : ℕ).log2 : ℤ) = 0 := rfl
    omega
  · have hself : (2 : ℚ) ^ ((m.log2 : ℤ) + e) ≤ v := by
      rw [zpow_add₀ two_ne_zero]
      refine le_trans (mul_le_mul_of_nonneg_right ?_ hscale.le) hfloor
      exact_mod_cast Nat.log2_self_le hpos.ne'
    have hnext : v < 2 ^ ((m.log2 : ℤ) + 1 + e) := by
      rw [zpow_add₀ two_ne_zero]
      refine hceil.trans_le (mul_le_mul_of_nonneg_right ?_ hscale.le)
      exact_mod_cast Nat.succ_le_iff.mpr (Nat.lt_log2_self (n := m))
    have hge := (le_log_iff hv).mpr hself
    have hlt := (log_lt_iff hv).mpr hnext
    omega

/-- A result that is described by a significand and what is left behind it is packed as the nearest float. -/
theorem toNat_pack_roundWithAccuracy (hv : 0 < v) (hleaves : Leaves (.ofMantissaAndAccuracy m acc) (v / 2 ^ e))
    (hlow : m = 0 → e ≤ -1074) (hle : e ≤ placeOf v) :
    (UnpackedFloat.pack .binary64 (roundWithAccuracy .binary64 s m e acc)).toNat =
      signBits s + min infinityBits (nearestBits v) := by
  have hmin : -1074 ≤ placeOf v := le_max_right _ _
  have hpos : 0 < v / 2 ^ placeOf v := div_pos hv (zpow_pos two_pos _)
  have htarget := targetExponent_of_leaves hv hleaves hlow
  obtain ⟨k, hk⟩ := Int.le.dest hle
  have hshift : (placeOf v - e).toNat = k := by omega
  have hfirst : shiftToTargetExponent .binary64 m e acc =
      (ExtendedMantissa.ofMantissaAndAccuracy m acc >>> k, placeOf v) := by
    unfold shiftToTargetExponent shiftToExponent
    simp only [htarget, hshift, hk]
  have hround : (ExtendedMantissa.ofMantissaAndAccuracy m acc >>> k).roundedMantissa = nearestEven (v / 2 ^ placeOf v) := by
    rw [(hleaves.shift k).roundedMantissa, div_div, ← zpow_natCast, ← zpow_add₀ two_ne_zero, hk]
  have hhigh := nearestEven_le_of_lt (n := 2 ^ 53) (by exact_mod_cast div_place_lt v) hpos.le
  have hlong : 2 ^ 52 ≤ nearestEven (v / 2 ^ placeOf v) ∨ placeOf v = -1074 := by
    by_cases h : placeOf v = -1074
    · exact Or.inr h
    · exact Or.inl (le_nearestEven (by exact_mod_cast le_div_place hv h))
  have hsecond := toNat_pack_second_shift (s := s) hhigh hmin hlong
  unfold roundWithAccuracy
  rw [hfirst, nearestBits, if_neg hv.ne', ← hsecond, ← hround]

/-- A number of any length is packed as the nearest float. -/
theorem toNat_pack_round (s : Sign) (hm : 0 < m) (e : ℤ) :
    (UnpackedFloat.pack .binary64 (UnpackedFloat.round .binary64 s m e)).toNat =
      signBits s + min infinityBits (nearestBits (m * 2 ^ e)) := by
  have hv : (0 : ℚ) < m * 2 ^ e := mul_pos (by exact_mod_cast hm) (zpow_pos two_pos _)
  have htarget := targetExponent_of_leaves hv (leaves_shifted m e) (by omega)
  unfold UnpackedFloat.round decreaseExponent
  simp only [htarget]
  obtain ⟨k, hk⟩ : ∃ k, (e - placeOf (m * 2 ^ e)).toNat = k := ⟨_, rfl⟩
  rw [hk]
  have hvalue : (m : ℚ) * 2 ^ e / 2 ^ (e - (k : ℤ)) = (m <<< k : ℕ) := by
    rw [Nat.shiftLeft_eq, mul_div_assoc, ← zpow_sub₀ two_ne_zero, sub_sub_cancel, zpow_natCast]
    push_cast
    rfl
  refine toNat_pack_roundWithAccuracy hv ?_ ?_ (by omega)
  · rw [hvalue]
    exact leaves_natCast _
  · intro hzero
    rw [Nat.shiftLeft_eq] at hzero
    have := Nat.mul_pos hm (Nat.two_pow_pos k)
    omega

end Formwork.Binary64
