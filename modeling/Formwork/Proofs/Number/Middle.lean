/-
  Formwork.Proofs.Number.Middle: half way between two floats.

  A value between two neighbouring floats is rounded to the upper one from half way on, the middle itself to
  the one whose significand is even. The same holds behind the greatest finite float, where the upper one is the
  infinity: its significand is odd, so half a step behind it is infinite already.

  - `lt_nearestBits_iff`: a value is rounded up from a float when it is more than half way to the next.
  - `isInf_nearest_iff`: which values are rounded to the infinity.
-/

import Formwork.Proofs.Number.Within

namespace Formwork.Binary64

variable {v : ℚ} {b n : ℕ}

/-! ## Between two floats -/

theorem magnitude_succ (b : ℕ) : magnitude (b + 1) = (significand b + 1) * 2 ^ exponent b := by
  have hlong := significand_long b
  have h := magnitude_bits (m := significand b + 1) (significand_lt b) (exponent_ge b) (by omega)
  rw [← Nat.add_assoc, bits_eq] at h
  rw [h, Nat.cast_add_one]

/-- Half way from a float to the next one. -/
def middle (b : ℕ) : ℚ := (significand b + 1 / 2) * 2 ^ exponent b

theorem magnitude_lt_middle (b : ℕ) : magnitude b < middle b :=
  mul_lt_mul_of_pos_right (by linarith) (zpow_pos two_pos _)

theorem middle_lt_magnitude (b : ℕ) : middle b < magnitude (b + 1) := by
  rw [magnitude_succ]
  exact mul_lt_mul_of_pos_right (by linarith) (zpow_pos two_pos _)

theorem middle_eq_div {k : ℕ} (h : exponent b = 1 - k) : middle b = (2 * significand b + 1) / 2 ^ k := by
  rw [middle, h, zpow_sub₀ two_ne_zero, zpow_one, zpow_natCast]
  ring

theorem middle_eq_mul {k : ℕ} (h : exponent b = k + 1) : middle b = ((2 * significand b + 1) * 2 ^ k : ℕ) := by
  rw [middle, h, zpow_add_one₀ two_ne_zero, zpow_natCast]
  push_cast
  ring

theorem nearestEven_of_floor (hfloor : ⌊v⌋₊ = n) (hne : v ≠ n + 1 / 2) :
    nearestEven v = if v < n + 1 / 2 then n else n + 1 := by
  unfold nearestEven
  simp only [hfloor]
  by_cases h : v < n + 1 / 2
  · rw [if_pos h, if_pos (by linarith)]
  · have hlt : n + 1 / 2 < v := lt_of_le_of_ne (not_lt.mp h) (Ne.symm hne)
    rw [if_neg h, if_neg (by linarith), if_pos (by linarith)]

/-- Between a float and the next one the last place is that of the float. -/
theorem placeOf_between (hpos : 0 < v) (hlow : magnitude b ≤ v) (hhigh : v < magnitude (b + 1)) :
    placeOf v = exponent b := by
  have hle : placeOf v ≤ exponent b := by
    have hshort : (significand b + 1 : ℚ) ≤ 2 ^ (53 : ℤ) := by exact_mod_cast significand_lt b
    have hbelow : v < 2 ^ (53 + exponent b) := by
      rw [zpow_add₀ two_ne_zero]
      rw [magnitude_succ] at hhigh
      exact hhigh.trans_le (mul_le_mul_of_nonneg_right hshort (zpow_pos two_pos _).le)
    have hlog := (log_lt_iff hpos).mpr hbelow
    have hleast := exponent_ge b
    unfold placeOf
    omega
  refine le_antisymm hle ?_
  rcases Nat.eq_zero_or_pos b with rfl | hb
  · exact le_max_right _ _
  · have hplace : placeOf (magnitude b) = exponent b :=
      placeOf_eq (significand_pos hb) (significand_lt b) (exponent_ge b) (significand_long b)
    rw [← hplace]
    exact placeOf_mono (magnitude_pos hb) hlow

/-- Off the middle, a value is rounded up from a float when it is more than half way to the next one. -/
theorem lt_nearestBits_iff (hv : 0 ≤ v) (hne : v ≠ middle b) : b < nearestBits v ↔ middle b < v := by
  rcases lt_or_ge v (magnitude b) with hlow | hlow
  · refine iff_of_false (Nat.not_lt.mpr (nearestBits_le hv hlow.le)) (not_lt.mpr ?_)
    exact hlow.le.trans (magnitude_lt_middle b).le
  rcases lt_or_ge v (magnitude (b + 1)) with hhigh | hhigh
  · rcases hv.eq_or_lt with rfl | hpos
    · rw [nearestBits, if_pos rfl]
      refine iff_of_false (Nat.not_lt_zero b) (not_lt.mpr ?_)
      exact (magnitude_nonneg b).trans (magnitude_lt_middle b).le
    have hscale : (0 : ℚ) < 2 ^ exponent b := zpow_pos two_pos _
    have hfloor : ⌊v / 2 ^ exponent b⌋₊ = significand b := by
      rw [Nat.floor_eq_iff (div_pos hpos hscale).le, le_div_iff₀ hscale, div_lt_iff₀ hscale, ← magnitude_succ]
      exact ⟨hlow, hhigh⟩
    have hmiddle : v / 2 ^ exponent b < significand b + 1 / 2 ↔ v < middle b := div_lt_iff₀ hscale
    have heven := nearestEven_of_floor hfloor fun heq => hne ((div_eq_iff hscale.ne').mp heq)
    rw [nearestBits, if_neg hpos.ne', placeOf_between hpos hlow hhigh, heven]
    have hbits := bits_eq b
    by_cases hlt : v < middle b
    · rw [if_pos (hmiddle.mpr hlt)]
      exact iff_of_false (by omega) (not_lt.mpr hlt.le)
    · rw [if_neg (mt hmiddle.mp hlt)]
      exact iff_of_true (by omega) (lt_of_le_of_ne (not_lt.mp hlt) (Ne.symm hne))
  · exact iff_of_true (le_nearestBits hhigh) ((middle_lt_magnitude b).trans_le hhigh)

/-! ## Behind the last float -/

theorem middle_last : middle (infinityBits - 1) = integerLimit := by
  have hodd : 2 * significand (infinityBits - 1) + 1 = 2 ^ 54 - 1 := by decide
  rw [middle_eq_mul (k := 970) (by decide), hodd, integerLimit]

/-- The values from half a step behind the greatest finite float on are rounded to the infinity. -/
theorem infinityBits_le_nearestBits_iff (hv : 0 ≤ v) : infinityBits ≤ nearestBits v ↔ (integerLimit : ℚ) ≤ v := by
  constructor
  · intro h
    by_contra hlt
    rw [not_le, ← middle_last] at hlt
    have hup := (lt_nearestBits_iff hv hlt.ne).mp (Nat.lt_of_lt_of_le (by decide) h)
    exact lt_asymm hup hlt
  · intro h
    have hlimit := (isInf_ofRatio_one_iff integerLimit).mpr le_rfl
    rw [ofRatio_eq_nearest _ Nat.one_pos, nearest, ofNatBits, isInf_ofBits_min, Nat.cast_one, div_one] at hlimit
    exact Nat.le_trans hlimit (nearestBits_mono (Nat.cast_nonneg _) h)

theorem isInf_nearest_iff (hv : 0 ≤ v) : (nearest v).isInf = true ↔ (integerLimit : ℚ) ≤ v := by
  rw [nearest, ofNatBits, isInf_ofBits_min, infinityBits_le_nearestBits_iff hv]

theorem nearest_nonneg (v : ℚ) : 0 ≤ nearest v := nonneg_iff.mpr ⟨_, rank?_nearest v⟩

theorem isNaN_nearest (v : ℚ) : (nearest v).isNaN = false := by
  rw [← Bool.not_eq_true, ← rank?_eq_none_iff, rank?_nearest]
  exact Option.some_ne_none _

end Formwork.Binary64
