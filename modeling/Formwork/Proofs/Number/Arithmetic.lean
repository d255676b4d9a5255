/-
  Formwork.Proofs.Number.Arithmetic: the operations on floats, by exact values.

  The result of an operation on finite floats is the exact result, rounded once (`rank?_add`,
  `rank?_sub`, `rank?_mul`, `rank?_div`). Rounding keeps the order and what is a float already, so
  operations on floats inherit the monotony of the exact ones, and are exact where the exact result
  is a float.
-/

import Formwork.Proofs.Number.Rank

namespace Formwork.Binary64

open Float.Model (UnpackedFloat)
open Float.Model.UnpackedFloat

variable {x y : Float} {v w : ℚ} {a b m n : ℕ} {d e : ℤ} {i j k : ℤ} {s t : Sign}

/-! ## Values -/

def valueOf (k : ℤ) : ℚ := if k < 0 then -magnitude k.natAbs else magnitude k.natAbs

theorem valueOf_natCast (b : ℕ) : valueOf b = magnitude b := by
  rw [valueOf, if_neg (by omega), Int.natAbs_natCast]

theorem valueOf_neg (k : ℤ) : valueOf (-k) = -valueOf k := by
  unfold valueOf
  rw [Int.natAbs_neg]
  rcases lt_trichotomy k 0 with h | rfl | h
  · rw [if_neg (by omega), if_pos h, neg_neg]
  · simp [magnitude_zero]
  · rw [if_pos (by omega), if_neg (by omega)]

theorem valueOf_zero : valueOf 0 = 0 := by
  rw [valueOf, if_neg (by decide)]
  exact magnitude_zero

theorem valueOf_nonneg_iff : 0 ≤ valueOf k ↔ 0 ≤ k := by
  unfold valueOf
  split
  · rename_i h
    have := magnitude_pos (b := k.natAbs) (by omega)
    exact iff_of_false (by linarith) (by omega)
  · exact iff_of_true (magnitude_nonneg _) (by omega)

theorem valueOf_lt_valueOf : valueOf i < valueOf j ↔ i < j := by
  unfold valueOf
  split <;> split
  · rw [neg_lt_neg_iff, magnitude_lt_magnitude]
    omega
  · have := magnitude_pos (b := i.natAbs) (by omega)
    have := magnitude_nonneg j.natAbs
    exact iff_of_true (by linarith) (by omega)
  · have := magnitude_pos (b := j.natAbs) (by omega)
    have := magnitude_nonneg i.natAbs
    exact iff_of_false (by linarith) (by omega)
  · rw [magnitude_lt_magnitude]
    omega

theorem valueOf_le_valueOf : valueOf i ≤ valueOf j ↔ i ≤ j := by
  rw [← not_lt, valueOf_lt_valueOf, not_lt]

theorem valueOf_inj : valueOf i = valueOf j ↔ i = j := by
  rw [le_antisymm_iff, valueOf_le_valueOf, valueOf_le_valueOf, ← le_antisymm_iff]

def nearestRank (v : ℚ) : ℤ :=
  if v < 0 then -(min infinityBits (nearestBits (-v)) : ℕ) else (min infinityBits (nearestBits v) : ℕ)

theorem nearestRank_of_nonneg (h : 0 ≤ v) : nearestRank v = (min infinityBits (nearestBits v) : ℕ) :=
  if_neg (not_lt.mpr h)

theorem nearestRank_zero : nearestRank 0 = 0 := by
  rw [nearestRank_of_nonneg le_rfl, nearestBits, if_pos rfl]
  rfl

theorem nearestRank_neg (v : ℚ) : nearestRank (-v) = -nearestRank v := by
  rcases lt_trichotomy v 0 with h | rfl | h
  · rw [nearestRank_of_nonneg (by linarith), nearestRank, if_pos h, neg_neg]
  · rw [neg_zero, nearestRank_zero, neg_zero]
  · rw [nearestRank_of_nonneg h.le, nearestRank, if_pos (by linarith), neg_neg]

/-- Rounding keeps the order. -/
theorem nearestRank_mono (h : v ≤ w) : nearestRank v ≤ nearestRank w := by
  unfold nearestRank
  split <;> split
  · have := nearestBits_mono (v := -w) (by linarith) (neg_le_neg h)
    omega
  · omega
  · exfalso
    linarith
  · have := nearestBits_mono (by linarith) h
    omega

/-- A value that a float has is rounded to it. -/
theorem nearestRank_valueOf (h : k.natAbs ≤ infinityBits) : nearestRank (valueOf k) = k := by
  have hnat : ∀ b : ℕ, b ≤ infinityBits → nearestRank (valueOf b) = b := fun b hb => by
    rw [valueOf_natCast, nearestRank_of_nonneg (magnitude_nonneg b), nearestBits_magnitude, Nat.min_eq_right hb]
  obtain ⟨b, rfl | rfl⟩ := Int.eq_nat_or_neg k
  · exact hnat b (by simpa using h)
  · rw [valueOf_neg, nearestRank_neg, hnat b (by simpa using h)]

theorem nearestRank_le_infinity (v : ℚ) : nearestRank v ≤ infinityBits := by
  unfold nearestRank
  split <;> omega

/-! ## Results -/

/-- An exact result is rounded once. -/
theorem rank?_normalize (n e : ℤ) (s : Sign) :
    rank? ⟨Float.Model.pack (UnpackedFloat.normalize .binary64 n e s)⟩ = some (nearestRank (n * 2 ^ e)) := by
  have hbound : ∀ b, min infinityBits b ≤ infinityBits := fun b => Nat.min_le_left _ _
  have hscale : (0 : ℚ) < 2 ^ e := zpow_pos two_pos _
  unfold UnpackedFloat.normalize
  split
  · rename_i hneg
    have hneg := compare_lt_iff_lt.mp hneg
    obtain ⟨m, rfl⟩ : ∃ m : ℕ, n = -m := ⟨n.natAbs, by omega⟩
    rw [neg_neg, Int.toNat_natCast, rank?_pack (toNat_pack_round _ (by omega) e) (hbound _)]
    have hvalue : ((-(m : ℤ) : ℤ) : ℚ) * 2 ^ e = -(m * 2 ^ e) := by
      push_cast
      ring
    rw [hvalue, nearestRank_neg, nearestRank_of_nonneg (by positivity)]
    rfl
  · rename_i hzero
    obtain rfl := compare_eq_iff_eq.mp hzero
    rw [← unpackedOf_zero, rank?_pack_unpackedOf (Nat.zero_le _), Nat.cast_zero, Sign.apply_zero, Int.cast_zero,
      zero_mul, nearestRank_zero]
  · rename_i hpos
    have hpos := compare_gt_iff_gt.mp hpos
    obtain ⟨m, rfl⟩ : ∃ m : ℕ, n = m := ⟨n.natAbs, by omega⟩
    rw [Int.toNat_natCast, rank?_pack (toNat_pack_round _ (by omega) e) (hbound _), Int.cast_natCast,
      nearestRank_of_nonneg (by positivity)]
    rfl

/-- Rounding by what is left behind a significand is rounding the value. -/
theorem rank?_roundWithAccuracy {acc : Accuracy} (hv : 0 < v)
    (hleaves : Leaves (.ofMantissaAndAccuracy m acc) (v / 2 ^ e)) (hlow : m = 0 → e ≤ -1074) (hle : e ≤ placeOf v) :
    rank? ⟨Float.Model.pack (roundWithAccuracy .binary64 s m e acc)⟩ = some (s.apply (nearestRank v)) := by
  rw [rank?_pack (toNat_pack_roundWithAccuracy hv hleaves hlow hle) (Nat.min_le_left _ _), nearestRank_of_nonneg hv.le]

theorem valueOf_apply (s : Sign) (b : ℕ) : valueOf (s.apply b) = s.apply (significand b) * 2 ^ exponent b := by
  cases s with
  | negative =>
    rw [Sign.apply, Sign.apply, valueOf_neg, valueOf_natCast, magnitude]
    push_cast
    ring
  | positive =>
    rw [Sign.apply, Sign.apply, valueOf_natCast, magnitude]
    push_cast
    rfl

theorem natAbs_apply (s : Sign) (b : ℕ) : (s.apply b).natAbs = b := by
  cases s <;> simp [Sign.apply]

/-- A finite float is a zero or has a significand. -/
theorem unpack_of_finite (hx : rank? x = some k) (hk : k.natAbs < infinityBits) :
    (k = 0 ∧ ∃ s, x.toModel.unpack = .zero s) ∨
      ∃ s m e hm, x.toModel.unpack = .finite s m e hm ∧ valueOf k = s.apply m * 2 ^ e := by
  obtain ⟨s, b, -, rfl, hux⟩ := unpack_of_rank hx
  rw [natAbs_apply] at hk
  rcases Nat.eq_zero_or_pos b with rfl | hpos
  · exact Or.inl ⟨Sign.apply_zero s, s, by rw [hux, unpackedOf_zero]⟩
  · exact Or.inr ⟨s, _, _, _, by rw [hux, unpackedOf_finite hpos hk], valueOf_apply s b⟩

/-- A float that is an operand of a zero comes back. -/
theorem rank?_pack_unpack (hx : rank? x = some k) : rank? ⟨Float.Model.pack x.toModel.unpack⟩ = some k := by
  obtain ⟨s, b, hb, rfl, hux⟩ := unpack_of_rank hx
  rw [hux, rank?_pack_unpackedOf hb]

theorem nearestRank_valueOf_rank (hx : rank? x = some k) : nearestRank (valueOf k) = k :=
  nearestRank_valueOf (rank?_le hx)

/-- A significand brought to a lower place. -/
theorem apply_shiftLeft (s : Sign) (m : ℕ) (h : e ≤ d) :
    ((s.apply (m <<< (d - e).toNat : ℕ) : ℤ) : ℚ) * 2 ^ e = s.apply m * 2 ^ d := by
  obtain ⟨k, rfl⟩ := Int.le.dest h
  rw [show (e + (k : ℤ) - e).toNat = k by omega, zpow_add₀ two_ne_zero, zpow_natCast, Nat.shiftLeft_eq]
  cases s with
  | negative =>
    simp only [Sign.apply]
    push_cast
    ring
  | positive =>
    simp only [Sign.apply]
    push_cast
    ring

theorem rank?_pack_zero (s : Sign) : rank? ⟨Float.Model.pack (.zero s)⟩ = some 0 := by
  rw [← unpackedOf_zero, rank?_pack_unpackedOf (Nat.zero_le _), Nat.cast_zero, Sign.apply_zero]

/-- The sum of finite floats. -/
theorem rank?_add (hx : rank? x = some i) (hy : rank? y = some j) (hi : i.natAbs < infinityBits)
    (hj : j.natAbs < infinityBits) : rank? (x + y) = some (nearestRank (valueOf i + valueOf j)) := by
  change rank? ⟨Float.Model.pack (UnpackedFloat.add .binary64 x.toModel.unpack y.toModel.unpack)⟩ = _
  have hpackx := rank?_pack_unpack hx
  have hpacky := rank?_pack_unpack hy
  rcases unpack_of_finite hx hi with ⟨rfl, s, hux⟩ | ⟨s, m, d, hm, hux, hvx⟩ <;>
    rcases unpack_of_finite hy hj with ⟨rfl, t, huy⟩ | ⟨t, n, e, hn, huy, hvy⟩
  · rw [hux, huy, valueOf_zero, add_zero, nearestRank_zero]
    cases s <;> cases t <;> exact rank?_pack_zero _
  · rw [valueOf_zero, zero_add, nearestRank_valueOf_rank hy, ← hpacky, hux, huy]
    rfl
  · rw [valueOf_zero, add_zero, nearestRank_valueOf_rank hx, ← hpackx, hux, huy]
    rfl
  · rw [hux, huy, UnpackedFloat.add]
    simp only [decreaseExponent]
    rw [rank?_normalize, hvx, hvy, Int.cast_add, add_mul, apply_shiftLeft s m (min_le_left _ _),
      apply_shiftLeft t n (min_le_right _ _)]

/-- A float that is not negative is a zero or has no sign. -/
theorem unpack_of_natCast (hx : rank? x = some (a : ℤ)) :
    (a = 0 ∧ ∃ s, x.toModel.unpack = .zero s) ∨
      0 < a ∧ a ≤ infinityBits ∧ x.toModel.unpack = unpackedOf .positive a := by
  obtain ⟨s, b, hb, hab, hux⟩ := unpack_of_rank hx
  rcases Nat.eq_zero_or_pos a with rfl | hpos
  · obtain rfl : b = 0 := by rw [← natAbs_apply s b, ← hab]; rfl
    exact Or.inl ⟨rfl, s, by rw [hux, unpackedOf_zero]⟩
  · cases s with
    | negative =>
      rw [Sign.apply] at hab
      omega
    | positive =>
      obtain rfl : a = b := Int.ofNat.inj hab
      exact Or.inr ⟨hpos, hb, hux⟩

/-- A finite one is a zero or has a significand. -/
theorem unpack_of_natCast_lt (hx : rank? x = some (a : ℤ)) (ha : a < infinityBits) :
    (a = 0 ∧ ∃ s, x.toModel.unpack = .zero s) ∨
      ∃ hpos : 0 < a, x.toModel.unpack = .finite .positive (significand a) (exponent a) (significand_pos hpos) := by
  refine (unpack_of_natCast hx).imp_right ?_
  rintro ⟨hpos, -, hux⟩
  exact ⟨hpos, by rw [hux, unpackedOf_finite hpos ha]⟩

/-- The difference to a positive float. -/
theorem rank?_sub (hx : rank? x = some i) (hy : rank? y = some (b : ℤ)) (hi : i.natAbs < infinityBits)
    (hb : b < infinityBits) (hpos : 0 < b) : rank? (x - y) = some (nearestRank (valueOf i - magnitude b)) := by
  change rank? ⟨Float.Model.pack (UnpackedFloat.sub .binary64 x.toModel.unpack y.toModel.unpack)⟩ = _
  have hback := nearestRank_valueOf_rank hy
  obtain ⟨rfl, -⟩ | ⟨_, huy⟩ := unpack_of_natCast_lt hy hb
  · omega
  rcases unpack_of_finite hx hi with ⟨rfl, s, hux⟩ | ⟨s, m, d, hm, hux, hvx⟩
  · rw [valueOf_zero, zero_sub, nearestRank_neg, ← valueOf_natCast, hback, hux, huy]
    have hfinite := unpackedOf_finite (s := .negative) hpos hb
    exact (congrArg (fun u => rank? ⟨Float.Model.pack u⟩) hfinite.symm).trans (rank?_pack_unpackedOf hb.le)
  · rw [hux, huy, UnpackedFloat.sub]
    simp only [decreaseExponent]
    rw [rank?_normalize, hvx, Int.cast_sub, sub_mul, apply_shiftLeft s m (min_le_left _ _),
      apply_shiftLeft .positive (significand b) (min_le_right _ _)]
    simp only [Sign.apply, Int.cast_natCast, magnitude]

/-- A value is at least as long as its place tells. -/
theorem le_placeOf (hv : 0 < v) (h : 2 ^ 52 * 2 ^ e ≤ v ∨ e ≤ -1074) : e ≤ placeOf v := by
  unfold placeOf
  rcases h with h | h
  · rw [← zpow_natCast, ← zpow_add₀ two_ne_zero] at h
    have := (le_log_iff hv).mpr h
    omega
  · omega

theorem magnitude_mul (a b : ℕ) :
    magnitude a * magnitude b = (significand a * significand b : ℕ) * 2 ^ (exponent a + exponent b) := by
  unfold magnitude
  rw [zpow_add₀ two_ne_zero]
  push_cast
  ring

/-- One of two significands has 53 bits, or their product is among the smallest. -/
theorem product_place (ha : 0 < a) (hb : 0 < b) :
    exponent a + exponent b ≤ placeOf ((significand a * significand b : ℕ) * 2 ^ (exponent a + exponent b)) := by
  have hm : 0 < significand a * significand b := Nat.mul_pos (significand_pos ha) (significand_pos hb)
  have hv : (0 : ℚ) < (significand a * significand b : ℕ) * 2 ^ (exponent a + exponent b) :=
    mul_pos (by exact_mod_cast hm) (zpow_pos two_pos _)
  by_cases hsmall : exponent a + exponent b ≤ -1074
  · exact le_placeOf hv (Or.inr hsmall)
  · have hlong : 2 ^ 52 ≤ significand a * significand b := by
      rcases significand_long a with h | h
      · exact Nat.le_trans h (Nat.le_mul_of_pos_right _ (significand_pos hb))
      · have hlongb := (significand_long b).resolve_right fun h' => by omega
        exact Nat.le_trans hlongb (Nat.le_mul_of_pos_left _ (significand_pos ha))
    exact le_placeOf hv (Or.inl (mul_le_mul_of_nonneg_right (by exact_mod_cast hlong) (zpow_pos two_pos _).le))

/-- The product of finite floats that are not negative. -/
theorem rank?_mul (hx : rank? x = some (a : ℤ)) (hy : rank? y = some (b : ℤ)) (ha : a < infinityBits)
    (hb : b < infinityBits) : rank? (x * y) = some (nearestRank (magnitude a * magnitude b)) := by
  change rank? ⟨Float.Model.pack (UnpackedFloat.mul .binary64 x.toModel.unpack y.toModel.unpack)⟩ = _
  rcases unpack_of_natCast_lt hx ha with ⟨rfl, s, hux⟩ | ⟨hapos, hux⟩ <;>
    rcases unpack_of_natCast_lt hy hb with ⟨rfl, t, huy⟩ | ⟨hbpos, huy⟩
  · rw [hux, huy, magnitude_zero, mul_zero, nearestRank_zero]
    exact rank?_pack_zero _
  · rw [hux, huy, magnitude_zero, zero_mul, nearestRank_zero]
    exact rank?_pack_zero _
  · rw [hux, huy, magnitude_zero, mul_zero, nearestRank_zero]
    exact rank?_pack_zero _
  · have hm : 0 < significand a * significand b := Nat.mul_pos (significand_pos hapos) (significand_pos hbpos)
    have hv : 0 < magnitude a * magnitude b := mul_pos (magnitude_pos hapos) (magnitude_pos hbpos)
    rw [hux, huy]
    rw [magnitude_mul] at hv ⊢
    exact rank?_roundWithAccuracy (s := .positive) hv (leaves_shifted _ _) (by omega) (product_place hapos hbpos)

/-- A numerator shifted so far has a quotient of 53 bits, or one among the smallest. -/
theorem quotient_long (hm : 0 < m) (he : e ≤ max ((m.log2 : ℤ) - n.log2 + d - 53) (-1074)) (hle : e ≤ d) :
    e ≤ -1074 ∨ 2 ^ 52 * n ≤ m <<< (d - e).toNat := by
  by_cases hsmall : e ≤ -1074
  · exact Or.inl hsmall
  · right
    have hbits : 52 + (n.log2 + 1) ≤ m.log2 + (d - e).toNat := by omega
    calc 2 ^ 52 * n ≤ 2 ^ 52 * 2 ^ (n.log2 + 1) := Nat.mul_le_mul_left _ Nat.lt_log2_self.le
      _ = 2 ^ (52 + (n.log2 + 1)) := (Nat.pow_add ..).symm
      _ ≤ 2 ^ (m.log2 + (d - e).toNat) := Nat.pow_le_pow_right two_pos hbits
      _ = 2 ^ m.log2 * 2 ^ (d - e).toNat := Nat.pow_add ..
      _ ≤ m * 2 ^ (d - e).toNat := Nat.mul_le_mul_right _ (Nat.log2_self_le hm.ne')
      _ = m <<< (d - e).toNat := (Nat.shiftLeft_eq ..).symm

/-- A quotient at a place that is low enough is one of whole numbers. -/
theorem magnitude_div (a b : ℕ) (h : e ≤ exponent a - exponent b) : magnitude a / magnitude b / 2 ^ e =
    (significand a <<< (exponent a - exponent b - e).toNat : ℕ) / (significand b : ℕ) := by
  obtain ⟨k, hk⟩ : ∃ k : ℕ, exponent a - exponent b - e = k := ⟨(exponent a - exponent b - e).toNat, by omega⟩
  have hscale : (2 : ℚ) ^ k = 2 ^ exponent a / 2 ^ exponent b / 2 ^ e := by
    rw [← zpow_natCast, ← hk, zpow_sub₀ two_ne_zero, zpow_sub₀ two_ne_zero]
  rw [hk, Int.toNat_natCast, Nat.shiftLeft_eq, Nat.cast_mul, Nat.cast_pow, Nat.cast_ofNat, hscale]
  unfold magnitude
  rw [mul_div_mul_comm]
  ring

/-- The quotient by a positive float. -/
theorem rank?_div (hx : rank? x = some (a : ℤ)) (hy : rank? y = some (b : ℤ)) (ha : a < infinityBits)
    (hb : b < infinityBits) (hpos : 0 < b) : rank? (x / y) = some (nearestRank (magnitude a / magnitude b)) := by
  change rank? ⟨Float.Model.pack (UnpackedFloat.div .binary64 x.toModel.unpack y.toModel.unpack)⟩ = _
  obtain ⟨rfl, -⟩ | ⟨_, huy⟩ := unpack_of_natCast_lt hy hb
  · omega
  rcases unpack_of_natCast_lt hx ha with ⟨rfl, s, hux⟩ | ⟨hapos, hux⟩
  · rw [hux, huy, magnitude_zero, zero_div, nearestRank_zero]
    exact rank?_pack_zero _
  have hv : 0 < magnitude a / magnitude b := div_pos (magnitude_pos hapos) (magnitude_pos hpos)
  have hn := significand_pos hpos
  obtain ⟨e, he⟩ : ∃ e, min (exponent a - exponent b) (max (((significand a).log2 : ℤ) + 1 + exponent a -
    ((significand b).log2 + 1 + exponent b) - 53) (-1074)) = e := ⟨_, rfl⟩
  have hcore : divCore .binary64 (significand a) (exponent a) (significand b) (exponent b) =
      ((significand a <<< (exponent a - exponent b - e).toNat) / significand b, e,
        accuracyOfFraction ((significand a <<< (exponent a - exponent b - e).toNat) % significand b)
          (significand b)) := by
    rw [← he]
    rfl
  have hle : e ≤ exponent a - exponent b := by omega
  have hlong := quotient_long (n := significand b) (significand_pos hapos) (by omega) hle
  have hvalue := magnitude_div a b hle
  generalize significand a <<< (exponent a - exponent b - e).toNat = num at hcore hlong hvalue
  rw [hux, huy, UnpackedFloat.div, hcore]
  refine rank?_roundWithAccuracy (s := .positive) hv ?_ ?_ ?_
  · rw [hvalue]
    exact leaves_div num hn
  · intro hzero
    have hlt := (Nat.div_eq_zero_iff_lt hn).mp hzero
    rcases hlong with h | h <;> omega
  · refine le_placeOf hv (hlong.symm.imp_left fun h => ?_)
    rw [← le_div_iff₀ (zpow_pos two_pos _), hvalue, le_div_iff₀ (by exact_mod_cast hn)]
    exact_mod_cast h

end Formwork.Binary64
