/-
  Formwork.Proofs.Number.Whole: integers and floats.

  An integer is compared with a float by the exact value of the float (`compareInt_of_rank`), and the
  integral part of a float is that of its value (`floor?_of_rank`). Integers of magnitude up to `2 ^ 53`
  are floats, so taking 1 from a smaller one is exact (`toInt?_sub_one`).
-/

import Formwork.Proofs.Number.Arithmetic

namespace Formwork.Binary64

open Float.Model (UnpackedFloat)
open Float.Model.UnpackedFloat

variable {x y : Float} {v w : ℚ} {b m : ℕ} {q k n : ℤ} {negative : Bool}

/-- The parts of a finite float make up the value of its rank. -/
theorem parts_of_rank (hx : rank? x = some k) (hk : k.natAbs < infinityBits) :
    ∃ negative m q, parts x = .finite negative m q ∧
      valueOf k = ((if negative then -(m : ℤ) else m : ℤ) : ℚ) * 2 ^ q := by
  unfold rank? at hx
  simp only at hx
  split at hx
  · cases hx
  rename_i hnum
  obtain rfl := Option.some.inj hx
  have hne : x.toBits.toNat % 2 ^ 63 ≠ infinityBits := by
    split at hk <;> simp only [Int.natAbs_neg, Int.natAbs_natCast] at hk <;> exact hk.ne
  refine ⟨_, _, _, by rw [parts_eq, if_neg hnum, if_neg hne], ?_⟩
  simp only [decide_eq_true_eq]
  generalize x.toBits.toNat % 2 ^ 63 = b
  split
  · rw [valueOf_neg, valueOf_natCast, magnitude]
    push_cast
    ring
  · rw [valueOf_natCast, magnitude]
    push_cast
    rfl

theorem compare_of_iff {α β : Type} [LinearOrder α] [LinearOrder β] {a b : α} {c d : β} (hlt : a < b ↔ c < d)
    (heq : a = b ↔ c = d) : compare a b = compare c d := by
  rcases lt_trichotomy a b with h | h | h
  · rw [compare_lt_iff_lt.mpr h, compare_lt_iff_lt.mpr (hlt.mp h)]
  · rw [compare_eq_iff_eq.mpr h, compare_eq_iff_eq.mpr (heq.mp h)]
  · rw [compare_gt_iff_gt.mpr h, compare_gt_iff_gt.mpr]
    exact lt_of_le_of_ne (not_lt.mp (mt hlt.mpr (not_lt.mpr h.le))) (Ne.symm (mt heq.mpr h.ne'))

/-- A ratio of scales is a power of two. -/
theorem mul_scale (q : ℤ) : (2 : ℚ) ^ q * 2 ^ (-q).toNat = 2 ^ q.toNat := by
  rw [zpow_eq_ratio, div_mul_cancel₀ _ (by positivity)]

/-- An integer is compared with the exact value of a finite float. -/
theorem compareInt_of_rank (hx : rank? x = some k) (hk : k.natAbs < infinityBits) (n : ℤ) :
    compareInt n x = some (compare (n : ℚ) (valueOf k)) := by
  obtain ⟨negative, m, q, hparts, hvalue⟩ := parts_of_rank hx hk
  have hpos : (0 : ℚ) < 2 ^ (-q).toNat := by positivity
  unfold compareInt
  rw [hparts]
  simp only
  generalize (if negative then -(m : ℤ) else m : ℤ) = s at hvalue
  have hscaled : ∀ i : ℤ, ((i * (Nat.pow 2 (-q).toNat : ℕ) : ℤ) : ℚ) = i * 2 ^ (-q).toNat := fun i => by simp
  have hother : ((s * (Nat.pow 2 q.toNat : ℕ) : ℤ) : ℚ) = valueOf k * 2 ^ (-q).toNat := by
    rw [hvalue, mul_assoc, mul_scale]
    simp
  congr 1
  apply compare_of_iff
  · rw [← Int.cast_lt (R := ℚ), hscaled, hother, mul_lt_mul_iff_left₀ hpos]
  · rw [← Int.cast_inj (α := ℚ), hscaled, hother, mul_left_inj' hpos.ne']

/-- The integral part of a finite float is that of its value. -/
theorem floor?_of_rank (hx : rank? x = some k) (hk : k.natAbs < infinityBits) : floor? x = some ⌊valueOf k⌋ := by
  obtain ⟨negative, m, q, hparts, hvalue⟩ := parts_of_rank hx hk
  unfold floor?
  rw [hparts]
  simp only
  generalize (if negative then -(m : ℤ) else m : ℤ) = s at hvalue
  congr 1
  rw [hvalue, zpow_eq_ratio, ← mul_div_assoc]
  have := Rat.floor_intCast_div_natCast (s * (2 ^ q.toNat : ℕ)) (2 ^ (-q).toNat)
  push_cast at this
  rw [this]
  simp

theorem rank?_neg (hx : rank? x = some k) : rank? (-x) = some (-k) := by
  obtain ⟨s, b, hb, rfl, hux⟩ := unpack_of_rank hx
  have hneg : (unpackedOf s b).neg = unpackedOf (-s) b := by
    unfold unpackedOf
    split
    · rfl
    · split <;> rfl
  change rank? ⟨Float.Model.pack x.toModel.unpack.neg⟩ = _
  rw [hux, hneg, rank?_pack_unpackedOf hb]
  cases s with
  | negative => exact congrArg some (neg_neg (b : ℤ)).symm
  | positive => rfl

theorem ceil?_of_rank (hx : rank? x = some k) (hk : k.natAbs < infinityBits) : ceil? x = some ⌈valueOf k⌉ := by
  rw [ceil?, floor?_of_rank (rank?_neg hx) (by rwa [Int.natAbs_neg]), valueOf_neg, Int.floor_neg]
  simp

theorem isFinite_iff_rank : x.isFinite = true ↔ ∃ k, rank? x = some k ∧ k.natAbs < infinityBits := by
  rw [isFinite_iff]
  refine ⟨fun ⟨negative, m, q, h⟩ => ?_, fun ⟨k, hx, hk⟩ => ?_⟩
  · rw [parts_eq] at h
    unfold rank?
    simp only
    split at h
    · cases h
    rename_i hnum
    split at h
    · cases h
    rename_i hne
    rw [if_neg hnum]
    refine ⟨_, rfl, ?_⟩
    split <;> simp only [Int.natAbs_neg, Int.natAbs_natCast] <;> omega
  · obtain ⟨negative, m, q, h, -⟩ := parts_of_rank hx hk
    exact ⟨negative, m, q, h⟩

/-- A float is an integer when its value is one. -/
theorem toInt?_eq_some_iff : toInt? x = some n ↔ ∃ k, rank? x = some k ∧ k.natAbs < infinityBits ∧ valueOf k = n := by
  refine ⟨fun h => ?_, fun ⟨k, hx, hk, hvalue⟩ => ?_⟩
  · have hfinite : x.isFinite = true := by
      rw [← Bool.not_eq_false, ← floor?_eq_none_iff]
      rintro hnone
      rw [toInt?, hnone] at h
      cases h
    obtain ⟨k, hx, hk⟩ := isFinite_iff_rank.mp hfinite
    refine ⟨k, hx, hk, ?_⟩
    rw [toInt?, floor?_of_rank hx hk, ceil?_of_rank hx hk] at h
    simp only [beq_iff_eq, Option.ite_none_right_eq_some, Option.some.injEq] at h
    obtain ⟨hwhole, rfl⟩ := h
    refine le_antisymm ?_ (Int.floor_le _)
    rw [hwhole]
    exact Int.le_ceil _
  · rw [toInt?, floor?_of_rank hx hk, ceil?_of_rank hx hk, hvalue]
    simp

/-- The value of a power of two between the greatest and the least of full length. -/
theorem magnitude_two_pow {e : ℤ} (he : -1074 ≤ e) : magnitude ((e + 1075).toNat * hiddenBit) = 2 ^ 52 * 2 ^ e := by
  have h := magnitude_bits (m := 2 ^ 52) (by decide) he (Or.inl le_rfl)
  have hbits : (e + 1074).toNat * hiddenBit + 2 ^ 52 = (e + 1075).toNat * hiddenBit := by
    rw [hiddenBit]
    omega
  rw [hbits] at h
  exact_mod_cast h

theorem magnitude_oneBits : magnitude oneBits = 1 := by
  have h := magnitude_two_pow (e := -52) (by decide)
  rw [← zpow_natCast, ← zpow_add₀ two_ne_zero] at h
  exact h

theorem nearestBits_lt_infinityBits (hv : 0 ≤ v) (h : v ≤ 2 ^ 53) : nearestBits v < infinityBits := by
  refine Nat.lt_of_le_of_lt (nearestBits_le (b := (1 + 1075 : ℤ).toNat * hiddenBit) hv ?_) (by decide)
  rw [magnitude_two_pow (by decide)]
  refine h.trans ?_
  norm_num

/-- Integers of 53 bits are floats, and so is the next one. -/
theorem valueOf_nearestRank_natCast (h : m ≤ 2 ^ 53) :
    valueOf (nearestRank m) = m ∧ (nearestRank m).natAbs < infinityBits := by
  have hshort : magnitude (nearestBits m) = m := by
    rcases Nat.lt_or_eq_of_le h with hlt | rfl
    · simpa using magnitude_nearestBits_of_short (e := 0) hlt (by decide)
    · have := magnitude_nearestBits_of_short (m := 1) (e := 53) (by decide) (by decide)
      norm_num at this ⊢
      exact this
  have hbelow : nearestBits m < infinityBits :=
    nearestBits_lt_infinityBits (Nat.cast_nonneg m) (by exact_mod_cast h)
  rw [nearestRank_of_nonneg (Nat.cast_nonneg m), Nat.min_eq_right hbelow.le, valueOf_natCast, Int.natAbs_natCast]
  exact ⟨hshort, hbelow⟩

theorem valueOf_nearestRank_intCast (h : n.natAbs ≤ 2 ^ 53) :
    valueOf (nearestRank n) = n ∧ (nearestRank n).natAbs < infinityBits := by
  obtain ⟨m, rfl | rfl⟩ := Int.eq_nat_or_neg n
  · exact_mod_cast valueOf_nearestRank_natCast (by simpa using h)
  · obtain ⟨hvalue, hfinite⟩ := valueOf_nearestRank_natCast (m := m) (by simpa using h)
    push_cast
    rw [nearestRank_neg, valueOf_neg, hvalue, Int.natAbs_neg]
    exact ⟨rfl, hfinite⟩

/-- Taking 1 from an integer is exact. -/
theorem toInt?_sub_one (hx : toInt? x = some n) (h : n.natAbs < 2 ^ 53) : toInt? (x - 1) = some (n - 1) := by
  obtain ⟨k, hrank, hk, hvalue⟩ := toInt?_eq_some_iff.mp hx
  have hsub := rank?_sub hrank rank?_one hk (by decide) (by decide)
  rw [hvalue, magnitude_oneBits] at hsub
  obtain ⟨hback, hfinite⟩ := valueOf_nearestRank_intCast (n := n - 1) (by omega)
  push_cast at hback hfinite
  exact toInt?_eq_some_iff.mpr ⟨_, hsub, hfinite, by rw [hback]; push_cast; rfl⟩

/-- Floats that are integers compare as these do. -/
theorem lt_iff_of_toInt? {i j : ℤ} (hx : toInt? x = some i) (hy : toInt? y = some j) : x < y ↔ i < j := by
  obtain ⟨k, hrankx, -, hvaluex⟩ := toInt?_eq_some_iff.mp hx
  obtain ⟨l, hranky, -, hvaluey⟩ := toInt?_eq_some_iff.mp hy
  rw [lt_iff_of_rank hrankx hranky, ← valueOf_lt_valueOf, hvaluex, hvaluey, Int.cast_lt]

theorem beq_iff_of_toInt? {i j : ℤ} (hx : toInt? x = some i) (hy : toInt? y = some j) : (x == y) = true ↔ i = j := by
  obtain ⟨k, hrankx, -, hvaluex⟩ := toInt?_eq_some_iff.mp hx
  obtain ⟨l, hranky, -, hvaluey⟩ := toInt?_eq_some_iff.mp hy
  rw [beq_iff_of_rank hrankx hranky, ← valueOf_inj, hvaluex, hvaluey, Int.cast_inj]

theorem compareInt_of_toInt? {i : ℤ} (hx : toInt? x = some i) (n : ℤ) : compareInt n x = some (compare n i) := by
  obtain ⟨k, hrank, hk, hvalue⟩ := toInt?_eq_some_iff.mp hx
  rw [compareInt_of_rank hrank hk, hvalue]
  congr 1
  exact compare_of_iff Int.cast_lt Int.cast_inj

end Formwork.Binary64
