/-
  Formwork.Proofs.Number.Within: floats between 0 and another one.

  Rounding keeps the order, so sums, multiples and shares of floats that are not negative keep it
  too, up to the infinity. Only an infinite bound can lose its number: an infinite factor takes 0
  to NaN. So a float is said to be within another one when it is from 0 to it, or NaN beside an
  infinite one (`Within`), and this is kept by adding (`Within.add`) and by positive factors
  (`Within.mul`).

  - `roundHalfUp_of_share`: the percentage of a share from 0 to 1, by the bits of the share.
  - `percentage_within`: the percentage of such a float lies between 0 and 100.
-/

import Formwork.Number.Basic
import Formwork.Proofs.Bind
import Formwork.Proofs.Number.Whole

namespace Formwork

namespace Binary64

open Float.Model (UnpackedFloat)
open Float.Model.UnpackedFloat

variable {x y z w : Float} {a b : ℕ} {v : ℚ} {u : UnpackedFloat}

/-! ## The order -/

theorem rank?_natCast_le (hx : rank? x = some (a : ℤ)) : a ≤ infinityBits := by
  simpa using rank?_le hx

theorem nonneg_iff : 0 ≤ x ↔ ∃ a : ℕ, rank? x = some (a : ℤ) := by
  refine ⟨fun h => ?_, fun ⟨a, hx⟩ => ?_⟩
  · obtain ⟨a, -, hx⟩ := exists_rank_of_nonneg h
    exact ⟨a, hx⟩
  · rw [le_iff_of_rank rank?_zero hx]
    exact Int.natCast_nonneg a

theorem pos_iff : 0 < x ↔ ∃ a : ℕ, 0 < a ∧ rank? x = some (a : ℤ) := by
  constructor
  · intro h
    obtain ⟨i, k, hzero, hx, hlt⟩ := lt_iff.mp h
    obtain rfl : 0 = i := Option.some.inj (rank?_zero.symm.trans hzero)
    obtain ⟨a, rfl⟩ := Int.eq_ofNat_of_zero_le hlt.le
    exact ⟨a, by omega, hx⟩
  · rintro ⟨a, hpos, hx⟩
    rw [lt_iff_of_rank rank?_zero hx]
    omega

theorem le_of_le_of_le (hxy : x ≤ y) (hyz : y ≤ z) : x ≤ z := by
  obtain ⟨i, j, hx, hy, hij⟩ := le_iff.mp hxy
  obtain ⟨j', k, hy', hz, hjk⟩ := le_iff.mp hyz
  obtain rfl : j = j' := Option.some.inj (hy.symm.trans hy')
  exact le_iff.mpr ⟨i, k, hx, hz, hij.trans hjk⟩

theorem le_refl_of_nonneg (h : 0 ≤ x) : x ≤ x := by
  obtain ⟨a, hx⟩ := nonneg_iff.mp h
  rw [le_iff_of_rank hx hx]

theorem le_of_pos (h : 0 < x) : 0 ≤ x := by
  obtain ⟨a, -, hx⟩ := pos_iff.mp h
  exact nonneg_iff.mpr ⟨a, hx⟩

theorem zero_le_zero_float : (0 : Float) ≤ 0 := (le_iff_of_rank rank?_zero rank?_zero).mpr le_rfl

theorem zero_lt_one_float : (0 : Float) < 1 := (lt_iff_of_rank rank?_zero rank?_one).mpr (by decide)

theorem zero_le_one_float : (0 : Float) ≤ 1 := le_of_pos zero_lt_one_float

theorem le_of_not_pos (hx : 0 ≤ x) (h : ¬ 0 < x) (hy : 0 ≤ y) : x ≤ y := by
  obtain ⟨a, hrankx⟩ := nonneg_iff.mp hx
  obtain ⟨b, hranky⟩ := nonneg_iff.mp hy
  rw [lt_iff_of_rank rank?_zero hrankx] at h
  rw [le_iff_of_rank hrankx hranky]
  omega

/-! ## Infinities and NaN -/

theorem rank?_pack_notANumber : rank? ⟨Float.Model.pack .notANumber⟩ = none := by
  rw [rank?_eq_none_iff]
  exact isNaN_pack .notANumber

theorem rank?_pack_infinity : rank? ⟨Float.Model.pack (.infinity .positive)⟩ = some (infinityBits : ℤ) := by
  rw [← unpackedOf_infinity]
  exact rank?_pack_unpackedOf le_rfl

theorem unpack_of_infinite (hx : rank? x = some (infinityBits : ℤ)) : x.toModel.unpack = .infinity .positive := by
  obtain ⟨h, -⟩ | ⟨-, -, hux⟩ := unpack_of_natCast hx
  · exact absurd h (by decide)
  · rw [hux, unpackedOf_infinity]

/-- A float that is not negative is infinite, a zero or has no sign. -/
theorem unpack_nonneg_cases (hx : rank? x = some (a : ℤ)) :
    (a = infinityBits ∧ x.toModel.unpack = .infinity .positive) ∨ (a = 0 ∧ ∃ s, x.toModel.unpack = .zero s) ∨
      0 < a ∧ a < infinityBits ∧ ∃ m e hm, x.toModel.unpack = .finite .positive m e hm := by
  rcases Nat.lt_or_eq_of_le (rank?_natCast_le hx) with hlt | rfl
  · rcases unpack_of_natCast_lt hx hlt with h | ⟨hpos, h⟩
    · exact Or.inr (Or.inl h)
    · exact Or.inr (Or.inr ⟨hpos, hlt, _, _, _, h⟩)
  · exact Or.inl ⟨rfl, unpack_of_infinite hx⟩

theorem nearestRank_of_infinite (h : magnitude infinityBits ≤ v) : nearestRank v = infinityBits := by
  rw [nearestRank_of_nonneg ((magnitude_nonneg _).trans h), Nat.min_eq_left (le_nearestBits h)]

/-! ## Sums -/

theorem rank?_add_none (h : rank? x = none ∨ rank? y = none) : rank? (x + y) = none := by
  change rank? ⟨Float.Model.pack (UnpackedFloat.add .binary64 x.toModel.unpack y.toModel.unpack)⟩ = _
  have hadd : UnpackedFloat.add .binary64 x.toModel.unpack y.toModel.unpack = .notANumber := by
    rcases h with h | h
    · rw [unpack_of_rank_none h]
      rfl
    · rw [unpack_of_rank_none h]
      cases x.toModel.unpack <;> rfl
  rw [hadd, rank?_pack_notANumber]

/-- The sum of floats that are not negative, which may be infinite. -/
theorem rank?_add_nonneg (hx : rank? x = some (a : ℤ)) (hy : rank? y = some (b : ℤ)) :
    rank? (x + y) = some (nearestRank (magnitude a + magnitude b)) := by
  rcases Nat.lt_or_eq_of_le (rank?_natCast_le hx) with ha | rfl
  · rcases Nat.lt_or_eq_of_le (rank?_natCast_le hy) with hb | rfl
    · have hsum := rank?_add hx hy (by simpa using ha) (by simpa using hb)
      rwa [valueOf_natCast, valueOf_natCast] at hsum
    · rw [nearestRank_of_infinite (le_add_of_nonneg_left (magnitude_nonneg a)), ← rank?_pack_infinity]
      change rank? ⟨Float.Model.pack (UnpackedFloat.add .binary64 x.toModel.unpack y.toModel.unpack)⟩ = _
      rw [unpack_of_infinite hy]
      rcases unpack_nonneg_cases hx with ⟨-, h⟩ | ⟨-, s, h⟩ | ⟨-, -, m, e, hm, h⟩ <;> rw [h] <;> rfl
  · rw [nearestRank_of_infinite (le_add_of_nonneg_right (magnitude_nonneg b)), ← rank?_pack_infinity]
    change rank? ⟨Float.Model.pack (UnpackedFloat.add .binary64 x.toModel.unpack y.toModel.unpack)⟩ = _
    rw [unpack_of_infinite hx]
    rcases unpack_nonneg_cases hy with ⟨-, h⟩ | ⟨-, s, h⟩ | ⟨-, -, m, e, hm, h⟩ <;> rw [h] <;> rfl

theorem rank?_zero_add (hx : rank? x = some 0) (hy : rank? y = some (a : ℤ)) : rank? (x + y) = some (a : ℤ) := by
  rw [rank?_add_nonneg (a := 0) hx hy, magnitude_zero, zero_add, ← valueOf_natCast, nearestRank_valueOf_rank hy]

/-- A float that is not negative stays the same with one that is neither negative nor positive. -/
theorem rank?_add_of_not_pos (hx : rank? x = some (a : ℤ)) (hy : 0 ≤ y) (hnot : ¬ 0 < y) :
    rank? (x + y) = some (a : ℤ) := by
  obtain ⟨b, hy⟩ := nonneg_iff.mp hy
  rw [lt_iff_of_rank rank?_zero hy] at hnot
  obtain rfl : b = 0 := by omega
  rw [rank?_add_nonneg hx hy, magnitude_zero, add_zero, ← valueOf_natCast, nearestRank_valueOf_rank hx]

theorem add_nonneg_float (hx : 0 ≤ x) (hy : 0 ≤ y) : 0 ≤ x + y := by
  obtain ⟨a, hx⟩ := nonneg_iff.mp hx
  obtain ⟨b, hy⟩ := nonneg_iff.mp hy
  have hnonneg := add_nonneg (magnitude_nonneg a) (magnitude_nonneg b)
  exact nonneg_iff.mpr ⟨_, by rw [rank?_add_nonneg hx hy, nearestRank_of_nonneg hnonneg]⟩

/-! ## Products and quotients with infinities -/

theorem rank?_mul_infinite (hx : rank? x = some (infinityBits : ℤ)) (hy : rank? y = some (b : ℤ)) (hb : 0 < b) :
    rank? (x * y) = some (infinityBits : ℤ) ∧ rank? (y * x) = some (infinityBits : ℤ) := by
  have hux := unpack_of_infinite hx
  rw [← rank?_pack_infinity]
  change rank? ⟨Float.Model.pack (UnpackedFloat.mul .binary64 x.toModel.unpack y.toModel.unpack)⟩ = _ ∧
    rank? ⟨Float.Model.pack (UnpackedFloat.mul .binary64 y.toModel.unpack x.toModel.unpack)⟩ = _
  rcases unpack_nonneg_cases hy with ⟨-, h⟩ | ⟨h, -⟩ | ⟨-, -, m, e, hm, h⟩
  · rw [hux, h]
    exact ⟨rfl, rfl⟩
  · omega
  · rw [hux, h]
    exact ⟨rfl, rfl⟩

theorem rank?_zero_mul_infinite (hx : rank? x = some 0) (hy : rank? y = some (infinityBits : ℤ)) :
    rank? (x * y) = none := by
  obtain ⟨-, s, hux⟩ | ⟨h, -⟩ := unpack_of_natCast (a := 0) hx
  · change rank? ⟨Float.Model.pack (UnpackedFloat.mul .binary64 x.toModel.unpack y.toModel.unpack)⟩ = _
    rw [hux, unpack_of_infinite hy]
    exact rank?_pack_notANumber
  · omega

theorem rank?_mul_none (h : rank? x = none) : rank? (x * y) = none := by
  change rank? ⟨Float.Model.pack (UnpackedFloat.mul .binary64 x.toModel.unpack y.toModel.unpack)⟩ = _
  rw [unpack_of_rank_none h]
  exact rank?_pack_notANumber

theorem rank?_div_none (h : rank? x = none) : rank? (x / y) = none := by
  change rank? ⟨Float.Model.pack (UnpackedFloat.div .binary64 x.toModel.unpack y.toModel.unpack)⟩ = _
  rw [unpack_of_rank_none h]
  exact rank?_pack_notANumber

/-- By an infinity a finite float gives 0, and an infinite one nothing. -/
theorem rank?_div_infinite (hx : rank? x = some (a : ℤ)) (hy : rank? y = some (infinityBits : ℤ)) :
    rank? (x / y) = if a = infinityBits then none else some 0 := by
  change rank? ⟨Float.Model.pack (UnpackedFloat.div .binary64 x.toModel.unpack y.toModel.unpack)⟩ = _
  rw [unpack_of_infinite hy]
  rcases unpack_nonneg_cases hx with ⟨rfl, h⟩ | ⟨rfl, s, h⟩ | ⟨-, hlt, m, e, hm, h⟩
  · rw [h, if_pos rfl]
    exact rank?_pack_notANumber
  · rw [h, if_neg (by decide)]
    exact rank?_pack_zero _
  · rw [h, if_neg hlt.ne]
    exact rank?_pack_zero _

/-! ## Floats within another one -/

/-- From 0 to `y`, or NaN beside an infinite `y`. -/
def Within (x y : Float) : Prop :=
  ∃ b : ℕ, rank? y = some (b : ℤ) ∧
    ((∃ a : ℕ, a ≤ b ∧ rank? x = some (a : ℤ)) ∨ rank? x = none ∧ b = infinityBits)

theorem within_of_le (h0 : 0 ≤ x) (h : x ≤ y) : Within x y := by
  obtain ⟨a, hx⟩ := nonneg_iff.mp h0
  obtain ⟨b, hy⟩ := nonneg_iff.mp (le_of_le_of_le h0 h)
  refine ⟨b, hy, Or.inl ⟨a, ?_, hx⟩⟩
  rw [le_iff_of_rank hx hy] at h
  omega

theorem Within.not_lt (h : Within x y) : ¬ y < x := by
  intro hlt
  obtain ⟨b, hy, ⟨a, hle, hx⟩ | ⟨hx, -⟩⟩ := h
  · rw [lt_iff_of_rank hy hx] at hlt
    omega
  · obtain ⟨_, _, -, hx', -⟩ := lt_iff.mp hlt
    rw [hx] at hx'
    cases hx'

theorem exists_nearestRank (hv : 0 ≤ v) : ∃ c : ℕ, nearestRank v = c := ⟨_, nearestRank_of_nonneg hv⟩

/-- Sums of floats within others are within their sum. -/
theorem Within.add (hx : Within x y) (hz : Within z w) : Within (x + z) (y + w) := by
  obtain ⟨b, hy, hx⟩ := hx
  obtain ⟨d, hw, hz⟩ := hz
  have hsum := rank?_add_nonneg hy hw
  obtain ⟨total, htotal⟩ := exists_nearestRank (add_nonneg (magnitude_nonneg b) (magnitude_nonneg d))
  refine ⟨total, by rw [hsum, htotal], ?_⟩
  have hinfinite : b = infinityBits ∨ d = infinityBits → total = infinityBits := by
    intro h
    have : nearestRank (magnitude b + magnitude d) = infinityBits := by
      apply nearestRank_of_infinite
      rcases h with rfl | rfl
      · exact le_add_of_nonneg_right (magnitude_nonneg d)
      · exact le_add_of_nonneg_left (magnitude_nonneg b)
    omega
  rcases hx with ⟨a, hab, hx⟩ | ⟨hx, hb⟩
  · rcases hz with ⟨c, hcd, hz⟩ | ⟨hz, hd⟩
    · left
      have hpart := rank?_add_nonneg hx hz
      obtain ⟨part, heq⟩ := exists_nearestRank (add_nonneg (magnitude_nonneg a) (magnitude_nonneg c))
      refine ⟨part, ?_, by rw [hpart, heq]⟩
      have hmono := nearestRank_mono (add_le_add (magnitude_le_magnitude.mpr hab) (magnitude_le_magnitude.mpr hcd))
      omega
    · exact Or.inr ⟨rank?_add_none (.inr hz), hinfinite (.inr hd)⟩
  · exact Or.inr ⟨rank?_add_none (.inl hx), hinfinite (.inl hb)⟩

/-- A positive factor keeps a float within a positive one. -/
theorem Within.mul (h0 : 0 ≤ x) (h : x ≤ y) (hy : 0 < y) (hw : 0 < w) : Within (x * w) (y * w) := by
  obtain ⟨a, hx⟩ := nonneg_iff.mp h0
  obtain ⟨b, hbpos, hy⟩ := pos_iff.mp hy
  obtain ⟨d, hdpos, hw⟩ := pos_iff.mp hw
  rw [le_iff_of_rank hx hy, Nat.cast_le] at h
  rcases Nat.lt_or_eq_of_le (rank?_natCast_le hw) with hd | rfl
  · rcases Nat.lt_or_eq_of_le (rank?_natCast_le hy) with hb | rfl
    · have hpart := rank?_mul hx hw (by omega) hd
      have hwhole := rank?_mul hy hw hb hd
      obtain ⟨part, heqpart⟩ := exists_nearestRank (mul_nonneg (magnitude_nonneg a) (magnitude_nonneg d))
      obtain ⟨whole, heqwhole⟩ := exists_nearestRank (mul_nonneg (magnitude_nonneg b) (magnitude_nonneg d))
      have hmono := nearestRank_mono (mul_le_mul_of_nonneg_right (magnitude_le_magnitude.mpr h) (magnitude_nonneg d))
      exact ⟨whole, by rw [hwhole, heqwhole], Or.inl ⟨part, by omega, by rw [hpart, heqpart]⟩⟩
    · refine ⟨infinityBits, (rank?_mul_infinite hy hw hdpos).1, Or.inl ?_⟩
      rcases Nat.lt_or_eq_of_le h with ha | rfl
      · obtain ⟨part, heqpart⟩ := exists_nearestRank (mul_nonneg (magnitude_nonneg a) (magnitude_nonneg d))
        have hbound := nearestRank_le_infinity (magnitude a * magnitude d)
        exact ⟨part, by omega, by rw [rank?_mul hx hw ha hd, heqpart]⟩
      · exact ⟨infinityBits, le_rfl, (rank?_mul_infinite hx hw hdpos).1⟩
  · refine ⟨infinityBits, (rank?_mul_infinite hw hy hbpos).2, ?_⟩
    rcases Nat.eq_zero_or_pos a with rfl | hapos
    · exact Or.inr ⟨rank?_zero_mul_infinite hx hw, rfl⟩
    · exact Or.inl ⟨infinityBits, le_rfl, (rank?_mul_infinite hw hx hapos).2⟩

theorem isFinite_iff_of_rank (hx : rank? x = some (a : ℤ)) : x.isFinite = true ↔ a < infinityBits := by
  rw [isFinite_iff_rank, hx]
  simp

/-- Beside a finite float nothing but numbers up to it is within. -/
theorem Within.bounds (h : Within x y) (hy : y.isFinite = true) : 0 ≤ x ∧ x ≤ y := by
  obtain ⟨b, hb, ⟨a, hle, hx⟩ | ⟨-, rfl⟩⟩ := h
  · exact ⟨nonneg_iff.mpr ⟨a, hx⟩, (le_iff_of_rank hx hb).mpr (Int.ofNat_le.mpr hle)⟩
  · exact absurd ((isFinite_iff_of_rank hb).mp hy) (Nat.lt_irrefl _)

/-- The share of a float within a positive one is from 0 to 1, or NaN beside an infinite one. -/
theorem Within.div (h : Within x y) (hy : 0 < y) :
    (∃ a : ℕ, rank? (x / y) = some (a : ℤ) ∧ magnitude a ≤ 1) ∨ rank? (x / y) = none ∧ y.isFinite = false := by
  obtain ⟨b, hb, hx⟩ := h
  obtain ⟨b', hpos, hb'⟩ := pos_iff.mp hy
  obtain rfl : b = b' := by exact_mod_cast Option.some.inj (hb.symm.trans hb')
  rcases Nat.lt_or_eq_of_le (rank?_natCast_le hb) with hlt | rfl
  · -- beside a finite one it is rounded to 1 at most
    obtain ⟨a, hle, hx⟩ := hx.resolve_right fun h => hlt.ne h.2
    have hquotient := rank?_div hx hb (by omega) hlt hpos
    have hnonneg := div_nonneg (magnitude_nonneg a) (magnitude_nonneg b)
    rw [nearestRank_of_nonneg hnonneg] at hquotient
    refine Or.inl ⟨_, hquotient, ?_⟩
    rw [← magnitude_oneBits, magnitude_le_magnitude]
    refine Nat.le_trans (Nat.min_le_right _ _) (nearestBits_le hnonneg ?_)
    rw [magnitude_oneBits, div_le_one (magnitude_pos hpos)]
    exact magnitude_le_magnitude.mpr hle
  · have hinfinite : y.isFinite = false := by
      rw [← Bool.not_eq_true, isFinite_iff_of_rank hb]
      exact Nat.lt_irrefl _
    rcases hx with ⟨a, hle, hx⟩ | ⟨hx, -⟩
    · have hquotient := rank?_div_infinite hx hb
      split at hquotient
      · exact Or.inr ⟨hquotient, hinfinite⟩
      · exact Or.inl ⟨0, hquotient, by rw [magnitude_zero]; exact zero_le_one⟩
    · exact Or.inr ⟨rank?_div_none hx, hinfinite⟩

/-! ## Percentages -/

theorem floor?_of_rank_none (h : rank? x = none) : floor? x = none := by
  rw [floor?_eq_none_iff, ← Bool.not_eq_true, isFinite_iff_rank]
  rintro ⟨k, hk, -⟩
  rw [h] at hk
  cases hk

theorem rank?_hundred : ∃ b : ℕ, b < infinityBits ∧ rank? 100 = some (b : ℤ) ∧ magnitude b = 100 := by
  obtain ⟨k, hk, hlt, hvalue⟩ := toInt?_eq_some_iff.mp (show toInt? 100 = some 100 by decide +kernel)
  obtain ⟨b, rfl⟩ := Int.eq_ofNat_of_zero_le (valueOf_nonneg_iff.mp (by rw [hvalue]; norm_num))
  rw [valueOf_natCast] at hvalue
  exact ⟨b, by simpa using hlt, hk, by simpa using hvalue⟩

def halfBits : ℕ := 1022 * hiddenBit

theorem rank?_half : rank? 0.5 = some (halfBits : ℤ) := by
  decide +kernel

theorem magnitude_halfBits : magnitude halfBits = 1 / 2 := by
  have h := magnitude_two_pow (e := -53) (by decide)
  have hplace : ((-53 : ℤ) + 1075).toNat = 1022 := by decide
  rw [hplace, ← halfBits] at h
  rw [h]
  norm_num

/-- A float is rounded to the integral part of its sum with a half, and the sum is rounded before that. -/
theorem roundHalfUp_of_rank (hz : rank? z = some (a : ℤ)) (hle : magnitude a ≤ 100) :
    roundHalfUp z = .ok ⌊magnitude (nearestBits (magnitude a + 1 / 2))⌋ := by
  have hsum := rank?_add_nonneg hz rank?_half
  rw [magnitude_halfBits] at hsum
  have hnonneg : 0 ≤ magnitude a + 1 / 2 := add_nonneg (magnitude_nonneg a) (by norm_num)
  have hfinite := nearestBits_lt_infinityBits hnonneg (by norm_num; linarith)
  rw [nearestRank_of_nonneg hnonneg, Nat.min_eq_right hfinite.le] at hsum
  have hfloor := floor?_of_rank hsum (by rwa [Int.natAbs_natCast])
  rw [valueOf_natCast] at hfloor
  rw [roundHalfUp, hfloor]

def percentOf (a : ℕ) : ℤ := ⌊magnitude (nearestBits (magnitude (nearestBits (magnitude a * 100)) + 1 / 2))⌋

theorem lt_infinityBits_of_share (h : a ≤ oneBits) : a < infinityBits := Nat.lt_of_le_of_lt h (by decide)

/-- A hundred times a share is a hundred at most, also when it is rounded. -/
theorem magnitude_hundredfold_le (h : a ≤ oneBits) : magnitude (nearestBits (magnitude a * 100)) ≤ 100 := by
  obtain ⟨b, -, -, hvalue⟩ := rank?_hundred
  have hle : magnitude a ≤ 1 := by rwa [← magnitude_oneBits, magnitude_le_magnitude]
  have hnonneg : 0 ≤ magnitude a * 100 := mul_nonneg (magnitude_nonneg a) (by norm_num)
  rw [← hvalue, magnitude_le_magnitude, hvalue]
  exact nearestBits_le hnonneg (by rw [hvalue]; linarith)

/-- A share from 0 to 1 gets its percentage. -/
theorem roundHalfUp_of_share (hz : rank? z = some (a : ℤ)) (h : a ≤ oneBits) :
    roundHalfUp (z * 100) = .ok (percentOf a) := by
  obtain ⟨b, hb, hhundred, hvalue⟩ := rank?_hundred
  have hproduct := rank?_mul hz hhundred (lt_infinityBits_of_share h) hb
  have hle := magnitude_hundredfold_le h
  have hfinite : nearestBits (magnitude a * 100) < infinityBits :=
    Nat.lt_of_le_of_lt (magnitude_le_magnitude.mp (hle.trans hvalue.ge)) hb
  rw [hvalue, nearestRank_of_nonneg (mul_nonneg (magnitude_nonneg a) (by norm_num)), Nat.min_eq_right hfinite.le]
    at hproduct
  exact roundHalfUp_of_rank hproduct hle

theorem percentOf_mono (h : a ≤ b) : percentOf a ≤ percentOf b := by
  have hstep : magnitude a * 100 ≤ magnitude b * 100 :=
    mul_le_mul_of_nonneg_right (magnitude_le_magnitude.mpr h) (by norm_num)
  have hproduct := nearestBits_mono (mul_nonneg (magnitude_nonneg a) (by norm_num)) hstep
  refine Int.floor_mono (magnitude_le_magnitude.mpr (nearestBits_mono ?_ ?_))
  · exact add_nonneg (magnitude_nonneg _) (by norm_num)
  · exact add_le_add_left (magnitude_le_magnitude.mpr hproduct) _

theorem percentOf_bounds (h : a ≤ oneBits) : 0 ≤ percentOf a ∧ percentOf a ≤ 100 := by
  have hle := magnitude_hundredfold_le h
  unfold percentOf
  generalize nearestBits (magnitude a * 100) = b at hle
  -- a hundred and a half is a float
  have hshort : magnitude (nearestBits (201 / 2)) = 201 / 2 := by
    have h := magnitude_nearestBits_of_short (m := 201) (e := -1) (by decide) (by decide)
    norm_num at h
    exact h
  have hbound : magnitude (nearestBits (magnitude b + 1 / 2)) ≤ 201 / 2 := by
    rw [← hshort]
    exact magnitude_le_magnitude.mpr
      (nearestBits_mono (add_nonneg (magnitude_nonneg b) (by norm_num)) (by linarith))
  refine ⟨Int.floor_nonneg.mpr (magnitude_nonneg _), ?_⟩
  rw [← Int.lt_add_one_iff, Int.floor_lt]
  push_cast
  linarith

theorem roundHalfUp_ne_ok_of_rank_none (h : rank? z = none) (p : ℤ) : roundHalfUp z ≠ .ok p := by
  rw [roundHalfUp, floor?_of_rank_none (rank?_add_none (.inl h))]
  exact fun heq => by cases heq

/-- The percentage of a float within another one lies between 0 and 100, and there is one if that is finite. -/
theorem percentage_within (h : Within x y) (hy : 0 < y) :
    (∀ p, percentage (.float x) (.float y) = .ok p → 0 ≤ p ∧ p ≤ 100) ∧
      (y.isFinite = true → ∃ p, percentage (.float x) (.float y) = .ok p) := by
  have hpercentage : percentage (.float x) (.float y) = roundHalfUp (x / y * 100) := by
    obtain ⟨b, hpos, hb⟩ := pos_iff.mp hy
    have hne : ¬ (y == 0) = true := by
      rw [beq_iff_of_rank hb rank?_zero]
      omega
    have hdiv : Number.div (.float x) (.float y) = .ok (x / y) := by
      change (if (y == 0) = true then _ else Except.ok (x / y)) = _
      rw [if_neg hne]
    rw [percentage, hdiv, ok_bind]
  rw [hpercentage]
  rcases h.div hy with ⟨a, ha, hle⟩ | ⟨hnone, hinfinite⟩
  · rw [← magnitude_oneBits, magnitude_le_magnitude] at hle
    have hp := roundHalfUp_of_share ha hle
    refine ⟨fun p hp' => ?_, fun _ => ⟨_, hp⟩⟩
    rw [← Except.ok.inj (hp.symm.trans hp')]
    exact percentOf_bounds hle
  · refine ⟨fun p hp => absurd hp (roundHalfUp_ne_ok_of_rank_none (rank?_mul_none hnone) p), fun h => ?_⟩
    rw [hinfinite] at h
    cases h

end Binary64

end Formwork
