/-
  Formwork.Proofs.Number.Rank: the order of floats.

  Counting floats from 0 in the order of their values gives each one but NaN a rank (`rank?`), both
  zeros the rank 0 and the infinities the last ones. Floats compare as their ranks do, so an order of
  floats is an order of integers, and the exact value of a float is a function of its rank
  (`valueOf`) that keeps the order.

  - `lt_iff`, `le_iff`, `beq_iff`: floats compare as their ranks do, NaN with nothing.
  - `rank?_pack`: the rank of a result, from the bits that it is packed as.
-/

import Formwork.Proofs.Number.Packing

namespace Formwork.Binary64

open Float.Model (UnpackedFloat)
open Float.Model.UnpackedFloat

variable {x y : Float} {a b : ℕ} {i j k : ℤ} {s t : Sign} {u : UnpackedFloat}

/-! ## Ranks -/

/-- The place of a float among all floats, counted from 0. -/
def rank? (x : Float) : Option ℤ :=
  let bits := x.toBits.toNat
  if infinityBits < bits % 2 ^ 63 then none
  else some (if 2 ^ 63 ≤ bits then -(bits % 2 ^ 63 : ℕ) else (bits % 2 ^ 63 : ℕ))

def unpackedOf (s : Sign) (b : ℕ) : UnpackedFloat :=
  if b = infinityBits then .infinity s
  else if h : 0 < significand b then .finite s (significand b) (exponent b) h
  else .zero s

theorem unpackedOf_infinity (s : Sign) : unpackedOf s infinityBits = .infinity s := if_pos rfl

theorem unpackedOf_zero (s : Sign) : unpackedOf s 0 = .zero s := by
  unfold unpackedOf
  rw [if_neg (by decide), dif_neg (by decide)]

theorem unpackedOf_finite (hpos : 0 < b) (hlt : b < infinityBits) :
    unpackedOf s b = .finite s (significand b) (exponent b) (significand_pos hpos) := by
  unfold unpackedOf
  rw [if_neg hlt.ne, dif_pos (significand_pos hpos)]

/-- A float is infinite, zero or between, by its rank. -/
theorem rank_cases (h : b ≤ infinityBits) : b = infinityBits ∨ b = 0 ∨ 0 < b ∧ b < infinityBits := by
  omega

theorem parts_eq (x : Float) : parts x =
    if infinityBits < x.toBits.toNat % 2 ^ 63 then .nan
    else if x.toBits.toNat % 2 ^ 63 = infinityBits then .infinite (decide (2 ^ 63 ≤ x.toBits.toNat))
    else .finite (decide (2 ^ 63 ≤ x.toBits.toNat)) (significand (x.toBits.toNat % 2 ^ 63))
      (exponent (x.toBits.toNat % 2 ^ 63)) := by
  have hlt : x.toBits.toNat < 2 ^ 64 := x.toBits.toBitVec.isLt
  have hexp : x.toBits.toNat / hiddenBit % 2048 = x.toBits.toNat % 2 ^ 63 / hiddenBit := by
    rw [hiddenBit]
    omega
  have hfrac : x.toBits.toNat % hiddenBit = x.toBits.toNat % 2 ^ 63 % hiddenBit := by
    rw [hiddenBit]
    omega
  have hbelow : x.toBits.toNat % 2 ^ 63 < 2 ^ 63 := Nat.mod_lt _ (by decide)
  unfold parts
  simp only [hexp, hfrac, beq_iff_eq]
  change (if _ then (if _ then Parts.infinite (decide (2 ^ 63 ≤ x.toBits.toNat)) else _) else if _ then
    Parts.finite (decide (2 ^ 63 ≤ x.toBits.toNat)) _ _ else Parts.finite (decide (2 ^ 63 ≤ x.toBits.toNat)) _ _) = _
  generalize x.toBits.toNat % 2 ^ 63 = b at hbelow
  generalize decide (2 ^ 63 ≤ x.toBits.toNat) = negative
  unfold significand exponent infinityBits hiddenBit
  by_cases hones : b / 4503599627370496 = 2047
  · rw [if_pos hones]
    by_cases hzero : b % 4503599627370496 = 0
    · rw [if_pos hzero, if_neg (by omega), if_pos (by omega)]
    · rw [if_neg hzero, if_pos (by omega)]
  · rw [if_neg hones, if_neg (show ¬ 2047 * 4503599627370496 < b by omega),
      if_neg (show ¬ b = 2047 * 4503599627370496 by omega)]
    split <;> congr 1 <;> omega

theorem signOf_apply (negative : Bool) (b : ℕ) : (signOf negative).apply b = if negative then -(b : ℤ) else b := by
  cases negative <;> rfl

/-- The rank of a float tells what the operations of the language take it for. -/
theorem unpack_of_rank (h : rank? x = some k) :
    ∃ s b, b ≤ infinityBits ∧ k = s.apply b ∧ x.toModel.unpack = unpackedOf s b := by
  unfold rank? at h
  simp only at h
  split at h
  · cases h
  rename_i hnum
  refine ⟨signOf (decide (2 ^ 63 ≤ x.toBits.toNat)), x.toBits.toNat % 2 ^ 63, Nat.le_of_not_lt hnum, ?_, ?_⟩
  · rw [signOf_apply, ← Option.some.inj h]
    simp only [decide_eq_true_eq]
  · rw [unpack_eq_parts, parts_eq, if_neg hnum]
    unfold unpackedOf
    split
    · rfl
    · rfl

theorem unpack_of_rank_none (h : rank? x = none) : x.toModel.unpack = .notANumber := by
  unfold rank? at h
  simp only at h
  split at h
  · rename_i hnan
    rw [unpack_eq_parts, parts_eq, if_pos hnan]
    rfl
  · cases h

theorem rank?_eq_none_iff : rank? x = none ↔ x.isNaN = true := by
  refine ⟨fun h => ?_, fun h => ?_⟩
  · change x.toModel.unpack.isNaN = true
    rw [unpack_of_rank_none h]
    rfl
  · rw [isNaN_iff, parts_eq] at h
    unfold rank?
    simp only
    split at h
    · rename_i hnan
      rw [if_pos hnan]
    · split at h <;> cases h

/-- The rank of a result, from the bits that it is packed as. -/
theorem rank?_pack (hbits : (UnpackedFloat.pack .binary64 u).toNat = signBits s + b) (hb : b ≤ infinityBits) :
    rank? ⟨Float.Model.pack u⟩ = some (s.apply b) := by
  have htoBits : (⟨Float.Model.pack u⟩ : Float).toBits.toNat = signBits s + b := hbits
  have hlt : b < 2 ^ 63 := Nat.lt_of_le_of_lt hb (by decide)
  have hnum : ¬ infinityBits < b := Nat.not_lt.mpr hb
  unfold rank?
  simp only [htoBits]
  cases s with
  | negative =>
    have hmod : (signBits .negative + b) % 2 ^ 63 = b := by
      rw [signBits, Nat.add_mod_left, Nat.mod_eq_of_lt hlt]
    rw [hmod, if_neg hnum, if_pos (by rw [signBits]; exact Nat.le_add_right _ _)]
    rfl
  | positive =>
    have hmod : (signBits .positive + b) % 2 ^ 63 = b := by
      rw [signBits, Nat.zero_add, Nat.mod_eq_of_lt hlt]
    rw [hmod, if_neg hnum, if_neg (by rw [signBits, Nat.zero_add]; exact Nat.not_le.mpr hlt)]
    rfl

/-- A float that is packed again keeps its rank. -/
theorem toNat_pack_unpackedOf (hb : b ≤ infinityBits) :
    (UnpackedFloat.pack .binary64 (unpackedOf s b)).toNat = signBits s + b := by
  rcases rank_cases hb with rfl | rfl | ⟨hpos, hlt⟩
  · rw [unpackedOf_infinity]
    exact toNat_packedInfinity s
  · rw [unpackedOf_zero]
    exact toNat_packComponents s 0 0
  · rw [unpackedOf_finite hpos hlt, toNat_pack_finite _ (significand_lt b) (exponent_ge b) (significand_long b),
      bits_eq, Nat.min_eq_right hb]

theorem rank?_pack_unpackedOf (hb : b ≤ infinityBits) : rank? ⟨Float.Model.pack (unpackedOf s b)⟩ = some (s.apply b) :=
  rank?_pack (toNat_pack_unpackedOf hb) hb

/-- A float that is not negative, by its bits. -/
theorem rank?_ofNatBits (hb : b ≤ infinityBits) : rank? (ofNatBits b) = some (b : ℤ) := by
  have hbits : (ofNatBits b).toBits.toNat = b := by
    rcases Nat.lt_or_eq_of_le hb with hlt | rfl
    · exact toNat_toBits_ofNatBits hlt
    · decide +kernel
  have hsmall : b < 2 ^ 63 := Nat.lt_of_le_of_lt hb (by decide)
  unfold rank?
  simp only [hbits]
  rw [Nat.mod_eq_of_lt hsmall, if_neg (Nat.not_lt.mpr hb), if_neg (Nat.not_le.mpr hsmall)]

theorem rank?_nearest (v : ℚ) : rank? (nearest v) = some ((min infinityBits (nearestBits v) : ℕ) : ℤ) :=
  rank?_ofNatBits (Nat.min_le_left _ _)

theorem rank?_zero : rank? 0 = some 0 := rank?_ofNatBits (b := 0) (Nat.zero_le _)

theorem rank?_one : rank? 1 = some (oneBits : ℤ) := by
  rw [← ofNatBits_oneBits]
  exact rank?_ofNatBits (by decide)

theorem rank?_le (h : rank? x = some k) : k.natAbs ≤ infinityBits := by
  obtain ⟨s, b, hb, rfl, -⟩ := unpack_of_rank h
  cases s <;> simpa [Sign.apply] using hb

/-! ## Comparing -/

theorem compare_significands (a b : ℕ) :
    (compare (exponent a) (exponent b)).then (compare (significand a) (significand b)) = compare a b :=
  compare_bits a b

theorem compare_natCast (a b : ℕ) : compare (a : ℤ) b = compare a b := by
  rcases Nat.lt_trichotomy a b with h | h | h
  · rw [compare_lt_iff_lt.mpr h, compare_lt_iff_lt.mpr (by omega)]
  · rw [compare_eq_iff_eq.mpr h, compare_eq_iff_eq.mpr (by omega)]
  · rw [compare_gt_iff_gt.mpr h, compare_gt_iff_gt.mpr (by omega)]

theorem compare_neg_neg (i j : ℤ) : compare (-i) (-j) = (compare i j).swap := by
  rcases lt_trichotomy i j with h | h | h
  · rw [compare_lt_iff_lt.mpr h, compare_gt_iff_gt.mpr (by omega)]
    rfl
  · rw [compare_eq_iff_eq.mpr h, compare_eq_iff_eq.mpr (by omega)]
    rfl
  · rw [compare_gt_iff_gt.mpr h, compare_lt_iff_lt.mpr (by omega)]
    rfl

/-- An infinity lies beyond everything of a lower rank. -/
theorem compare_infinity (hb : b < infinityBits) :
    (UnpackedFloat.infinity s).compare (unpackedOf t b) = some (compare (s.apply infinityBits) (t.apply b)) ∧
      (unpackedOf t b).compare (.infinity s) = some (compare (t.apply b) (s.apply infinityBits)) := by
  have hbelow : t.apply b < infinityBits ∧ -infinityBits < t.apply b := by
    cases t <;> simp only [Sign.apply] <;> omega
  have hfinite : ∀ s, unpackedOf t b ≠ .infinity s := by
    unfold unpackedOf
    rw [if_neg hb.ne]
    split <;> simp
  have hnum : unpackedOf t b ≠ .notANumber := by
    unfold unpackedOf
    rw [if_neg hb.ne]
    split <;> simp
  generalize t.apply b = k at hbelow
  generalize unpackedOf t b = v at hfinite hnum
  cases s with
  | negative =>
    rw [Sign.apply, compare_lt_iff_lt.mpr hbelow.2, compare_gt_iff_gt.mpr hbelow.2]
    cases v <;> first | exact ⟨rfl, rfl⟩ | exact absurd rfl (hfinite _) | exact absurd rfl hnum
  | positive =>
    rw [Sign.apply, compare_gt_iff_gt.mpr hbelow.1, compare_lt_iff_lt.mpr hbelow.1]
    cases v <;> first | exact ⟨rfl, rfl⟩ | exact absurd rfl (hfinite _) | exact absurd rfl hnum

theorem Sign.apply_zero (s : Sign) : s.apply 0 = 0 := by
  cases s <;> rfl

theorem compare_finite (hapos : 0 < a) (ha : a < infinityBits) (hbpos : 0 < b) (hb : b < infinityBits) :
    (unpackedOf s a).compare (unpackedOf t b) = some (compare (s.apply a) (t.apply b)) := by
  rw [unpackedOf_finite hapos ha, unpackedOf_finite hbpos hb]
  cases s <;> cases t <;> simp only [Sign.apply]
  case negative.negative =>
    rw [compare_neg_neg, compare_natCast, ← compare_significands]
    rfl
  case negative.positive =>
    rw [compare_lt_iff_lt.mpr (by omega)]
    rfl
  case positive.negative =>
    rw [compare_gt_iff_gt.mpr (by omega)]
    rfl
  case positive.positive =>
    rw [compare_natCast, ← compare_significands]
    rfl

theorem compare_zero (hpos : 0 < b) (hb : b < infinityBits) :
    (UnpackedFloat.zero s).compare (unpackedOf t b) = some (compare 0 (t.apply b)) ∧
      (unpackedOf t b).compare (.zero s) = some (compare (t.apply b) 0) := by
  rw [unpackedOf_finite hpos hb]
  cases t with
  | negative =>
    have hneg : Sign.negative.apply b < 0 := by
      simp only [Sign.apply]
      omega
    rw [compare_gt_iff_gt.mpr hneg, compare_lt_iff_lt.mpr hneg]
    exact ⟨rfl, rfl⟩
  | positive =>
    have hpos : 0 < Sign.positive.apply b := by
      simp only [Sign.apply]
      omega
    rw [compare_lt_iff_lt.mpr hpos, compare_gt_iff_gt.mpr hpos]
    exact ⟨rfl, rfl⟩

theorem compare_unpackedOf (ha : a ≤ infinityBits) (hb : b ≤ infinityBits) :
    (unpackedOf s a).compare (unpackedOf t b) = some (compare (s.apply a) (t.apply b)) := by
  rcases Nat.lt_or_eq_of_le ha with ha | rfl
  · rcases Nat.lt_or_eq_of_le hb with hb | rfl
    · rcases Nat.eq_zero_or_pos a with rfl | hapos <;> rcases Nat.eq_zero_or_pos b with rfl | hbpos
      · rw [unpackedOf_zero, unpackedOf_zero, Nat.cast_zero, Sign.apply_zero, Sign.apply_zero]
        rfl
      · rw [unpackedOf_zero, Nat.cast_zero, Sign.apply_zero]
        exact (compare_zero hbpos hb).1
      · rw [unpackedOf_zero, Nat.cast_zero, Sign.apply_zero]
        exact (compare_zero hapos ha).2
      · exact compare_finite hapos ha hbpos hb
    · rw [unpackedOf_infinity]
      exact (compare_infinity ha).2
  · rcases Nat.lt_or_eq_of_le hb with hb | rfl
    · rw [unpackedOf_infinity]
      exact (compare_infinity hb).1
    · rw [unpackedOf_infinity, unpackedOf_infinity]
      cases s <;> cases t <;> rfl

/-- Floats with ranks compare as these do. -/
theorem compare_of_rank (hx : rank? x = some i) (hy : rank? y = some j) :
    x.toModel.unpack.compare y.toModel.unpack = some (compare i j) := by
  obtain ⟨s, a, ha, rfl, hux⟩ := unpack_of_rank hx
  obtain ⟨t, b, hb, rfl, huy⟩ := unpack_of_rank hy
  rw [hux, huy, compare_unpackedOf ha hb]

theorem compare_of_rank_none (h : rank? x = none ∨ rank? y = none) :
    x.toModel.unpack.compare y.toModel.unpack = none := by
  rcases h with h | h
  · rw [unpack_of_rank_none h]
    rfl
  · rw [unpack_of_rank_none h]
    cases x.toModel.unpack <;> rfl

/-- The order of two floats. -/
theorem compare_eq (x y : Float) : x.toModel.unpack.compare y.toModel.unpack =
    (rank? x).bind fun i => (rank? y).map fun j => compare i j := by
  cases hx : rank? x with
  | none => exact compare_of_rank_none (.inl hx)
  | some i =>
    cases hy : rank? y with
    | none => exact compare_of_rank_none (.inr hy)
    | some j => exact compare_of_rank hx hy

theorem lt_iff : x < y ↔ ∃ i j, rank? x = some i ∧ rank? y = some j ∧ i < j := by
  change decide (x.toModel < y.toModel) = true ↔ _
  rw [decide_eq_true_iff]
  change (x.toModel.unpack.compare y.toModel.unpack == some .lt) = true ↔ _
  rw [compare_eq, beq_iff_eq]
  simp [Option.bind_eq_some_iff, compare_lt_iff_lt]

theorem le_iff : x ≤ y ↔ ∃ i j, rank? x = some i ∧ rank? y = some j ∧ i ≤ j := by
  change decide (x.toModel ≤ y.toModel) = true ↔ _
  rw [decide_eq_true_iff]
  change (x.toModel.unpack.compare y.toModel.unpack).any (·.isLE) = true ↔ _
  rw [compare_eq, Option.any_eq_true]
  simp [Option.bind_eq_some_iff, Std.isLE_compare]

theorem beq_iff : (x == y) = true ↔ ∃ i, rank? x = some i ∧ rank? y = some i := by
  change (x.toModel.unpack.compare y.toModel.unpack == some .eq) = true ↔ _
  rw [compare_eq, beq_iff_eq]
  simp [Option.bind_eq_some_iff]

theorem lt_iff_of_rank (hx : rank? x = some i) (hy : rank? y = some j) : x < y ↔ i < j := by
  rw [lt_iff, hx, hy]
  simp

theorem le_iff_of_rank (hx : rank? x = some i) (hy : rank? y = some j) : x ≤ y ↔ i ≤ j := by
  rw [le_iff, hx, hy]
  simp

theorem beq_iff_of_rank (hx : rank? x = some i) (hy : rank? y = some j) : (x == y) = true ↔ i = j := by
  rw [beq_iff, hx, hy]
  simp [eq_comm]

/-- A float that is not negative has a rank that is not. -/
theorem exists_rank_of_nonneg (h : 0 ≤ x) : ∃ b : ℕ, b ≤ infinityBits ∧ rank? x = some (b : ℤ) := by
  obtain ⟨i, k, hzero, hx, hle⟩ := le_iff.mp h
  obtain rfl : 0 = i := Option.some.inj (rank?_zero.symm.trans hzero)
  obtain ⟨b, rfl⟩ := Int.eq_ofNat_of_zero_le hle
  exact ⟨b, by simpa using rank?_le hx, hx⟩

end Formwork.Binary64
