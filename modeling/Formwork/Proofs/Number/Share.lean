/-
  Formwork.Proofs.Number.Share: quotients from 0 to 1.

  Floats that are not negative are in the order of their bits (`ofNatBits_lt_ofNatBits`), and the float
  nearest to a quotient is given by its bits, so how it compares with 1 is told by the power of
  two and the significand that it is put together from.

  - `ofRatio_le_one`: a quotient of at most 1 stays at most 1 when it is rounded.
  - `ofRatio_eq_one_iff`: it is rounded to 1 when it misses 1 by `2 ^ -54` or less.
-/

import Formwork.Proofs.Number.Range

namespace Formwork.Binary64

open Float.Model (UnpackedFloat)
open Float.Model.UnpackedFloat

variable {a b num den : Nat}

/-! ## The order of bits -/

/-- The float with these bits; those below the bits of the infinity are finite and not negative. -/
def ofNatBits (b : Nat) : Float := Float.ofBits (UInt64.ofNat b)

theorem toNat_toBits_ofNatBits (h : b < infinityBits) : (ofNatBits b).toBits.toNat = b := by
  have hlt : b < 2047 * 4503599627370496 := h
  have hbits : (UInt64.ofNat b).toBitVec.toNat = b := by
    rw [UInt64.toNat_toBitVec, UInt64.toNat_ofNat', Nat.mod_eq_of_lt (by omega)]
  have hnan : ¬ @isNaNBits .binary64 (UInt64.ofNat b).toBitVec = true := by
    unfold isNaNBits
    rw [decide_eq_true_iff, unpackExponent_eq_ones, hbits, hiddenBit]
    omega
  change (UnpackedFloat.pack .binary64 (UnpackedFloat.unpack .binary64 (UInt64.ofNat b).toBitVec)).toNat = b
  rw [pack_unpack, if_neg hnan, hbits]

theorem parts_ofNatBits (h : b < infinityBits) : parts (ofNatBits b) =
    .finite false (b - (b / hiddenBit - 1) * hiddenBit) (((b / hiddenBit - 1 : Nat) : Int) - 1074) := by
  have hlt : b < 2047 * 4503599627370496 := h
  unfold parts
  simp only [toNat_toBits_ofNatBits h, beq_iff_eq, hiddenBit]
  rw [if_neg (by omega), decide_eq_false (by omega)]
  split
  · congr 1 <;> omega
  · congr 1 <;> omega

theorem unpack_ofNatBits_zero : (ofNatBits 0).toModel.unpack = .zero .positive := by
  rw [unpack_eq_parts, parts_ofNatBits (by decide)]
  rfl

theorem unpack_ofNatBits (hpos : 0 < b) (h : b < infinityBits) :
    ∃ hm, (ofNatBits b).toModel.unpack =
      .finite .positive (b - (b / hiddenBit - 1) * hiddenBit) (((b / hiddenBit - 1 : Nat) : Int) - 1074) hm := by
  have hm : 0 < b - (b / hiddenBit - 1) * hiddenBit := by
    rw [hiddenBit]
    omega
  refine ⟨hm, ?_⟩
  rw [unpack_eq_parts, parts_ofNatBits h]
  exact dif_pos hm

theorem then_compare_eq {e e' : Int} {m m' : Nat} (hlt : a < b → e < e' ∨ e = e' ∧ m < m')
    (heq : a = b → e = e' ∧ m = m') (hgt : b < a → e' < e ∨ e = e' ∧ m' < m) :
    (compare e e').then (compare m m') = compare a b := by
  rcases Nat.lt_trichotomy a b with h | h | h
  · rw [compare_lt_iff_lt.mpr h, Ordering.then_eq_lt]
    simpa only [compare_lt_iff_lt, compare_eq_iff_eq] using hlt h
  · rw [compare_eq_iff_eq.mpr h, Ordering.then_eq_eq]
    simpa only [compare_eq_iff_eq] using heq h
  · rw [compare_gt_iff_gt.mpr h, Ordering.then_eq_gt]
    simpa only [compare_gt_iff_gt, compare_eq_iff_eq] using hgt h

/-- The power of two and the significand of such bits are in the order of the bits. -/
theorem compare_bits (a b : Nat) :
    (compare (((a / hiddenBit - 1 : Nat) : Int) - 1074) (((b / hiddenBit - 1 : Nat) : Int) - 1074)).then
      (compare (a - (a / hiddenBit - 1) * hiddenBit) (b - (b / hiddenBit - 1) * hiddenBit)) = compare a b := by
  rw [hiddenBit]
  apply then_compare_eq
  · omega
  · rintro rfl
    exact ⟨rfl, rfl⟩
  · omega

/-- Floats that are not negative compare as their bits do. -/
theorem compare_ofNatBits (ha : a < infinityBits) (hb : b < infinityBits) :
    (ofNatBits a).toModel.unpack.compare (ofNatBits b).toModel.unpack = some (compare a b) := by
  rcases Nat.eq_zero_or_pos a with rfl | hapos
  · rcases Nat.eq_zero_or_pos b with rfl | hbpos
    · rw [unpack_ofNatBits_zero]
      rfl
    · obtain ⟨hm, hunpack⟩ := unpack_ofNatBits hbpos hb
      rw [unpack_ofNatBits_zero, hunpack, compare_lt_iff_lt.mpr hbpos]
      rfl
  · obtain ⟨hm, hunpack⟩ := unpack_ofNatBits hapos ha
    rcases Nat.eq_zero_or_pos b with rfl | hbpos
    · rw [unpack_ofNatBits_zero, hunpack, compare_gt_iff_gt.mpr hapos]
      rfl
    · obtain ⟨hn, hunpack'⟩ := unpack_ofNatBits hbpos hb
      rw [hunpack, hunpack', ← compare_bits]
      rfl

theorem ofNatBits_lt_ofNatBits (ha : a < infinityBits) (hb : b < infinityBits) :
    ofNatBits a < ofNatBits b ↔ a < b := by
  change decide ((ofNatBits a).toModel < (ofNatBits b).toModel) = true ↔ _
  rw [decide_eq_true_iff]
  change ((ofNatBits a).toModel.unpack.compare (ofNatBits b).toModel.unpack == some .lt) = true ↔ _
  rw [compare_ofNatBits ha hb, beq_iff_eq, Option.some.injEq, compare_lt_iff_lt]

theorem ofNatBits_le_ofNatBits (ha : a < infinityBits) (hb : b < infinityBits) :
    ofNatBits a ≤ ofNatBits b ↔ a ≤ b := by
  change decide ((ofNatBits a).toModel ≤ (ofNatBits b).toModel) = true ↔ _
  rw [decide_eq_true_iff]
  change ((ofNatBits a).toModel.unpack.compare (ofNatBits b).toModel.unpack).any (·.isLE) = true ↔ _
  rw [compare_ofNatBits ha hb, Option.any_some, Nat.isLE_compare]

theorem ofNatBits_inj (ha : a < infinityBits) (hb : b < infinityBits) : ofNatBits a = ofNatBits b ↔ a = b := by
  refine ⟨fun h => ?_, fun h => by rw [h]⟩
  rw [← toNat_toBits_ofNatBits ha, h, toNat_toBits_ofNatBits hb]

/-! ## Rounded quotients -/

def oneBits : Nat := 1023 * hiddenBit

theorem ofNatBits_oneBits : ofNatBits oneBits = 1 := by
  decide +kernel

def ratioBits (num den : Nat) : Nat :=
  let q := lastPlace num den
  (q + 1074).toNat * hiddenBit + roundEven (num * Nat.pow 2 (-q).toNat) (den * Nat.pow 2 q.toNat)

theorem ofRatio_eq_ofNatBits (hnum : 0 < num) :
    ofRatio num den = ofNatBits (min infinityBits (ratioBits num den)) := by
  have hzero : (num == 0) = false := by simpa using Nat.ne_of_gt hnum
  unfold ofRatio
  rw [hzero]
  rfl

/-- A quotient in range has the bits that it is put together from. -/
theorem exists_bits_of_not_isInf (h : (ofRatio num den).isInf = false) :
    ∃ b < infinityBits, ofRatio num den = ofNatBits b := by
  rcases Nat.eq_zero_or_pos num with rfl | hnum
  · exact ⟨0, by decide, rfl⟩
  · rw [ofRatio_eq_ofNatBits hnum] at h ⊢
    have hlt : ratioBits num den < infinityBits := by
      rw [← Nat.not_le, ← isInf_ofBits_min, ← ofNatBits, h]
      exact Bool.false_ne_true
    exact ⟨_, hlt, by rw [Nat.min_eq_right (Nat.le_of_lt hlt)]⟩

theorem log2_le_log2 (hnum : 0 < num) (hle : num ≤ den) : num.log2 ≤ den.log2 :=
  (Nat.le_log2 (by omega)).mpr (Nat.le_trans (Nat.log2_self_le (Nat.ne_of_gt hnum)) hle)

/-- Below 1 the last place is that of a half at most. -/
theorem lastPlace_le (hnum : 0 < num) (hlt : num < den) : lastPlace num den ≤ -53 := by
  have hlog := log2_le_log2 hnum (Nat.le_of_lt hlt)
  unfold lastPlace
  simp only
  split
  · omega
  · rename_i hnext
    by_contra hplace
    have heq : (num.log2 : Int) - den.log2 - 52 = -52 := by omega
    rw [heq, hiddenBit] at hnext
    have hscaled : num * Nat.pow 2 52 < 4503599627370496 * den * Nat.pow 2 0 := by
      change num * 4503599627370496 < 4503599627370496 * den * 1
      omega
    exact hnext hscaled

/-- From a half on it is that of a half. -/
theorem lastPlace_eq (hlt : num < den) (hhalf : den ≤ 2 * num) : lastPlace num den = -53 := by
  have hle := lastPlace_le (by omega) hlt
  have hlog : den.log2 ≤ num.log2 + 1 := by
    rw [← Nat.log2_two_mul (by omega)]
    exact log2_le_log2 (by omega) hhalf
  revert hle
  unfold lastPlace
  simp only
  split
  · rename_i hnext
    by_cases heq : (num.log2 : Int) - den.log2 - 52 = -53
    · rw [heq, hiddenBit] at hnext
      have hscaled : num * 9007199254740992 < 4503599627370496 * den * 1 := hnext
      omega
    · omega
  · omega

/-- A quotient of at most 1 has no more than 53 bits before its last place. -/
theorem scaled_lt (hnum : 0 < num) (hle : num ≤ den) :
    num * 2 ^ (-lastPlace num den).toNat < 2 ^ 53 * den := by
  have hlog := log2_le_log2 hnum hle
  have hself := Nat.log2_self_le (show den ≠ 0 by omega)
  obtain ⟨k, hk⟩ : ∃ k : Nat, (k : Int) = den.log2 + 52 - num.log2 := ⟨den.log2 + 52 - num.log2, by omega⟩
  have hbelow : num * 2 ^ k < 2 ^ 53 * den := by
    have hpow : 2 ^ (num.log2 + 1) * 2 ^ k = 2 ^ 53 * 2 ^ den.log2 := by
      rw [← Nat.pow_add, ← Nat.pow_add]
      congr 1
      omega
    calc num * 2 ^ k < 2 ^ (num.log2 + 1) * 2 ^ k :=
          Nat.mul_lt_mul_of_pos_right Nat.lt_log2_self (Nat.two_pow_pos k)
      _ = 2 ^ 53 * 2 ^ den.log2 := hpow
      _ ≤ 2 ^ 53 * den := Nat.mul_le_mul_left _ hself
  have hmono : ∀ j, (-lastPlace num den).toNat ≤ j → num * 2 ^ j < 2 ^ 53 * den →
      num * 2 ^ (-lastPlace num den).toNat < 2 ^ 53 * den := by
    intro j hj hlt
    exact Nat.lt_of_le_of_lt (Nat.mul_le_mul_left _ (Nat.pow_le_pow_right (by decide) hj)) hlt
  have hplace : (num.log2 : Int) - den.log2 - 52 = -k := by omega
  by_cases hnext : num * 2 ^ k < 2 ^ 52 * den
  · refine hmono (k + 1) ?_ (by rw [Nat.pow_succ, ← Nat.mul_assoc]; omega)
    unfold lastPlace
    simp only [hplace]
    split <;> omega
  · refine hmono k ?_ hbelow
    unfold lastPlace
    simp only [hplace]
    rw [if_neg]
    · omega
    · simpa [hiddenBit] using hnext

theorem lastPlace_self (num : Nat) : lastPlace num num = -52 := by
  have heq : (num.log2 : Int) - num.log2 - 52 = -52 := by omega
  unfold lastPlace
  simp only [heq]
  rw [if_neg]
  · rfl
  · change ¬ num * 4503599627370496 < 4503599627370496 * num * 1
    omega

theorem lastPlace_nonpos (hnum : 0 < num) (hle : num ≤ den) : lastPlace num den ≤ 0 := by
  rcases Nat.lt_or_eq_of_le hle with hlt | rfl
  · have := lastPlace_le hnum hlt
    omega
  · rw [lastPlace_self num]
    decide

theorem ratioBits_eq (hnum : 0 < num) (hle : num ≤ den) : ratioBits num den =
    (lastPlace num den + 1074).toNat * hiddenBit + roundEven (num * 2 ^ (-lastPlace num den).toNat) den := by
  have hzero : (lastPlace num den).toNat = 0 := Int.toNat_eq_zero.mpr (lastPlace_nonpos hnum hle)
  unfold ratioBits
  simp only [hzero, Nat.pow_eq, Nat.pow_zero, Nat.mul_one]

theorem ratioBits_self (hnum : 0 < num) : ratioBits num num = oneBits := by
  rw [ratioBits_eq hnum (Nat.le_refl num), lastPlace_self num]
  have hround : roundEven (num * 2 ^ 52) num = 2 ^ 52 := by
    unfold roundEven
    rw [Nat.mul_div_cancel_left _ hnum, Nat.mul_mod_right]
    exact if_pos hnum
  exact congrArg (1022 * hiddenBit + ·) hround

/-- Below a half the bits stay below those of 1. -/
theorem ratioBits_lt_of_lt_half (hnum : 0 < num) (h : 2 * num < den) : ratioBits num den < oneBits := by
  have hplace := lastPlace_le hnum (by omega : num < den)
  rw [ratioBits_eq hnum (by omega), oneBits]
  obtain hlower | heq : lastPlace num den ≤ -54 ∨ lastPlace num den = -53 := by omega
  · have hscaled := scaled_lt hnum (by omega : num ≤ den)
    have hround := (roundEven_bounds (num * 2 ^ (-lastPlace num den).toNat) den).2
    have hdiv := (Nat.div_lt_iff_lt_mul (by omega : 0 < den)).mpr hscaled
    rw [hiddenBit]
    omega
  · have hround := (roundEven_bounds (num * 2 ^ 53) den).2
    have hdiv : num * 2 ^ 53 / den < 2 ^ 52 := (Nat.div_lt_iff_lt_mul (by omega)).mpr (by omega)
    rw [heq, hiddenBit]
    change 1021 * _ + roundEven (num * 2 ^ 53) den < _
    omega

/-- From a half on they come up to those of 1 when the quotient is nearer to 1 than to the float before it. -/
theorem roundEven_half (hlt : num < den) :
    roundEven (num * 2 ^ 53) den ≤ 2 ^ 53 ∧ (roundEven (num * 2 ^ 53) den = 2 ^ 53 ↔ (den - num) * 2 ^ 54 ≤ den) := by
  have hround := roundEven_bounds (num * 2 ^ 53) den
  have hdiv : num * 2 ^ 53 / den < 2 ^ 53 := (Nat.div_lt_iff_lt_mul (by omega)).mpr (by omega)
  have hsplit := Nat.div_add_mod (num * 2 ^ 53) den
  have hrem := Nat.mod_lt (num * 2 ^ 53) (show 0 < den by omega)
  refine ⟨by omega, ?_⟩
  by_cases hlast : num * 2 ^ 53 / den = 2 ^ 53 - 1
  · rw [hlast] at hsplit
    unfold roundEven
    simp only [hlast, beq_iff_eq]
    repeat' split
    all_goals omega
  · have hmul : den * (num * 2 ^ 53 / den) ≤ den * (2 ^ 53 - 2) := Nat.mul_le_mul_left _ (by omega)
    exact iff_of_false (by omega) (by omega)

theorem ratioBits_le_and_eq_iff (hnum : 0 < num) (hle : num ≤ den) :
    ratioBits num den ≤ oneBits ∧ (ratioBits num den = oneBits ↔ (den - num) * 2 ^ 54 ≤ den) := by
  rcases Nat.lt_or_eq_of_le hle with hlt | rfl
  · by_cases hhalf : den ≤ 2 * num
    · obtain ⟨hround, hone⟩ := roundEven_half hlt
      rw [← hone, ratioBits_eq hnum hle, lastPlace_eq hlt hhalf, oneBits, hiddenBit]
      change 1021 * _ + roundEven (num * 2 ^ 53) den ≤ _ ∧ (1021 * _ + roundEven (num * 2 ^ 53) den = _ ↔ _)
      omega
    · have hbelow := ratioBits_lt_of_lt_half hnum (Nat.lt_of_not_le hhalf)
      exact ⟨Nat.le_of_lt hbelow, iff_of_false (Nat.ne_of_lt hbelow) (by omega)⟩
  · rw [ratioBits_self hnum]
    exact ⟨Nat.le_refl _, iff_of_true rfl (by omega)⟩

/-- The float nearest to a quotient of at most 1 has bits of 1 at most. -/
theorem exists_ofRatio_eq (h : num ≤ den) (hden : 0 < den) :
    ∃ b ≤ oneBits, ofRatio num den = ofNatBits b ∧ (b = oneBits ↔ (den - num) * 2 ^ 54 ≤ den) := by
  rcases Nat.eq_zero_or_pos num with rfl | hnum
  · refine ⟨0, Nat.zero_le _, rfl, iff_of_false (by decide) (by omega)⟩
  · obtain ⟨hle, hone⟩ := ratioBits_le_and_eq_iff hnum h
    have hmin : min infinityBits (ratioBits num den) = ratioBits num den :=
      Nat.min_eq_right (Nat.le_trans hle (by decide))
    exact ⟨_, hle, by rw [ofRatio_eq_ofNatBits hnum, hmin], hone⟩

theorem isInf_ofRatio_of_le (h : num ≤ den) (hden : 0 < den) : (ofRatio num den).isInf = false := by
  obtain ⟨b, hb, heq, -⟩ := exists_ofRatio_eq h hden
  have hlt : b < infinityBits := Nat.lt_of_le_of_lt hb (by decide)
  rw [heq, ofNatBits, ← Nat.min_eq_right (Nat.le_of_lt hlt), ← Bool.not_eq_true, isInf_ofBits_min]
  exact Nat.not_le_of_lt hlt

/-- A quotient of at most 1 is rounded to 1 at most. -/
theorem ofRatio_le_one (h : num ≤ den) (hden : 0 < den) : ofRatio num den ≤ 1 := by
  obtain ⟨b, hb, heq, -⟩ := exists_ofRatio_eq h hden
  rw [heq, ← ofNatBits_oneBits, ofNatBits_le_ofNatBits (Nat.lt_of_le_of_lt hb (by decide)) (by decide)]
  exact hb

theorem ofRatio_nonneg (h : num ≤ den) (hden : 0 < den) : 0 ≤ ofRatio num den := by
  obtain ⟨b, hb, heq, -⟩ := exists_ofRatio_eq h hden
  rw [heq, show (0 : Float) = ofNatBits 0 from rfl,
    ofNatBits_le_ofNatBits (by decide) (Nat.lt_of_le_of_lt hb (by decide))]
  exact Nat.zero_le b

/-- It is rounded to 1 when it misses 1 by `2 ^ -54` or less. -/
theorem ofRatio_eq_one_iff (h : num ≤ den) (hden : 0 < den) :
    ofRatio num den = 1 ↔ (den - num) * 2 ^ 54 ≤ den := by
  obtain ⟨b, hb, heq, hone⟩ := exists_ofRatio_eq h hden
  rw [heq, ← ofNatBits_oneBits, ofNatBits_inj (Nat.lt_of_le_of_lt hb (by decide)) (by decide), hone]

/-! ## Negated quotients -/

/-- What is packed with a negative sign is not above 0. -/
theorem compare_zero_packComponents (e : BitVec 11) (m : BitVec 52) :
    (UnpackedFloat.zero .positive).compare
      (UnpackedFloat.unpack .binary64 (packComponents .binary64 .negative e m)) ≠ some .lt := by
  unfold UnpackedFloat.unpack
  simp only [unpackSign_packComponents, Sign.ofBitVec_toBitVec]
  repeat' split
  all_goals simp [UnpackedFloat.compare]

theorem not_pos_neg_ofNatBits (h : b < infinityBits) : ¬ 0 < -ofNatBits b := by
  change ¬ decide ((ofNatBits 0).toModel < (-ofNatBits b).toModel) = true
  rw [decide_eq_true_iff]
  change ¬ ((ofNatBits 0).toModel.unpack.compare
    (UnpackedFloat.unpack .binary64 (UnpackedFloat.pack .binary64 (ofNatBits b).toModel.unpack.neg)) == some .lt) = true
  rw [beq_iff_eq, unpack_ofNatBits_zero]
  rcases Nat.eq_zero_or_pos b with rfl | hbpos
  · rw [unpack_ofNatBits_zero]
    exact compare_zero_packComponents _ _
  · obtain ⟨hm, hunpack⟩ := unpack_ofNatBits hbpos h
    rw [hunpack, UnpackedFloat.neg]
    unfold UnpackedFloat.pack
    simp only
    repeat' split
    all_goals exact compare_zero_packComponents _ _

theorem not_pos_neg_ofRatio (h : (ofRatio num den).isInf = false) : ¬ 0 < -ofRatio num den := by
  obtain ⟨b, hb, heq⟩ := exists_bits_of_not_isInf h
  rw [heq]
  exact not_pos_neg_ofNatBits hb

end Formwork.Binary64
