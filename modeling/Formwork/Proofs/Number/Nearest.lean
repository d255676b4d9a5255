/-
  Formwork.Proofs.Number.Nearest: the float nearest to an exact value.

  A value is rounded at the place of its last bit, which its power of two tells (`placeOf`), to the
  nearest multiple, halves to even. Put together, place and multiple are the bits of the float, so
  rounding is a function from rationals to bits (`nearestBits`). It keeps the order
  (`nearestBits_mono`) and gives back what is a float already (`nearestBits_magnitude`).

  - `ofRatio_eq_nearest`: a ratio is rounded so.
-/

import Formwork.Proofs.Number.Share

namespace Formwork.Binary64

variable {v w : ℚ} {a b m num den : ℕ} {e : ℤ}

/-! ## Whole numbers -/

/-- The whole number nearest to a rational that is not negative, halves to even. -/
def nearestEven (v : ℚ) : ℕ :=
  let d := ⌊v⌋₊
  if v - d < 1 / 2 then d else if 1 / 2 < v - d then d + 1 else if d % 2 = 0 then d else d + 1

theorem nearestEven_bounds (v : ℚ) : ⌊v⌋₊ ≤ nearestEven v ∧ nearestEven v ≤ ⌊v⌋₊ + 1 := by
  unfold nearestEven
  simp only
  repeat' split
  all_goals omega

theorem nearestEven_natCast (n : ℕ) : nearestEven n = n := by
  unfold nearestEven
  simp

theorem nearestEven_mono (h : v ≤ w) : nearestEven v ≤ nearestEven w := by
  rcases Nat.lt_or_eq_of_le (Nat.floor_mono h) with hlt | heq
  · have hv := (nearestEven_bounds v).2
    have hw := (nearestEven_bounds w).1
    omega
  · -- with one floor the fractions are in the order of the values
    unfold nearestEven
    simp only [heq]
    have hfrac : v - (⌊w⌋₊ : ℕ) ≤ w - (⌊w⌋₊ : ℕ) := by linarith
    repeat' split
    all_goals first | omega | (exfalso; linarith)

theorem nearestEven_le_of_lt {n : ℕ} (h : v < n) (hv : 0 ≤ v) : nearestEven v ≤ n := by
  have hfloor := (Nat.floor_lt hv).mpr h
  have hround := (nearestEven_bounds v).2
  omega

theorem le_nearestEven {n : ℕ} (h : (n : ℚ) ≤ v) : n ≤ nearestEven v :=
  Nat.le_trans (Nat.le_floor h) (nearestEven_bounds v).1

theorem roundEven_eq_nearestEven (num : ℕ) (hden : 0 < den) : roundEven num den = nearestEven ((num : ℚ) / den) := by
  have hdenQ : (0 : ℚ) < den := by exact_mod_cast hden
  have hsplit : (num : ℚ) = den * (num / den : ℕ) + (num % den : ℕ) := by exact_mod_cast (Nat.div_add_mod num den).symm
  have hfloor : ⌊(num : ℚ) / den⌋₊ = num / den := Nat.floor_div_eq_div num den
  have hfrac : (num : ℚ) / den - (num / den : ℕ) = (num % den : ℕ) / den := by
    rw [eq_div_iff hdenQ.ne', sub_mul, div_mul_cancel₀ _ hdenQ.ne']
    linarith
  have hlow : (num % den : ℕ) / (den : ℚ) < 1 / 2 ↔ 2 * (num % den) < den := by
    rw [div_lt_div_iff₀ hdenQ two_pos]
    norm_cast
    omega
  have hhigh : 1 / 2 < (num % den : ℕ) / (den : ℚ) ↔ den < 2 * (num % den) := by
    rw [div_lt_div_iff₀ two_pos hdenQ]
    norm_cast
    omega
  unfold roundEven nearestEven
  simp only [hfloor, hfrac, hlow, hhigh, beq_iff_eq]

/-! ## Places and bits -/

theorem log_lt_iff (hv : 0 < v) : Int.log 2 v < e ↔ v < 2 ^ e := by
  have h := Int.lt_zpow_iff_log_lt (b := 2) (x := e) (by decide) hv
  push_cast at h
  exact h.symm

theorem le_log_iff (hv : 0 < v) : e ≤ Int.log 2 v ↔ 2 ^ e ≤ v := by
  have h := Int.zpow_le_iff_le_log (b := 2) (x := e) (by decide) hv
  push_cast at h
  exact h.symm

/-- The power of two of the last bit that a float nearest to a positive value has. -/
def placeOf (v : ℚ) : ℤ := max (Int.log 2 v - 52) (-1074)

theorem placeOf_mono (hv : 0 < v) (h : v ≤ w) : placeOf v ≤ placeOf w :=
  max_le_max_right _ (Int.sub_le_sub_right (Int.log_mono_right hv h) _)

/-- A value has at most 53 bits before its last place. -/
theorem div_place_lt (v : ℚ) : v / 2 ^ placeOf v < 2 ^ 53 := by
  have hlog : v < 2 ^ (Int.log 2 v + 1) := Int.lt_zpow_succ_log_self (by decide) v
  rw [div_lt_iff₀ (zpow_pos two_pos _), ← zpow_natCast, ← zpow_add₀ two_ne_zero]
  refine hlog.trans_le (zpow_le_zpow_right₀ one_le_two ?_)
  unfold placeOf
  omega

/-- It has as many unless it is among the smallest. -/
theorem le_div_place (hv : 0 < v) (h : placeOf v ≠ -1074) : 2 ^ 52 ≤ v / 2 ^ placeOf v := by
  have hlog : (2 : ℚ) ^ Int.log 2 v ≤ v := Int.zpow_log_le_self (by decide) hv
  rw [le_div_iff₀ (zpow_pos two_pos _), ← zpow_natCast, ← zpow_add₀ two_ne_zero]
  refine (zpow_le_zpow_right₀ one_le_two ?_).trans hlog
  unfold placeOf at h ⊢
  omega

/-- The place of a significand with at most 53 bits that cannot be longer. -/
theorem placeOf_eq (hm : 0 < m) (hlt : m < 2 ^ 53) (he : -1074 ≤ e) (hlong : 2 ^ 52 ≤ m ∨ e = -1074) :
    placeOf (m * 2 ^ e) = e := by
  have hpos : (0 : ℚ) < m * 2 ^ e := mul_pos (by exact_mod_cast hm) (zpow_pos two_pos _)
  have hbelow : (m : ℚ) * 2 ^ e < 2 ^ (53 + e) := by
    rw [zpow_add₀ two_ne_zero]
    exact mul_lt_mul_of_pos_right (by exact_mod_cast hlt) (zpow_pos two_pos _)
  have hlog := (log_lt_iff hpos).mpr hbelow
  unfold placeOf
  rcases hlong with hlong | rfl
  · have habove : (2 : ℚ) ^ (52 + e) ≤ m * 2 ^ e := by
      rw [zpow_add₀ two_ne_zero]
      exact mul_le_mul_of_nonneg_right (by exact_mod_cast hlong) (zpow_pos two_pos _).le
    have hlow := (le_log_iff hpos).mpr habove
    omega
  · omega

/-- The bits of the float nearest to a value that is not negative. Those from the infinity on stand for no
finite float. -/
def nearestBits (v : ℚ) : ℕ :=
  if v = 0 then 0 else (placeOf v + 1074).toNat * hiddenBit + nearestEven (v / 2 ^ placeOf v)

def significand (b : ℕ) : ℕ := b - (b / hiddenBit - 1) * hiddenBit

def exponent (b : ℕ) : ℤ := ((b / hiddenBit - 1 : ℕ) : ℤ) - 1074

/-- The value of bits. Those of the infinity count as `2 ^ 1024`. -/
def magnitude (b : ℕ) : ℚ := significand b * 2 ^ exponent b

theorem exponent_ge (b : ℕ) : -1074 ≤ exponent b := by
  unfold exponent
  omega

theorem significand_lt (b : ℕ) : significand b < 2 ^ 53 := by
  unfold significand hiddenBit
  omega

theorem significand_long (b : ℕ) : 2 ^ 52 ≤ significand b ∨ exponent b = -1074 := by
  unfold significand exponent hiddenBit
  omega

theorem significand_pos (h : 0 < b) : 0 < significand b := by
  unfold significand hiddenBit
  omega

theorem bits_eq (b : ℕ) : (exponent b + 1074).toNat * hiddenBit + significand b = b := by
  unfold significand exponent hiddenBit
  omega

theorem magnitude_zero : magnitude 0 = 0 := by
  simp [magnitude, significand]

theorem magnitude_pos (h : 0 < b) : 0 < magnitude b :=
  mul_pos (by exact_mod_cast significand_pos h) (zpow_pos two_pos _)

theorem magnitude_nonneg (b : ℕ) : 0 ≤ magnitude b :=
  mul_nonneg (Nat.cast_nonneg _) (zpow_pos two_pos _).le

/-- A value that bits have is rounded to them. -/
theorem nearestBits_magnitude (b : ℕ) : nearestBits (magnitude b) = b := by
  rcases Nat.eq_zero_or_pos b with rfl | hpos
  · rw [magnitude_zero, nearestBits, if_pos rfl]
  · have hplace : placeOf (magnitude b) = exponent b :=
      placeOf_eq (significand_pos hpos) (significand_lt b) (exponent_ge b) (significand_long b)
    rw [nearestBits, if_neg (magnitude_pos hpos).ne', hplace, magnitude,
      mul_div_cancel_right₀ _ (zpow_pos two_pos _).ne', nearestEven_natCast, bits_eq]

/-- Rounding keeps the order. -/
theorem nearestBits_mono (hv : 0 ≤ v) (h : v ≤ w) : nearestBits v ≤ nearestBits w := by
  rcases hv.eq_or_lt with rfl | hv
  · rw [nearestBits, if_pos rfl]
    exact Nat.zero_le _
  have hw := hv.trans_le h
  have hplaces := placeOf_mono hv h
  rw [nearestBits, nearestBits, if_neg hv.ne', if_neg hw.ne']
  rcases hplaces.eq_or_lt with heq | hlt
  · rw [heq]
    exact Nat.add_le_add_left (nearestEven_mono (div_le_div_of_nonneg_right h (zpow_pos two_pos _).le)) _
  · -- a higher place is worth more than what rounding can add
    have hlow := nearestEven_le_of_lt (n := 2 ^ 53) (by exact_mod_cast div_place_lt v)
      (div_pos hv (zpow_pos two_pos _)).le
    have hmin : -1074 ≤ placeOf v := le_max_right _ _
    have hhigh := le_nearestEven (n := 2 ^ 52) (by exact_mod_cast le_div_place hw (by omega))
    rw [hiddenBit]
    omega

theorem le_nearestBits (h : magnitude b ≤ v) : b ≤ nearestBits v := by
  rw [← nearestBits_magnitude b]
  exact nearestBits_mono (magnitude_nonneg b) h

theorem nearestBits_le (hv : 0 ≤ v) (h : v ≤ magnitude b) : nearestBits v ≤ b := by
  rw [← nearestBits_magnitude b]
  exact nearestBits_mono hv h

theorem magnitude_le_magnitude : magnitude a ≤ magnitude b ↔ a ≤ b := by
  refine ⟨fun h => ?_, fun h => ?_⟩
  · rw [← nearestBits_magnitude b]
    exact le_nearestBits h
  · by_contra hlt
    have := nearestBits_le (magnitude_nonneg b) (not_le.mp hlt).le
    rw [nearestBits_magnitude] at this
    obtain rfl : a = b := Nat.le_antisymm h this
    exact hlt le_rfl

theorem magnitude_lt_magnitude : magnitude a < magnitude b ↔ a < b := by
  rw [← not_le, magnitude_le_magnitude, Nat.not_le]

/-- Place and multiple, put together, stand for their product. -/
theorem magnitude_bits (hm : m ≤ 2 ^ 53) (he : -1074 ≤ e) (hlong : 2 ^ 52 ≤ m ∨ e = -1074) :
    magnitude ((e + 1074).toNat * hiddenBit + m) = m * 2 ^ e := by
  obtain ⟨k, rfl⟩ : ∃ k : ℕ, e = k - 1074 := ⟨(e + 1074).toNat, by omega⟩
  have hk : ((k : ℤ) - 1074 + 1074).toNat = k := by omega
  rw [hk]
  rcases Nat.lt_or_eq_of_le hm with hlt | rfl
  · have hsig : significand (k * hiddenBit + m) = m := by
      unfold significand hiddenBit
      omega
    have hexp : exponent (k * hiddenBit + m) = k - 1074 := by
      unfold exponent hiddenBit
      omega
    rw [magnitude, hsig, hexp]
  · -- a significand of 54 bits is one of 53 at the next place
    have hsig : significand (k * hiddenBit + 2 ^ 53) = 2 ^ 52 := by
      unfold significand hiddenBit
      omega
    have hexp : exponent (k * hiddenBit + 2 ^ 53) = (k - 1074) + 1 := by
      unfold exponent hiddenBit
      omega
    rw [magnitude, hsig, hexp, zpow_add_one₀ two_ne_zero]
    push_cast
    ring

/-- The value that a positive value is rounded to. -/
theorem magnitude_nearestBits (hv : 0 < v) :
    magnitude (nearestBits v) = nearestEven (v / 2 ^ placeOf v) * 2 ^ placeOf v := by
  have hpos : 0 < v / 2 ^ placeOf v := div_pos hv (zpow_pos two_pos _)
  rw [nearestBits, if_neg hv.ne']
  refine magnitude_bits ?_ (le_max_right _ _) ?_
  · exact nearestEven_le_of_lt (by exact_mod_cast div_place_lt v) hpos.le
  · by_cases hmin : placeOf v = -1074
    · exact Or.inr hmin
    · exact Or.inl (le_nearestEven (by exact_mod_cast le_div_place hv hmin))

/-- A value with a significand of 53 bits at a place that floats have is rounded to itself. -/
theorem magnitude_nearestBits_of_short (hm : m < 2 ^ 53) (he : -1074 ≤ e) :
    magnitude (nearestBits (m * 2 ^ e)) = m * 2 ^ e := by
  rcases Nat.eq_zero_or_pos m with rfl | hpos
  · simp [nearestBits, magnitude_zero]
  have hv : (0 : ℚ) < m * 2 ^ e := mul_pos (by exact_mod_cast hpos) (zpow_pos two_pos _)
  have hbelow : (m : ℚ) * 2 ^ e < 2 ^ (53 + e) := by
    rw [zpow_add₀ two_ne_zero]
    exact mul_lt_mul_of_pos_right (by exact_mod_cast hm) (zpow_pos two_pos _)
  have hlog := (log_lt_iff hv).mpr hbelow
  have hplace : placeOf (m * 2 ^ e) ≤ e := by
    unfold placeOf
    omega
  obtain ⟨k, hk⟩ := Int.le.dest hplace
  have hwhole : (m : ℚ) * 2 ^ e / 2 ^ placeOf (m * 2 ^ e) = (m * 2 ^ k : ℕ) := by
    rw [div_eq_iff (zpow_pos two_pos _).ne']
    nth_rewrite 1 [← hk]
    rw [zpow_add₀ two_ne_zero, zpow_natCast]
    push_cast
    ring
  rw [magnitude_nearestBits hv, hwhole, nearestEven_natCast, ← hwhole, div_mul_cancel₀ _ (zpow_pos two_pos _).ne']

/-! ## Ratios -/

/-- A power of two as a ratio of natural powers. -/
theorem zpow_eq_ratio (e : ℤ) : (2 : ℚ) ^ e = 2 ^ e.toNat / 2 ^ (-e).toNat := by
  rw [eq_div_iff (by positivity), ← zpow_natCast, ← zpow_natCast, ← zpow_add₀ two_ne_zero]
  congr 1
  omega

theorem div_zpow_eq_ratio (num den : ℕ) (e : ℤ) :
    (num : ℚ) / den / 2 ^ e = (num * 2 ^ (-e).toNat : ℕ) / (den * 2 ^ e.toNat : ℕ) := by
  rw [zpow_eq_ratio]
  push_cast
  rw [div_div_eq_mul_div, div_mul_eq_mul_div, div_div]

/-- The logarithm of a ratio, by those of its parts. -/
theorem log_ratio (hnum : 0 < num) (hden : 0 < den) : Int.log 2 ((num : ℚ) / den) =
    if (num : ℚ) / den < 2 ^ ((num.log2 : ℤ) - den.log2) then (num.log2 : ℤ) - den.log2 - 1
    else (num.log2 : ℤ) - den.log2 := by
  have hnumQ : (0 : ℚ) < num := by exact_mod_cast hnum
  have hdenQ : (0 : ℚ) < den := by exact_mod_cast hden
  have hpos : (0 : ℚ) < num / den := div_pos hnumQ hdenQ
  have hnumlow : (2 : ℚ) ^ (num.log2 : ℤ) ≤ num := by exact_mod_cast Nat.log2_self_le hnum.ne'
  have hnumhigh : (num : ℚ) < 2 ^ ((num.log2 : ℤ) + 1) := by exact_mod_cast (Nat.lt_log2_self (n := num))
  have hdenlow : (2 : ℚ) ^ (den.log2 : ℤ) ≤ den := by exact_mod_cast Nat.log2_self_le hden.ne'
  have hdenhigh : (den : ℚ) < 2 ^ ((den.log2 : ℤ) + 1) := by exact_mod_cast (Nat.lt_log2_self (n := den))
  have hhigh : (num : ℚ) / den < 2 ^ ((num.log2 : ℤ) - den.log2 + 1) := by
    rw [div_lt_iff₀ hdenQ]
    refine hnumhigh.trans_le ?_
    rw [show (num.log2 : ℤ) + 1 = (num.log2 - den.log2 + 1) + den.log2 by ring, zpow_add₀ two_ne_zero]
    exact mul_le_mul_of_nonneg_left hdenlow (zpow_pos two_pos _).le
  have hlow : (2 : ℚ) ^ ((num.log2 : ℤ) - den.log2 - 1) ≤ num / den := by
    rw [le_div_iff₀ hdenQ]
    refine le_trans ?_ hnumlow
    have hsplit : (2 : ℚ) ^ (num.log2 : ℤ) = 2 ^ ((num.log2 : ℤ) - den.log2 - 1) * 2 ^ ((den.log2 : ℤ) + 1) := by
      rw [← zpow_add₀ two_ne_zero]
      congr 1
      ring
    rw [hsplit]
    exact mul_le_mul_of_nonneg_left hdenhigh.le (zpow_pos two_pos _).le
  have hloghigh := (log_lt_iff hpos).mpr hhigh
  have hloglow := (le_log_iff hpos).mpr hlow
  split
  · rename_i hlt
    have := (log_lt_iff hpos).mpr hlt
    omega
  · rename_i hge
    have := (le_log_iff hpos).mpr (not_lt.mp hge)
    omega

theorem lastPlace_eq_placeOf (hnum : 0 < num) (hden : 0 < den) : lastPlace num den = placeOf ((num : ℚ) / den) := by
  have hdenQ : (0 : ℚ) < den := by exact_mod_cast hden
  have hcompare : num * Nat.pow 2 (-((num.log2 : ℤ) - den.log2 - 52)).toNat <
      hiddenBit * den * Nat.pow 2 ((num.log2 : ℤ) - den.log2 - 52).toNat ↔
      (num : ℚ) / den < 2 ^ ((num.log2 : ℤ) - den.log2) := by
    have hscale : (2 : ℚ) ^ ((num.log2 : ℤ) - den.log2) = hiddenBit * 2 ^ ((num.log2 : ℤ) - den.log2 - 52) := by
      rw [show (hiddenBit : ℚ) = 2 ^ (52 : ℤ) by norm_num [hiddenBit], ← zpow_add₀ two_ne_zero]
      congr 1
      ring
    rw [hscale, zpow_eq_ratio, ← mul_div_assoc, div_lt_div_iff₀ hdenQ (by positivity), mul_right_comm]
    exact_mod_cast Iff.rfl
  unfold lastPlace placeOf
  rw [log_ratio hnum hden]
  simp only [hcompare]
  split <;> omega

theorem ratioBits_eq_nearestBits (hnum : 0 < num) (hden : 0 < den) :
    ratioBits num den = nearestBits ((num : ℚ) / den) := by
  have hpos : (0 : ℚ) < num / den := div_pos (by exact_mod_cast hnum) (by exact_mod_cast hden)
  unfold ratioBits
  simp only [lastPlace_eq_placeOf hnum hden, Nat.pow_eq]
  rw [nearestBits, if_neg hpos.ne', div_zpow_eq_ratio, roundEven_eq_nearestEven _ (by positivity)]

/-- The float nearest to a value that is not negative, infinite from half a step above the greatest on. -/
def nearest (v : ℚ) : Float := ofNatBits (min infinityBits (nearestBits v))

/-- The float nearest to a ratio is the one nearest to its value. -/
theorem ofRatio_eq_nearest (num : ℕ) (hden : 0 < den) : ofRatio num den = nearest ((num : ℚ) / den) := by
  rcases Nat.eq_zero_or_pos num with rfl | hnum
  · simp [nearest, nearestBits]
    rfl
  · rw [ofRatio_eq_ofNatBits hnum, ratioBits_eq_nearestBits hnum hden, nearest]

end Formwork.Binary64
