/-
  Formwork.Proofs.Number.Shortest: seventeen digits are enough for a float.

  The grid of seventeen digits is finer than the floats: a step on it is less than a step between
  neighbouring floats, also below a power of two, where these are closer. So one of the two points around
  a float lies among the reals that round to it, and the search for the shortest decimal ends there at the
  latest.

  - `compareBinary_eq_compare`: comparing a decimal with a binary number compares two rationals.
  - `scale_bounds`: the estimate of the power of ten is corrected to the right one.
  - `exists_onGrid`: seventeen digits read back.
  - `digits_shortest_le`: so the shortest decimal has no more.
-/

import Formwork.Number.Shortest
import Formwork.Proofs.Number.Whole

namespace Formwork.Decimal

open Binary64

variable {m n : ℕ} {q g : ℤ} {d : Decimal}

def value (d : Decimal) : ℚ := d.digits * 10 ^ d.exponent

def binary (m : ℕ) (q : ℤ) : ℚ := m * 2 ^ q

/-- A power of ten as a ratio of natural powers. -/
theorem ten_zpow_mul (e : ℤ) : (10 : ℚ) ^ e * 10 ^ (-e).toNat = 10 ^ e.toNat := by
  rw [← zpow_natCast, ← zpow_natCast, ← zpow_add₀ (by norm_num)]
  congr 1
  omega

theorem ten_zpow_of_nonneg {e : ℤ} (h : 0 ≤ e) : (10 : ℚ) ^ e = 10 ^ e.toNat := by
  rw [← zpow_natCast, Int.toNat_of_nonneg h]

theorem compareBinary_eq_compare (a : ℕ) (i : ℤ) (n : ℕ) (j : ℤ) :
    compareBinary a i n j = compare (value ⟨a, i⟩) (binary n j) := by
  have hscale : (0 : ℚ) < 10 ^ (-i).toNat * 2 ^ (-j).toNat := by positivity
  have hleft : ((a * Nat.pow 10 i.toNat * Nat.pow 2 (-j).toNat : ℕ) : ℚ) =
      value ⟨a, i⟩ * (10 ^ (-i).toNat * 2 ^ (-j).toNat) := by
    rw [value, ← mul_assoc, mul_assoc (a : ℚ), ten_zpow_mul]
    simp only [Nat.pow_eq]
    push_cast
    rfl
  have hright : ((n * Nat.pow 2 j.toNat * Nat.pow 10 (-i).toNat : ℕ) : ℚ) =
      binary n j * (10 ^ (-i).toNat * 2 ^ (-j).toNat) := by
    rw [binary, mul_comm (10 ^ _ : ℚ), ← mul_assoc, mul_assoc (n : ℚ), mul_scale]
    simp only [Nat.pow_eq]
    push_cast
    rfl
  unfold compareBinary
  apply compare_of_iff
  · rw [← Nat.cast_lt (α := ℚ), hleft, hright]
    exact mul_lt_mul_iff_left₀ hscale
  · rw [← Nat.cast_inj (R := ℚ), hleft, hright]
    exact mul_left_inj' hscale.ne'

/-! ## The number of digits -/

theorem decimalWidth_le_iff {k : ℕ} (hk : 0 < k) : decimalWidth n ≤ k ↔ n < 10 ^ k :=
  Nat.length_toDigits_le_iff (by decide) hk

theorem decimalWidth_pos (n : ℕ) : 0 < decimalWidth n := List.length_pos_iff.mpr Nat.toDigits_ne_nil

theorem lt_ten_pow_decimalWidth (n : ℕ) : n < 10 ^ decimalWidth n :=
  (decimalWidth_le_iff (decimalWidth_pos n)).mp (Nat.le_refl _)

theorem ten_pow_decimalWidth_le (h : 0 < n) : 10 ^ (decimalWidth n - 1) ≤ n := by
  by_cases hone : decimalWidth n = 1
  · rw [hone]
    exact h
  · have hpos := decimalWidth_pos n
    by_contra hlt
    have hle := (decimalWidth_le_iff (by omega)).mpr (Nat.not_le.mp hlt)
    omega

/-! ## The power of ten -/

structure IsFloat (m : ℕ) (q : ℤ) : Prop where
  pos : 0 < m
  lt : m < 2 * hiddenBit
  low : -1074 ≤ q
  high : q ≤ 971

def estimate (b : ℤ) : ℤ := b * 30103 / 100000

/-- A power of ten is at most a power of two: the logarithm of two to the base ten lies between 59/196 and 28/93. -/
theorem ten_zpow_le_two_zpow {i j : ℤ} (hup : 196 * i ≤ 59 * j) (hdown : 93 * i ≤ 28 * j) : (10 : ℚ) ^ i ≤ 2 ^ j := by
  obtain ⟨n, rfl | rfl⟩ := j.eq_nat_or_neg
  · rw [← pow_le_pow_iff_left₀ (by positivity) (by positivity) (by decide : 196 ≠ 0)]
    calc ((10 : ℚ) ^ i) ^ 196 = 10 ^ (196 * i) := by rw [← zpow_natCast, ← zpow_mul, mul_comm]; rfl
      _ ≤ 10 ^ ((59 * n : ℕ) : ℤ) := zpow_le_zpow_right₀ (by norm_num) (by push_cast; exact hup)
      _ = (10 ^ 59) ^ n := by rw [zpow_natCast, pow_mul]
      _ ≤ (2 ^ 196) ^ n := pow_le_pow_left₀ (by positivity) (by norm_num) n
      _ = ((2 : ℚ) ^ (n : ℤ)) ^ 196 := by rw [zpow_natCast, ← pow_mul, ← pow_mul, mul_comm]
  · rw [← pow_le_pow_iff_left₀ (by positivity) (by positivity) (by decide : 93 ≠ 0)]
    calc ((10 : ℚ) ^ i) ^ 93 = 10 ^ (93 * i) := by rw [← zpow_natCast, ← zpow_mul, mul_comm]; rfl
      _ ≤ 10 ^ (-((28 * n : ℕ) : ℤ)) := zpow_le_zpow_right₀ (by norm_num) (by push_cast; linarith)
      _ = ((10 ^ 28) ^ n)⁻¹ := by rw [zpow_neg, zpow_natCast, pow_mul]
      _ ≤ ((2 ^ 93) ^ n)⁻¹ := inv_anti₀ (by positivity) (pow_le_pow_left₀ (by positivity) (by norm_num) n)
      _ = ((2 : ℚ) ^ (-(n : ℤ))) ^ 93 := by rw [zpow_neg, zpow_natCast, inv_pow, ← pow_mul, ← pow_mul, mul_comm]

/-- The estimate is right, or too low by one or two. -/
theorem estimate_bounds {b : ℤ} (hlow : -1074 ≤ b) (hhigh : b ≤ 1023) :
    (10 : ℚ) ^ (estimate b - 1) ≤ 2 ^ b ∧ (2 : ℚ) ^ (b + 1) ≤ 10 ^ (estimate b + 2) := by
  unfold estimate
  refine ⟨ten_zpow_le_two_zpow (by omega) (by omega), ?_⟩
  rw [← inv_le_inv₀ (by positivity) (by positivity), ← zpow_neg, ← zpow_neg]
  exact ten_zpow_le_two_zpow (by omega) (by omega)

theorem log2_le (h : IsFloat m q) : (m.log2 : ℤ) ≤ 52 := by
  have hlt := (Nat.log2_lt h.pos.ne').mpr (show m < 2 ^ 53 from h.lt)
  omega

theorem log2_bounds (hm : 0 < m) (q : ℤ) : (2 : ℚ) ^ (m.log2 + q) ≤ binary m q ∧ binary m q < 2 ^ (m.log2 + q + 1) := by
  have hlow : (2 : ℚ) ^ (m.log2 : ℤ) ≤ m := by exact_mod_cast Nat.log2_self_le hm.ne'
  have hhigh : (m : ℚ) < 2 ^ ((m.log2 : ℤ) + 1) := by exact_mod_cast (Nat.lt_log2_self (n := m))
  have hq : (0 : ℚ) < 2 ^ q := by positivity
  rw [binary, show (m.log2 : ℤ) + q + 1 = m.log2 + 1 + q by ring, zpow_add₀ two_ne_zero, zpow_add₀ two_ne_zero _ q]
  exact ⟨mul_le_mul_of_nonneg_right hlow hq.le, mul_lt_mul_of_pos_right hhigh hq⟩

/-- The estimate is corrected to the power of ten next above the float. -/
theorem scale_bounds (h : IsFloat m q) : (10 : ℚ) ^ (scale m q - 1) ≤ binary m q ∧ binary m q < 10 ^ scale m q := by
  have hlog := log2_le h
  have hbounds := log2_bounds h.pos q
  have hestimate := estimate_bounds (b := m.log2 + q) (by have := h.low; omega) (by have := h.high; omega)
  have hexceeds : ∀ k : ℤ, (compareBinary 1 k m q == .gt) = true ↔ binary m q < 10 ^ k := by
    intro k
    rw [compareBinary_eq_compare, beq_iff_eq, compare_gt_iff_gt, value]
    simp
  unfold scale
  simp only
  rw [show ((m.log2 : ℤ) + q) * 30103 / 100000 = estimate (m.log2 + q) from rfl]
  generalize estimate (m.log2 + q) = k at hestimate
  split
  · next hk => exact ⟨hestimate.1.trans hbounds.1, (hexceeds k).mp hk⟩
  · next hk =>
    rw [hexceeds, not_lt] at hk
    split
    · next hk' => exact ⟨by rwa [add_sub_cancel_right], (hexceeds _).mp hk'⟩
    · next hk' =>
      rw [hexceeds, not_lt] at hk'
      rw [show k + 2 - 1 = k + 1 by ring]
      exact ⟨hk', hbounds.2.trans_le hestimate.2⟩

/-! ## The grid -/

/-- The point of the grid next below the float is told by a floor. -/
theorem below_eq_floor (m : ℕ) (q g : ℤ) : below m q g = ⌊binary m q / 10 ^ g⌋₊ := by
  have hratio : binary m q / 10 ^ g =
      ((m * Nat.pow 2 q.toNat * Nat.pow 10 (-g).toNat : ℕ) : ℚ) / ((Nat.pow 2 (-q).toNat * Nat.pow 10 g.toNat : ℕ) : ℚ) := by
    simp only [Nat.pow_eq]
    push_cast
    rw [div_eq_div_iff (by positivity) (by positivity), binary, ← ten_zpow_mul g, ← mul_scale q]
    ring
  rw [below, hratio, Nat.floor_div_eq_div]

/-- The float lies between the point below it and the next one. -/
theorem below_bounds (m : ℕ) (q g : ℤ) :
    value ⟨below m q g, g⟩ ≤ binary m q ∧ binary m q < value ⟨below m q g + 1, g⟩ := by
  have hg : (0 : ℚ) < 10 ^ g := by positivity
  have hnonneg : 0 ≤ binary m q / 10 ^ g := by unfold binary; positivity
  rw [below_eq_floor, value, value, ← le_div_iff₀ hg, ← div_lt_iff₀ hg]
  push_cast
  exact ⟨Nat.floor_le hnonneg, Nat.lt_floor_add_one _⟩

/-- The gap below a float, which is half as wide at a power of two, in quarters of its last place. -/
def gapBelow (m : ℕ) (q : ℤ) : ℚ := if m = hiddenBit ∧ -1074 < q then 1 else 2

theorem binary_eq_quarters (m : ℕ) (q : ℤ) : binary m q = 4 * m * 2 ^ (q - 2) := by
  rw [binary, zpow_sub₀ two_ne_zero]
  ring

/-- The lower end of the reals that round to a float, in quarters of its last place. -/
def lowEnd (m : ℕ) (q : ℤ) : ℕ := if m == hiddenBit && decide (-1074 < q) then 4 * m - 1 else 4 * m - 2

theorem binary_lowEnd (hm : 0 < m) (q : ℤ) :
    binary (lowEnd m q) (q - 2) = binary m q - gapBelow m q * 2 ^ (q - 2) := by
  rw [binary_eq_quarters m q, binary, gapBelow, lowEnd, ← sub_mul]
  congr 1
  by_cases hpower : m = hiddenBit ∧ -1074 < q
  · rw [if_pos (by simpa using hpower), if_pos hpower]
    push_cast [show 1 ≤ 4 * m by omega]
    ring
  · rw [if_neg (by simpa using hpower), if_neg hpower]
    push_cast [show 2 ≤ 4 * m by omega]
    ring

/-- What lies strictly within both gaps reads back. -/
theorem readsBack_of_within (hm : 0 < m) (hlow : binary m q - gapBelow m q * 2 ^ (q - 2) < d.value)
    (hhigh : d.value < binary m q + 2 * 2 ^ (q - 2)) : readsBack m q d = true := by
  have habove : compareBinary d.digits d.exponent (lowEnd m q) (q - 2) = .gt := by
    rw [compareBinary_eq_compare, compare_gt_iff_gt, binary_lowEnd hm]
    exact hlow
  have hbelow : compareBinary d.digits d.exponent (4 * m + 2) (q - 2) = .lt := by
    rw [compareBinary_eq_compare, compare_lt_iff_lt, binary]
    push_cast
    rw [binary_eq_quarters, ← add_mul] at hhigh
    exact hhigh
  unfold lowEnd at habove
  unfold readsBack
  simp only [habove, hbelow]
  rfl

/-- Half a step of such a grid is less than a gap. -/
theorem half_step_lt (h : IsFloat m q) (hg : (10 : ℚ) ^ g * 10 ^ 16 ≤ binary m q) :
    (10 : ℚ) ^ g / 2 < gapBelow m q * 2 ^ (q - 2) := by
  have hunit : (0 : ℚ) < 2 ^ (q - 2) := by positivity
  have hm : (m : ℚ) < 2 * 2 ^ 52 := by exact_mod_cast h.lt
  rw [binary_eq_quarters] at hg
  generalize (10 : ℚ) ^ g = step at *
  generalize (2 : ℚ) ^ (q - 2) = unit at *
  unfold gapBelow
  split
  · next hpower =>
    rw [hpower.1, show ((hiddenBit : ℕ) : ℚ) = 2 ^ 52 by norm_num [hiddenBit]] at hg
    linarith
  · nlinarith

/-- A grid fine enough for a float has a point that reads back. -/
theorem exists_onGrid (h : IsFloat m q) (hg : (10 : ℚ) ^ g * 10 ^ 16 ≤ binary m q) : ∃ r, onGrid m q g = some r := by
  have hbounds := below_bounds m q g
  have hhalf := half_step_lt h hg
  have hgap : gapBelow m q * 2 ^ (q - 2) ≤ 2 * 2 ^ (q - 2) := by
    refine mul_le_mul_of_nonneg_right ?_ (by positivity)
    unfold gapBelow
    split <;> norm_num
  have hpos : (0 : ℚ) < 10 ^ g := by positivity
  have hstep : value ⟨below m q g + 1, g⟩ = value ⟨below m q g, g⟩ + 10 ^ g := by
    rw [value, value]
    push_cast
    ring
  -- one of the two points is half a step away at most
  have hreads : readsBack m q ⟨below m q g, g⟩ = true ∨ readsBack m q ⟨below m q g + 1, g⟩ = true := by
    rcases le_or_gt (binary m q - value ⟨below m q g, g⟩) (10 ^ g / 2) with hnear | hfar
    · exact .inl (readsBack_of_within h.pos (by linarith) (by linarith))
    · exact .inr (readsBack_of_within h.pos (by linarith) (by linarith))
  unfold onGrid
  simp only
  rcases hreads with hreads | hreads <;> simp only [hreads, Bool.true_and, Bool.and_true]
  all_goals repeat' split
  all_goals simp_all

/-- What is found on a grid is one of the two points around the float. -/
theorem onGrid_eq_some {r : Decimal} (h : onGrid m q g = some r) :
    r = ⟨below m q g, g⟩ ∨ r = ⟨below m q g + 1, g⟩ := by
  unfold onGrid at h
  simp only at h
  repeat' split at h
  all_goals cases h
  all_goals simp

/-! ## The search -/

theorem digits_stripZeros_le (fuel : ℕ) (d : Decimal) : (stripZeros fuel d).digits ≤ d.digits := by
  induction fuel generalizing d with
  | zero => rfl
  | succ fuel ih =>
    rw [stripZeros]
    split
    · exact (ih _).trans (Nat.div_le_self _ _)
    · rfl

theorem step_mul (k : ℤ) (n : ℕ) : (10 : ℚ) ^ (k - n) * 10 ^ n = 10 ^ k := by
  rw [← zpow_natCast, ← zpow_add₀ (by norm_num), sub_add_cancel]

/-- On the grid of that many digits no more are needed for the point below. -/
theorem below_lt (h : IsFloat m q) (n : ℕ) : below m q (scale m q - n) < 10 ^ n := by
  have hle := (below_bounds m q (scale m q - n)).1
  have hlt := hle.trans_lt (scale_bounds h).2
  rw [← step_mul _ n, value, mul_comm, mul_lt_mul_iff_right₀ (by positivity)] at hlt
  exact_mod_cast hlt

/-- The search ends on the grid of seventeen digits at the latest. -/
theorem exists_found (h : IsFloat m q) :
    ∃ r, ((List.range 17).findSome? fun n : Nat => onGrid m q (scale m q - (n + 1))) = some r := by
  rw [← Option.isSome_iff_exists, List.findSome?_isSome_iff]
  refine ⟨16, by simp, Option.isSome_iff_exists.mpr (exists_onGrid h ?_)⟩
  have hstep := step_mul (scale m q - 1) 16
  rw [show scale m q - ((16 : ℕ) + 1) = scale m q - 1 - (16 : ℕ) by push_cast; ring, hstep]
  exact (scale_bounds h).1

/-- What the search finds is on one of its grids. -/
theorem shortest_eq (h : IsFloat m q) : ∃ (n : ℕ) (r : Decimal), n < 17 ∧ r.digits ≤ 10 ^ (n + 1) ∧
    shortest m q = stripZeros (decimalWidth r.digits) r := by
  obtain ⟨r, hr⟩ := exists_found h
  obtain ⟨n, hn, hgrid⟩ := List.exists_of_findSome?_eq_some hr
  have hbelow : below m q (scale m q - (n + 1)) < 10 ^ (n + 1) := by exact_mod_cast below_lt h (n + 1)
  refine ⟨n, r, List.mem_range.mp hn, ?_, ?_⟩
  · rcases onGrid_eq_some hgrid with rfl | rfl
    · exact hbelow.le
    · exact hbelow
  · unfold shortest
    rw [if_neg (by simpa using h.pos.ne')]
    simp only [hr, Option.getD_some]

/-- The shortest decimal of a float has seventeen digits at most. -/
theorem digits_shortest_le (h : IsFloat m q) : (shortest m q).digits ≤ 10 ^ 17 := by
  obtain ⟨n, r, hn, hdigits, hr⟩ := shortest_eq h
  rw [hr]
  exact (digits_stripZeros_le _ _).trans (hdigits.trans (Nat.pow_le_pow_right (by decide) hn))

end Formwork.Decimal
