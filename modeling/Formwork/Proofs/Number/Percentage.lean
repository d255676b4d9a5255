/-
  Formwork.Proofs.Number.Percentage: the percentage that a share of integers gets.

  A share is rounded to a float, a hundred times the float is rounded, and so is the sum of that with a half.
  Only the first step sees the integers. What follows keeps the order of floats, so for each percentage there
  is a first float that gets it, and a share gets it from half way between that float and the one before. This
  cut should be where the exact percentage is a half below; it is close to that but not there, and the
  four percentages of `late` have it above.

  - `le_percentOf_iff`: the first float of a percentage.
  - `percentage_of_integers`: the percentage of a share of integers, and where it is the exact one, rounded.
-/

import Formwork.Proofs.Number.Middle

namespace Formwork.Binary64

variable {v : ℚ} {b n : ℕ}

/-! ## The first float of a percentage -/

/-- The percentages that the float nearest to `(2 * n - 1) / 200`, where they should begin, does not get. -/
def late : List ℕ := [15, 29, 57, 58]

/-- The percentages that the float before the one nearest to `(2 * n - 1) / 200` gets already. -/
def early : List ℕ := [1, 3, 9, 12, 34, 41, 47, 68, 69, 80, 81, 93, 94]

def firstBits (n : ℕ) : ℕ :=
  if n ∈ late then ratioBits (2 * n - 1) 200 + 1
  else if n ∈ early then ratioBits (2 * n - 1) 200 - 1
  else ratioBits (2 * n - 1) 200

/-- Where the shares that get a percentage begin. -/
def cut (n : ℕ) : ℚ := middle (firstBits n - 1)

theorem mem_range'_of_late : ∀ n ∈ late, n ∈ List.range' 1 100 := by
  decide

theorem firstBits_bounds : ∀ n ∈ List.range' 1 100, 0 < firstBits n ∧ firstBits n ≤ oneBits := by
  decide +kernel

/-- The first float gets the percentage, and the one before does not. -/
theorem percentOf_firstBits (hn : n ∈ List.range' 1 100) :
    (n : ℤ) ≤ percentOf (firstBits n) ∧ percentOf (firstBits n - 1) < n := by
  have htable : ∀ n ∈ List.range' 1 100,
      (roundHalfUp (ofNatBits (firstBits n) * 100)).toOption.any (fun p => decide ((n : ℤ) ≤ p)) = true ∧
        (roundHalfUp (ofNatBits (firstBits n - 1) * 100)).toOption.any (fun p => decide (p < (n : ℤ))) = true := by
    decide +kernel
  obtain ⟨-, hone⟩ := firstBits_bounds n hn
  have hpercent : ∀ b ≤ oneBits, roundHalfUp (ofNatBits b * 100) = .ok (percentOf b) := fun b hb =>
    roundHalfUp_of_share (rank?_ofNatBits (lt_infinityBits_of_share hb).le) hb
  obtain ⟨hfirst, hbefore⟩ := htable n hn
  obtain ⟨p, hp, hle⟩ := exists_ok_of_any hfirst
  obtain ⟨r, hr, hlt⟩ := exists_ok_of_any hbefore
  have hle : (n : ℤ) ≤ p := of_decide_eq_true hle
  have hlt : r < (n : ℤ) := of_decide_eq_true hlt
  rw [Except.ok.inj ((hpercent _ hone).symm.trans hp), Except.ok.inj
    ((hpercent _ (Nat.le_trans (Nat.sub_le _ _) hone)).symm.trans hr)]
  exact ⟨hle, hlt⟩

/-- A float gets at least a percentage from the first float of the percentage on. -/
theorem le_percentOf_iff (hn : n ∈ List.range' 1 100) : (n : ℤ) ≤ percentOf b ↔ firstBits n ≤ b := by
  obtain ⟨hfirst, hbefore⟩ := percentOf_firstBits hn
  constructor
  · intro h
    by_contra hlt
    have := percentOf_mono (Nat.le_sub_one_of_lt (Nat.not_le.mp hlt))
    omega
  · exact fun h => hfirst.trans (percentOf_mono h)

/-- A cut is close to the share half a percent below, and below it but for the late percentages. -/
theorem cut_bounds (hn : n ∈ List.range' 1 100) :
    |cut n - (2 * n - 1) / 200| < 1 / (200 * 2 ^ 45) ∧ (cut n < (2 * n - 1) / 200 ↔ n ∉ late) := by
  have htable : ∀ n ∈ List.range' 1 100,
      let k := (1 - exponent (firstBits n - 1)).toNat
      let numerator := 200 * (2 * significand (firstBits n - 1) + 1)
      exponent (firstBits n - 1) = 1 - k ∧ 2 ^ 45 * numerator < 2 ^ 45 * ((2 * n - 1) * 2 ^ k) + 2 ^ k ∧
        2 ^ 45 * ((2 * n - 1) * 2 ^ k) < 2 ^ 45 * numerator + 2 ^ k ∧
          (numerator < (2 * n - 1) * 2 ^ k ↔ n ∉ late) := by
    decide +kernel
  have hpositive := (List.mem_range'_1.mp hn).1
  obtain ⟨hexponent, hlow, hhigh, hlate⟩ := htable n hn
  have hpred : ((2 * n - 1 : ℕ) : ℚ) = 2 * n - 1 := by
    rw [Nat.cast_sub (by omega)]
    push_cast
    rfl
  rw [cut, middle_eq_div hexponent, ← hpred, ← hlate]
  generalize (1 - exponent (firstBits n - 1)).toNat = k at hlow hhigh
  generalize significand (firstBits n - 1) = s at hlow hhigh
  have hscale : (0 : ℚ) < 2 ^ k := by positivity
  refine ⟨?_, ?_⟩
  · have hlow : (2 : ℚ) ^ 45 * (200 * (2 * s + 1)) < 2 ^ 45 * ((2 * n - 1 : ℕ) * 2 ^ k) + 2 ^ k := by
      exact_mod_cast hlow
    have hhigh : (2 : ℚ) ^ 45 * ((2 * n - 1 : ℕ) * 2 ^ k) < 2 ^ 45 * (200 * (2 * s + 1)) + 2 ^ k := by
      exact_mod_cast hhigh
    rw [div_sub_div _ _ hscale.ne' (by norm_num), abs_lt, lt_div_iff₀ (by positivity), div_lt_iff₀ (by positivity),
      ← neg_div, div_mul_eq_mul_div, div_mul_eq_mul_div, div_lt_iff₀ (by positivity), lt_div_iff₀ (by positivity)]
    constructor <;> linarith
  · rw [div_lt_div_iff₀ hscale (by norm_num), mul_comm _ (200 : ℚ)]
    exact_mod_cast Iff.rfl

/-! ## Shares of integers -/

/-- A share of integers that are not too large is off every middle. -/
theorem share_ne_middle {part whole : ℕ} (hpos : 0 < whole) (hlimit : whole < 2 ^ 53) (hb : b < oneBits) :
    (part : ℚ) / whole ≠ middle b := by
  have hexponent : exponent b ≤ -53 := by
    have hlt : b < 1023 * 4503599627370496 := hb
    unfold exponent hiddenBit
    omega
  obtain ⟨k, hk⟩ : ∃ k : ℕ, exponent b = 1 - k := ⟨(1 - exponent b).toNat, by omega⟩
  have hwholeQ : (whole : ℚ) ≠ 0 := by exact_mod_cast hpos.ne'
  rw [middle_eq_div hk, Ne, div_eq_div_iff hwholeQ (by positivity)]
  intro heq
  -- the denominator of the middle divides the whole
  have hcross : part * 2 ^ k = (2 * significand b + 1) * whole := by exact_mod_cast heq
  have hodd : Nat.Coprime (2 ^ k) (2 * significand b + 1) :=
    Nat.Coprime.pow_left _ (Nat.coprime_two_left.mpr ⟨_, rfl⟩)
  have hdvd : 2 ^ k ∣ whole := hodd.dvd_of_dvd_mul_left (Dvd.intro_left part hcross)
  have hlarge : 2 ^ 53 ≤ 2 ^ k := Nat.pow_le_pow_right (by decide) (by omega)
  have hle := Nat.le_of_dvd hpos hdvd
  omega

/-- The exact percentage of a share, a half counting up. -/
def halfUp (part whole : ℤ) : ℤ := (200 * part + whole) / (2 * whole)

/-- What the percentage of a share of integers is. Up to `2 ^ 45` it is the exact one, rounded, unless the share
is just half a percent below a late one; beyond, cut and share may lie on two sides of that. -/
structure IsPercentage (part whole p : ℤ) : Prop where
  bounds : 0 ≤ p ∧ p ≤ 100
  reaches : ∀ n ∈ List.range' 1 100, (n : ℤ) ≤ p ↔ cut n < part / whole
  near : |p - halfUp part whole| ≤ 1
  exact_iff : p = halfUp part whole ↔
    ∀ n ∈ List.range' 1 100, cut n < part / whole ↔ (2 * n - 1) / 200 ≤ (part / whole : ℚ)
  of_small : whole ≤ 2 ^ 45 → p = if ∃ n ∈ late, 200 * part = (2 * n - 1) * whole then halfUp part whole - 1
    else halfUp part whole

section

variable {part whole p q : ℤ}

theorem le_halfUp_iff (hpos : 0 < whole) (n : ℤ) :
    n ≤ halfUp part whole ↔ (2 * n - 1) / 200 ≤ (part / whole : ℚ) := by
  have hposQ : (0 : ℚ) < whole := by exact_mod_cast hpos
  rw [halfUp, Int.le_ediv_iff_mul_le (by omega), div_le_div_iff₀ (by norm_num) hposQ]
  norm_cast
  constructor <;> intro h <;> linarith

theorem natCast_le_halfUp_iff (hpos : 0 < whole) (n : ℕ) :
    (n : ℤ) ≤ halfUp part whole ↔ (2 * n - 1) / 200 ≤ (part / whole : ℚ) := by
  rw [le_halfUp_iff hpos, Int.cast_natCast]

theorem halfUp_bounds (hnonneg : 0 ≤ part) (hle : part ≤ whole) (hpos : 0 < whole) :
    0 ≤ halfUp part whole ∧ halfUp part whole ≤ 100 := by
  refine ⟨Int.ediv_nonneg (by omega) (by omega), ?_⟩
  rw [← Int.lt_add_one_iff]
  exact Int.ediv_lt_of_lt_mul (by omega) (by omega)

theorem natCast_mem_range' (h : 1 ≤ p ∧ p ≤ 100) : ∃ n ∈ List.range' 1 100, (n : ℤ) = p :=
  ⟨p.toNat, List.mem_range'_1.mpr (by omega), by omega⟩

/-- Percentages that reach the same numbers are the same. -/
theorem eq_of_reaches (hp : 0 ≤ p ∧ p ≤ 100) (hq : 0 ≤ q ∧ q ≤ 100)
    (h : ∀ n ∈ List.range' 1 100, (n : ℤ) ≤ p ↔ (n : ℤ) ≤ q) : p = q := by
  rcases lt_trichotomy p q with hlt | heq | hlt
  · obtain ⟨n, hn, rfl⟩ := natCast_mem_range' (p := q) (by omega)
    exact absurd ((h n hn).mpr le_rfl) (not_le.mpr hlt)
  · exact heq
  · obtain ⟨n, hn, rfl⟩ := natCast_mem_range' (p := p) (by omega)
    exact absurd ((h n hn).mp le_rfl) (not_le.mpr hlt)

/-- With a small whole, no share but the one half a percent below lies between that and the cut. -/
theorem cut_lt_iff_of_ne (hn : n ∈ List.range' 1 100) (hpos : 0 < whole) (hsmall : whole ≤ 2 ^ 45)
    (hne : 200 * part ≠ (2 * n - 1) * whole) : cut n < part / whole ↔ (2 * n - 1) / 200 ≤ (part / whole : ℚ) := by
  obtain ⟨hclose, -⟩ := cut_bounds hn
  have hposQ : (0 : ℚ) < whole := by exact_mod_cast hpos
  have hgap : 1 / (200 * 2 ^ 45) ≤ |(part / whole : ℚ) - (2 * n - 1) / 200| := by
    have hwhole : (1 : ℚ) ≤ |((200 * part - (2 * n - 1) * whole : ℤ) : ℚ)| := by
      rw [← Int.cast_abs]
      exact_mod_cast Int.one_le_abs (sub_ne_zero.mpr hne)
    have hdiff : (part / whole : ℚ) - (2 * n - 1) / 200 =
        (200 * part - (2 * n - 1) * whole : ℤ) / (200 * whole : ℚ) := by
      push_cast
      field_simp
    rw [hdiff, abs_div, abs_of_pos (show (0 : ℚ) < 200 * whole by positivity)]
    refine div_le_div₀ (abs_nonneg _) hwhole (by positivity) ?_
    exact mul_le_mul_of_nonneg_left (by exact_mod_cast hsmall) (by norm_num)
  rw [abs_lt] at hclose
  rcases le_abs.mp hgap with h | h
  · exact iff_of_true (by linarith) (by linarith)
  · exact iff_of_false (by linarith) (by linarith)

theorem near_halfUp (hpos : 0 < whole) (hbounds : 0 ≤ p ∧ p ≤ 100)
    (hhalf : 0 ≤ halfUp part whole ∧ halfUp part whole ≤ 100)
    (hreaches : ∀ n ∈ List.range' 1 100, (n : ℤ) ≤ p ↔ cut n < part / whole) : |p - halfUp part whole| ≤ 1 := by
  have hstep : (1 : ℚ) / (200 * 2 ^ 45) < 1 / 100 := by norm_num
  rw [abs_le]
  constructor
  · by_contra hlt
    obtain ⟨n, hn, hcast⟩ := natCast_mem_range' (p := p + 1) (by omega)
    have hunreached : (part / whole : ℚ) ≤ cut n := not_lt.mp fun h => by
      have := (hreaches n hn).mpr h
      omega
    have hreached := (le_halfUp_iff hpos (n + 1)).mp (show (n + 1 : ℤ) ≤ halfUp part whole by omega)
    have hclose := abs_lt.mp (cut_bounds hn).1
    push_cast at hreached
    linarith
  · by_contra hlt
    obtain ⟨n, hn, hcast⟩ := natCast_mem_range' (p := p) (by omega)
    have hreached := (hreaches n hn).mp hcast.le
    have hunreached := mt (le_halfUp_iff hpos (n - 1)).mpr (show ¬ (n - 1 : ℤ) ≤ halfUp part whole by omega)
    have hclose := abs_lt.mp (cut_bounds hn).1
    push_cast at hunreached
    linarith

theorem eq_of_small (hpos : 0 < whole) (hsmall : whole ≤ 2 ^ 45) (hbounds : 0 ≤ p ∧ p ≤ 100)
    (hhalf : 0 ≤ halfUp part whole ∧ halfUp part whole ≤ 100)
    (hreaches : ∀ n ∈ List.range' 1 100, (n : ℤ) ≤ p ↔ cut n < part / whole) :
    p = if ∃ n ∈ late, 200 * part = (2 * n - 1) * whole then halfUp part whole - 1 else halfUp part whole := by
  have hposQ : (0 : ℚ) < whole := by exact_mod_cast hpos
  have hshare : ∀ n : ℕ, 200 * part = (2 * n - 1) * whole → (part / whole : ℚ) = (2 * n - 1) / 200 := by
    intro n htie
    have htieQ : (200 * part : ℚ) = (2 * n - 1) * whole := by exact_mod_cast htie
    rw [div_eq_div_iff hposQ.ne' (by norm_num)]
    linarith
  split
  · rename_i htie
    obtain ⟨n, hlate, htie⟩ := htie
    have hn : n ∈ List.range' 1 100 := mem_range'_of_late n hlate
    have hpositive := (List.mem_range'_1.mp hn).1
    have hvalue : halfUp part whole = n := by
      rw [halfUp, htie]
      exact Int.ediv_eq_of_eq_mul_left (by omega) (by ring)
    refine eq_of_reaches hbounds (by omega) fun m hm => ?_
    rw [hreaches m hm, hvalue]
    rcases eq_or_ne m n with rfl | hne
    · rw [hshare m htie, (cut_bounds hm).2]
      exact iff_of_false (not_not.mpr hlate) (by omega)
    · have hother : 200 * part ≠ (2 * m - 1) * whole := by
        rw [htie]
        intro heq
        have := Int.eq_of_mul_eq_mul_right hpos.ne' heq
        omega
      rw [cut_lt_iff_of_ne hm hpos hsmall hother, ← natCast_le_halfUp_iff hpos, hvalue]
      omega
  · rename_i hnone
    refine eq_of_reaches hbounds hhalf fun n hn => ?_
    rw [hreaches n hn, natCast_le_halfUp_iff hpos]
    by_cases htie : 200 * part = (2 * n - 1) * whole
    · have hlate : n ∉ late := fun hlate => hnone ⟨n, hlate, htie⟩
      rw [hshare n htie, (cut_bounds hn).2]
      exact iff_of_true hlate le_rfl
    · exact cut_lt_iff_of_ne hn hpos hsmall htie

/-- The percentage, from the numbers that it reaches. -/
theorem isPercentage_of_reaches (hnonneg : 0 ≤ part) (hle : part ≤ whole) (hpos : 0 < whole)
    (hbounds : 0 ≤ p ∧ p ≤ 100) (hreaches : ∀ n ∈ List.range' 1 100, (n : ℤ) ≤ p ↔ cut n < part / whole) :
    IsPercentage part whole p := by
  have hhalf := halfUp_bounds hnonneg hle hpos
  refine ⟨hbounds, hreaches, near_halfUp hpos hbounds hhalf hreaches, ?_, fun hsmall =>
    eq_of_small hpos hsmall hbounds hhalf hreaches⟩
  constructor
  · rintro rfl n hn
    rw [← hreaches n hn, natCast_le_halfUp_iff hpos]
  · intro h
    refine eq_of_reaches hbounds hhalf fun n hn => ?_
    rw [hreaches n hn, h n hn, natCast_le_halfUp_iff hpos]

end

/-- The percentage of a share is that of the float nearest to it. -/
theorem percentage_of_natCast {part whole : ℕ} (hle : part ≤ whole) (hpos : 0 < whole) :
    nearestBits ((part : ℚ) / whole) ≤ oneBits ∧
      percentage (.int part) (.int whole) = .ok (percentOf (nearestBits ((part : ℚ) / whole))) := by
  have hposQ : (0 : ℚ) < whole := by exact_mod_cast hpos
  have hone : nearestBits ((part : ℚ) / whole) ≤ oneBits := by
    refine nearestBits_le (by positivity) ?_
    rw [magnitude_oneBits, div_le_one hposQ]
    exact_mod_cast hle
  have hdiv : Number.div (.int part) (.int whole) = .ok (nearest ((part : ℚ) / whole)) := by
    have hne : ((whole : ℤ) == 0) = false := by
      rw [beq_eq_false_iff_ne]
      omega
    have hsign : (decide ((part : ℤ) < 0) != decide ((whole : ℤ) < 0)) = false := by
      rw [decide_eq_false (by omega), decide_eq_false (by omega)]
      rfl
    have hfinite := isInf_ofRatio_of_le hle hpos
    rw [ofRatio_eq_nearest part hpos] at hfinite
    rw [Number.div, hne, if_neg Bool.false_ne_true, divInt?, Int.natAbs_natCast, Int.natAbs_natCast]
    simp only [ofRatio_eq_nearest part hpos, hfinite, Bool.false_eq_true, if_false, hsign, signed]
  have hrank := rank?_nearest ((part : ℚ) / whole)
  rw [Nat.min_eq_right (lt_infinityBits_of_share hone).le] at hrank
  exact ⟨hone, by rw [percentage, hdiv, ok_bind, roundHalfUp_of_share hrank hone]⟩

/-- Integers below `2 ^ 53` have a percentage, which reaches a number when their share is beyond its cut, and does
not fall when the part grows. -/
theorem percentage_of_integers {part whole : ℤ} (hnonneg : 0 ≤ part) (hle : part ≤ whole) (hpos : 0 < whole)
    (hlimit : whole < 2 ^ 53) : ∃ p, percentage (.int part) (.int whole) = .ok p ∧ IsPercentage part whole p ∧
      ∀ more, part ≤ more → more ≤ whole → ∃ q, percentage (.int more) (.int whole) = .ok q ∧ p ≤ q := by
  obtain ⟨part, rfl⟩ := Int.eq_ofNat_of_zero_le hnonneg
  obtain ⟨whole, rfl⟩ := Int.eq_ofNat_of_zero_le hpos.le
  have hlimit : whole < 2 ^ 53 := by exact_mod_cast hlimit
  have hpos' : 0 < whole := by omega
  have hshare : (0 : ℚ) ≤ (part : ℚ) / whole := by positivity
  obtain ⟨hone, hpercentage⟩ := percentage_of_natCast (Int.ofNat_le.mp hle) hpos'
  refine ⟨_, hpercentage, isPercentage_of_reaches hnonneg hle hpos (percentOf_bounds hone) fun n hn => ?_, ?_⟩
  · obtain ⟨hfirst, hfirstOne⟩ := firstBits_bounds n hn
    rw [le_percentOf_iff hn, Int.cast_natCast, Int.cast_natCast, cut,
      ← lt_nearestBits_iff hshare (share_ne_middle hpos' hlimit (by omega))]
    omega
  · intro more hmore hwhole
    obtain ⟨more, rfl⟩ := Int.eq_ofNat_of_zero_le (hnonneg.trans hmore)
    refine ⟨_, (percentage_of_natCast (by omega) hpos').2, percentOf_mono (nearestBits_mono hshare ?_)⟩
    exact div_le_div_of_nonneg_right (by exact_mod_cast hmore) (by positivity)

/-- A half counts up in 5 of 40 but not in 23 of 40, which is 57.5 percent. -/
theorem percentage_of_forty : (∃ p, percentage (.int 5) (.int 40) = .ok p ∧ p = 13) ∧
    ∃ p, percentage (.int 23) (.int 40) = .ok p ∧ p = 57 := by
  obtain ⟨p, hp, hvalue, -⟩ := percentage_of_integers (show (0 : ℤ) ≤ 5 by decide) (show (5 : ℤ) ≤ 40 by decide)
    (by decide) (by decide)
  obtain ⟨q, hq, hvalue', -⟩ := percentage_of_integers (show (0 : ℤ) ≤ 23 by decide) (show (23 : ℤ) ≤ 40 by decide)
    (by decide) (by decide)
  exact ⟨⟨p, hp, hvalue.of_small (by decide)⟩, q, hq, hvalue'.of_small (by decide)⟩

/-- 29 of 200 is 14.5 percent and gets 14. -/
theorem percentage_loses_half : percentage (.int 29) (.int 200) = .ok 14 ∧ halfUp 29 200 = 15 :=
  ⟨eq_ok_of_toOption (by decide +kernel), by decide⟩

end Formwork.Binary64
