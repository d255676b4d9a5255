/-
  Formwork.Proofs.Number.Range: which integers are floats and which floats have an integer.

  An integer has a nearest float unless it lies half a step or more above the greatest finite one
  (`ofInt?_eq_none_iff`): from there on it is rounded up to a power of two that no float has. The
  floor of a finite float lies below that, so it always comes back as a float, and floor, ceiling
  and rounding fail for infinities and NaN only (`wholeFloat_floor_eq_error` and its siblings).
-/

import Formwork.Number.Basic
import Formwork.Proofs.Bind
import Formwork.Proofs.Number.Rounding

namespace Formwork

namespace Binary64

variable {x : Float} {num den : Nat} {n : Int}

/-! ## Integers as floats -/

/-- The least integer without a float: half a step above the greatest finite float. -/
def integerLimit : Nat := (2 ^ 54 - 1) * 2 ^ 970

def infinityBits : Nat := 2047 * hiddenBit

/-- Bits below those of the infinity stand for finite floats. -/
theorem isInf_ofBits_min (b : Nat) :
    (Float.ofBits (UInt64.ofNat (min infinityBits b))).isInf = true ↔ infinityBits ≤ b := by
  by_cases h : infinityBits ≤ b
  · rw [Nat.min_eq_left h]
    exact iff_of_true (by decide +kernel) h
  · have hlt : b < 2047 * 4503599627370496 := Nat.lt_of_not_le h
    rw [Nat.min_eq_right (Nat.le_of_not_le h)]
    refine iff_of_false ?_ h
    rw [Bool.not_eq_true]
    apply isInf_of_isFinite
    have hmod : b % 2 ^ 64 = b := Nat.mod_eq_of_lt (by omega)
    rw [isFinite_ofBits, UInt64.toNat_ofNat', hmod, hiddenBit]
    omega

theorem roundEven_bounds (num den : Nat) : num / den ≤ roundEven num den ∧ roundEven num den ≤ num / den + 1 := by
  unfold roundEven
  simp only
  repeat' split
  all_goals omega

/-- The last place of an integer with this leading bit. -/
theorem lastPlace_one (h : 0 < num) : lastPlace num 1 = (num.log2 : Int) - 52 := by
  have hnext : ¬ num * Nat.pow 2 (-((num.log2 : Int) - 52)).toNat <
      hiddenBit * 1 * Nat.pow 2 ((num.log2 : Int) - 52).toNat := by
    rw [Nat.not_lt, Nat.mul_one, Nat.pow_eq, Nat.pow_eq, show hiddenBit = 2 ^ 52 from rfl, ← Nat.pow_add]
    rw [show 52 + ((num.log2 : Int) - 52).toNat = num.log2 + (-((num.log2 : Int) - 52)).toNat by omega, Nat.pow_add]
    exact Nat.mul_le_mul_right _ (Nat.log2_self_le (Nat.ne_of_gt h))
  have hone : (((1 : Nat).log2 : Nat) : Int) = 0 := rfl
  unfold lastPlace
  simp only [hone, Int.sub_zero]
  rw [if_neg hnext]
  omega

def leading (num : Nat) : Nat :=
  let q := (num.log2 : Int) - 52
  roundEven (num * Nat.pow 2 (-q).toNat) (1 * Nat.pow 2 q.toNat)

theorem leading_bounds (h : 0 < num) : 2 ^ 52 ≤ leading num ∧ leading num ≤ 2 ^ 53 := by
  obtain ⟨hlow, hhigh⟩ := roundEven_bounds (num * 2 ^ (-((num.log2 : Int) - 52)).toNat)
    (1 * 2 ^ ((num.log2 : Int) - 52).toNat)
  have hself := Nat.log2_self_le (Nat.ne_of_gt h)
  have hnext := Nat.lt_log2_self (n := num)
  have hq : num.log2 + (-((num.log2 : Int) - 52)).toNat = 52 + ((num.log2 : Int) - 52).toNat := by omega
  constructor
  · refine Nat.le_trans ?_ hlow
    rw [Nat.one_mul, Nat.le_div_iff_mul_le (Nat.two_pow_pos _), ← Nat.pow_add, ← hq, Nat.pow_add]
    exact Nat.mul_le_mul_right _ hself
  · refine Nat.le_trans hhigh ?_
    rw [Nat.one_mul, Nat.succ_le_iff, Nat.div_lt_iff_lt_mul (Nat.two_pow_pos _), ← Nat.pow_add]
    rw [show 53 + ((num.log2 : Int) - 52).toNat = num.log2 + 1 + (-((num.log2 : Int) - 52)).toNat by omega, Nat.pow_add]
    exact Nat.mul_lt_mul_of_pos_right hnext (Nat.two_pow_pos _)

/-- An integer is rounded up to one bit more from half a step below the next power of two on. -/
theorem le_leading_iff {k : Nat} (h : num.log2 = k + 53) : 2 ^ 53 ≤ leading num ↔ (2 ^ 54 - 1) * 2 ^ k ≤ num := by
  have hlt : num < 2 ^ 54 * 2 ^ k := by
    rw [← Nat.pow_add]
    exact Nat.lt_of_lt_of_le Nat.lt_log2_self (Nat.pow_le_pow_right (by decide) (by omega))
  have hleading : leading num = roundEven num (2 * 2 ^ k) := by
    unfold leading
    rw [h]
    simp only [Nat.pow_eq]
    rw [show (-(((k + 53 : Nat) : Int) - 52)).toNat = 0 by omega, show (((k + 53 : Nat) : Int) - 52).toNat = k + 1 by omega,
      Nat.pow_zero, Nat.mul_one, Nat.one_mul, Nat.pow_succ, Nat.mul_comm (2 ^ k) 2]
  rw [hleading]
  have hpos : 0 < 2 ^ k := Nat.two_pow_pos k
  generalize 2 ^ k = unit at hlt hpos
  have hdiv : num / (2 * unit) < 2 ^ 53 := (Nat.div_lt_iff_lt_mul (by omega)).mpr (by omega)
  have hsplit := Nat.div_add_mod num (2 * unit)
  have hrem := Nat.mod_lt num (show 0 < 2 * unit by omega)
  by_cases hlast : num / (2 * unit) = 2 ^ 53 - 1
  · rw [hlast] at hsplit
    unfold roundEven
    simp only [hlast, beq_iff_eq]
    repeat' split
    all_goals omega
  · have hmul : 2 * unit * (num / (2 * unit)) ≤ 2 * unit * (2 ^ 53 - 2) := Nat.mul_le_mul_left _ (by omega)
    have hround := (roundEven_bounds num (2 * unit)).2
    exact iff_of_false (by omega) (by omega)

theorem isInf_ofRatio_one (h : 0 < num) : (ofRatio num 1).isInf = true ↔
    2047 * hiddenBit ≤ (num.log2 + 1022) * hiddenBit + leading num := by
  have hzero : (num == 0) = false := by simpa using Nat.ne_of_gt h
  unfold ofRatio
  rw [hzero, lastPlace_one h]
  simp only [Bool.false_eq_true, if_false]
  rw [show ((num.log2 : Int) - 52 + 1074).toNat = num.log2 + 1022 by omega]
  exact isInf_ofBits_min _

/-- An integer is rounded to an infinity from the limit on. -/
theorem isInf_ofRatio_one_iff (num : Nat) : (ofRatio num 1).isInf = true ↔ integerLimit ≤ num := by
  have hunit : ∀ k, 0 < 2 ^ k := Nat.two_pow_pos
  rcases Nat.eq_zero_or_pos num with rfl | hpos
  · have hpos := hunit 970
    rw [integerLimit]
    generalize 2 ^ 970 = unit at hpos
    exact iff_of_false (by decide +kernel) (by omega)
  rw [isInf_ofRatio_one hpos]
  obtain ⟨hlow, hhigh⟩ := leading_bounds hpos
  have hbelow : ∀ k, num.log2 < 53 + k → num < 2 ^ 53 * 2 ^ k := by
    intro k h
    rw [← Nat.pow_add]
    exact (Nat.log2_lt (Nat.ne_of_gt hpos)).mp h
  have habove : ∀ k, 54 + k ≤ num.log2 → 2 ^ 54 * 2 ^ k ≤ num := by
    intro k h
    rw [← Nat.pow_add]
    exact (Nat.le_log2 (Nat.ne_of_gt hpos)).mp h
  have hrounds : ∀ k, num.log2 = k + 53 → (2 ^ 53 ≤ leading num ↔ (2 ^ 54 - 1) * 2 ^ k ≤ num) :=
    fun _ h => le_leading_iff h
  replace hunit := hunit 970
  replace hbelow := hbelow 970
  replace habove := habove 970
  replace hrounds := hrounds 970
  rw [integerLimit, hiddenBit]
  generalize 2 ^ 970 = unit at *
  omega

/-- Integers from the limit on, and no others, have no nearest float. -/
theorem ofInt?_eq_none_iff : ofInt? n = none ↔ integerLimit ≤ n.natAbs := by
  rw [← isInf_ofRatio_one_iff, ofInt?]
  simp

/-! ## Floats as integers -/

/-- The integral part of a finite float has a float again. -/
theorem natAbs_lt_of_floor? (h : floor? x = some n) : n.natAbs < integerLimit := by
  have hunit : ∀ k, 0 < 2 ^ k := Nat.two_pow_pos
  have hpow : ∀ j k : Nat, j ≤ k + 1 → 2 ^ j ≤ 2 * 2 ^ k := by
    intro j k hk
    rw [Nat.mul_comm, ← Nat.pow_succ]
    exact Nat.pow_le_pow_right (by decide) hk
  unfold floor? at h
  split at h
  · rename_i negative m q hx
    obtain ⟨hm, -, hq⟩ := parts_bounds hx
    have hn := Option.some.inj h
    have hle : n.natAbs ≤ m * 2 ^ q.toNat := by
      rw [← hn]
      refine Nat.le_trans (Int.natAbs_ediv_le_natAbs _ _) ?_
      rw [Int.natAbs_mul, Int.natAbs_natCast]
      refine Nat.mul_le_mul_right _ ?_
      cases negative <;> simp
    have hlast := hpow q.toNat 970 (by omega)
    replace hunit := hunit 970
    rw [integerLimit]
    generalize 2 ^ 970 = unit at hlast hunit
    have hmax : m * 2 ^ q.toNat ≤ (2 ^ 53 - 1) * (2 * unit) :=
      Nat.mul_le_mul (by rw [hiddenBit] at hm; omega) hlast
    omega
  · cases h

theorem floor?_eq_none_iff : floor? x = none ↔ x.isFinite = false := by
  rw [← Bool.not_eq_true, isFinite_iff]
  unfold floor?
  split
  · simp [*]
  · rename_i hne
    refine iff_of_true rfl ?_
    rintro ⟨negative, m, q, hx⟩
    exact hne negative m q hx

theorem ceil?_eq_none_iff : ceil? x = none ↔ x.isFinite = false := by
  rw [ceil?, Option.map_eq_none_iff, floor?_eq_none_iff, isFinite_neg]

theorem natAbs_lt_of_ceil? (h : ceil? x = some n) : n.natAbs < integerLimit := by
  obtain ⟨k, hk, rfl⟩ := Option.map_eq_some_iff.mp h
  rw [Int.natAbs_neg]
  exact natAbs_lt_of_floor? hk

end Binary64

open Binary64

variable {x : Float} {e : NumericError}

inductive NoInteger (x : Float) : NumericError → Prop
  | infinity : x.isInf = true → NoInteger x .infinityHasNoInteger
  | nan : x.isNaN = true → NoInteger x .nanHasNoInteger

theorem NoInteger.not_isFinite (h : NoInteger x e) : x.isFinite = false := by
  cases h with
  | infinity h =>
    rw [← Bool.not_eq_true]
    exact fun hx => by rw [isInf_of_isFinite hx] at h; cases h
  | nan h =>
    rw [← Bool.not_eq_true]
    exact fun hx => by rw [isNaN_of_isFinite hx] at h; cases h

/-- The error for a float without an integer, as it is chosen. -/
theorem noInteger_iff (hx : x.isFinite = false) :
    NoInteger x e ↔ (if x.isNaN then NumericError.nanHasNoInteger else .infinityHasNoInteger) = e := by
  cases hparts : parts x with
  | finite negative m q =>
    rw [isFinite_iff.mpr ⟨_, _, _, hparts⟩] at hx
    cases hx
  | nan =>
    have hnan := isNaN_iff.mpr hparts
    rw [if_pos hnan]
    constructor
    · rintro (h | h)
      · obtain ⟨negative, h⟩ := isInf_iff.mp h
        rw [hparts] at h
        cases h
      · rfl
    · rintro rfl
      exact .nan hnan
  | infinite negative =>
    have hinf : x.isInf = true := isInf_iff.mpr ⟨_, hparts⟩
    have hnan : ¬ x.isNaN = true := by
      rw [isNaN_of_isInf hinf]
      simp
    rw [if_neg hnan]
    constructor
    · rintro (h | h)
      · rfl
      · exact absurd h hnan
    · rintro rfl
      exact .infinity hinf

theorem Number.toFloat_eq_error {n : Number} :
    n.toFloat = .error e ↔ ∃ i, n = .int i ∧ integerLimit ≤ i.natAbs ∧ e = .integerTooLarge := by
  cases n with
  | float y => simp [Number.toFloat]
  | int i =>
    unfold Number.toFloat
    simp only
    split
    · rename_i y hy
      refine iff_of_false (by simp) ?_
      rintro ⟨j, hj, hlimit, -⟩
      cases hj
      rw [ofInt?_eq_none_iff.mpr hlimit] at hy
      cases hy
    · rename_i hnone
      constructor
      · intro h
        cases h
        exact ⟨i, rfl, ofInt?_eq_none_iff.mp hnone, rfl⟩
      · rintro ⟨-, -, -, rfl⟩
        rfl

/-- An integral part that is there only for finite floats and lies in range fails for the others only. -/
theorem wholeFloat_eq_error {whole : Option Int} (hnone : whole = none ↔ x.isFinite = false)
    (hsome : ∀ n, whole = some n → n.natAbs < integerLimit) : wholeFloat x whole = .error e ↔ NoInteger x e := by
  cases whole with
  | none =>
    rw [noInteger_iff (hnone.mp rfl), wholeFloat]
    simp
  | some n =>
    constructor
    · intro h
      obtain ⟨i, hi, hlimit, -⟩ := Number.toFloat_eq_error.mp (show (Number.int n).toFloat = .error e from h)
      cases hi
      exact absurd hlimit (Nat.not_le_of_lt (hsome n rfl))
    · intro h
      cases hnone.mpr h.not_isFinite

/-- The floor and the ceiling of a float fail for infinities and NaN. -/
theorem wholeFloat_floor_eq_error : wholeFloat x (floor? x) = .error e ↔ NoInteger x e :=
  wholeFloat_eq_error floor?_eq_none_iff fun _ => natAbs_lt_of_floor?

theorem wholeFloat_ceil_eq_error : wholeFloat x (ceil? x) = .error e ↔ NoInteger x e :=
  wholeFloat_eq_error ceil?_eq_none_iff fun _ => natAbs_lt_of_ceil?

theorem noInteger_add_half : NoInteger (x + 0.5) e ↔ NoInteger x e := by
  cases hx : x.isFinite with
  | true =>
    have hsum : (x + 0.5).isFinite = true := by rwa [isFinite_add_half]
    refine iff_of_false (fun h => ?_) (fun h => ?_)
    · rw [h.not_isFinite] at hsum
      cases hsum
    · rw [h.not_isFinite] at hx
      cases hx
  | false => rw [noInteger_iff hx, noInteger_iff (by rwa [isFinite_add_half]), isNaN_add_half]

theorem roundedFloat_eq (x : Float) : roundedFloat x = wholeFloat (x + 0.5) (floor? (x + 0.5)) := by
  unfold roundedFloat roundHalfUp wholeFloat
  cases floor? (x + 0.5) <;> rfl

/-- So does rounding: adding a half does not leave the floats. -/
theorem roundedFloat_eq_error : roundedFloat x = .error e ↔ NoInteger x e := by
  rw [roundedFloat_eq, wholeFloat_floor_eq_error, noInteger_add_half]

end Formwork
