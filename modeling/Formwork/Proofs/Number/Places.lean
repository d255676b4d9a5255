/-
  Formwork.Proofs.Number.Places: decimals with a fixed number of places.

  A decimal is rounded by a division of naturals, which is a floor (`units_eq_floor`), so the result is the
  nearest multiple of the last place (`nearest_units`). It is written with its digits in groups of three and
  all its places, and what is written is the number again once the commas are left out.

  - `nearest_units`: rounding takes the nearest multiple, a half counting up.
  - `units_lt`: a rounded decimal may get one digit more than it had down to that place.
  - `significant_units`: rounding to places is never undone by a limit on the digits that holds for the
    decimal itself.
  - `grouped_groupThrees`: the commas stand between groups of three.
  - `unsigned?_placesText`: what is written.
-/

import Formwork.Number.Places
import Formwork.Proofs.Number.Exact

namespace Formwork

namespace Decimal

open Binary64

variable {d : Decimal} {places : ℕ}

/-! ## Rounding -/

/-- The multiple of `10 ^ -places` that is nearest to `r`, the greater one where two are. -/
structure Nearest (places : ℕ) (r q : ℚ) : Prop where
  multiple : ∃ n : ℕ, q = n / 10 ^ places
  within : |q - r| ≤ 1 / 2 / 10 ^ places
  up : |q - r| = 1 / 2 / 10 ^ places → r < q

theorem value_mul_ten_pow (d : Decimal) (places : ℕ) : d.value * 10 ^ places = d.digits * 10 ^ (d.exponent + places) := by
  rw [value, zpow_add₀ (by norm_num), zpow_natCast, mul_assoc]

theorem units_of_nonneg (h : 0 ≤ d.exponent + places) :
    d.units places = d.digits * 10 ^ (d.exponent + places).toNat := by
  unfold units
  simp only [Nat.pow_eq]
  rw [if_pos h]

theorem units_of_neg (h : d.exponent + places < 0) : d.units places =
    (2 * d.digits + 10 ^ (-(d.exponent + places)).toNat) / (2 * 10 ^ (-(d.exponent + places)).toNat) := by
  unfold units
  simp only [Nat.pow_eq]
  rw [if_neg (not_le.mpr h)]

/-- The number of units is a floor, whether zeros are put behind the digits or digits are cut off. -/
theorem units_eq_floor (d : Decimal) (places : ℕ) : d.units places = ⌊d.value * 10 ^ places + 1 / 2⌋₊ := by
  rcases le_or_gt 0 (d.exponent + places) with h | h
  · have hwhole : d.value * 10 ^ places = (d.digits * 10 ^ (d.exponent + places).toNat : ℕ) := by
      rw [value_mul_ten_pow, ten_zpow_of_nonneg h]
      push_cast
      rfl
    rw [units_of_nonneg h, hwhole]
    refine ((Nat.floor_eq_iff (by positivity)).mpr ⟨?_, ?_⟩).symm <;> norm_num
  · have hden : (10 : ℚ) ^ (d.exponent + places) * 10 ^ (-(d.exponent + places)).toNat = 1 := by
      rw [ten_zpow_mul, show (d.exponent + places).toNat = 0 by omega, pow_zero]
    rw [units_of_neg h, value_mul_ten_pow, ← Nat.floor_div_eq_div (K := ℚ)]
    congr 1
    push_cast
    rw [div_eq_iff (by positivity)]
    linear_combination (-2 * (d.digits : ℚ)) * hden

theorem nearest_units (d : Decimal) (places : ℕ) : Nearest places d.value (d.units places / 10 ^ places) := by
  have hunit : (0 : ℚ) < 10 ^ places := by positivity
  have hvalue : 0 ≤ d.value := by unfold value; positivity
  have hlow : (d.units places : ℚ) ≤ d.value * 10 ^ places + 1 / 2 := by
    rw [units_eq_floor]
    exact Nat.floor_le (by positivity)
  have hhigh : d.value * 10 ^ places + 1 / 2 < d.units places + 1 := by
    rw [units_eq_floor]
    exact Nat.lt_floor_add_one _
  have hdiff : (d.units places : ℚ) / 10 ^ places - d.value = (d.units places - d.value * 10 ^ places) / 10 ^ places := by
    field_simp
  refine ⟨⟨_, rfl⟩, ?_, ?_⟩
  · rw [hdiff, abs_div, abs_of_pos hunit, div_le_div_iff_of_pos_right hunit, abs_le]
    constructor <;> linarith
  · rw [hdiff, abs_div, abs_of_pos hunit, div_left_inj' hunit.ne', lt_div_iff₀ hunit]
    intro htie
    rcases (abs_eq (by norm_num)).mp htie with h | h <;> linarith

/-! ## Digits -/

/-- A rounded decimal has at most one digit more than what it had down to the last place. -/
theorem units_lt (d : Decimal) (places k : ℕ) (hpos : 0 < k) (hk : d.leading + places + 2 ≤ k) :
    d.units places < 10 ^ k := by
  have hvalue : d.value * 10 ^ places < 10 ^ (d.leading + 1 + places) := by
    have hdigits : (d.digits : ℚ) < 10 ^ decimalWidth d.digits := by exact_mod_cast lt_ten_pow_decimalWidth d.digits
    have hunit : (0 : ℚ) < 10 ^ (d.exponent + places) := by positivity
    rw [value_mul_ten_pow, leading,
      show d.exponent + decimalWidth d.digits - 1 + 1 + places = decimalWidth d.digits + (d.exponent + places) by ring,
      zpow_add₀ (by norm_num) (decimalWidth d.digits : ℤ), zpow_natCast]
    exact mul_lt_mul_of_pos_right hdigits hunit
  have hnonneg : 0 ≤ d.value * 10 ^ places + 1 / 2 := by unfold value; positivity
  obtain ⟨j, rfl⟩ : ∃ j, k = j + 1 := ⟨k - 1, by omega⟩
  have hpow : (10 : ℚ) ^ (d.leading + 1 + places) ≤ 10 ^ j := by
    rw [← zpow_natCast]
    exact zpow_le_zpow_right₀ (by norm_num) (by push_cast at hk; omega)
  have hone : (1 : ℚ) ≤ 10 ^ j := one_le_pow₀ (by norm_num)
  rw [units_eq_floor, Nat.floor_lt hnonneg]
  push_cast
  rw [pow_succ]
  linarith

/-- Where digits are rounded away the number of units is no greater than that of all digits. -/
theorem units_le_of_neg (h : d.exponent + places < 0) : d.units places ≤ d.digits := by
  have hden : 0 < 10 ^ (-(d.exponent + places)).toNat := by positivity
  have hdigits : d.digits ≤ 10 ^ (-(d.exponent + places)).toNat * d.digits := Nat.le_mul_of_pos_left _ hden
  rw [units_of_neg h, ← Nat.lt_succ_iff, Nat.div_lt_iff_lt_mul (by omega), Nat.succ_eq_add_one, Nat.mul_left_comm,
    Nat.add_mul, Nat.mul_comm d.digits]
  omega

theorem roundEven_mul (n : ℕ) {den : ℕ} (hden : 0 < den) : roundEven (den * n) den = n := by
  simp [roundEven, Nat.mul_div_cancel_left n hden, hden]

/-- A decimal with few digits that is rounded to places keeps them all when it is rounded to significant digits:
if it has got more of them, these are zeros. -/
theorem significant_units {digits : ℕ} (h : d.digits < 10 ^ digits) :
    significant digits (d.units places) = d.units places := by
  unfold significant
  simp only [Nat.pow_eq]
  split
  · rfl
  · next hlong =>
    rw [not_lt] at hlong
    have hzeros : 0 ≤ d.exponent + places := by
      by_contra hneg
      have hle := units_le_of_neg (not_le.mp hneg)
      omega
    have hunits := units_of_nonneg hzeros
    generalize (d.exponent + places).toNat = zeros at hunits
    have hlt : d.units places < 10 ^ (digits + zeros) := by
      rw [hunits, Nat.pow_add]
      exact Nat.mul_lt_mul_of_pos_right h (by positivity)
    have hmore : digits < digits + zeros := (Nat.pow_lt_pow_iff_right (by decide)).mp (hlong.trans_lt hlt)
    have hwidth : decimalWidth (d.units places) ≤ digits + zeros := (decimalWidth_le_iff (by omega)).mpr hlt
    have hdvd : 10 ^ (decimalWidth (d.units places) - digits) ∣ d.units places :=
      (pow_dvd_pow 10 (by omega)).trans (Dvd.intro_left d.digits hunits.symm)
    obtain ⟨n, hn⟩ := hdvd
    generalize 10 ^ (decimalWidth (d.units places) - digits) = unit at hn ⊢
    rw [hn, roundEven_mul n (Nat.pos_of_ne_zero ?_), Nat.mul_comm]
    rintro rfl
    rw [hn, Nat.zero_mul] at hlong
    exact absurd hlong (not_le.mpr (by positivity))

end Decimal

/-! ## Groups of three -/

section

variable {ds whole fraction : List Char} {n units places : ℕ}

/-- A group of one to three digits and groups of three; a zero comes first only if it is alone. -/
structure Groups (first : List Char) (rest : List (List Char)) : Prop where
  nonempty : 1 ≤ first.length
  first_length : first.length ≤ 3
  rest_length : ∀ group ∈ rest, group.length = 3
  digits : ∀ group ∈ first :: rest, ∀ c ∈ group, c.isDigit = true
  zero : first.head? = some '0' → first = ['0'] ∧ rest = []

def Grouped (cs : List Char) : Prop := ∃ first rest, Groups first rest ∧ cs = first ++ rest.flatMap (',' :: ·)

/-- Counted from the right the groups are full, and what is left is the first one. -/
theorem groupThrees_eq (hne : ds ≠ []) : ∃ (first : List Char) (rest : List (List Char)),
    groupThrees ds = first ++ rest.flatMap (',' :: ·) ∧ first ++ rest.flatten = ds ∧ 1 ≤ first.length ∧
      first.length ≤ 3 ∧ first.length % 3 = ds.length % 3 ∧ ∀ group ∈ rest, group.length = 3 := by
  induction ds with
  | nil => exact absurd rfl hne
  | cons c ds ih =>
    cases ds with
    | nil => exact ⟨[c], [], rfl, rfl, by simp, by simp, rfl, by simp⟩
    | cons c' ds =>
      obtain ⟨first, rest, hgroups, hdigits, hpos, hle, hmod, hrest⟩ := ih (List.cons_ne_nil _ _)
      rw [groupThrees]
      by_cases hfull : (c' :: ds).length % 3 = 0
      · -- the group behind is complete, so this digit starts another one
        refine ⟨[c], first :: rest, ?_, ?_, by simp, by simp, ?_, ?_⟩
        · rw [if_pos (by simpa using hfull), hgroups]
          rfl
        · rw [← hdigits]
          rfl
        · rw [List.length_cons (a := c)]
          simp only [List.length_cons, List.length_nil] at hfull ⊢
          omega
        · rw [List.forall_mem_cons]
          exact ⟨by omega, hrest⟩
      · refine ⟨c :: first, rest, ?_, ?_, by simp, ?_, ?_, hrest⟩
        · rw [if_neg (by simpa using hfull), hgroups]
          rfl
        · rw [← hdigits]
          rfl
        · rw [List.length_cons]
          omega
        · rw [List.length_cons, List.length_cons (a := c)]
          omega

theorem filter_groupThrees (ds : List Char) : (groupThrees ds).filter (· != ',') = ds.filter (· != ',') := by
  induction ds with
  | nil => rfl
  | cons c ds ih =>
    rw [groupThrees]
    split
    · rw [List.filter_cons, List.filter_cons, List.filter_cons (x := c), ih]
      rfl
    · rw [List.filter_cons, List.filter_cons (x := c), ih]

/-- Only zero begins with a zero. -/
theorem head?_toDigits_ne_zero (hn : 0 < n) : (Nat.toDigits 10 n).head? ≠ some '0' := by
  induction n using Nat.strong_induction_on with
  | _ n ih =>
    by_cases hsmall : n < 10
    · rw [Nat.toDigits_of_lt_base hsmall]
      have htable : ∀ d < 10, 0 < d → [Nat.digitChar d].head? ≠ some '0' := by decide
      exact htable n hsmall hn
    · rw [Nat.toDigits_of_base_le (by decide) (not_lt.mp hsmall), List.head?_append_of_ne_nil _ Nat.toDigits_ne_nil]
      exact ih (n / 10) (by omega) (by omega)

theorem grouped_groupThrees (n : ℕ) : Grouped (groupThrees (Nat.toDigits 10 n)) := by
  obtain ⟨first, rest, hgroups, hdigits, hpos, hle, -, hrest⟩ := groupThrees_eq (Nat.toDigits_ne_nil (n := n) (b := 10))
  refine ⟨first, rest, ⟨hpos, hle, hrest, ?_, ?_⟩, hgroups⟩
  · intro group hgroup c hc
    have hmem : c ∈ Nat.toDigits 10 n := by
      rw [← hdigits, List.mem_append, List.mem_flatten]
      rcases List.mem_cons.mp hgroup with rfl | hgroup
      · exact .inl hc
      · exact .inr ⟨group, hgroup, hc⟩
    exact Nat.isDigit_of_mem_toDigits (by decide) (by decide) hmem
  · intro hzero
    have hhead : (Nat.toDigits 10 n).head? = some '0' := by
      rw [← hdigits, List.head?_append, hzero]
      rfl
    obtain rfl : n = 0 := Nat.eq_zero_of_not_pos fun hn => head?_toDigits_ne_zero hn hhead
    have hone := congrArg List.length hdigits
    rw [List.length_append, Nat.toDigits_zero, List.length_singleton] at hone
    cases rest with
    | nil => exact ⟨by simpa using hdigits, rfl⟩
    | cons group rest =>
      have hthree := hrest group List.mem_cons_self
      rw [List.flatten_cons, List.length_append] at hone
      omega

/-! ## Texts -/

def fractionDigits (places units : ℕ) : List Char :=
  List.replicate (places - (Nat.toDigits 10 (units % 10 ^ places)).length) '0' ++ Nat.toDigits 10 (units % 10 ^ places)

theorem placesText_eq (places units : ℕ) : placesText true places units =
    groupThrees (Nat.toDigits 10 (units / 10 ^ places)) ++
      if places = 0 then [] else '.' :: fractionDigits places units := by
  unfold placesText
  simp only [Nat.pow_eq, beq_iff_eq]
  rfl

theorem length_fractionDigits (h : places ≠ 0) (units : ℕ) : (fractionDigits places units).length = places := by
  have hlength : (Nat.toDigits 10 (units % 10 ^ places)).length ≤ places :=
    (Nat.length_toDigits_le_iff (by decide) (Nat.pos_of_ne_zero h)).mpr (Nat.mod_lt _ (by positivity))
  rw [fractionDigits, List.length_append, List.length_replicate, Nat.sub_add_cancel hlength]

theorem isDigit_of_mem_fractionDigits {c : Char} (h : c ∈ fractionDigits places units) : c.isDigit = true := by
  rcases List.mem_append.mp h with h | h
  · rw [List.eq_of_mem_replicate h]
    rfl
  · exact Nat.isDigit_of_mem_toDigits (by decide) (by decide) h

theorem ne_comma_of_isDigit {c : Char} (h : c.isDigit = true) : (c != ',') = true := by
  rw [bne_iff_ne]
  rintro rfl
  cases h

/-- Without the commas the text of a rounded decimal writes its number of units. -/
theorem unsigned?_placesText (places units : ℕ) :
    Literal.unsigned? ((placesText true places units).filter (· != ',')) = some ((units : ℚ) / 10 ^ places) := by
  have hwhole : ∀ c ∈ Nat.toDigits 10 (units / 10 ^ places), Text.isDigit c = true := fun c => Text.isDigit_of_mem_toDigits
  have hkeep : (Nat.toDigits 10 (units / 10 ^ places)).filter (· != ',') = Nat.toDigits 10 (units / 10 ^ places) :=
    List.filter_eq_self.mpr fun c hc =>
      ne_comma_of_isDigit (Nat.isDigit_of_mem_toDigits (by decide) (by decide) hc)
  rw [placesText_eq, List.filter_append, filter_groupThrees, hkeep]
  split
  · next h =>
    rw [List.filter_nil, List.append_nil, Literal.unsigned?_digits hwhole Nat.toDigits_ne_nil, Text.digitsValue_toDigits, h]
    simp
  · next h =>
    have hfraction : ('.' :: fractionDigits places units).filter (· != ',') = '.' :: fractionDigits places units :=
      List.filter_eq_self.mpr <| List.forall_mem_cons.mpr
        ⟨rfl, fun c hc => ne_comma_of_isDigit (isDigit_of_mem_fractionDigits hc)⟩
    have hdigits : ∀ c ∈ fractionDigits places units, Text.isDigit c = true := fun c hc => by
      rw [Text.isDigit, Text.digit?_of_isDigit (isDigit_of_mem_fractionDigits hc)]
      rfl
    have hvalue : Text.digitsValue (Nat.toDigits 10 (units / 10 ^ places) ++ fractionDigits places units) = units := by
      rw [Text.digitsValue_append, length_fractionDigits h, Text.digitsValue_toDigits, fractionDigits,
        Text.digitsValue_append, Text.digitsValue_zeros, Text.digitsValue_toDigits, Nat.zero_mul, Nat.zero_add]
      exact Nat.div_add_mod' units (10 ^ places)
    rw [hfraction, Literal.unsigned?_point hwhole hdigits Nat.toDigits_ne_nil, hvalue, length_fractionDigits h]

end

end Formwork
