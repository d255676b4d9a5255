/-
  Formwork.Proofs.Calculator.Amount: when an amount cannot be shown.

  Writing an amount can fail on both sides of what decimals are made for: in the digits that they have
  room for, in the unit that they are rounded to, in the number of places. Some of these failures are
  told of as a bad value, the others as a result out of range (`OutOfRange`).

  - `format_out_of_range_iff`: a finite float fails to be shown as out of range exactly then.
-/

import Formwork.Calculator.Amount
import Formwork.Proofs.Bind
import Formwork.Proofs.Number.Places
import Formwork.Proofs.Number.Range

namespace Formwork

namespace Amount

open Binary64

variable {style : Style} {places : Int} {x y : Float} {e : NumericError}

/-- The float that is written: a percentage is the ratio times 100. -/
def written (style : Style) (x : Float) : Float := if style == .percentage then x * 100 else x

def digits (places : Int) (y : Float) : Int := leading y + places + 2

/-- An amount cannot be shown, and not because it is a bad value: its digits cannot be counted, its unit is no
decimal, or it has become infinite on the way. -/
def OutOfRange (style : Style) (places : Int) (x : Float) : Prop :=
  countLimit < digits places (written style x) ∨
    digits places (written style x) ≤ precisionLimit ∧ (places < -exponentLimit ∨ (written style x).isInf = true)

theorem isNaN_written (hx : x.isFinite = true) : (written style x).isNaN = false := by
  unfold written
  split
  · exact isNaN_mul hx (by decide +kernel)
  · exact isNaN_of_isFinite hx

/-- The limits are looked at in this order. -/
theorem checkPlaces_cases (places : Int) (y : Float) :
    (countLimit < digits places y ∧ checkPlaces places y = .error .precisionTooLarge) ∨
    (¬ countLimit < digits places y ∧ precisionLimit < digits places y ∧
      checkPlaces places y = .error .precisionOutOfRange) ∨
    (digits places y ≤ precisionLimit ∧ places < -exponentLimit ∧
      ∃ e, checkPlaces places y = .error e ∧ e.isBadValue = false) ∨
    (digits places y ≤ precisionLimit ∧ ¬ places < -exponentLimit ∧ checkPlaces places y = .ok ()) := by
  unfold checkPlaces
  simp only
  rw [show leading y + places + 2 = digits places y from rfl]
  by_cases hcount : (countLimit : Int) < digits places y
  · exact Or.inl ⟨hcount, if_pos hcount⟩
  rw [if_neg hcount]
  by_cases hprecision : (precisionLimit : Int) < digits places y
  · exact Or.inr (Or.inl ⟨hcount, hprecision, if_pos hprecision⟩)
  rw [if_neg hprecision]
  refine Or.inr (Or.inr ?_)
  by_cases hunit : places < -exponentLimit
  · refine Or.inl ⟨by omega, hunit, ?_⟩
    split <;> exact ⟨_, rfl, rfl⟩
  · refine Or.inr ⟨by omega, hunit, ?_⟩
    rw [if_neg (by unfold exponentLimit basePrecision at *; omega), if_neg hunit]

/-- There is room for the digits of a rounded float, also where rounding has added one. -/
theorem units_lt_precision {negative : Bool} {m : Nat} {q : Int} (h : parts y = .finite negative m q) (n : Nat) :
    (Decimal.shortest m q).units n < 10 ^ precision y n := by
  rcases Nat.eq_zero_or_pos m with rfl | hm
  · have hzero : (Decimal.shortest 0 q).units n = 0 := by
      rw [Decimal.units_eq_floor]
      norm_num [Decimal.shortest, Decimal.value]
    rw [hzero]
    positivity
  · have hleading : leading y = (Decimal.shortest m q).leading := by
      rw [leading, h]
      exact if_neg (by simpa using hm.ne')
    refine Decimal.units_lt _ _ _ ?_ ?_
    · exact Nat.lt_of_lt_of_le (by decide) (Nat.le_max_left basePrecision _)
    · rw [← hleading, precision]
      omega

/-- A finite float can be written to any number of places. -/
theorem ofFloat?_of_parts {negative : Bool} {m : Nat} {q : Int} (h : parts y = .finite negative m q) (n : Nat) :
    ofFloat? y n = some ⟨negative, (Decimal.shortest m q).units n, n⟩ := by
  rw [ofFloat?, h]
  exact if_pos (units_lt_precision h n)

theorem format_of_checkPlaces_error (h : checkPlaces places (written style x) = .error e) :
    format style places x = .error e := by
  unfold format
  rw [show (if (style == .percentage) = true then x * 100 else x) = written style x from rfl]
  simp only [h, error_bind]

/-- What is left to look at once the limits are kept. -/
theorem format_of_checkPlaces (hx : x.isFinite = true) (h : checkPlaces places (written style x) = .ok ()) :
    format style places x =
      if (written style x).isInf then .error .notDecimal
      else if places < 0 then .error .placesUnusable
      else if precisionLimit < places then .error .tooManyPlaces
      else match ofFloat? (written style x) places.toNat with
        | some a => .ok (String.ofList (a.text style))
        | none => .error .notDecimal := by
  have hnan : (written style x).isNaN = false := isNaN_written hx
  unfold format
  rw [show (if (style == .percentage) = true then x * 100 else x) = written style x from rfl]
  simp only [h, ok_bind, hnan, Bool.false_and, Bool.or_false, Bool.false_eq_true, if_false]
  by_cases hinf : (written style x).isInf = true
  · simp only [hinf, if_true]
    rfl
  · simp only [hinf]
    by_cases hneg : places < 0
    · simp only [hneg, if_true]
      rfl
    · simp only [hneg, if_false]
      by_cases hlimit : (precisionLimit : Int) < places
      · simp only [hlimit, if_true]
        rfl
      · simp only [hlimit, if_false]
        rfl

/-- A finite float cannot be shown, and not because it is a bad value, exactly when it is out of range. -/
theorem format_out_of_range_iff (hx : x.isFinite = true) :
    (∃ e, format style places x = .error e ∧ e.isBadValue = false) ↔ OutOfRange style places x := by
  unfold OutOfRange
  rcases checkPlaces_cases places (written style x) with ⟨hcount, h⟩ | ⟨hcount, hdigits, h⟩ |
    ⟨hdigits, hunit, e, h, he⟩ | ⟨hdigits, hunit, h⟩
  · exact iff_of_true ⟨_, format_of_checkPlaces_error h, rfl⟩ (Or.inl hcount)
  · rw [format_of_checkPlaces_error h]
    refine iff_of_false ?_ (by omega)
    rintro ⟨e, he, hbad⟩
    cases he
    cases hbad
  · exact iff_of_true ⟨e, format_of_checkPlaces_error h, he⟩ (Or.inr ⟨hdigits, Or.inl hunit⟩)
  · have hcount : ¬ (countLimit : Int) < digits places (written style x) := by
      unfold countLimit
      unfold precisionLimit at hdigits
      omega
    rw [format_of_checkPlaces hx h, or_iff_right hcount, and_iff_right hdigits, or_iff_right hunit]
    split
    · rename_i hinf
      exact iff_of_true ⟨_, rfl, rfl⟩ hinf
    · rename_i hinf
      refine iff_of_false ?_ hinf
      rintro ⟨e, he, hbad⟩
      split at he
      · cases he
        cases hbad
      split at he
      · cases he
        cases hbad
      have hfinite : (written style x).isFinite = true :=
        isFinite_of_isNaN_of_isInf (isNaN_written hx) (by simpa using hinf)
      obtain ⟨negative, m, q, h⟩ := isFinite_iff.mp hfinite
      rw [ofFloat?_of_parts h] at he
      cases he

end Amount

end Formwork
