/-
  Formwork.Proofs.Calculator.Format: what the texts of amounts say.

  An amount is rounded from what its float is written as, and its text says so again: without its commas it
  is a literal, and what that writes is the rounded amount. A plain text has the sign of the float. A currency
  text is the plain one with the currency sign put in, and without the minus of a rounded zero; its absolute
  value is taken with a limit on the digits, which floats do not reach.

  - `format_of_parts`: there is a text where a decimal has room for its digits, and elsewhere one error.
  - `format_number_writes`: the shape of a plain text and the amount that it writes.
  - `format_currency_of_number`: a currency text from the plain one.
-/

import Formwork.Proofs.Calculator.Amount

namespace Formwork

namespace Amount

open Binary64

variable {style : Style} {places : Nat} {x : Float} {negative : Bool} {m : Nat} {q : Int}

/-- The text of an amount `v`: a minus for a negative one, groups of three digits, and a point before the
places if there are any. Without the commas it writes the amount. -/
structure IsText (negative : Bool) (places : Nat) (v : ℚ) (cs : List Char) : Prop where
  layout : ∃ whole fraction, Grouped whole ∧ fraction.length = places ∧ (∀ c ∈ fraction, c.isDigit = true) ∧
    cs = signText negative ++ whole ++ if places = 0 then [] else '.' :: fraction
  writes : Literal.written? (cs.filter (· != ',')) = some (negative, v)

theorem filter_signText (negative : Bool) (cs : List Char) :
    (signText negative ++ cs).filter (· != ',') = (if negative then ['-'] else []) ++ cs.filter (· != ',') := by
  cases negative <;> rfl

/-- A minus, and the number of units with all their places. -/
theorem isText_units (negative : Bool) (units places : Nat) :
    IsText negative places (units / 10 ^ places) (signText negative ++ placesText true places units) where
  layout := by
    refine ⟨_, if places = 0 then [] else fractionDigits places units, grouped_groupThrees (units / 10 ^ places), ?_, ?_,
      ?_⟩
    · split
      · next h => rw [h, List.length_nil]
      · next h => exact length_fractionDigits h units
    · split
      · simp
      · exact fun c => isDigit_of_mem_fractionDigits
    · rw [placesText_eq, List.append_assoc]
      split <;> rfl
  writes := by
    rw [filter_signText]
    exact Literal.written?_sign (unsigned?_placesText places units) negative

/-! ## Limits -/

theorem isFloat_of_parts (h : parts x = .finite negative m q) (hm : 0 < m) : Decimal.IsFloat m q := by
  obtain ⟨hlt, hlow, hhigh⟩ := parts_bounds h
  exact ⟨hm, hlt, hlow, hhigh⟩

/-- Why there is no text of so many places: the digits are too many to be counted, or more than a decimal may
have, or the places alone are. -/
def excess? (places : Nat) (x : Float) : Option NumericError :=
  if countLimit < digits places x then some .precisionTooLarge
  else if precisionLimit < digits places x then some .precisionOutOfRange
  else if precisionLimit < places then some .tooManyPlaces
  else none

theorem excess?_eq_none : excess? places x = none ↔ digits places x ≤ precisionLimit ∧ places ≤ precisionLimit := by
  have hlimits : precisionLimit ≤ countLimit := by decide
  unfold excess?
  split
  · simp
    omega
  split
  · simp
    omega
  split
  · simp
    omega
  · simp
    omega

/-- A float that is written as it is has a text where a decimal has room for its digits and places. -/
theorem format_of_parts (h : parts x = .finite negative m q) (hstyle : written style x = x) (places : Nat) :
    format style places x = match excess? places x with
      | some e => .error e
      | none => .ok (String.ofList (text ⟨negative, (Decimal.shortest m q).units places, places⟩ style)) := by
  have hfinite : x.isFinite = true := isFinite_iff.mpr ⟨negative, m, q, h⟩
  unfold excess?
  rcases checkPlaces_cases places x with ⟨hcount, hcheck⟩ | ⟨hcount, hprecision, hcheck⟩ | ⟨-, hunit, -⟩ |
    ⟨hprecision, -, hcheck⟩
  · rw [format_of_checkPlaces_error (hstyle.symm ▸ hcheck), if_pos hcount]
  · rw [format_of_checkPlaces_error (hstyle.symm ▸ hcheck), if_neg hcount, if_pos hprecision]
  · unfold exponentLimit at hunit
    omega
  · have hcount : ¬ (countLimit : Int) < digits places x := by
      unfold countLimit
      unfold precisionLimit at hprecision
      omega
    rw [format_of_checkPlaces hfinite (hstyle.symm ▸ hcheck), hstyle, isInf_of_isFinite hfinite,
      if_neg (by decide), if_neg (by omega), Int.toNat_natCast, ofFloat?_of_parts h, if_neg hcount,
      if_neg (not_lt.mpr hprecision)]
    simp only [Nat.cast_lt]
    split <;> rfl

theorem format_eq_ok_iff (h : parts x = .finite negative m q) (hstyle : written style x = x) (places : Nat) (s : String) :
    format style places x = .ok s ↔ excess? places x = none ∧
      s = String.ofList (text ⟨negative, (Decimal.shortest m q).units places, places⟩ style) := by
  rw [format_of_parts h hstyle]
  cases excess? places x with
  | some e => simp
  | none =>
    rw [and_iff_right rfl, Except.ok.injEq]
    exact eq_comm

theorem format_eq_error_iff (h : parts x = .finite negative m q) (hstyle : written style x = x) (places : Nat)
    (e : NumericError) : format style places x = .error e ↔ excess? places x = some e := by
  rw [format_of_parts h hstyle]
  cases excess? places x <;> simp

/-! ## Texts -/

/-- A finite float has a plain text where a decimal has room for its digits and places. It is that of the nearest
amount to what the float is written as, a half away from zero, with the sign of the float. -/
theorem format_number_writes (x : Float) (hx : x.isFinite = true) (places : Nat) :
    ((∃ s, format .number places x = .ok s) ↔ digits places x ≤ precisionLimit ∧ places ≤ precisionLimit) ∧
    (∀ e, format .number places x = .error e ↔ excess? places x = some e) ∧
    ∃ negative m q r, parts x = .finite negative m q ∧ Literal.written? (naturalText x).toList = some (negative, r) ∧
      ∀ s, format .number places x = .ok s →
        ∃ v, Decimal.Nearest places r v ∧ IsText negative places v s.toList := by
  obtain ⟨negative, m, q, h⟩ := isFinite_iff.mp hx
  have hok : ∀ s, format .number places x = .ok s ↔ _ := format_eq_ok_iff h rfl places
  refine ⟨⟨?_, ?_⟩, format_eq_error_iff h rfl places, negative, m, q, _, h, written?_naturalText h, fun s hs => ?_⟩
  · rintro ⟨s, hs⟩
    exact excess?_eq_none.mp ((hok s).mp hs).1
  · exact fun hroom => ⟨_, (hok _).mpr ⟨excess?_eq_none.mpr hroom, rfl⟩⟩
  · obtain ⟨-, rfl⟩ := (hok s).mp hs
    refine ⟨_, Decimal.nearest_units (Decimal.shortest m q) places, ?_⟩
    rw [String.toList_ofList]
    exact isText_units negative _ places

/-- A half is rounded away from zero. -/
theorem format_number_half : (-1234.565 : Float).isFinite = true ∧ format .number 2 (-1234.565) = .ok "-1,234.57" ∧
    ∃ r v, Literal.written? (naturalText (-1234.565)).toList = some (true, r) ∧ Decimal.Nearest 2 r v ∧
      IsText true 2 v "-1,234.57".toList := by
  have hfinite : (-1234.565 : Float).isFinite = true := by decide +kernel
  have htext : format .number 2 (-1234.565) = .ok "-1,234.57" := eq_ok_of_toOption (by decide +kernel)
  obtain ⟨-, -, negative, m, q, r, -, hread, hwrites⟩ := format_number_writes (-1234.565) hfinite 2
  obtain ⟨v, hnearest, hv⟩ := hwrites _ htext
  -- the sign that is read is that of the text
  obtain ⟨_, -, hpair⟩ := Option.map_eq_some_iff.mp hv.writes
  obtain rfl : true = negative := congrArg Prod.fst hpair
  exact ⟨hfinite, htext, r, v, hread, hnearest, hv⟩

/-- But there is no text of every number of places. -/
theorem format_number_not_total :
    ¬ ∀ (x : Float) (places : Nat), x.isFinite = true → ∃ s, format .number places x = .ok s := by
  intro h
  obtain ⟨s, hs⟩ := h 1 (10 ^ 18) (by decide +kernel)
  have hcheck : checkPlaces (10 ^ 18 : Nat) (written .number 1) = .error .precisionOutOfRange := rfl
  rw [format_of_checkPlaces_error hcheck] at hs
  cases hs

/-- What a float is written as has few digits, so an absolute value keeps all of them. -/
theorem significant_units_of_parts (h : parts x = .finite negative m q) (places : Nat) :
    significant basePrecision ((Decimal.shortest m q).units places) = (Decimal.shortest m q).units places := by
  refine Decimal.significant_units ?_
  rcases Nat.eq_zero_or_pos m with rfl | hm
  · exact Nat.pow_pos (by decide)
  · exact (Decimal.digits_shortest_le (isFloat_of_parts h hm)).trans_lt
      (Nat.pow_lt_pow_right (by decide) (by decide : 17 < basePrecision))

/-- The minus of a currency is that of an amount that is not zero. -/
theorem signText_units (negative : Bool) (units places : Nat) :
    signText (negative && units != 0) = if (units : ℚ) / 10 ^ places = 0 then [] else signText negative := by
  by_cases hunits : units = 0
  · rw [hunits, Nat.cast_zero, zero_div, if_pos rfl]
    cases negative <;> rfl
  · have hne : (units : ℚ) / 10 ^ places ≠ 0 := by positivity
    rw [if_neg hne, bne_iff_ne.mpr hunits, Bool.and_true]

/-- A currency text is the plain text with the currency sign behind the minus, which a rounded zero does not
have; and there is one where there is the other. -/
theorem format_currency_of_number (x : Float) (hx : x.isFinite = true) (places : Nat) :
    (∀ e, format .currency places x = .error e ↔ format .number places x = .error e) ∧
    ∀ s, format .number places x = .ok s → ∃ negative digits v,
      s.toList = signText negative ++ digits ∧ Literal.unsigned? (digits.filter (· != ',')) = some v ∧
      format .currency places x =
        .ok (String.ofList ((if v = 0 then [] else signText negative) ++ '$' :: digits)) := by
  obtain ⟨negative, m, q, h⟩ := isFinite_iff.mp hx
  constructor
  · intro e
    rw [format_eq_error_iff h rfl, format_eq_error_iff h rfl]
  · intro s hs
    obtain ⟨hplaces, rfl⟩ := (format_eq_ok_iff h rfl places s).mp hs
    refine ⟨negative, _, _, String.toList_ofList, unsigned?_placesText places _, ?_⟩
    rw [format_eq_ok_iff h rfl, and_iff_right hplaces, text, significant_units_of_parts h]
    simp only
    rw [signText_units negative _ places]

/-- An amount below zero that is rounded to zero loses its minus as a currency. -/
theorem format_currency_zero : (-0.004 : Float).isFinite = true ∧ format .number 2 (-0.004) = .ok "-0.00" ∧
    format .currency 2 (-0.004) = .ok "$0.00" ∧ ∃ negative digits v, "-0.00".toList = signText negative ++ digits ∧
      Literal.unsigned? (digits.filter (· != ',')) = some v ∧ format .currency 2 (-0.004) =
        .ok (String.ofList ((if v = 0 then [] else signText negative) ++ '$' :: digits)) := by
  have hfinite : (-0.004 : Float).isFinite = true := by decide +kernel
  have htext : format .number 2 (-0.004) = .ok "-0.00" := eq_ok_of_toOption (by decide +kernel)
  exact ⟨hfinite, htext, eq_ok_of_toOption (by decide +kernel), (format_currency_of_number (-0.004) hfinite 2).2 _ htext⟩

end Amount

end Formwork
