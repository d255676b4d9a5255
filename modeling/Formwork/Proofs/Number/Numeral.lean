/-
  Formwork.Proofs.Number.Numeral: the number that a text starts with.

  The reader goes through a text once and gives back what it cannot use. That this finds the longest number
  at the start rests on one fact: where the reader takes more of the digits than a spelling has, the spelling
  has no power, because no power starts with a digit or a point. The value is read off the digits exactly,
  and then rounded once.

  - `leading?_spells`: the reader takes a number, and leaves a rest that no number at the start reaches into.
  - `float?_of_spells`: alone, a number is read as what it spells.
  - `value_eq_nearest`: the float of a literal is the one nearest to its exact value.
-/

import Formwork.Proofs.Number.Exact

namespace Formwork

namespace Binary64

variable {v : ℚ} {n : ℕ} {e : ℤ}

/-! ## Decimals beyond the floats -/

/-- A value below half of the least float is rounded to nothing. -/
theorem nearestBits_of_lt (hv : 0 ≤ v) (h : v < 2 ^ (-1075 : ℤ)) : nearestBits v = 0 := by
  rcases hv.eq_or_lt with rfl | hpos
  · exact if_pos rfl
  have hplace : placeOf v = -1074 := by
    have := (log_lt_iff hpos).mpr h
    unfold placeOf
    omega
  have hhalf : v / 2 ^ (-1074 : ℤ) < 1 / 2 := by
    rw [div_lt_iff₀ (zpow_pos two_pos _), one_div, ← zpow_neg_one, ← zpow_add₀ two_ne_zero]
    exact h
  have hfloor : ⌊v / 2 ^ (-1074 : ℤ)⌋₊ = 0 := Nat.floor_eq_zero.mpr (by linarith)
  rw [nearestBits, if_neg hpos.ne', hplace, nearestEven]
  simp only [hfloor, Nat.cast_zero, sub_zero, if_pos hhalf]
  rfl

/-- A value from the first power of two behind the floats on is rounded to the infinity. -/
theorem nearest_of_le (h : 2 ^ (1024 : ℤ) ≤ v) : nearest v = infinity := by
  have hbits : infinityBits ≤ nearestBits v := by
    refine le_nearestBits (le_trans (le_of_eq ?_) h)
    have hexponent : exponent infinityBits = 972 := by decide
    have hsignificand : significand infinityBits = 2 ^ 52 := by decide
    rw [magnitude, hexponent, hsignificand, Nat.cast_pow, Nat.cast_ofNat, ← zpow_natCast, ← zpow_add₀ two_ne_zero]
    rfl
  rw [nearest, Nat.min_eq_left hbits]
  rfl

theorem ten_zpow_pos (i : ℤ) : (0 : ℚ) < 10 ^ i := zpow_pos (by norm_num) i

theorem nearestBits_of_small_decimal (h : e + decimalWidth n < -330) : nearestBits (n * 10 ^ e) = 0 := by
  refine nearestBits_of_lt (mul_nonneg (Nat.cast_nonneg n) (ten_zpow_pos e).le) ?_
  calc (n : ℚ) * 10 ^ e < 10 ^ (decimalWidth n : ℤ) * 10 ^ e := by
        refine mul_lt_mul_of_pos_right ?_ (ten_zpow_pos e)
        exact_mod_cast Decimal.lt_ten_pow_decimalWidth n
    _ = 10 ^ (decimalWidth n + e) := (zpow_add₀ (by norm_num) _ _).symm
    _ ≤ 10 ^ (-331 : ℤ) := zpow_le_zpow_right₀ (by norm_num) (by omega)
    _ ≤ 2 ^ (-1075 : ℤ) := Decimal.ten_zpow_le_two_zpow (by norm_num) (by norm_num)

theorem nearest_of_large_decimal (hn : 0 < n) (h : 320 < e + decimalWidth n) : nearest (n * 10 ^ e) = infinity := by
  have hwidth : (10 : ℚ) ^ (decimalWidth n - 1 : ℤ) ≤ n := by
    have hpos := Decimal.decimalWidth_pos n
    rw [show (decimalWidth n - 1 : ℤ) = (decimalWidth n - 1 : ℕ) by omega]
    exact_mod_cast Decimal.ten_pow_decimalWidth_le hn
  have hrange : (2 : ℚ) ^ (1024 : ℤ) ≤ 10 ^ (320 : ℤ) := by
    rw [show (1024 : ℤ) = 16 * 64 from rfl, show (320 : ℤ) = 5 * 64 from rfl, zpow_mul, zpow_mul]
    exact zpow_le_zpow_left₀ (by norm_num) (by norm_num) (by norm_num)
  refine nearest_of_le ?_
  calc (2 : ℚ) ^ (1024 : ℤ) ≤ 10 ^ (320 : ℤ) := hrange
    _ ≤ 10 ^ (decimalWidth n - 1 + e : ℤ) := zpow_le_zpow_right₀ (by norm_num) (by omega)
    _ = 10 ^ (decimalWidth n - 1 : ℤ) * 10 ^ e := zpow_add₀ (by norm_num) _ _
    _ ≤ n * 10 ^ e := mul_le_mul_of_nonneg_right hwidth (ten_zpow_pos e).le

/-- The reader of decimals gives the nearest float; the powers that it does not compute are out of range. -/
theorem ofDecimal_eq_nearest (n : ℕ) (e : ℤ) : ofDecimal n e = nearest (n * 10 ^ e) := by
  unfold ofDecimal
  simp only [Bool.or_eq_true, beq_iff_eq, decide_eq_true_eq]
  by_cases hzero : n = 0
  · rw [if_pos (Or.inl hzero), hzero, Nat.cast_zero, zero_mul, nearest, nearestBits, if_pos rfl]
    rfl
  by_cases hsmall : e + decimalWidth n < -330
  · rw [if_pos (Or.inr hsmall), nearest, nearestBits_of_small_decimal hsmall]
    rfl
  rw [if_neg (not_or.mpr ⟨hzero, hsmall⟩)]
  by_cases hlarge : 320 < e + decimalWidth n
  · rw [if_pos hlarge, nearest_of_large_decimal (Nat.pos_of_ne_zero hzero) hlarge]
  rw [if_neg hlarge, Nat.pow_eq, Nat.pow_eq, ofRatio_eq_nearest _ (by positivity)]
  congr 1
  rw [div_eq_iff (by positivity)]
  push_cast
  rw [mul_assoc, Decimal.ten_zpow_mul]

end Binary64

namespace Literal

open Text

structure IsLongestNumeral (cs numeral : List Char) : Prop where
  starts : numeral <+: cs
  isNumeral : IsNumeral numeral
  longest : ∀ other, other <+: cs → IsNumeral other → other.length ≤ numeral.length

variable {cs after rest text whole fraction : List Char} {negative : Bool} {e : ℤ} {l : Literal} {c : Char}

/-! ## No number at the start is longer -/

theorem takeSign_of_spells (h : SpellsSign text negative) (hc : isDigit c = true ∨ c = '.') :
    takeSign (text ++ c :: rest) = (negative, c :: rest) := by
  cases h with
  | absent => exact takeSign_eq_self hc
  | plus => rfl
  | minus => rfl

/-- The reader takes a mantissa at the start, and behind it only what a mantissa goes on with. -/
theorem takeMantissa_of_spells (h : SpellsMantissa text whole fraction) (after : List Char) :
    ∃ more whole' fraction' rest, takeMantissa (text ++ after) = some (whole', fraction', rest) ∧
      after = more ++ rest ∧ ∀ c ∈ more, isDigit c = true ∨ c = '.' := by
  have hdigit : ∀ {ds : List Char}, ∀ c ∈ ds.takeWhile isDigit, isDigit c = true ∨ c = '.' :=
    fun _ hc => Or.inl (isDigit_of_mem_takeWhile hc)
  cases h with
  | plain hwhole =>
    have hne : (text ++ after).takeWhile isDigit ≠ [] := by
      rw [List.takeWhile_append_of_pos hwhole.2]
      simp [hwhole.1]
    have hdrop : (text ++ after).dropWhile isDigit = after.dropWhile isDigit := List.dropWhile_append_of_pos hwhole.2
    have hsplit := List.takeWhile_append_dropWhile (p := isDigit) (l := after)
    unfold takeMantissa
    simp only [hdrop]
    split
    · rename_i behind hbehind
      rw [if_neg (by simp [hne])]
      refine ⟨after.takeWhile isDigit ++ '.' :: behind.takeWhile isDigit, _, _, _, rfl, ?_, ?_⟩
      · rw [List.append_assoc, List.cons_append, List.takeWhile_append_dropWhile, ← hbehind, hsplit]
      · intro c hc
        rcases List.mem_append.mp hc with hc | hc
        · exact hdigit c hc
        · rcases List.mem_cons.mp hc with rfl | hc
          · exact Or.inr rfl
          · exact hdigit c hc
    · rw [if_neg (by simp [hne])]
      exact ⟨_, _, _, _, rfl, hsplit.symm, hdigit⟩
  | pointed hwhole hfraction =>
    rw [List.append_assoc, List.cons_append]
    exact ⟨_, _, _, _, takeMantissa_pointed hwhole.2 hfraction (Or.inl hwhole.1) after,
      List.takeWhile_append_dropWhile.symm, hdigit⟩
  | bare hfraction =>
    exact ⟨_, _, _, _, takeMantissa_pointed (List.forall_mem_nil _) hfraction.2 (Or.inr hfraction.1) after,
      List.takeWhile_append_dropWhile.symm, hdigit⟩

theorem takePower_of_spells (h : SpellsPower text e) (after : List Char) :
    (takePower (text ++ after)).2.length ≤ after.length := by
  cases h with
  | absent =>
    obtain ⟨power, hsplit, -⟩ := spellsPower_takePower after
    rw [List.nil_append]
    nth_rewrite 2 [hsplit]
    rw [List.length_append]
    omega
  | @written mark sign digits negative hmark hsign hdigits =>
    obtain ⟨d, ds, rfl⟩ := List.exists_cons_of_ne_nil hdigits.1
    have htake : takeSign (sign ++ (d :: ds) ++ after) = (negative, (d :: ds) ++ after) := by
      rw [List.append_assoc]
      exact takeSign_of_spells hsign (Or.inl (hdigits.2 d List.mem_cons_self))
    rw [List.cons_append, takePower]
    simp only [htake, List.takeWhile_append_of_pos hdigits.2, List.dropWhile_append_of_pos hdigits.2]
    rw [if_pos (by simp [hmark])]
    exact List.length_dropWhile_le isDigit after

/-- Where a text starts with a literal, the reader takes one that is at least as long. -/
theorem exists_take_of_spells (h : SpellsUnsigned text l) (after : List Char) :
    ∃ l' rest, take (text ++ after) = some (l', rest) ∧ rest.length ≤ after.length := by
  cases h with
  | @mk mantissa whole fraction power e hmantissa hpower =>
    obtain ⟨more, whole', fraction', rest, htake, hmore, hparts⟩ := takeMantissa_of_spells hmantissa (power ++ after)
    refine ⟨_, _, by rw [take, List.append_assoc, htake, Option.map_some], ?_⟩
    cases more with
    | nil =>
      rw [← show power ++ after = rest from hmore]
      exact takePower_of_spells hpower after
    | cons c more =>
      have hrest : rest.length ≤ after.length := by
        cases hpower with
        | absent =>
          have := congrArg List.length hmore
          simp only [List.nil_append, List.length_append] at this
          omega
        | written hmark =>
          obtain ⟨hdigit, hpoint⟩ := not_isDigit_of_isMark hmark
          rw [(List.cons.inj hmore).1] at hdigit hpoint
          rcases hparts c List.mem_cons_self with hc | hc
          · rw [hdigit] at hc
            cases hc
          · exact absurd hc hpoint
      exact Nat.le_trans (takePower_of_spells .absent rest) hrest

/-- The number at the start of a text is the longest one; without one, nothing at the start is a number. -/
theorem leading?_spells (cs : List Char) :
    (∃ numeral negative l, IsLongestNumeral (trimLeft cs) numeral ∧ Spells numeral negative l ∧
        leading? cs = some (Binary64.signed negative l.value)) ∨
      (∀ numeral, numeral <+: trimLeft cs → ¬ IsNumeral numeral) ∧ leading? cs = none := by
  obtain ⟨sign, hsplit, hsign⟩ := spellsSign_takeSign (trimLeft cs)
  -- a number at the start is the sign and a literal at the start of what the reader goes on with
  have hother : ∀ other, other <+: trimLeft cs → IsNumeral other → ∃ l rest,
      take (takeSign (trimLeft cs)).2 = some (l, rest) ∧ other.length + rest.length ≤ (trimLeft cs).length := by
    rintro _ ⟨after, hafter⟩ ⟨negative', l', hspells⟩
    cases hspells with
    | @mk sign' unsigned _ _ hsign' hunsigned =>
      obtain ⟨c, behind, rfl, hc⟩ := hunsigned.head
      have htake : takeSign (trimLeft cs) = (negative', (c :: behind) ++ after) := by
        rw [← hafter, List.append_assoc, List.cons_append]
        exact takeSign_of_spells hsign' hc
      obtain ⟨l, rest, hl, hlength⟩ := exists_take_of_spells hunsigned after
      refine ⟨l, rest, by rw [htake, hl], ?_⟩
      rw [← hafter]
      simp only [List.length_append] at hlength ⊢
      omega
  cases htake : take (takeSign (trimLeft cs)).2 with
  | none =>
    refine Or.inr ⟨fun numeral hstarts hnumeral => ?_, by simp only [leading?, htake, Option.map_none]⟩
    obtain ⟨l, rest, hl, -⟩ := hother numeral hstarts hnumeral
    rw [htake] at hl
    cases hl
  | some taken =>
    obtain ⟨l, rest⟩ := taken
    obtain ⟨text, htext, hspells⟩ := spells_of_take htake
    have hcs : trimLeft cs = (sign ++ text) ++ rest := by rw [List.append_assoc, ← htext, ← hsplit]
    refine Or.inl ⟨sign ++ text, _, l, ⟨⟨rest, hcs.symm⟩, ⟨_, l, .mk hsign hspells⟩, ?_⟩, .mk hsign hspells,
      by simp only [leading?, htake, Option.map_some]⟩
    intro other hstarts hnumeral
    obtain ⟨l', rest', hl, hlength⟩ := hother other hstarts hnumeral
    rw [htake] at hl
    cases hl
    rw [hcs, List.length_append] at hlength
    omega

/-! ## Reading it alone -/

/-- A mantissa is read up to its end where nothing follows that it could go on with. -/
theorem takeMantissa_of_ends (h : SpellsMantissa text whole fraction) (hrest : Ends rest)
    (hpoint : rest.head? ≠ some '.') : takeMantissa (text ++ rest) = some (whole, fraction, rest) := by
  cases h with
  | plain hwhole => exact takeMantissa_plain hwhole.2 hwhole.1 hrest hpoint
  | pointed hwhole hfraction =>
    rw [List.append_assoc, List.cons_append]
    exact takeMantissa_point hwhole.2 hfraction (Or.inl hwhole.1) hrest
  | bare hfraction => exact takeMantissa_point (List.forall_mem_nil _) hfraction.2 (Or.inr hfraction.1) hrest

theorem takeMantissa_of_mark (h : SpellsMantissa text whole fraction) (hmark : isMark c = true) (rest : List Char) :
    takeMantissa (text ++ c :: rest) = some (whole, fraction, c :: rest) := by
  obtain ⟨hdigit, hpoint⟩ := not_isDigit_of_isMark hmark
  exact takeMantissa_of_ends h (ends_cons hdigit) (by simpa using hpoint)

/-- A spelled literal is read to its end, as what it spells. -/
theorem take_of_spells (h : SpellsUnsigned text l) : take text = some (l, []) := by
  cases h with
  | @mk mantissa whole fraction power e hmantissa hpower =>
    have htake : takeMantissa (mantissa ++ power) = some (whole, fraction, power) := by
      cases hpower with
      | absent => exact takeMantissa_of_ends hmantissa ends_nil (by simp)
      | written hmark => exact takeMantissa_of_mark hmantissa hmark _
    have hpow : takePower power = (e, []) := by
      cases hpower with
      | absent => rfl
      | @written mark sign digits negative hmark hsign hdigits =>
        obtain ⟨d, ds, rfl⟩ := List.exists_cons_of_ne_nil hdigits.1
        have hsign : takeSign (sign ++ d :: ds) = (negative, d :: ds) :=
          takeSign_of_spells hsign (Or.inl (hdigits.2 d List.mem_cons_self))
        have hall := takeWhile_digits hdigits.2 ends_nil
        rw [List.append_nil] at hall
        rw [takePower]
        simp only [hsign, hall.1, hall.2]
        rw [if_pos (by simp [hmark])]
    rw [take, htake, Option.map_some]
    simp only [hpow]

/-- A number on its own is read as the value it spells, with its sign. -/
theorem float?_of_spells (h : Spells text negative l) :
    float? (String.ofList text) = some (Binary64.signed negative l.value) := by
  cases h with
  | @mk sign unsigned _ _ hsign hunsigned =>
    obtain ⟨c, behind, hhead, hc⟩ := hunsigned.head
    have htake := take_of_spells hunsigned
    have hparts : ∀ d ∈ sign ++ unsigned, IsPart d := fun d hd =>
      (List.mem_append.mp hd).elim (hsign.isPart d) (hunsigned.isPart d)
    rw [float?_ofList hparts, signed?, hhead]
    rw [hhead] at htake
    simp only [takeSign_of_spells hsign hc, htake]

theorem isWhole_iff_spells : isWhole cs = true ↔ ∃ l, SpellsUnsigned cs l :=
  ⟨fun h => (spells_of_isWhole h).imp fun _ => And.right, fun ⟨l, h⟩ => isWhole_iff.mpr ⟨l, take_of_spells h⟩⟩

/-- Whether a text is a number can be computed: a literal behind the sign, and nothing else. -/
theorem isNumeral_iff : IsNumeral cs ↔ isWhole (takeSign cs).2 = true := by
  rw [isWhole_iff_spells]
  constructor
  · rintro ⟨negative, l, hspells⟩
    cases hspells with
    | mk hsign hunsigned =>
      obtain ⟨c, behind, rfl, hc⟩ := hunsigned.head
      exact ⟨l, by rwa [takeSign_of_spells hsign hc]⟩
  · rintro ⟨l, hspells⟩
    obtain ⟨sign, hsplit, hsign⟩ := spellsSign_takeSign cs
    rw [hsplit]
    exact ⟨_, l, .mk hsign hspells⟩

instance : DecidablePred IsNumeral := fun _ => decidable_of_iff _ isNumeral_iff.symm

theorem IsLongestNumeral.unique {a b : List Char} (ha : IsLongestNumeral cs a) (hb : IsLongestNumeral cs b) :
    a = b := by
  have hlength : a.length = b.length :=
    Nat.le_antisymm (hb.longest a ha.starts ha.isNumeral) (ha.longest b hb.starts hb.isNumeral)
  rw [List.prefix_iff_eq_take.mp ha.starts, List.prefix_iff_eq_take.mp hb.starts, hlength]

/-- The longest of the beginnings that are numbers, by their lengths. -/
theorem isLongestNumeral_take {n : ℕ} (hn : n ≤ cs.length) (hnumeral : IsNumeral (cs.take n))
    (hlongest : ∀ k ≤ cs.length, IsNumeral (cs.take k) → k ≤ n) : IsLongestNumeral cs (cs.take n) := by
  refine ⟨List.take_prefix n cs, hnumeral, fun other hstarts hother => ?_⟩
  rw [List.prefix_iff_eq_take.mp hstarts] at hother
  rw [List.length_take_of_le hn]
  exact hlongest _ hstarts.length_le hother

theorem value_eq_nearest (l : Literal) : l.value = Binary64.nearest l.rational := Binary64.ofDecimal_eq_nearest _ _

end Literal

end Formwork
