/-
  Formwork.Proofs.Number.Exact: the exact number that a text writes.

  A reader of literals rounds what it reads to a float. Before it does, the literal is a rational
  (`Literal.rational`), and this is what a text is said to write. However a decimal is laid out, with zeros put
  before or after its digits, a point between them or a power of ten behind, the text writes that decimal.

  - `unsigned?_point`: digits around a point write the number of all digits over a power of ten.
  - `unsigned?_write`: a laid out decimal writes its value.
  - `written?_naturalText`: the natural text of a float writes the shortest decimal.
-/

import Formwork.Number.Layout
import Formwork.Proofs.Number.Literal
import Formwork.Proofs.Number.Shortest

namespace Formwork

namespace Text

theorem foldl_digits (cs : List Char) (n : ℕ) :
    cs.foldl (fun n c => 10 * n + (digit? c).getD 0) n = n * 10 ^ cs.length + digitsValue cs := by
  induction cs generalizing n with
  | nil => simp [digitsValue]
  | cons c cs ih =>
    rw [digitsValue, List.foldl_cons, List.foldl_cons, ih, ih (10 * 0 + _), List.length_cons, Nat.pow_succ]
    ring

theorem digitsValue_append (cs ds : List Char) :
    digitsValue (cs ++ ds) = digitsValue cs * 10 ^ ds.length + digitsValue ds := by
  rw [digitsValue, List.foldl_append, foldl_digits]
  rfl

theorem digitsValue_zeros (n : ℕ) : digitsValue (List.replicate n '0') = 0 := by
  induction n with
  | zero => rfl
  | succ n ih => exact ih

theorem digitsValue_toDigits (n : ℕ) : digitsValue (Nat.toDigits 10 n) = n := by
  refine Eq.trans ?_ (Nat.ofDigitChars_ten_toDigits (n := n))
  rw [digitsValue, Nat.ofDigitChars_eq_foldl]
  refine List.foldl_ext _ _ _ fun k c hc => ?_
  rw [digit?_of_isDigit (Nat.isDigit_of_mem_toDigits (by decide) (by decide) hc), Option.getD_some]

theorem isDigit_of_mem_toDigits {c : Char} {n : ℕ} (h : c ∈ Nat.toDigits 10 n) : isDigit c = true :=
  isDigit_of_ascii (Nat.isDigit_of_mem_toDigits (by decide) (by decide) h)

theorem isDigit_of_mem_zeros {c : Char} {n : ℕ} (h : c ∈ List.replicate n '0') : isDigit c = true := by
  rw [List.eq_of_mem_replicate h]
  decide

theorem isDigit_of_mem_zero {c : Char} (h : c ∈ ['0']) : isDigit c = true := isDigit_of_mem_zeros (n := 1) h

end Text

namespace Literal

open Text

variable {whole fraction rest : List Char}

def rational (l : Literal) : ℚ := digitsValue (l.whole ++ l.fraction) * 10 ^ (l.power - l.fraction.length)

def unsigned? (cs : List Char) : Option ℚ :=
  match take cs with
  | some (l, []) => some l.rational
  | _ => none

/-- The sign and the exact value of a text that is an optional sign and a literal; `true` is minus. -/
def written? (cs : List Char) : Option (Bool × ℚ) := (unsigned? (takeSign cs).2).map ((takeSign cs).1, ·)

/-! ## Reading -/

def Ends (rest : List Char) : Prop := ∀ c, rest.head? = some c → isDigit c = false

theorem ends_nil : Ends [] := fun _ h => by cases h

theorem ends_cons {c : Char} (h : isDigit c = false) : Ends (c :: rest) := fun _ hc => by
  cases hc
  exact h

theorem takeWhile_of_ends (h : Ends rest) : rest.takeWhile isDigit = [] ∧ rest.dropWhile isDigit = rest := by
  cases rest with
  | nil => exact ⟨rfl, rfl⟩
  | cons c rest =>
    have hc : ¬ isDigit c = true := Bool.eq_false_iff.mp (h c rfl)
    exact ⟨List.takeWhile_cons_of_neg hc, List.dropWhile_cons_of_neg hc⟩

theorem takeWhile_digits (h : ∀ c ∈ whole, isDigit c = true) (hrest : Ends rest) :
    (whole ++ rest).takeWhile isDigit = whole ∧ (whole ++ rest).dropWhile isDigit = rest := by
  rw [List.takeWhile_append_of_pos h, List.dropWhile_append_of_pos h, (takeWhile_of_ends hrest).1, List.append_nil]
  exact ⟨rfl, (takeWhile_of_ends hrest).2⟩

/-- Behind a point all digits are taken. -/
theorem takeMantissa_pointed (hwhole : ∀ c ∈ whole, isDigit c = true) (hfraction : ∀ c ∈ fraction, isDigit c = true)
    (hne : whole ≠ [] ∨ fraction ≠ []) (rest : List Char) : takeMantissa (whole ++ '.' :: (fraction ++ rest)) =
      some (whole, fraction ++ rest.takeWhile isDigit, rest.dropWhile isDigit) := by
  have hpoint : Ends ('.' :: (fraction ++ rest)) := ends_cons (by decide)
  obtain ⟨htake, hdrop⟩ := takeWhile_digits hwhole hpoint
  unfold takeMantissa
  simp only [htake, hdrop, List.takeWhile_append_of_pos hfraction, List.dropWhile_append_of_pos hfraction]
  rw [if_neg]
  simp only [Bool.and_eq_true, List.isEmpty_iff, List.append_eq_nil_iff]
  exact fun h => hne.elim (absurd h.1) (absurd h.2.1)

theorem takeMantissa_point (hwhole : ∀ c ∈ whole, isDigit c = true) (hfraction : ∀ c ∈ fraction, isDigit c = true)
    (hne : whole ≠ [] ∨ fraction ≠ []) (hrest : Ends rest) :
    takeMantissa (whole ++ '.' :: (fraction ++ rest)) = some (whole, fraction, rest) := by
  obtain ⟨htake, hdrop⟩ := takeWhile_of_ends hrest
  rw [takeMantissa_pointed hwhole hfraction hne, htake, hdrop, List.append_nil]

theorem takeMantissa_plain (hwhole : ∀ c ∈ whole, isDigit c = true) (hne : whole ≠ []) (hrest : Ends rest)
    (hpoint : rest.head? ≠ some '.') : takeMantissa (whole ++ rest) = some (whole, [], rest) := by
  obtain ⟨htake, hdrop⟩ := takeWhile_digits hwhole hrest
  unfold takeMantissa
  simp only [htake, hdrop]
  split
  · exact absurd rfl hpoint
  · rw [if_neg (by simp [hne])]

theorem unsigned?_of_take {cs : List Char} {l : Literal} (h : take cs = some (l, [])) :
    unsigned? cs = some l.rational := by
  rw [unsigned?, h]

/-- What is read without a sign is read behind one. -/
theorem written?_sign {cs : List Char} {v : ℚ} (h : unsigned? cs = some v) (negative : Bool) :
    written? ((if negative then ['-'] else []) ++ cs) = some (negative, v) := by
  cases negative with
  | true =>
    change (unsigned? cs).map (true, ·) = _
    rw [h, Option.map_some]
  | false =>
    have hwhole : isWhole cs = true := by
      rw [isWhole_iff]
      unfold unsigned? at h
      split at h
      · next l htake => exact ⟨l, htake⟩
      · cases h
    obtain ⟨⟨c, after, rfl, hc⟩, -⟩ := mem_of_isWhole hwhole
    rw [if_neg (by decide), List.nil_append, written?, takeSign_eq_self hc, h, Option.map_some]

/-- Digits around a point write the number of all digits over a power of ten. -/
theorem unsigned?_point (hwhole : ∀ c ∈ whole, isDigit c = true) (hfraction : ∀ c ∈ fraction, isDigit c = true)
    (hne : whole ≠ []) : unsigned? (whole ++ '.' :: fraction) =
      some ((digitsValue (whole ++ fraction) : ℚ) / 10 ^ fraction.length) := by
  have hmantissa := takeMantissa_point hwhole hfraction (Or.inl hne) ends_nil
  rw [List.append_nil] at hmantissa
  have htake : take (whole ++ '.' :: fraction) = some (⟨whole, fraction, 0⟩, []) := by
    rw [take, hmantissa]
    rfl
  rw [unsigned?_of_take htake, rational, zero_sub, zpow_neg, zpow_natCast]
  rfl

/-- Digits alone write their number. -/
theorem unsigned?_digits (hwhole : ∀ c ∈ whole, isDigit c = true) (hne : whole ≠ []) :
    unsigned? whole = some (digitsValue whole : ℚ) := by
  have hmantissa := takeMantissa_plain hwhole hne ends_nil (by simp)
  rw [List.append_nil] at hmantissa
  have htake : take whole = some (⟨whole, [], 0⟩, []) := by
    rw [take, hmantissa]
    rfl
  rw [unsigned?_of_take htake, rational]
  simp

end Literal

namespace Layout

open Text Literal

variable {d : Decimal}

/-- The number of digits of a decimal, from where they begin and end. -/
theorem leading_eq (d : Decimal) : d.leading = d.exponent + (Nat.toDigits 10 d.digits).length - 1 := rfl

/-- A power is a sign and digits that are its amount. -/
theorem power_eq (e : ℤ) : ∃ digits, power e = (if e < 0 then '-' else '+') :: digits ∧
    (∀ c ∈ digits, isDigit c = true) ∧ digits ≠ [] ∧ digitsValue digits = e.natAbs := by
  refine ⟨_, rfl, ?_⟩
  split
  · refine ⟨?_, by simp, digitsValue_toDigits _⟩
    intro c hc
    rcases List.mem_cons.mp hc with rfl | hc
    · decide
    · exact isDigit_of_mem_toDigits hc
  · exact ⟨fun c => isDigit_of_mem_toDigits, Nat.toDigits_ne_nil, digitsValue_toDigits _⟩

/-- What is read behind the mark is the power of ten. -/
theorem takePower_power (e : ℤ) : takePower ('e' :: power e) = (e, []) := by
  obtain ⟨digits, hpower, hdigits, hne, hvalue⟩ := power_eq e
  obtain ⟨htake, hdrop⟩ := takeWhile_digits hdigits ends_nil
  rw [List.append_nil] at htake hdrop
  have hsign : takeSign (power e) = (decide (e < 0), digits) := by
    rw [hpower]
    by_cases h : e < 0 <;> simp [h, takeSign]
  unfold takePower
  simp only [hsign, htake, hdrop, hvalue]
  rw [if_pos (by simp [isMark, hne])]
  by_cases h : e < 0
  · rw [if_pos (decide_eq_true h)]
    congr
    omega
  · rw [if_neg (by simpa using h)]
    congr
    omega

/-- Zeros behind the digits. -/
theorem unsigned?_padded (h : 0 ≤ d.exponent) (pointed : Bool) :
    unsigned? (Nat.toDigits 10 d.digits ++ List.replicate d.exponent.toNat '0' ++ if pointed then ['.', '0'] else []) =
      some d.value := by
  have hwhole : ∀ c ∈ Nat.toDigits 10 d.digits ++ List.replicate d.exponent.toNat '0', isDigit c = true := by
    intro c hc
    exact (List.mem_append.mp hc).elim isDigit_of_mem_toDigits isDigit_of_mem_zeros
  have hne : Nat.toDigits 10 d.digits ++ List.replicate d.exponent.toNat '0' ≠ [] := by
    simp [Nat.toDigits_ne_nil]
  have hvalue : (digitsValue (Nat.toDigits 10 d.digits ++ List.replicate d.exponent.toNat '0') : ℚ) = d.value := by
    rw [digitsValue_append, digitsValue_zeros, digitsValue_toDigits, List.length_replicate, Decimal.value,
      Decimal.ten_zpow_of_nonneg h]
    push_cast
    ring
  cases pointed with
  | false =>
    rw [if_neg (by decide), List.append_nil, unsigned?_digits hwhole hne, hvalue]
  | true =>
    rw [if_pos rfl, unsigned?_point hwhole (fun _ => isDigit_of_mem_zero) hne, digitsValue_append, ← hvalue]
    have hzero : digitsValue ['0'] = 0 := digitsValue_zeros 1
    simp [hzero]

/-- The point among the digits. -/
theorem unsigned?_split (h : d.exponent < 0) (hleading : 0 ≤ d.leading) :
    unsigned? ((Nat.toDigits 10 d.digits).take (d.leading.toNat + 1) ++
      '.' :: (Nat.toDigits 10 d.digits).drop (d.leading.toNat + 1)) = some d.value := by
  have hlength := leading_eq d
  have hne : (Nat.toDigits 10 d.digits).take (d.leading.toNat + 1) ≠ [] := by simp [Nat.toDigits_ne_nil]
  rw [unsigned?_point (fun c hc => isDigit_of_mem_toDigits (List.mem_of_mem_take hc))
    (fun c hc => isDigit_of_mem_toDigits (List.mem_of_mem_drop hc)) hne, List.take_append_drop, digitsValue_toDigits,
    List.length_drop, Decimal.value, div_eq_mul_inv, ← zpow_natCast, ← zpow_neg]
  congr
  omega

/-- Zeros between the point and the digits. -/
theorem unsigned?_fraction (hleading : d.leading < 0) :
    unsigned? ('0' :: '.' :: List.replicate (-d.leading - 1).toNat '0' ++ Nat.toDigits 10 d.digits) =
      some d.value := by
  have hlength := leading_eq d
  have hfraction : ∀ c ∈ List.replicate (-d.leading - 1).toNat '0' ++ Nat.toDigits 10 d.digits, isDigit c = true := by
    intro c hc
    exact (List.mem_append.mp hc).elim isDigit_of_mem_zeros isDigit_of_mem_toDigits
  have hvalue : digitsValue (['0'] ++ (List.replicate (-d.leading - 1).toNat '0' ++ Nat.toDigits 10 d.digits)) =
      d.digits := by
    rw [digitsValue_append, digitsValue_append, digitsValue_zeros, digitsValue_toDigits]
    simp [digitsValue, digit?_of_isDigit]
  rw [show '0' :: '.' :: List.replicate (-d.leading - 1).toNat '0' ++ Nat.toDigits 10 d.digits =
    ['0'] ++ '.' :: (List.replicate (-d.leading - 1).toNat '0' ++ Nat.toDigits 10 d.digits) from rfl,
    unsigned?_point (fun _ => isDigit_of_mem_zero) hfraction (by simp), hvalue, List.length_append,
    List.length_replicate, Decimal.value, div_eq_mul_inv, ← zpow_natCast, ← zpow_neg]
  congr
  omega

/-- One digit before the point, and a power of ten. -/
theorem unsigned?_scientific (d : Decimal) :
    unsigned? ((Nat.toDigits 10 d.digits).take 1 ++
      (if (Nat.toDigits 10 d.digits).length == 1 then [] else '.' :: (Nat.toDigits 10 d.digits).drop 1) ++
        'e' :: power d.leading) = some d.value := by
  have hlength := leading_eq d
  obtain ⟨c, rest, hds⟩ := List.exists_cons_of_ne_nil (Nat.toDigits_ne_nil (n := d.digits) (b := 10))
  have hdigits : ∀ c' ∈ c :: rest, isDigit c' = true := fun c' hc => isDigit_of_mem_toDigits (n := d.digits) (hds ▸ hc)
  have hmark : Ends ('e' :: power d.leading) := ends_cons (by decide)
  have hmantissa : takeMantissa ([c] ++ (if (c :: rest).length == 1 then [] else '.' :: rest) ++
      'e' :: power d.leading) = some ([c], rest, 'e' :: power d.leading) := by
    have hc : ∀ c' ∈ [c], isDigit c' = true := fun c' hc => hdigits c' (by simp_all)
    cases rest with
    | nil => exact takeMantissa_plain hc (by simp) hmark (by simp)
    | cons c' rest =>
      exact takeMantissa_point hc (fun c'' hc => hdigits c'' (List.mem_cons_of_mem _ hc)) (Or.inl (by simp)) hmark
  have htake : take ([c] ++ (if (c :: rest).length == 1 then [] else '.' :: rest) ++ 'e' :: power d.leading) =
      some (⟨[c], rest, d.leading⟩, []) := by
    rw [take, hmantissa, Option.map_some]
    simp only [takePower_power]
  rw [hds]
  simp only [List.take_succ_cons, List.take_zero, List.drop_succ_cons, List.drop_zero]
  rw [unsigned?_of_take htake, rational, List.singleton_append, ← hds, digitsValue_toDigits,
    Decimal.value]
  rw [hds, List.length_cons] at hlength
  have hexponent : d.leading - (rest.length : ℤ) = d.exponent := by
    push_cast at hlength
    omega
  rw [hexponent]

/-- A laid out decimal writes its value. -/
theorem unsigned?_write (l : Layout) (d : Decimal) : unsigned? (l.write d) = some d.value := by
  unfold write
  simp only
  split
  · next hzero =>
    have hvalue : d.value = 0 := by rw [Decimal.value, beq_iff_eq.mp hzero, Nat.cast_zero, zero_mul]
    rw [hvalue]
    cases l.pointZero with
    | false => exact unsigned?_digits (fun _ => isDigit_of_mem_zero) (by simp)
    | true =>
      have hvalue : digitsValue (['0'] ++ ['0']) = 0 := digitsValue_zeros 2
      have hread := unsigned?_point (fun _ => isDigit_of_mem_zero) (fun _ => isDigit_of_mem_zero) (List.cons_ne_nil '0' [])
      rwa [hvalue, Nat.cast_zero, zero_div] at hread
  · split
    · split
      · next h => exact unsigned?_padded h l.pointZero
      · next h =>
        split
        · next hleading => exact unsigned?_split (not_le.mp h) hleading
        · next hleading => exact unsigned?_fraction (not_le.mp hleading)
    · exact unsigned?_scientific d

end Layout

/-- The natural text of a float writes the shortest decimal, behind the sign of the float. -/
theorem written?_naturalText {x : Float} {negative : Bool} {m : ℕ} {q : ℤ}
    (hx : Binary64.parts x = .finite negative m q) :
    Literal.written? (naturalText x).toList = some (negative, (Decimal.shortest m q).value) := by
  rw [naturalText, Layout.print, hx]
  simp only [String.toList_ofList]
  exact Literal.written?_sign (Layout.unsigned?_write _ _) negative

end Formwork
