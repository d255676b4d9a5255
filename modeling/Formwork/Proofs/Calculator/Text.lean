/-
  Formwork.Proofs.Calculator.Text: the number that a text is read as.

  An entry that is a text counts as the longest number it starts with, blanks before it aside. What this
  number is does not depend on how the reader goes about it: the rules of spelling give it an exact value,
  and the reader the float nearest to that, unless it is out of range.

  - `readNumber_of_text`: the number, or nothing; and what stands behind the number does not count.
-/

import Formwork.Calculator.Entry
import Formwork.Proofs.Number.Numeral

namespace Formwork.Calculator

open Binary64 Literal Text

def ofText (p : Points) : Value := .scalar (.ofPoints p)

theorem readNumber_ofText (p : Points) :
    readNumber (ofText p) = .ok ((leading? p.shown.toList).bind finite?) := by
  cases p <;> rfl

/-- A text is read as the longest number that it starts with behind its blanks: the nearest float with its sign,
which the number on its own is read as too, or nothing when that is infinite. Without a number at the start
it is read as nothing. Texts with one longest number are read alike. -/
theorem readNumber_of_text (p : Points) :
    ((∃ numeral negative l, IsLongestNumeral (trimLeft p.shown.toList) numeral ∧ Spells numeral negative l ∧
        float? (String.ofList numeral) = some (signed negative (nearest l.rational)) ∧
        readNumber (ofText p) = .ok (finite? (signed negative (nearest l.rational)))) ∨
      (∀ numeral, numeral <+: trimLeft p.shown.toList → ¬ IsNumeral numeral) ∧ readNumber (ofText p) = .ok none) ∧
    ∀ (other : Points) (numeral : List Char), IsLongestNumeral (trimLeft p.shown.toList) numeral →
      IsLongestNumeral (trimLeft other.shown.toList) numeral → readNumber (ofText p) = readNumber (ofText other) := by
  have hread : ∀ p : Points,
      (∃ numeral negative l, IsLongestNumeral (trimLeft p.shown.toList) numeral ∧ Spells numeral negative l ∧
        float? (String.ofList numeral) = some (signed negative (nearest l.rational)) ∧
        readNumber (ofText p) = .ok (finite? (signed negative (nearest l.rational)))) ∨
      (∀ numeral, numeral <+: trimLeft p.shown.toList → ¬ IsNumeral numeral) ∧ readNumber (ofText p) = .ok none := by
    intro p
    rw [readNumber_ofText]
    rcases leading?_spells p.shown.toList with ⟨numeral, negative, l, hlongest, hspells, hvalue⟩ | ⟨hnone, hvalue⟩
    · refine Or.inl ⟨numeral, negative, l, hlongest, hspells, ?_, ?_⟩
      · rw [float?_of_spells hspells, value_eq_nearest]
      · rw [hvalue, value_eq_nearest, Option.bind_some]
    · exact Or.inr ⟨hnone, by rw [hvalue, Option.bind_none]⟩
  -- the longest number decides the result, by what it is read as on its own
  have hdecides : ∀ (p : Points) (numeral : List Char), IsLongestNumeral (trimLeft p.shown.toList) numeral →
      readNumber (ofText p) = .ok ((float? (String.ofList numeral)).bind finite?) := by
    intro p numeral hlongest
    rcases hread p with ⟨found, negative, l, hfound, -, hfloat, hvalue⟩ | ⟨hnone, -⟩
    · rw [hlongest.unique hfound, hfloat, hvalue, Option.bind_some]
    · exact absurd hlongest.isNumeral (hnone numeral hlongest.starts)
  exact ⟨hread p, fun other numeral h h' => by rw [hdecides p numeral h, hdecides other numeral h']⟩

/-- A power that is not finished does not count, and neither does what follows another number. -/
theorem readNumber_of_unfinished_power :
    IsLongestNumeral (trimLeft "  +1.5e-kg".toList) "+1.5".toList ∧
      IsLongestNumeral (trimLeft "+1.5.2 apples".toList) "+1.5".toList ∧
      readNumber (.text "  +1.5e-kg") = readNumber (.text "+1.5.2 apples") := by
  have hpower : IsLongestNumeral (trimLeft "  +1.5e-kg".toList) "+1.5".toList :=
    isLongestNumeral_take (n := 4) (by decide) (by decide +kernel) (by decide +kernel)
  have hpoint : IsLongestNumeral (trimLeft "+1.5.2 apples".toList) "+1.5".toList :=
    isLongestNumeral_take (n := 4) (by decide) (by decide +kernel) (by decide +kernel)
  exact ⟨hpower, hpoint, (readNumber_of_text (.text "  +1.5e-kg")).2 (.text "+1.5.2 apples") _ hpower hpoint⟩

end Formwork.Calculator
