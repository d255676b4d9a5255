/-
  Formwork.Proofs.Formula.Parse: what a formula in postfix order is made of.

  Reading a formula scans it and puts its tokens in order; it can be refused on either way.
  What comes out is the postorder of a tree, and each of its tokens comes from one of the text.
-/

import Formwork.Proofs.Formula.Sentence

namespace Formwork.Formula

variable {source : String} {limits : Limits}

/-- A formula that can be read is a sentence, in the postorder of its tree. -/
theorem parse_sound {output : List Token} (h : parse source limits = .ok output) :
    ∃ tokens t, tokenize source limits = .ok tokens ∧ Sentence tokens t ∧ output = t.postorder := by
  obtain ⟨tokens, hs, h⟩ := bind_eq_ok.mp h
  obtain ⟨t, ht, -, ho⟩ := toPostfix_sound h
  exact ⟨tokens, t, hs, ht, ho⟩

/-- Every token in postfix order has a text. -/
theorem parse_text_ne_empty {output : List Token} (h : parse source limits = .ok output) :
    ∀ p ∈ output, p.text ≠ "" := by
  obtain ⟨tokens, t, hs, ht, rfl⟩ := parse_sound h
  intro p hp
  obtain ⟨o, ho, hb⟩ := ht.mem_postorder p hp
  have := scan_text_ne_empty (scan_of_tokenize hs) o ho
  cases hb with
  | itself | function => exact this
  | negate => simp

/-- Every number in postfix order is a literal. -/
theorem parse_isWhole {output : List Token} (h : parse source limits = .ok output) :
    ∀ p ∈ output, p.kind = .number → Literal.isWhole p.text.toList = true := by
  obtain ⟨tokens, t, hs, ht, rfl⟩ := parse_sound h
  intro p hp hk
  obtain ⟨o, ho, hb⟩ := ht.mem_postorder p hp
  cases hb with
  | itself => exact scan_isWhole (scan_of_tokenize hs) p ho hk
  | function | negate => cases hk

/-- A formula that cannot be read holds a comma, is no sentence or exceeds a bound. -/
theorem parse_error {e : FormulaError} (h : parse source limits = .error e) :
    e.cause.family = .lexical ∨ e.cause.family = .syntactic ∨ e.cause.family = .limit := by
  rcases bind_eq_error.mp h with h | ⟨_, -, h⟩
  · rcases tokenize_error h with h | h
    · exact Or.inl h
    · exact Or.inr (Or.inr h)
  · exact Or.inr (toPostfix_refuses h)

/-- Blanks are no formula. -/
theorem parse_of_blank (limits : Limits) (h : source.toList.all Text.isBlank = true) : ∃ e, parse source limits = .error e := by
  unfold parse tokenize
  cases limits.check .length source.length with
  | error e => exact ⟨e, rfl⟩
  | ok u =>
    rw [ok_bind, scan_of_blank h, ok_bind]
    cases limits.check .tokens ([] : List Token).length with
    | error e => exact ⟨e, rfl⟩
    | ok u => exact ⟨_, rfl⟩

/-- No token of a text is refused as one that only postfix order has. -/
theorem parse_error_ne_stray {e : FormulaError} (h : parse source limits = .error e) (text : String) :
    e.cause ≠ .stray text := by
  rcases bind_eq_error.mp h with h | ⟨tokens, hs, h⟩
  · intro hc
    rcases tokenize_error h with h | h <;> rw [hc] at h <;> cases h
  · rcases toPostfix_error h with h | ⟨t, ht, hk, -⟩
    · exact h.2 text
    · obtain ⟨hf, hn⟩ := scan_kind (scan_of_tokenize hs) t ht
      rcases hk with hk | hk
      · exact absurd hk hf
      · exact absurd hk hn

end Formwork.Formula
