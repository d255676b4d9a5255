/-
  Formwork.Proofs.Formula.Literals: a literal as a formula.

  Two parts of the scanner say what a number is. The test of a word looks at the word as a whole and knows the
  digits of all scripts. How far a word goes is decided before, character by character: a sign goes with the number
  in front of it when a digit of ASCII follows. A literal has at most one sign, between its mark and the digits
  of its power. So the two agree on all literals but those with a sign in front of a digit of another script;
  these fall apart at the sign, into a name, an operator and a number.

  - `SpellsUnsigned.sign_cases`: where the sign of a literal stands.
  - `isRun_of_spells` / `lexed_of_isSigned`: one word, or three.
  - `tokenize_literal`: which texts without blanks are one number, and what becomes of the other literals.
-/

import Formwork.Proofs.Formula.Lexing
import Formwork.Proofs.Number.Numeral

namespace Formwork

namespace Literal

open Text

variable {cs before after digits mantissa whole fraction : List Char} {c sign : Char} {l : Literal}

/-! ## Signs -/

def IsSign (c : Char) : Prop := c = '+' ∨ c = '-'

instance : DecidablePred IsSign := fun _ => inferInstanceAs (Decidable (_ ∨ _))

def IsPlain (c : Char) : Prop := isDigit c = true ∨ c = '.' ∨ isMark c = true

instance : DecidablePred IsPlain := fun _ => inferInstanceAs (Decidable (_ ∨ _))

theorem IsPart.plain_or_sign (h : IsPart c) : IsPlain c ∨ IsSign c := by
  rcases h with h | h | h | h
  · exact Or.inl (Or.inl h)
  · exact Or.inl (Or.inr (Or.inl h))
  · exact Or.inl (Or.inr (Or.inr h))
  · exact Or.inr h

theorem IsPlain.not_isSign (h : IsPlain c) : ¬ IsSign c := by
  rintro (rfl | rfl) <;> exact absurd h (by decide)

theorem IsSign.not_mem (hc : IsSign c) (h : ∀ d ∈ cs, IsPlain d) : c ∉ cs := fun hmem => (h c hmem).not_isSign hc

def SignsMeetAscii (cs : List Char) : Prop := cs.IsChain fun c d => IsSign c → d.isDigit = true

instance : DecidablePred SignsMeetAscii := fun cs => inferInstanceAs (Decidable (cs.IsChain _))

theorem signsMeetAscii_of_plain (h : ∀ c ∈ cs, IsPlain c) : SignsMeetAscii cs :=
  List.isChain_iff_getElem.mpr fun _ _ hsign => absurd hsign (h _ (List.getElem_mem _)).not_isSign

/-! ## Literals at their sign -/

/-- The sign splits the literal into a number up to its mark and the digits of the power. -/
structure IsSigned (cs before : List Char) (sign : Char) (digits : List Char) : Prop where
  split : cs = before ++ sign :: digits
  isSign : IsSign sign
  isOpen : isOpen before = true
  plain : ∀ c ∈ before, IsPlain c
  isDigits : IsDigits digits

theorem IsDigits.plain (h : IsDigits digits) : ∀ c ∈ digits, IsPlain c := fun c hc => Or.inl (h.2 c hc)

theorem isOpen_of_spells (h : SpellsMantissa mantissa whole fraction) (hmark : isMark c = true) :
    isOpen (mantissa ++ [c]) = true := by
  rw [isOpen, takeMantissa_of_mark h hmark]
  exact hmark

/-- A literal has no sign, or is split by its only one. -/
theorem SpellsUnsigned.sign_cases (h : SpellsUnsigned cs l) :
    (∀ c ∈ cs, IsPlain c) ∨ ∃ before sign digits, IsSigned cs before sign digits := by
  cases h with
  | @mk mantissa _ _ _ _ hmantissa hpower =>
    have hplain : ∀ c ∈ mantissa, IsPlain c := fun c hc => (hmantissa.mem c hc).imp_right Or.inl
    cases hpower with
    | absent => exact Or.inl (by simpa using hplain)
    | @written mark sign digits _ hmark hsign hdigits =>
      have hbefore : ∀ c ∈ mantissa ++ [mark], IsPlain c := by
        intro c hc
        rcases List.mem_append.mp hc with hc | hc
        · exact hplain c hc
        · rw [List.mem_singleton.mp hc]
          exact Or.inr (Or.inr hmark)
      have hsigned : ∀ s, IsSign s → IsSigned (mantissa ++ mark :: ([s] ++ digits)) (mantissa ++ [mark]) s digits :=
        fun s hs => ⟨by simp, hs, isOpen_of_spells hmantissa hmark, hbefore, hdigits⟩
      cases hsign with
      | absent =>
        refine Or.inl fun c hc => ?_
        rw [List.nil_append, ← List.singleton_append, ← List.append_assoc] at hc
        exact (List.mem_append.mp hc).elim (hbefore c) (hdigits.plain c)
      | plus => exact Or.inr ⟨_, _, _, hsigned '+' (Or.inl rfl)⟩
      | minus => exact Or.inr ⟨_, _, _, hsigned '-' (Or.inr rfl)⟩

namespace IsSigned

theorem eq_of_split (h : IsSigned cs before sign digits) (hsplit : cs = mantissa ++ c :: after) (hc : IsSign c) :
    before = mantissa ∧ digits = after := by
  rw [h.split, List.append_cons_inj_of_notMem (hc.not_mem h.plain) (hc.not_mem h.isDigits.plain)] at hsplit
  exact ⟨hsplit.1, hsplit.2.2⟩

theorem signsMeetAscii_iff (h : IsSigned cs before sign digits) :
    SignsMeetAscii cs ↔ ∃ d rest, digits = d :: rest ∧ d.isDigit = true := by
  obtain ⟨d, rest, hdigits⟩ := List.exists_cons_of_ne_nil h.isDigits.1
  have hlast : ∀ c ∈ before.getLast?, ¬ IsSign c := fun c hc hsign => hsign.not_mem h.plain (List.mem_of_getLast? hc)
  have hrest : SignsMeetAscii (d :: rest) := hdigits ▸ signsMeetAscii_of_plain h.isDigits.plain
  rw [h.split, hdigits, SignsMeetAscii, List.isChain_append, List.isChain_cons_cons]
  constructor
  · rintro ⟨-, ⟨hd, -⟩, -⟩
    exact ⟨d, rest, rfl, hd h.isSign⟩
  · rintro ⟨_, _, heq, hd⟩
    cases heq
    exact ⟨signsMeetAscii_of_plain h.plain, ⟨fun _ => hd, hrest⟩, fun c hc _ _ hsign => absurd hsign (hlast c hc)⟩

end IsSigned

/-- What is open is no literal: its mark is left over. -/
theorem isWhole_of_isOpen (h : isOpen cs = true) : isWhole cs = false := by
  unfold isOpen at h
  split at h
  · rename_i whole fraction c hmantissa
    have hpower : takePower [c] = (0, [c]) := by simp [takePower, takeSign]
    rw [isWhole, take, hmantissa, Option.map_some]
    simp only [hpower]
  · cases h

theorem isWhole_of_isDigits (h : IsDigits digits) : isWhole digits = true := by
  have hspells := SpellsUnsigned.mk (.plain h) .absent
  rw [List.append_nil] at hspells
  exact isWhole_iff_spells.mpr ⟨_, hspells⟩

end Literal

namespace Formula

open Literal

variable {cs run rest before digits : List Char} {c sign : Char} {l : Literal} {position : Nat}

/-! ## The words of a literal -/

theorem endsRun_of_isPlain (h : IsPlain c) : endsRun c = false := by
  rcases h with h | rfl | h
  · exact endsRun_of_isDigit h
  · decide
  · rw [isMark, Bool.or_eq_true, beq_iff_eq, beq_iff_eq] at h
    rcases h with rfl | rfl <;> decide

theorem exists_operator_of_isSign (h : IsSign c) : ∃ kind, operator? c = some kind := by
  rcases h with rfl | rfl
  · exact ⟨.plus, rfl⟩
  · exact ⟨.minus, rfl⟩

theorem isRun_of_plain (hne : run ≠ []) (h : ∀ c ∈ run, IsPlain c)
    (hstops : ∀ c after, rest = c :: after → ¬ GoesOn run c after) : IsRun run rest := by
  obtain ⟨c, more, rfl⟩ := List.exists_cons_of_ne_nil hne
  refine ⟨c, more, rfl, endsRun_of_isPlain (h c List.mem_cons_self), fun before d after hsplit => Or.inl ?_, hstops⟩
  exact endsRun_of_isPlain (h d (by simp [hsplit]))

/-- A literal is one word where its sign goes with it. -/
theorem isRun_of_spells (h : SpellsUnsigned cs l) (hsigns : SignsMeetAscii cs) : IsRun cs [] := by
  rcases h.sign_cases with hplain | ⟨before, sign, digits, hsigned⟩
  · obtain ⟨c, more, rfl, -⟩ := h.head
    exact isRun_of_plain (by simp) hplain (by simp)
  · obtain ⟨c, more, rfl, hc⟩ := h.head
    refine ⟨c, more, rfl, endsRun_of_isPlain (hc.imp_right Or.inl), fun pre d after hsplit => ?_, by simp⟩
    rw [List.append_nil]
    rcases (h.isPart d (by simp [hsplit])).plain_or_sign with hd | hd
    · exact Or.inl (endsRun_of_isPlain hd)
    · have hcut : c :: more = (c :: pre) ++ d :: after := by rw [hsplit, List.cons_append]
      obtain ⟨rfl, rfl⟩ := hsigned.eq_of_split hcut hd
      exact Or.inr ⟨hd, hsigned.isOpen, hsigned.signsMeetAscii_iff.mp hsigns⟩

/-- It falls apart at its sign where that does not. -/
theorem lexed_of_isSigned (h : IsSigned cs before sign digits) (hsigns : ¬ SignsMeetAscii cs) (position : Nat) :
    ∃ kind, operator? sign = some kind ∧
      Lexed position cs [Token.ofRun before position, ⟨kind, String.singleton sign, position + before.length⟩,
        Token.ofRun digits (position + before.length + 1)] := by
  obtain ⟨kind, hkind⟩ := exists_operator_of_isSign h.isSign
  have hends : endsRun sign = true := by simp [endsRun, hkind]
  have hname : IsRun before (sign :: digits) := by
    refine isRun_of_plain ?_ h.plain ?_
    · rintro rfl
      cases h.isOpen
    · rintro c after hsplit
      cases hsplit
      rintro (hgoes | ⟨-, -, hdigit⟩)
      · rw [hends] at hgoes
        cases hgoes
      · exact hsigns (h.signsMeetAscii_iff.mpr hdigit)
  have hnumber : IsRun digits [] := isRun_of_plain h.isDigits.1 h.isDigits.plain (by simp)
  have hlexed := Lexed.run hnumber (n := position + before.length + 1) .done
  rw [List.append_nil] at hlexed
  rw [h.split]
  exact ⟨kind, hkind, .run hname (.operator hkind hlexed)⟩

variable {text : String} {limits : Limits}

theorem ofRun_of_literal (h : isNumberLiteral text = true) (position : Nat) :
    Token.ofRun text.toList position = ⟨.number, text, position⟩ := by
  rw [Token.ofRun, String.ofList_toList, if_pos h]

theorem ofRun_before (h : IsSigned cs before sign digits) (position : Nat) :
    Token.ofRun before position = ⟨.name, String.ofList before, position⟩ := by
  have hblank : ∀ c ∈ (String.ofList before).toList, Text.isBlank c = false := by
    rw [String.toList_ofList]
    exact fun c hc => (endsRun_eq_false.mp (endsRun_of_isPlain (h.plain c hc))).1
  have hname : ¬ isNumberLiteral (String.ofList before) = true := by
    rw [isNumberLiteral_iff hblank, String.toList_ofList, isWhole_of_isOpen h.isOpen]
    exact Bool.false_ne_true
  exact congrArg (Token.mk · _ _) (if_neg hname)

theorem ofRun_digits (h : IsSigned cs before sign digits) (position : Nat) :
    Token.ofRun digits position = ⟨.number, String.ofList digits, position⟩ := by
  have hnumber : isNumberLiteral (String.ofList digits) = true := by
    rw [isNumberLiteral, String.toList_ofList, isWhole_of_isDigits h.isDigits, Bool.true_or]
  exact congrArg (Token.mk · _ _) (if_pos hnumber)

theorem lexed_of_literal (h : isNumberLiteral text = true) (hblank : ∀ c ∈ text.toList, Text.isBlank c = false)
    (hsigns : SignsMeetAscii text.toList) : Lexed 0 text.toList [⟨.number, text, 0⟩] := by
  obtain ⟨l, hspells⟩ := isWhole_iff_spells.mp ((isNumberLiteral_iff hblank).mp h)
  have hlexed := Lexed.run (isRun_of_spells hspells hsigns) (n := 0) .done
  rwa [List.append_nil, ofRun_of_literal h] at hlexed

theorem lexed_of_apart (h : isNumberLiteral text = true) (hblank : ∀ c ∈ text.toList, Text.isBlank c = false)
    (hsigns : ¬ SignsMeetAscii text.toList) : ∃ before sign digits kind, IsSigned text.toList before sign digits ∧
      operator? sign = some kind ∧ Lexed 0 text.toList [⟨.name, String.ofList before, 0⟩,
        ⟨kind, String.singleton sign, before.length⟩, ⟨.number, String.ofList digits, before.length + 1⟩] := by
  obtain ⟨l, hspells⟩ := isWhole_iff_spells.mp ((isNumberLiteral_iff hblank).mp h)
  rcases hspells.sign_cases with hplain | ⟨before, sign, digits, hsigned⟩
  · exact absurd (signsMeetAscii_of_plain hplain) hsigns
  · obtain ⟨kind, hkind, hlexed⟩ := lexed_of_isSigned hsigned hsigns 0
    rw [ofRun_before hsigned, ofRun_digits hsigned, Nat.zero_add] at hlexed
    exact ⟨before, sign, digits, kind, hsigned, hkind, hlexed⟩

/-- A text without blanks, within the bounds, is one number exactly when it is a literal in which no sign meets
a digit outside of ASCII. A literal in which one does is a name, an operator and a number. Of the words of any
formula the numbers are those that are literals. -/
theorem tokenize_literal (hblank : ∀ c ∈ text.toList, Text.isBlank c = false) (hlength : text.length ≤ limits.length)
    (hcount : 1 ≤ limits.tokens) :
    (tokenize text limits = .ok [⟨.number, text, 0⟩] ↔
      isNumberLiteral text = true ∧ SignsMeetAscii text.toList) ∧
    (isNumberLiteral text = true → ¬ SignsMeetAscii text.toList → 3 ≤ limits.tokens →
      ∃ before sign digits kind, IsSigned text.toList before sign digits ∧ operator? sign = some kind ∧
        tokenize text limits = .ok [⟨.name, String.ofList before, 0⟩,
          ⟨kind, String.singleton sign, before.length⟩, ⟨.number, String.ofList digits, before.length + 1⟩]) ∧
    ∀ source bounds tokens, tokenize source bounds = .ok tokens →
      ∀ t ∈ tokens, t.kind = .number ↔ isNumberLiteral t.text = true := by
  refine ⟨⟨fun h => ?_, fun ⟨h, hsigns⟩ => ?_⟩, fun h hsigns hthree => ?_, fun _ _ _ h => scan_kind_iff (scan_of_tokenize h)⟩
  · have hliteral := (scan_kind_iff (scan_of_tokenize h) _ (List.mem_singleton_self _)).mp rfl
    refine ⟨hliteral, ?_⟩
    by_contra hsigns
    obtain ⟨before, sign, digits, kind, -, -, hlexed⟩ := lexed_of_apart hliteral hblank hsigns
    cases (scan_of_tokenize h).symm.trans (scan_eq_ok.mpr hlexed)
  · exact tokenize_eq_ok.mpr ⟨hlength, scan_eq_ok.mpr (lexed_of_literal h hblank hsigns), hcount⟩
  · obtain ⟨before, sign, digits, kind, hsigned, hkind, hlexed⟩ := lexed_of_apart h hblank hsigns
    exact ⟨before, sign, digits, kind, hsigned, hkind, tokenize_eq_ok.mpr ⟨hlength, scan_eq_ok.mpr hlexed, hthree⟩⟩

/-- Only the first digit behind the sign has to be one of ASCII. -/
theorem tokenize_mixed_digits : tokenize "٢.E+3٠" {} = .ok [⟨.number, "٢.E+3٠", 0⟩] := by
  have hblank : "٢.E+3٠".toList.all (fun c => Text.isBlank c == false) = true := by decide
  have hwords := @tokenize_literal "٢.E+3٠" {}
    (fun c hc => beq_iff_eq.mp (List.all_eq_true.mp hblank c hc)) (by decide) (by decide)
  exact hwords.1.mpr ⟨by decide +kernel, by decide⟩

/-- Where it is none, the literal falls apart. -/
theorem tokenize_splits_literal : isNumberLiteral "1e-٥" = true ∧ "1e-٥".toList.all (!Text.isBlank ·) = true ∧
    tokenize "1e-٥" {} = .ok [⟨.name, "1e", 0⟩, ⟨.minus, "-", 2⟩, ⟨.number, "٥", 3⟩] :=
  ⟨by decide +kernel, by decide, eq_ok_of_toOption (by decide +kernel)⟩

end Formula

end Formwork
