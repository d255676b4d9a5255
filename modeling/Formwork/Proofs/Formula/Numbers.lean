/-
  Formwork.Proofs.Formula.Numbers: what the numbers of a formula are read as.

  The scanner has its own idea of a number, and the reader of whole texts another, wider one. A run that
  the scanner takes for a number is a literal without a sign and nothing else, so the reader takes it too and
  finds no sign, no blank and no special value there. Postfix order has the numbers of the text in their order,
  with their texts and positions. Hence a number never ends a run, and what it pushes is the float nearest to
  what it spells: no NaN, not negative, and the infinity only where no finite float is near enough.

  - `Derives.numbers_postorder`: postfix order keeps the numbers.
  - `isReadAs_of_isWhole`: what a literal is read as.
  - `numbers_readable`: both for the texts and the postfix orders of formulas, and for their evaluation.
-/

import Formwork.Proofs.Formula.Range
import Formwork.Proofs.Number.Middle
import Formwork.Proofs.Number.Numeral

namespace Formwork

theorem Literal.rational_nonneg (l : Literal) : 0 ≤ l.rational :=
  mul_nonneg (Nat.cast_nonneg _) (Binary64.ten_zpow_pos _).le

namespace Formula

/-! ## One number -/

/-- The token spells the literal without a sign and is read as the nearest float, which is a number, not
negative, and infinite where the literal is half a step or more behind the greatest finite float. -/
structure Token.IsReadAs (t : Token) (l : Literal) (x : Float) : Prop where
  spells : Literal.SpellsUnsigned t.text.toList l
  reads : Literal.float? t.text = some x
  nearest : x = Binary64.nearest l.rational
  isNaN : x.isNaN = false
  nonneg : 0 ≤ x
  isInf_iff : x.isInf = true ↔ (Binary64.integerLimit : ℚ) ≤ l.rational

variable {t : Token} {ts : List Token} {l : Literal} {x : Float}

theorem isReadAs_of_isWhole (h : Literal.isWhole t.text.toList = true) : ∃ l x, t.IsReadAs l x := by
  obtain ⟨l, hspells⟩ := Literal.isWhole_iff_spells.mp h
  have hvalue := Literal.float?_of_spells (.mk .absent hspells)
  rw [List.nil_append, String.ofList_toList, Literal.value_eq_nearest] at hvalue
  exact ⟨l, Binary64.nearest l.rational, hspells, hvalue, rfl, Binary64.isNaN_nearest _,
    Binary64.nearest_nonneg _, Binary64.isInf_nearest_iff l.rational_nonneg⟩

/-- A token spells one literal. -/
theorem Token.IsReadAs.eq_of_take (h : t.IsReadAs l x) {l' : Literal}
    (hl : Literal.take t.text.toList = some (l', [])) : l = l' := by
  rw [Literal.take_of_spells h.spells] at hl
  cases hl
  rfl

theorem Token.IsReadAs.step (h : t.IsReadAs l x) (hk : t.kind = .number) (scope : Scope) (stack : List Float) :
    scope.step stack t = .ok (x :: stack) := by
  simp only [Scope.step, hk, Scope.numeral, h.reads]
  rfl

/-! ## Postfix order -/

/-- The numbers of a phrase in postfix order are those of its text. -/
theorem Derives.numbers_postorder {g : Phrase} {tree : Tree} (h : Derives g ts tree) :
    tree.postorder.filter (·.kind = .number) = ts.filter (·.kind = .number) := by
  induction h with
  | ofProduct _ ih | ofUnary _ ih | ofPower _ ih | ofPrimary _ ih => exact ih
  | @binary _ ls rs l r o op _ _ ho _ ihl ihr =>
    have hkind : op.kind ≠ .number := by cases op <;> decide
    simp [Tree.postorder, Word.as, List.filter_append, ho, hkind, ihl, ihr]
  | negative ho _ ih | positive ho _ ih => simp [Tree.postorder, Word.as, ho, ih]
  | number ho => simp [Tree.postorder, Token.word_as ho]
  | name ho => simp [Tree.postorder, Word.as, ho]
  | call hf ho _ hc ih | group ho _ hc ih => simp [Tree.postorder, Word.as, *]

variable {source quoted : String} {limits : Limits} {tokens output : List Token} {bindings : Bindings}
  {functions : Functions}

theorem numbers_of_parse (hs : tokenize source limits = .ok tokens) (h : parse source limits = .ok output) :
    output.filter (·.kind = .number) = tokens.filter (·.kind = .number) := by
  obtain ⟨tokens', tree, hs', htree, rfl⟩ := parse_sound h
  rw [hs] at hs'
  cases hs'
  exact htree.numbers_postorder

/-! ## Evaluation -/

/-- Only a function can fail for a text that is no number. -/
theorem Scope.Fails.function_of_unreadable {scope : Scope} {stack : List Float}
    (h : scope.Fails stack t (.numeric (.unreadable quoted))) :
    ∃ f x, scope.functions.find? t.text = some f ∧ f x (scope.site t) = .error (.numeric (.unreadable quoted)) := by
  generalize hfailure : Failure.numeric (.unreadable quoted) = failure at h
  cases h with
  | name _ h =>
    subst hfailure
    obtain ⟨_, _, -, -, -, he⟩ := lookup_numeric_iff.mp h
    cases he
  | operator _ _ h =>
    subst hfailure
    obtain ⟨-, -, -, -, he⟩ := apply_numeric_iff.mp h
    cases he
  | @function x _ _ _ _ h =>
    subst hfailure
    unfold Functions.call at h
    split at h
    · rename_i f hf
      exact ⟨f, x, hf, h⟩
    · cases h

theorem function_of_unreadable
    (h : evaluate source bindings limits functions = .error (.numeric (.unreadable quoted))) :
    ∃ name f x site, functions.find? name = some f ∧ f x site = .error (.numeric (.unreadable quoted)) := by
  unfold evaluate at h
  split at h
  · cases h
  · rename_i output hparse
    rcases (parse_runsThrough ⟨bindings, functions, source⟩ hparse).ends with
      ⟨x, hrun⟩ | ⟨before, t, after, stack, failure, -, -, hfails, hrun⟩
    · rw [Scope.evaluatePostfix, hrun, ok_bind] at h
      exact absurd h result_ne_numeric
    · rw [Scope.evaluatePostfix, hrun, error_bind] at h
      cases h
      obtain ⟨f, x, hf, hfail⟩ := hfails.function_of_unreadable
      exact ⟨_, f, x, _, hf, hfail⟩

/-- The numbers of a formula are read as the floats nearest to what they spell. Postfix order has the same
numbers in the same order, and each of them pushes its float wherever a run gets to it. So evaluation never ends
at a text that is no number, unless a function of the registry itself ends so. -/
theorem numbers_readable (source : String) (limits : Limits) :
    (∀ tokens, tokenize source limits = .ok tokens → ∀ t ∈ tokens, t.kind = .number → ∃ l x, t.IsReadAs l x) ∧
    (∀ tokens output, tokenize source limits = .ok tokens → parse source limits = .ok output →
      output.filter (·.kind = .number) = tokens.filter (·.kind = .number)) ∧
    (∀ output, parse source limits = .ok output → ∀ t ∈ output, t.kind = .number →
      ∃ l x, t.IsReadAs l x ∧ ∀ (scope : Scope) stack, scope.step stack t = .ok (x :: stack)) ∧
    ∀ (bindings : Bindings) (functions : Functions) quoted,
      evaluate source bindings limits functions = .error (.numeric (.unreadable quoted)) →
        ∃ name f x site, functions.find? name = some f ∧ f x site = .error (.numeric (.unreadable quoted)) := by
  refine ⟨?_, fun tokens output => numbers_of_parse, ?_, fun bindings functions quoted => function_of_unreadable⟩
  · intro tokens h t ht hk
    exact isReadAs_of_isWhole (scan_isWhole (scan_of_tokenize h) t ht hk)
  · intro output h t ht hk
    obtain ⟨l, x, hread⟩ := isReadAs_of_isWhole (parse_isWhole h t ht hk)
    exact ⟨l, x, hread, hread.step hk⟩

/-- A number may be too large for a float, and may be written in any script. -/
theorem numbers_readable_of_overflow :
    parse "1e400*٣.5" {} = .ok [⟨.number, "1e400", 0⟩, ⟨.number, "٣.5", 6⟩, ⟨.star, "*", 5⟩] ∧
      (∃ l x, Token.IsReadAs ⟨.number, "1e400", 0⟩ l x ∧ x.isInf = true) ∧
      ∃ l x, Token.IsReadAs ⟨.number, "٣.5", 6⟩ l x ∧ x = Binary64.nearest (35 * 10 ^ (-1 : ℤ)) := by
  have hparse : parse "1e400*٣.5" {} =
      .ok [⟨.number, "1e400", 0⟩, ⟨.number, "٣.5", 6⟩, ⟨.star, "*", 5⟩] := eq_ok_of_toOption (by decide +kernel)
  have hnumbers := (numbers_readable "1e400*٣.5" {}).2.2.1 _ hparse
  obtain ⟨l, x, hlarge, -⟩ := hnumbers ⟨.number, "1e400", 0⟩ (by simp) rfl
  obtain ⟨m, y, hshort, -⟩ := hnumbers ⟨.number, "٣.5", 6⟩ (by simp) rfl
  refine ⟨hparse, ⟨l, x, hlarge, hlarge.isInf_iff.mpr ?_⟩, m, y, hshort, ?_⟩
  · have hl : l = ⟨['1'], [], 400⟩ := hlarge.eq_of_take (by decide +kernel)
    have hlimit : Binary64.integerLimit ≤ 10 ^ 400 := by decide +kernel
    rw [hl]
    calc (Binary64.integerLimit : ℚ) ≤ (10 ^ 400 : ℕ) := Nat.cast_le.mpr hlimit
      _ = 10 ^ (400 : ℤ) := (Nat.cast_pow 10 400).trans (zpow_natCast ((10 : ℕ) : ℚ) 400).symm
      _ = (⟨['1'], [], 400⟩ : Literal).rational := (one_mul _).symm
  · have hm : m = ⟨['٣'], ['5'], 0⟩ := hshort.eq_of_take (by decide +kernel)
    rw [hshort.nearest, hm, Literal.rational, show Text.digitsValue (['٣'] ++ ['5']) = 35 by decide +kernel]
    rfl

end Formula

end Formwork
