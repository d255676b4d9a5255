/-
  Formwork.Proofs.Formula.Lexing: what the scanner does, said without the scanner.

  A word that is no operator goes on as long as it can: up to a blank, an operator, a comma or the end
  of the text, but over a sign that a number takes into its exponent (`IsRun`). The words of a text are
  such runs and operators with blanks between (`Lexed`), and the scanner finds exactly these
  (`scan_eq_ok`). Whatever a run goes on with is no comma, so the scanner comes to the first comma of a
  text wherever it starts, and passes none (`scan_eq_error`).

  - `tokenize_outcome`: the length of a formula is looked at first, then its commas, then the number of
    its words; no other error comes up.
-/

import Formwork.Proofs.Formula.Scan

namespace Formwork.Formula

/-! ## Words -/

/-- Behind `run` and before `rest`, `c` belongs to the word: it ends no word, or it is the sign between
the exponent mark of a number and a digit. -/
def GoesOn (run : List Char) (c : Char) (rest : List Char) : Prop :=
  endsRun c = false ∨
    ((c = '+' ∨ c = '-') ∧ Literal.isOpen run = true ∧ ∃ d after, rest = d :: after ∧ d.isDigit = true)

/-- Before `rest`, the word that starts with `run` goes on with `more` and no further. -/
def GoesOnWith (run more rest : List Char) : Prop :=
  (∀ before c after, more = before ++ c :: after → GoesOn (run ++ before) c (after ++ rest)) ∧
  ∀ c after, rest = c :: after → ¬ GoesOn (run ++ more) c after

/-- Before `rest`, `run` is a word that is no operator. -/
def IsRun (run rest : List Char) : Prop :=
  ∃ c more, run = c :: more ∧ endsRun c = false ∧ GoesOnWith [c] more rest

/-- From column `n` on, the characters are blanks and the words that the tokens stand for. -/
inductive Lexed : Nat → List Char → List Token → Prop
  | done {n} : Lexed n [] []
  | blank {n c cs tokens} : Text.isBlank c = true → Lexed (n + 1) cs tokens → Lexed n (c :: cs) tokens
  | operator {n c kind cs tokens} : operator? c = some kind → Lexed (n + 1) cs tokens →
      Lexed n (c :: cs) (⟨kind, String.singleton c, n⟩ :: tokens)
  | run {n run cs tokens} : IsRun run cs → Lexed (n + run.length) cs tokens →
      Lexed n (run ++ cs) (Token.ofRun run n :: tokens)

variable {source : String} {n p q : Nat} {c : Char} {run more cs rest : List Char} {tokens : List Token} {e : FormulaError}

theorem GoesOn.ne_comma (h : GoesOn run c rest) : c ≠ ',' := by
  rcases h with h | ⟨rfl | rfl, -⟩
  · exact (endsRun_eq_false.mp h).2.2
  · decide
  · decide

theorem takeRun_of_goesOn (h : GoesOn run c rest) : takeRun run (c :: rest) = takeRun (run ++ [c]) rest := by
  rcases h with h | h
  · exact takeRun_cons h
  · rw [takeRun, if_pos (continuesNumber_iff.mpr h)]

theorem takeRun_of_not_goesOn (h : ¬ GoesOn run c rest) : takeRun run (c :: rest) = (run, c :: rest) := by
  rw [GoesOn, ← continuesNumber_iff, not_or] at h
  rw [takeRun, if_neg h.2, if_pos (by simpa using h.1)]

theorem GoesOnWith.cons (h : GoesOn run c (more ++ rest)) (hmore : GoesOnWith (run ++ [c]) more rest) :
    GoesOnWith run (c :: more) rest := by
  obtain ⟨hgoes, hstops⟩ := hmore
  constructor
  · intro before d after hsplit
    cases before with
    | nil =>
      cases hsplit
      rwa [List.append_nil]
    | cons b before =>
      cases hsplit
      simpa using hgoes before d after rfl
  · simpa using hstops

/-- What the scanner takes is how far the word goes. -/
theorem takeRun_goesOnWith (run cs : List Char) :
    ∃ more, (takeRun run cs).1 = run ++ more ∧ cs = more ++ (takeRun run cs).2 ∧ GoesOnWith run more (takeRun run cs).2 := by
  induction cs generalizing run with
  | nil => exact ⟨[], by simp [takeRun], by simp [takeRun], by simp [GoesOnWith, takeRun]⟩
  | cons c cs ih =>
    by_cases h : GoesOn run c cs
    · obtain ⟨more, hrun, hrest, hgoes⟩ := ih (run ++ [c])
      rw [takeRun_of_goesOn h]
      rw [hrest] at h
      exact ⟨c :: more, by simpa using hrun, by rw [List.cons_append, ← hrest], .cons h hgoes⟩
    · rw [takeRun_of_not_goesOn h]
      refine ⟨[], by simp, rfl, by simp, ?_⟩
      rintro d after hd
      cases hd
      rwa [List.append_nil]

/-- And no word goes any other way. -/
theorem takeRun_of_goesOnWith (h : GoesOnWith run more rest) : takeRun run (more ++ rest) = (run ++ more, rest) := by
  induction more generalizing run with
  | nil =>
    rw [List.append_nil, List.nil_append]
    cases rest with
    | nil => rfl
    | cons c after => exact takeRun_of_not_goesOn (by simpa using h.2 c after rfl)
  | cons c more ih =>
    obtain ⟨hgoes, hstops⟩ := h
    have hfirst : GoesOn run c (more ++ rest) := by simpa using hgoes [] c more rfl
    have hlater : GoesOnWith (run ++ [c]) more rest := by
      refine ⟨fun before d after hsplit => ?_, by simpa using hstops⟩
      have hd := hgoes (c :: before) d after (by rw [hsplit, List.cons_append])
      simpa using hd
    rw [List.cons_append, takeRun_of_goesOn hfirst, ih hlater, List.append_assoc, List.singleton_append]

theorem isRun_takeRun (h : endsRun c = false) (rest : List Char) : IsRun (takeRun [c] rest).1 (takeRun [c] rest).2 := by
  obtain ⟨more, hrun, -, hgoes⟩ := takeRun_goesOnWith [c] rest
  exact ⟨c, more, hrun, h, hgoes⟩

/-- No comma gets into a word. -/
theorem IsRun.comma_not_mem (h : IsRun run rest) : ',' ∉ run := by
  obtain ⟨c, more, rfl, hc, hgoes, -⟩ := h
  rintro (_ | ⟨_, hmem⟩)
  · cases hc
  · obtain ⟨before, after, rfl⟩ := List.append_of_mem hmem
    exact (hgoes before ',' after rfl).ne_comma rfl

/-! ## Texts -/

theorem scan_of_isRun (h : IsRun run rest) :
    scan source n (run ++ rest) = (do return Token.ofRun run n :: (← scan source (n + run.length) rest)) := by
  obtain ⟨c, more, rfl, hc, hgoes⟩ := h
  have htake : takeRun [c] (more ++ rest) = (c :: more, rest) := takeRun_of_goesOnWith hgoes
  rw [List.cons_append, scan_of_run hc, htake]

/-- The scanner finds the words of a text. -/
theorem lexed_of_scan : scan source n cs = .ok tokens → Lexed n cs tokens := by
  fun_induction scan source n cs generalizing tokens with
  | case1 =>
    intro h
    cases h
    exact .done
  | case2 _ _ _ hblank ih => exact fun h => .blank hblank (ih h)
  | case3 _ _ _ _ _ hkind ih =>
    intro h
    obtain ⟨later, hlater, h⟩ := bind_eq_ok.mp h
    cases h
    exact .operator hkind (ih hlater)
  | case4 =>
    intro h
    cases h
  | case5 n c rest hblank hoperator hcomma =>
    rename_i ih
    intro h
    obtain ⟨later, hlater, h⟩ := bind_eq_ok.mp h
    cases h
    have hgoes : endsRun c = false := endsRun_eq_false.mpr ⟨by simpa using hblank, hoperator, by simpa using hcomma⟩
    rw [← takeRun_split c rest]
    exact .run (isRun_takeRun hgoes rest) (ih hlater)

theorem scan_eq_ok : scan source n cs = .ok tokens ↔ Lexed n cs tokens := by
  refine ⟨lexed_of_scan, fun h => ?_⟩
  induction h with
  | done => exact scan_nil
  | blank hblank _ ih => rw [scan_of_isBlank hblank, ih]
  | operator hkind _ ih =>
    rw [scan_of_operator hkind, ih]
    rfl
  | run hrun _ ih =>
    rw [scan_of_isRun hrun, ih]
    rfl

theorem Lexed.comma_not_mem (h : Lexed n cs tokens) : ',' ∉ cs := by
  induction h with
  | done => exact List.not_mem_nil
  | blank hblank _ ih =>
    rintro (_ | ⟨_, hmem⟩)
    · cases hblank
    · exact ih hmem
  | operator hkind _ ih =>
    rintro (_ | ⟨_, hmem⟩)
    · exact (operator?_plain hkind).2 rfl
    · exact ih hmem
  | run hrun _ ih => exact fun hmem => (List.mem_append.mp hmem).elim hrun.comma_not_mem ih

theorem FirstComma.mem (h : FirstComma n cs p) : ',' ∈ cs := by
  obtain ⟨before, after, rfl, -⟩ := h
  exact List.mem_append_right _ List.mem_cons_self

theorem exists_firstComma (h : ',' ∈ cs) (n : Nat) : ∃ p, FirstComma n cs p := by
  obtain ⟨before, after, hsplit, hfirst⟩ := List.eq_append_cons_of_mem h
  exact ⟨_, before, after, hsplit, hfirst, rfl⟩

theorem FirstComma.eq_idxOf (h : FirstComma n cs p) : p = n + cs.idxOf ',' := by
  obtain ⟨before, after, rfl, hfirst, rfl⟩ := h
  rw [List.idxOf_append_of_notMem hfirst, List.idxOf_cons_self, Nat.add_zero]

/-- The scanner fails at the first comma, wherever it starts. -/
theorem scan_eq_error : scan source n cs = .error e ↔ ∃ p, FirstComma n cs p ∧ e = .located .comma p source := by
  refine ⟨scan_error, ?_⟩
  rintro ⟨p, hp, rfl⟩
  cases h : scan source n cs with
  | ok tokens => exact absurd hp.mem (scan_eq_ok.mp h).comma_not_mem
  | error e =>
    obtain ⟨q, hq, rfl⟩ := scan_error h
    rw [hp.eq_idxOf, hq.eq_idxOf]

/-- Without a comma it comes to the end. -/
theorem exists_lexed (h : ',' ∉ cs) (n : Nat) : ∃ tokens, Lexed n cs tokens := by
  cases hscan : scan "" n cs with
  | ok tokens => exact ⟨tokens, scan_eq_ok.mp hscan⟩
  | error e =>
    obtain ⟨p, hp, -⟩ := scan_error hscan
    exact absurd hp.mem h

/-! ## Formulas -/

inductive Tokenized (source : String) (limits : Limits) : Except FormulaError (List Token) → Prop
  | tooLong : limits.length < source.length →
      Tokenized source limits (.error ⟨.exceeds .length limits.length source.length, none⟩)
  | comma {p : Nat} : source.length ≤ limits.length → FirstComma 0 source.toList p →
      Tokenized source limits (.error (.located .comma p source))
  | tooMany {tokens : List Token} : source.length ≤ limits.length → ',' ∉ source.toList → Lexed 0 source.toList tokens →
      limits.tokens < tokens.length →
      Tokenized source limits (.error ⟨.exceeds .tokens limits.tokens tokens.length, none⟩)
  | tokens {tokens : List Token} : source.length ≤ limits.length → ',' ∉ source.toList → Lexed 0 source.toList tokens →
      tokens.length ≤ limits.tokens → Tokenized source limits (.ok tokens)

variable {limits : Limits} {outcome : Except FormulaError (List Token)}

theorem Tokenized.tokenize_eq (h : Tokenized source limits outcome) : tokenize source limits = outcome := by
  rw [tokenize]
  cases h with
  | tooLong hlength =>
    rw [check_eq_error.mpr ⟨hlength, rfl⟩]
    rfl
  | comma hlength hp =>
    rw [check_eq_ok.mpr hlength, ok_bind, scan_eq_error.mpr ⟨_, hp, rfl⟩]
    rfl
  | tooMany hlength _ hlexed hcount =>
    rw [check_eq_ok.mpr hlength, ok_bind, scan_eq_ok.mpr hlexed, ok_bind, check_eq_error.mpr ⟨hcount, rfl⟩]
    rfl
  | tokens hlength _ hlexed hcount =>
    rw [check_eq_ok.mpr hlength, ok_bind, scan_eq_ok.mpr hlexed, ok_bind, check_eq_ok.mpr hcount]
    rfl

/-- Something comes of every formula. -/
theorem exists_tokenized (source : String) (limits : Limits) : ∃ outcome, Tokenized source limits outcome := by
  by_cases hlength : limits.length < source.length
  · exact ⟨_, .tooLong hlength⟩
  rw [Int.not_lt] at hlength
  by_cases hcomma : ',' ∈ source.toList
  · obtain ⟨p, hp⟩ := exists_firstComma hcomma 0
    exact ⟨_, .comma hlength hp⟩
  obtain ⟨tokens, hlexed⟩ := exists_lexed hcomma 0
  by_cases hcount : limits.tokens < tokens.length
  · exact ⟨_, .tooMany hlength hcomma hlexed hcount⟩
  · exact ⟨_, .tokens hlength hcomma hlexed (Int.not_lt.mp hcount)⟩

/-- The length of a formula is looked at first, then its commas, and then the number of its words; this
decides what comes of it. Whatever word the scanner takes, it takes no comma. -/
theorem tokenize_outcome (source : String) (limits : Limits) :
    (∀ outcome, tokenize source limits = outcome ↔ Tokenized source limits outcome) ∧
    ∀ c rest, endsRun c = false → ',' ∉ (takeRun [c] rest).1 := by
  refine ⟨fun outcome => ⟨?_, Tokenized.tokenize_eq⟩, fun c rest h => (isRun_takeRun h rest).comma_not_mem⟩
  rintro rfl
  obtain ⟨outcome, houtcome⟩ := exists_tokenized source limits
  rwa [houtcome.tokenize_eq]

/-- A sign that no digit follows is no part of a number, so the comma behind it is found. -/
theorem tokenize_separated :
    tokenize "min(1e-, 2)" {} = .error (.located .comma 7 "min(1e-, 2)") ∧ ',' ∉ (takeRun ['1'] "e-, 2)".toList).1 :=
  ⟨((tokenize_outcome "min(1e-, 2)" {}).1 _).mpr (.comma (by decide) ⟨"min(1e-".toList, " 2)".toList, by decide⟩),
    (tokenize_outcome "min(1e-, 2)" {}).2 '1' _ (by decide)⟩

end Formwork.Formula
