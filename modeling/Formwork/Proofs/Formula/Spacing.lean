/-
  Formwork.Proofs.Formula.Spacing: blanks between the words of a formula may be put in at will.

  A blank cuts every run, and what has been taken as one run is taken as one run again: the sign
  in a number is followed by a digit, which the run has taken as well, so the sign finds it there
  again whatever comes behind the run (`takeRun_again`). Hence the words of a formula, written one
  after another with blanks in all gaps, are scanned to the same words (`scan_spaced`), wherever
  each of them then stands.

  - `spacing_irrelevant`: so the formula has the same words, the same postfix order and the same
    value, or fails for the same cause.
-/

import Formwork.Proofs.Formula.Tiling
import Formwork.Proofs.Formula.Unplaced

namespace Formwork.Formula

/-! ## Runs that are taken again -/

/-- Ends every run: nothing is left, or a blank comes next. -/
def Cuts (rest : List Char) : Prop := ∀ c ∈ rest.head?, Text.isBlank c = true

theorem not_blank_of_sign {c : Char} (h : c = '+' ∨ c = '-') : Text.isBlank c = false := by
  rcases h with rfl | rfl <;> rfl

theorem takeRun_of_cuts {rest : List Char} (h : Cuts rest) (run : List Char) : takeRun run rest = (run, rest) := by
  cases rest with
  | nil => rfl
  | cons c rest =>
    have hblank : Text.isBlank c = true := h c rfl
    have hsign : continuesNumber run c rest = false := by
      rw [Bool.eq_false_iff, ne_eq, continuesNumber_iff]
      rintro ⟨hc, -⟩
      rw [not_blank_of_sign hc] at hblank
      cases hblank
    rw [takeRun, hsign, endsRun, hblank]
    rfl

/-- A run is taken again when nothing that could go on follows it. -/
theorem takeRun_again {cs rest : List Char} (hrest : Cuts rest) : ∀ {run more : List Char},
    (takeRun run cs).1 = run ++ more → takeRun run (more ++ rest) = (run ++ more, rest) := by
  induction cs with
  | nil =>
    intro run more h
    obtain rfl : more = [] := by simpa [takeRun] using h
    simpa using takeRun_of_cuts hrest run
  | cons c tail ih =>
    intro run more h
    -- whatever is taken after `c`, it is taken again by the hypothesis of the induction
    have hnext : (takeRun (run ++ [c]) tail).1 = run ++ more →
        ∃ after, more = c :: after ∧ takeRun (run ++ [c]) (after ++ rest) = (run ++ more, rest) := by
      intro h
      obtain ⟨after, hafter, -⟩ := takeRun_append (run ++ [c]) tail
      obtain rfl : more = c :: after := by rw [hafter, List.append_assoc] at h; exact (List.append_cancel_left h).symm
      exact ⟨after, rfl, by rw [ih hafter, List.append_assoc]; rfl⟩
    by_cases hsign : continuesNumber run c tail = true
    · obtain ⟨hc, hopen, d, tail', rfl, hd⟩ := continuesNumber_iff.mp hsign
      rw [takeRun, if_pos hsign] at h
      obtain ⟨after, rfl, hagain⟩ := hnext h
      -- the digit behind the sign is part of the run
      obtain ⟨last, hlast, -⟩ := takeRun_append (run ++ [c] ++ [d]) tail'
      rw [takeRun_cons (endsRun_of_isDigit (Text.isDigit_of_ascii hd)), hlast] at h
      obtain rfl : after = d :: last := by simpa using h.symm
      have hsign' : continuesNumber run c (d :: last ++ rest) = true :=
        continuesNumber_iff.mpr ⟨hc, hopen, d, last ++ rest, rfl, hd⟩
      rw [List.cons_append, takeRun, if_pos hsign', hagain]
    · rw [takeRun, if_neg hsign] at h
      cases hends : endsRun c with
      | true =>
        rw [hends, if_pos rfl] at h
        obtain rfl : more = [] := by simpa using h
        simpa using takeRun_of_cuts hrest run
      | false =>
        rw [hends, if_neg Bool.false_ne_true] at h
        obtain ⟨after, rfl, hagain⟩ := hnext h
        rw [List.cons_append, takeRun_cons hends, hagain]

/-! ## Words that are read again -/

/-- Before a cut, the text of the token is scanned to the token, wherever it stands. -/
def Token.Rereads (t : Token) : Prop :=
  ∀ source position rest, Cuts rest → scan source position (t.text.toList ++ rest) =
    (do return ⟨t.kind, t.text, position⟩ :: (← scan source (position + t.text.length) rest))

theorem rereads_of_operator {c : Char} {kind : Kind} (h : operator? c = some kind) (position : Nat) :
    Token.Rereads ⟨kind, String.singleton c, position⟩ := by
  intro source position' rest _
  rw [String.toList_singleton, List.singleton_append, scan_of_operator h, String.length_singleton]

theorem rereads_ofRun {c : Char} (h : endsRun c = false) (cs : List Char) (position : Nat) :
    (Token.ofRun (takeRun [c] cs).1 position).Rereads := by
  intro source position' rest hrest
  obtain ⟨more, hrun, -⟩ := takeRun_append [c] cs
  rw [hrun, Token.ofRun, String.toList_ofList, List.append_assoc, List.singleton_append, scan_of_run h,
    takeRun_again hrest hrun, String.length_ofList]
  rfl

theorem scan_rereads {source : String} {position : Nat} {cs : List Char} {tokens : List Token}
    (h : scan source position cs = .ok tokens) : ∀ t ∈ tokens, t.Rereads :=
  scan_forall (fun _ _ position hkind => rereads_of_operator hkind position)
    (fun _ rest position hgoes => rereads_ofRun hgoes rest position) h

/-! ## Texts with the same words -/

/-- The texts of the tokens in their order, each with blanks behind it; only the last may go without. -/
inductive Spaced : List Token → List Char → Prop
  | nil : Spaced [] []
  | cons {t ts gap cs} : (∀ c ∈ gap, Text.isBlank c = true) → (ts ≠ [] → gap ≠ []) → Spaced ts cs →
      Spaced (t :: ts) (t.text.toList ++ (gap ++ cs))

theorem scan_blanks {source : String} {gap : List Char} (h : ∀ c ∈ gap, Text.isBlank c = true) (position : Nat)
    (cs : List Char) : scan source position (gap ++ cs) = scan source (position + gap.length) cs := by
  induction gap generalizing position with
  | nil => rfl
  | cons c gap ih =>
    obtain ⟨hc, hgap⟩ := List.forall_mem_cons.mp h
    rw [List.cons_append, scan_of_isBlank hc, ih hgap, List.length_cons, Nat.add_assoc, Nat.add_comm 1]

theorem Spaced.cuts {ts : List Token} {gap cs : List Char} (hgap : ∀ c ∈ gap, Text.isBlank c = true)
    (hsep : ts ≠ [] → gap ≠ []) (h : Spaced ts cs) : Cuts (gap ++ cs) := by
  cases gap with
  | nil =>
    cases h with
    | nil => exact fun _ hc => nomatch hc
    | cons => exact absurd rfl (hsep (by simp))
  | cons c gap =>
    rintro d ⟨⟩
    exact hgap c List.mem_cons_self

/-- Words with blanks between them are scanned to the same words. -/
theorem scan_spaced {tokens : List Token} {cs : List Char} (h : Spaced tokens cs) (hwords : ∀ t ∈ tokens, t.Rereads)
    (source : String) : ∀ position, ∃ tokens', scan source position cs = .ok tokens' ∧
      tokens'.map Token.unplaced = tokens.map Token.unplaced := by
  induction h with
  | nil => exact fun _ => ⟨[], scan_nil, rfl⟩
  | @cons t ts gap cs hgap hsep hrest ih =>
    intro position
    obtain ⟨hword, hwords⟩ := List.forall_mem_cons.mp hwords
    obtain ⟨tokens', hscan, hsame⟩ := ih hwords (position + t.text.length + gap.length)
    refine ⟨⟨t.kind, t.text, position⟩ :: tokens', ?_, by rw [List.map_cons, List.map_cons, hsame]; rfl⟩
    rw [hword source position _ (Spaced.cuts hgap hsep hrest), scan_blanks hgap, hscan]
    rfl

section

variable {source : String} {limits : Limits} {tokens : List Token} {before cs : List Char}

theorem tokenize_spaced (h : tokenize source limits = .ok tokens) (hbefore : ∀ c ∈ before, Text.isBlank c = true)
    (hcs : Spaced tokens cs) (hlength : ((before ++ cs).length : Int) ≤ limits.length) :
    ∃ tokens', tokenize (String.ofList (before ++ cs)) limits = .ok tokens' ∧
      tokens'.map Token.unplaced = tokens.map Token.unplaced := by
  obtain ⟨-, hscan, hcount⟩ := tokenize_eq_ok.mp h
  obtain ⟨tokens', hscan', hsame⟩ := scan_spaced hcs (scan_rereads hscan) (String.ofList (before ++ cs)) before.length
  refine ⟨tokens', tokenize_eq_ok.mpr ⟨by rwa [String.length_ofList], ?_, ?_⟩, hsame⟩
  · rw [String.toList_ofList, scan_blanks hbefore, Nat.zero_add, hscan']
  · have hlengths := congrArg List.length hsame
    rw [List.length_map, List.length_map] at hlengths
    rwa [hlengths]

/-- Blanks between the words of a formula are of no account, as long as there are some in every gap: the
words stay the same, and so does what they come to, in postfix order and as a value, or the cause
why they come to nothing. -/
theorem spacing_irrelevant (h : tokenize source limits = .ok tokens) (hbefore : ∀ c ∈ before, Text.isBlank c = true)
    (hcs : Spaced tokens cs) (hlength : ((before ++ cs).length : Int) ≤ limits.length) :
    (∃ tokens', tokenize (String.ofList (before ++ cs)) limits = .ok tokens' ∧
      tokens'.map Token.unplaced = tokens.map Token.unplaced) ∧
    bimap (List.map Token.unplaced) FormulaError.unplaced (parse (String.ofList (before ++ cs)) limits) =
      bimap (List.map Token.unplaced) FormulaError.unplaced (parse source limits) ∧
    ∀ bindings, bimap id Failure.unplaced (evaluate (String.ofList (before ++ cs)) bindings limits []) =
      bimap id Failure.unplaced (evaluate source bindings limits []) := by
  obtain ⟨tokens', h', hsame⟩ := tokenize_spaced h hbefore hcs hlength
  have hparse : bimap (List.map Token.unplaced) FormulaError.unplaced (parse (String.ofList (before ++ cs)) limits) =
      bimap (List.map Token.unplaced) FormulaError.unplaced (parse source limits) := by
    rw [parse, parse, h, h', ok_bind, ok_bind]
    exact toPostfix_unplaced hsame
  exact ⟨⟨tokens', h', hsame⟩, hparse, evaluate_unplaced builtins_blind hparse⟩

/-- A sign with a blank in front of it, so that it is no part of a number, stays one when more blanks come in. -/
theorem sign_stays_apart :
    ∃ tokens, tokenize "2e +5" {} = .ok tokens ∧ tokens.map Token.text = ["2e", "+", "5"] ∧
      Spaced tokens "2e + 5 ".toList ∧
      bimap id Failure.unplaced (evaluate "\t2e + 5 " [("2e", .int 1)] {} []) =
        bimap id Failure.unplaced (evaluate "2e +5" [("2e", .int 1)] {} []) := by
  have h : tokenize "2e +5" {} = .ok [⟨.name, "2e", 0⟩, ⟨.plus, "+", 3⟩, ⟨.number, "5", 4⟩] :=
    eq_ok_of_toOption (by decide +kernel)
  have hspace : ∀ c ∈ [' '], Text.isBlank c = true := List.forall_mem_singleton.mpr rfl
  have htab : ∀ c ∈ ['\t'], Text.isBlank c = true := List.forall_mem_singleton.mpr rfl
  have hspaced : Spaced [⟨.name, "2e", 0⟩, ⟨.plus, "+", 3⟩, ⟨.number, "5", 4⟩] "2e + 5 ".toList :=
    @Spaced.cons ⟨.name, "2e", 0⟩ _ [' '] _ hspace (by simp) <|
      @Spaced.cons ⟨.plus, "+", 3⟩ _ [' '] _ hspace (by simp) <|
        @Spaced.cons ⟨.number, "5", 4⟩ _ [' '] _ hspace (by simp) .nil
  exact ⟨_, h, rfl, hspaced, (@spacing_irrelevant _ _ _ ['\t'] _ h htab hspaced (by decide)).2.2 _⟩

end

end Formwork.Formula
