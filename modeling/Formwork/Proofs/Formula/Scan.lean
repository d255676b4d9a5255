/-
  Formwork.Proofs.Formula.Scan: what the scanner makes of a text.

  A word of one character is never empty, and neither is a run: it starts with the character
  that is no blank, no operator and no comma, and only grows. So every token says something. No
  blank ever gets into a run, so a run that is a number is a literal and nothing else.
  The scanner itself refuses nothing but the first comma; the bounds on a formula are checked before
  and after it.
-/

import Formwork.Formula.Token
import Formwork.Proofs.Bind
import Formwork.Proofs.Number.Literal

namespace Formwork.Formula

theorem continuesNumber_iff {run rest : List Char} {c : Char} : continuesNumber run c rest = true ↔
    (c = '+' ∨ c = '-') ∧ Literal.isOpen run = true ∧ ∃ d after, rest = d :: after ∧ d.isDigit = true := by
  cases rest <;> simp [continuesNumber, and_assoc]

/-- What ends no run is taken. -/
theorem takeRun_cons {run rest : List Char} {c : Char} (h : endsRun c = false) :
    takeRun run (c :: rest) = takeRun (run ++ [c]) rest := by
  rw [takeRun, h]
  split <;> rfl

theorem takeRun_ne_nil {run cs : List Char} (h : run ≠ []) : (takeRun run cs).1 ≠ [] := by
  induction cs generalizing run with
  | nil => exact h
  | cons c rest ih =>
    unfold takeRun
    split
    · exact ih (by simp)
    · split
      · exact h
      · exact ih (by simp)

/-- A run is what it began with and more of the text; the rest of the text is left. -/
theorem takeRun_append (run cs : List Char) :
    ∃ more, (takeRun run cs).1 = run ++ more ∧ cs = more ++ (takeRun run cs).2 := by
  induction cs generalizing run with
  | nil => exact ⟨[], by simp [takeRun]⟩
  | cons c rest ih =>
    obtain ⟨more, hrun, hrest⟩ := ih (run ++ [c])
    have hgrown : (takeRun (run ++ [c]) rest).1 = run ++ (c :: more) := by simpa using hrun
    unfold takeRun
    split
    · exact ⟨c :: more, hgrown, by rw [List.cons_append, ← hrest]⟩
    · split
      · exact ⟨[], by simp⟩
      · exact ⟨c :: more, hgrown, by rw [List.cons_append, ← hrest]⟩

/-- A run and what it leaves are the text. -/
theorem takeRun_split (c : Char) (cs : List Char) : (takeRun [c] cs).1 ++ (takeRun [c] cs).2 = c :: cs := by
  obtain ⟨more, hrun, hrest⟩ := takeRun_append [c] cs
  rw [hrun, List.append_assoc, ← hrest, List.singleton_append]

/-- What holds of both signs and of every character that ends no run is kept by a run that grows. -/
theorem takeRun_forall {Good : Char → Prop} (hplus : Good '+') (hminus : Good '-')
    (hgoes : ∀ c, endsRun c = false → Good c) {run cs : List Char} (h : ∀ c ∈ run, Good c) :
    ∀ c ∈ (takeRun run cs).1, Good c := by
  have hsnoc : ∀ {run : List Char} {c : Char}, (∀ d ∈ run, Good d) → Good c → ∀ d ∈ run ++ [c], Good d := by
    intro run c hrun hc d hd
    rcases List.mem_append.mp hd with hd | hd
    · exact hrun d hd
    · rwa [List.mem_singleton.mp hd]
  induction cs generalizing run with
  | nil => exact h
  | cons c rest ih =>
    unfold takeRun
    split
    · -- a sign that continues a number
      rename_i hsign
      simp only [continuesNumber, Bool.and_eq_true, Bool.or_eq_true, beq_iff_eq] at hsign
      rcases hsign.1.1 with rfl | rfl
      · exact ih (hsnoc h hplus)
      · exact ih (hsnoc h hminus)
    · split
      · exact h
      · rename_i hgo
        exact ih (hsnoc h (hgoes c (by simpa using hgo)))

theorem endsRun_eq_false {c : Char} :
    endsRun c = false ↔ Text.isBlank c = false ∧ operator? c = none ∧ c ≠ ',' := by
  simp [endsRun, and_assoc]

/-- No blank and no comma gets into a run. -/
theorem takeRun_plain {run cs : List Char} (h : ∀ c ∈ run, Text.isBlank c = false ∧ c ≠ ',') :
    ∀ c ∈ (takeRun run cs).1, Text.isBlank c = false ∧ c ≠ ',' :=
  takeRun_forall (by decide) (by decide)
    (fun _ hc => ⟨(endsRun_eq_false.mp hc).1, (endsRun_eq_false.mp hc).2.2⟩) h

theorem Token.ofRun_text_ne_empty {run : List Char} {position : Nat} (h : run ≠ []) :
    (Token.ofRun run position).text ≠ "" := by
  intro he
  exact h (String.ofList_eq_empty_iff.mp he)

def marks : List (Char × Kind) :=
  [('+', .plus), ('-', .minus), ('*', .star), ('/', .slash), ('%', .percent), ('^', .caret), ('(', .opening),
    (')', .closing)]

theorem mem_marks {c : Char} {kind : Kind} (h : operator? c = some kind) : (c, kind) ∈ marks := by
  unfold operator? at h
  repeat' split at h
  all_goals cases h
  all_goals rename_i hc
  all_goals rw [beq_iff_eq.mp hc]
  all_goals decide

theorem operator?_kind {c : Char} {kind : Kind} (h : operator? c = some kind) :
    kind ≠ .number ∧ kind ≠ .name ∧ kind ≠ .function ∧ kind ≠ .negate := by
  have hkinds : ∀ mark ∈ marks, mark.2 ≠ .number ∧ mark.2 ≠ .name ∧ mark.2 ≠ .function ∧ mark.2 ≠ .negate := by
    decide
  exact hkinds (c, kind) (mem_marks h)

/-- Digits of all scripts end no run. -/
theorem endsRun_of_isDigit {d : Char} (h : Text.isDigit d = true) : endsRun d = false := by
  refine endsRun_eq_false.mpr ⟨(Text.apart_of_isDigit h).1, ?_, ?_⟩
  · have hmarks : ∀ mark ∈ marks, Text.isDigit mark.1 = false := by decide
    refine Option.eq_none_iff_forall_ne_some.mpr fun kind hkind => ?_
    rw [hmarks (d, kind) (mem_marks hkind)] at h
    cases h
  · rintro rfl
    cases h

theorem operator?_plain {c : Char} {kind : Kind} (h : operator? c = some kind) :
    Text.isBlank c = false ∧ c ≠ ',' := by
  have hmarks : ∀ mark ∈ marks, Text.isBlank mark.1 = false ∧ mark.1 ≠ ',' := by decide
  exact hmarks (c, kind) (mem_marks h)

section

variable {source : String} {position : Nat} {c : Char} {rest : List Char}

theorem scan_nil : scan source position [] = .ok [] := by
  unfold scan; rfl

theorem scan_of_isBlank (h : Text.isBlank c = true) :
    scan source position (c :: rest) = scan source (position + 1) rest := by
  conv => lhs; unfold scan
  simp only [h, if_true]

theorem scan_of_operator {kind : Kind} (h : operator? c = some kind) :
    scan source position (c :: rest) =
      (do return ⟨kind, String.singleton c, position⟩ :: (← scan source (position + 1) rest)) := by
  conv => lhs; unfold scan
  simp only [(operator?_plain h).1, h, Bool.false_eq_true, if_false]

theorem scan_of_run (h : endsRun c = false) :
    scan source position (c :: rest) =
      (do return Token.ofRun (takeRun [c] rest).1 position ::
        (← scan source (position + (takeRun [c] rest).1.length) (takeRun [c] rest).2)) := by
  obtain ⟨hblank, hoperator, hcomma⟩ := endsRun_eq_false.mp h
  conv => lhs; unfold scan
  simp only [hblank, hoperator, beq_eq_false_iff_ne.mpr hcomma, Bool.false_eq_true, if_false]

end

/-- What holds of the words of one character and of the runs holds of all tokens. -/
theorem scan_forall {Good : Token → Prop} {source : String}
    (hoperator : ∀ c kind position, operator? c = some kind → Good ⟨kind, String.singleton c, position⟩)
    (hrun : ∀ c rest position, endsRun c = false → Good (Token.ofRun (takeRun [c] rest).1 position))
    {position : Nat} {cs : List Char} :
    ∀ {tokens : List Token}, scan source position cs = .ok tokens → ∀ t ∈ tokens, Good t := by
  fun_induction scan source position cs with
  | case1 =>
    intro tokens h
    cases h
    simp
  | case2 _ _ _ _ ih => exact ih
  | case3 position c rest _ kind hkind ih =>
    intro tokens h
    obtain ⟨later, hl, ht⟩ := bind_eq_ok.mp h
    cases ht
    rintro t (_ | ⟨_, ht⟩)
    · exact hoperator c kind position hkind
    · exact ih hl t ht
  | case4 => intro tokens h; cases h
  | case5 position c rest hblank hoperator hcomma =>
    rename_i ih
    intro tokens h
    obtain ⟨later, hl, ht⟩ := bind_eq_ok.mp h
    cases ht
    rintro t (_ | ⟨_, ht⟩)
    · exact hrun c rest position (endsRun_eq_false.mpr ⟨by simpa using hblank, hoperator, by simpa using hcomma⟩)
    · exact ih hl t ht

/-- Every token has a text. -/
theorem scan_text_ne_empty {source : String} {position : Nat} {cs : List Char} {tokens : List Token}
    (h : scan source position cs = .ok tokens) : ∀ t ∈ tokens, t.text ≠ "" :=
  scan_forall (fun c _ _ _ => by simp) (fun _ _ _ _ => Token.ofRun_text_ne_empty (takeRun_ne_nil (by simp))) h

/-- No token of a text is of a kind that only postfix order has. -/
theorem scan_kind {source : String} {position : Nat} {cs : List Char} {tokens : List Token}
    (h : scan source position cs = .ok tokens) : ∀ t ∈ tokens, t.kind ≠ .function ∧ t.kind ≠ .negate := by
  refine scan_forall (fun _ _ _ hkind => (operator?_kind hkind).2.2) (fun c rest position _ => ?_) h
  unfold Token.ofRun
  simp only
  split <;> decide

/-- A text without blanks holds no line feed, so none is taken from its end. -/
theorem isNumberLiteral_iff {s : String} (h : ∀ c ∈ s.toList, Text.isBlank c = false) :
    isNumberLiteral s = true ↔ Literal.isWhole s.toList = true := by
  have hline : dropFinalNewline s.toList = s.toList := by
    unfold dropFinalNewline
    split
    · rename_i hlast
      cases h '\n' (List.mem_of_getLast? (by simpa using hlast))
    · rfl
  rw [isNumberLiteral, hline, Bool.or_self]

/-- No token holds a blank. -/
theorem scan_unspaced {source : String} {position : Nat} {cs : List Char} {tokens : List Token}
    (h : scan source position cs = .ok tokens) : ∀ t ∈ tokens, ∀ c ∈ t.text.toList, Text.isBlank c = false := by
  refine scan_forall (fun c kind _ hkind => ?_) (fun c rest _ hgoes => ?_) h
  · simpa using (operator?_plain hkind).1
  · obtain ⟨hblank, -, hcomma⟩ := endsRun_eq_false.mp hgoes
    rw [Token.ofRun, String.toList_ofList]
    exact fun d hd => (takeRun_plain (by simpa using ⟨hblank, hcomma⟩) d hd).1

/-- The numbers among the tokens are those that the test of literals passes. -/
theorem scan_kind_iff {source : String} {position : Nat} {cs : List Char} {tokens : List Token}
    (h : scan source position cs = .ok tokens) : ∀ t ∈ tokens, t.kind = .number ↔ isNumberLiteral t.text = true := by
  refine scan_forall (fun c kind _ hkind => ?_) (fun c rest _ _ => ?_) h
  · have hmarks : ∀ mark ∈ marks, isNumberLiteral (String.singleton mark.1) = false := by decide
    refine iff_of_false (operator?_kind hkind).1 ?_
    rw [hmarks (c, kind) (mem_marks hkind)]
    exact Bool.false_ne_true
  · unfold Token.ofRun
    simp only
    split <;> simp [*]

/-- Every number is a literal. -/
theorem scan_isWhole {source : String} {position : Nat} {cs : List Char} {tokens : List Token}
    (h : scan source position cs = .ok tokens) : ∀ t ∈ tokens, t.kind = .number → Literal.isWhole t.text.toList = true :=
  fun t ht hk => (isNumberLiteral_iff (scan_unspaced h t ht)).mp ((scan_kind_iff h t ht).mp hk)

/-- Blanks hold no token. -/
theorem scan_of_blank {source : String} {position : Nat} {cs : List Char} :
    cs.all Text.isBlank = true → scan source position cs = .ok [] := by
  fun_induction scan source position cs with
  | case1 => exact fun _ => rfl
  | case2 position c rest hc ih =>
    intro h
    rw [List.all_cons, Bool.and_eq_true] at h
    exact ih h.2
  | case3 | case4 | case5 =>
    intro h
    simp_all

def FirstComma (n : Nat) (cs : List Char) (p : Nat) : Prop :=
  ∃ before after, cs = before ++ ',' :: after ∧ ',' ∉ before ∧ p = n + before.length

theorem FirstComma.append {n p : Nat} {skipped cs : List Char} (hskipped : ',' ∉ skipped)
    (h : FirstComma (n + skipped.length) cs p) : FirstComma n (skipped ++ cs) p := by
  obtain ⟨before, after, rfl, hfirst, rfl⟩ := h
  refine ⟨skipped ++ before, after, by rw [List.append_assoc], ?_, by rw [List.length_append, Nat.add_assoc]⟩
  exact fun hmem => (List.mem_append.mp hmem).elim hskipped hfirst

theorem FirstComma.cons {n p : Nat} {c : Char} {cs : List Char} (hc : c ≠ ',') (h : FirstComma (n + 1) cs p) :
    FirstComma n (c :: cs) p :=
  @FirstComma.append n p [c] cs (by simpa using hc.symm) h

/-- The scanner refuses the first comma and nothing else. -/
theorem scan_error {source : String} {position : Nat} {cs : List Char} {e : FormulaError} :
    scan source position cs = .error e → ∃ p, FirstComma position cs p ∧ e = .located .comma p source := by
  fun_induction scan source position cs with
  | case1 => intro h; cases h
  | case2 position c rest hblank ih =>
    intro h
    obtain ⟨p, hp, he⟩ := ih h
    exact ⟨p, .cons (by rintro rfl; cases hblank) hp, he⟩
  | case3 position c rest _ kind hkind ih =>
    intro h
    rcases bind_eq_error.mp h with h | ⟨_, -, h⟩
    · obtain ⟨p, hp, he⟩ := ih h
      exact ⟨p, .cons (operator?_plain hkind).2 hp, he⟩
    · cases h
  | case4 position c rest _ _ hcomma =>
    intro h
    cases h
    exact ⟨position, ⟨[], rest, by rw [beq_iff_eq.mp hcomma]; rfl, by simp, rfl⟩, rfl⟩
  | case5 position c rest hblank _ hcomma =>
    rename_i ih
    intro h
    rcases bind_eq_error.mp h with h | ⟨_, -, h⟩
    · obtain ⟨p, hp, he⟩ := ih h
      have hplain : ',' ∉ (takeRun [c] rest).1 := fun hmem =>
        (takeRun_plain (by simpa using ⟨by simpa using hblank, by simpa using hcomma⟩) _ hmem).2 rfl
      exact ⟨p, takeRun_split c rest ▸ .append hplain hp, he⟩
    · cases h

def Limits.Exceeded (limits : Limits) (e : FormulaError) : Prop :=
  ∃ bound actual, limits.allowed bound < actual ∧ e = ⟨.exceeds bound (limits.allowed bound) actual, none⟩

theorem check_eq_error {limits : Limits} {bound : Bound} {actual : Int} {e : FormulaError} :
    limits.check bound actual = .error e ↔
      limits.allowed bound < actual ∧ e = ⟨.exceeds bound (limits.allowed bound) actual, none⟩ := by
  unfold Limits.check
  split
  · rename_i hexceeded
    simp [hexceeded, eq_comm]
  · rename_i hwithin
    simp [hwithin]

theorem check_eq_ok {limits : Limits} {bound : Bound} {actual : Int} :
    limits.check bound actual = .ok () ↔ actual ≤ limits.allowed bound := by
  unfold Limits.check
  split <;> simp <;> omega

/-- The tokens of a formula are what the scanner makes of a text that is not too long, if they are not too many. -/
theorem tokenize_eq_ok {source : String} {limits : Limits} {tokens : List Token} :
    tokenize source limits = .ok tokens ↔
      (source.length : Int) ≤ limits.length ∧ scan source 0 source.toList = .ok tokens ∧
        (tokens.length : Int) ≤ limits.tokens := by
  constructor
  · intro h
    obtain ⟨_, hlength, h⟩ := bind_eq_ok.mp h
    obtain ⟨scanned, hscan, h⟩ := bind_eq_ok.mp h
    obtain ⟨_, hcount, h⟩ := bind_eq_ok.mp h
    cases h
    exact ⟨check_eq_ok.mp hlength, hscan, check_eq_ok.mp hcount⟩
  · rintro ⟨hlength, hscan, hcount⟩
    rw [tokenize, check_eq_ok.mpr hlength, ok_bind, hscan, ok_bind, check_eq_ok.mpr hcount, ok_bind]
    rfl

theorem scan_of_tokenize {source : String} {limits : Limits} {tokens : List Token}
    (h : tokenize source limits = .ok tokens) : scan source 0 source.toList = .ok tokens :=
  (tokenize_eq_ok.mp h).2.1

/-- A formula that has no tokens exceeds a bound, or holds a comma. -/
theorem tokenize_eq_error {source : String} {limits : Limits} {e : FormulaError}
    (h : tokenize source limits = .error e) :
    limits.Exceeded e ∨ ∃ p, FirstComma 0 source.toList p ∧ e = .located .comma p source := by
  rcases bind_eq_error.mp h with h | ⟨_, -, h⟩
  · exact Or.inl ⟨_, _, check_eq_error.mp h⟩
  · rcases bind_eq_error.mp h with h | ⟨_, -, h⟩
    · exact Or.inr (scan_error h)
    · rcases bind_eq_error.mp h with h | ⟨_, -, h⟩
      · exact Or.inl ⟨_, _, check_eq_error.mp h⟩
      · cases h

theorem tokenize_error {source : String} {limits : Limits} {e : FormulaError} (h : tokenize source limits = .error e) :
    e.cause.family = .lexical ∨ e.cause.family = .limit := by
  rcases tokenize_eq_error h with ⟨bound, actual, -, rfl⟩ | ⟨p, -, rfl⟩
  · exact Or.inr rfl
  · exact Or.inl rfl

end Formwork.Formula
