/-
  Formwork.Proofs.Formula.Culprit: the column of an error is that of its reason.

  The scanner stops at the first comma. Behind it every error carries the position of a token, and
  what it says is about that token, although the token may have been renamed to a function, moved to
  its place in postfix order and left on the stack before it comes to the error (`Becomes`). The
  token is found in the text at its position (`TilesFrom.split`), so the text goes on there with the
  word that the error is about. Only the start and the end of a formula are shown for errors about
  the formula as a whole.

  - `refused_blames` / `fails_blames`: an error of reading, and one of a token on the stack.
  - `evaluate_blames`: any formula error with a column points at its reason.
-/

import Formwork.Proofs.Formula.Stack
import Formwork.Proofs.Formula.Tiling

namespace Formwork.Formula

/-! ## Reasons -/

/-- A token of a text says the word that a cause is about. -/
def Cause.About (t : Token) : Cause → Prop
  | .unknownName name | .notANumber name => t.kind = .name ∧ t.text = name
  | .operandTwice text | .operatorFirst text => t.text = text
  | .unclosed => t.text = "("
  | .unopened | .emptyGroup => t.text = ")"
  | .divisionByZero => t.text = "/"
  | .moduloByZero => t.text = "%"
  | .powerUndefined _ _ => t.text = "^"
  | .rejected function _ => t.kind = .name ∧ Text.lower t.text = function
  | _ => False

/-- At column `p` of `source` is the reason of a cause: the start, the end, the first comma, or a token
that the cause is about and that the text goes on with. -/
def Cause.PointsTo (source : String) (limits : Limits) (p : Nat) : Cause → Prop
  | .empty | .notFinite => p = 0
  | .endsEarly => p = source.length
  | .comma => FirstComma 0 source.toList p
  | c => ∃ tokens t, tokenize source limits = .ok tokens ∧ t ∈ tokens ∧ t.position = p ∧ c.About t ∧
      t.text.toList <+: source.toList.drop p

/-- The error of a bound has no column, any other has that of its reason. -/
def Blames (source : String) (limits : Limits) (e : FormulaError) : Prop :=
  (e.place = none ∧ e.cause.family = .limit) ∨
    ∃ p, e.place = some (p, source) ∧ p ≤ source.length ∧ e.cause.PointsTo source limits p

section

variable {source : String} {limits : Limits} {tokens : List Token} {t : Token} {e : FormulaError}

theorem isWord_of_mem (h : tokenize source limits = .ok tokens) (ht : t ∈ tokens) : t.IsWord :=
  ((scan_tilesFrom (scan_of_tokenize h)).split t ht).1

theorem text_of_kind {kind : Kind} (hword : t.IsWord) (c : Char) (hc : operator? c = some kind) (hk : t.kind = kind) :
    t.text = String.singleton c :=
  (hword.operator c kind hc).mpr hk

/-- An error at a token that its cause is about. -/
theorem blames_of_about {c : Cause} (h : tokenize source limits = .ok tokens) (ht : t ∈ tokens) (habout : c.About t) :
    Blames source limits (.located c t.position source) := by
  obtain ⟨hwithin, hstarts⟩ := (scan_tilesFrom (scan_of_tokenize h)).starts t ht
  rw [String.length_toList] at hwithin
  refine Or.inr ⟨t.position, rfl, by omega, ?_⟩
  cases c with
  | empty | notFinite | endsEarly | comma => exact absurd habout id
  | _ => exact ⟨tokens, t, h, ht, rfl, habout, hstarts⟩

/-! ## Reading -/

theorem tokenize_blames (h : tokenize source limits = .error e) : Blames source limits e := by
  rcases tokenize_eq_error h with ⟨bound, actual, -, rfl⟩ | ⟨p, hp, rfl⟩
  · exact Or.inl ⟨rfl, rfl⟩
  · refine Or.inr ⟨p, rfl, ?_, hp⟩
    obtain ⟨before, after, hsource, -, rfl⟩ := hp
    rw [← String.length_toList, hsource, List.length_append]
    omega

theorem stops_blames {r : Reading} (h : tokenize source limits = .ok tokens) (ht : t ∈ tokens)
    (hstops : r.Stops source limits t e) : Blames source limits e := by
  have hword := isWord_of_mem h ht
  cases hstops with
  | operandTwice | operatorFirst => exact blames_of_about h ht rfl
  | emptyGroup _ hk => exact blames_of_about h ht (text_of_kind hword ')' rfl hk)
  | unopened _ hk => exact blames_of_about h ht (text_of_kind hword ')' rfl hk)
  | tooDeep => exact Or.inl ⟨rfl, rfl⟩
  | stray hk =>
    obtain ⟨hf, hn⟩ := scan_kind (scan_of_tokenize h) t ht
    exact absurd hk (not_or.mpr ⟨hf, hn⟩)

theorem refused_blames (h : tokenize source limits = .ok tokens) (hrefused : Refused tokens source limits e) :
    Blames source limits e := by
  cases hrefused with
  | empty => exact Or.inr ⟨0, rfl, Nat.zero_le _, rfl⟩
  | stopped ht hstops => exact stops_blames h ht hstops
  | endsEarly => exact Or.inr ⟨source.length, rfl, Nat.le_refl _, rfl⟩
  | unclosed ho hk => exact blames_of_about h ho (text_of_kind (isWord_of_mem h ho) '(' rfl hk)

theorem parse_blames (h : parse source limits = .error e) : Blames source limits e := by
  rcases bind_eq_error.mp h with h | ⟨tokens, htokens, h⟩
  · exact tokenize_blames h
  · exact refused_blames htokens (toPostfix_refused h)

/-! ## Evaluation -/

section

variable {o : Token} {bindings : Bindings} {stack : List Float} {x y : Float}

theorem lookup_blames (h : tokenize source limits = .ok tokens) (ht : t ∈ tokens) (hk : t.kind = .name)
    (hlookup : Scope.lookup ⟨bindings, [], source⟩ t = .error (.formula e)) : Blames source limits e := by
  rcases Scope.lookup_error hlookup with ⟨-, rfl⟩ | ⟨-, rfl⟩
  · exact blames_of_about h ht ⟨hk, rfl⟩
  · exact blames_of_about h ht ⟨hk, rfl⟩

theorem apply_blames {op : Operator} (h : tokenize source limits = .ok tokens) (ht : t ∈ tokens) (hk : t.kind = op.kind)
    (happly : Scope.apply ⟨bindings, [], source⟩ t x y = .error (.formula e)) : Blames source limits e := by
  have hword := isWord_of_mem h ht
  obtain ⟨c, rfl, ⟨hk, rfl⟩ | ⟨hk, rfl⟩ | ⟨hk, rfl⟩ | ⟨hk', -⟩⟩ := Scope.apply_eq_error happly
  · exact blames_of_about h ht (text_of_kind hword '/' rfl hk)
  · exact blames_of_about h ht (text_of_kind hword '%' rfl hk)
  · exact blames_of_about h ht (text_of_kind hword '^' rfl hk)
  · exact absurd hk (hk' op)

/-- A call fails for the name that it was written with, or as the function of that name in lower case. -/
theorem call_blames (h : tokenize source limits = .ok tokens) (ho : o ∈ tokens) (hk : o.kind = .name)
    (hcall : Functions.call [] o.text x ⟨o.position, source⟩ = .error (.formula e)) : Blames source limits e := by
  rcases call_error hcall with ⟨-, rfl⟩ | ⟨f, hf, hfail⟩
  · exact blames_of_about h ho ⟨hk, rfl⟩
  · obtain ⟨why, rfl⟩ := builtins_rejectAs _ (Entries.mem_of_get? hf) x _ e hfail
    exact blames_of_about h ho ⟨hk, rfl⟩

/-- A token on the stack fails for the token of the text that it comes from. -/
theorem fails_blames (h : tokenize source limits = .ok tokens) (ho : o ∈ tokens) (hbecomes : Becomes o t)
    (hfails : Scope.Fails ⟨bindings, [], source⟩ stack t (.formula e)) : Blames source limits e := by
  obtain ⟨hfunction, hnegate⟩ := scan_kind (scan_of_tokenize h) o ho
  generalize hfailure : Failure.formula e = failure at hfails
  cases hfails with
  | name hk hlookup =>
    subst hfailure
    cases hbecomes with
    | itself => exact lookup_blames h ho hk hlookup
    | function | negate => cases hk
  | operator op hk happly =>
    subst hfailure
    cases hbecomes with
    | itself => exact apply_blames h ho hk happly
    | function | negate => cases op <;> cases hk
  | function hk hcall =>
    subst hfailure
    cases hbecomes with
    | itself => exact absurd hk hfunction
    | function hname => exact call_blames h ho hname hcall
    | negate => cases hk

end

end

/-- Whatever the text of a formula and its variables: a formula error of evaluation with the built-in
functions has no column when a bound is exceeded, and else the column of its reason, inside of the text. -/
theorem evaluate_blames (source : String) (bindings : Bindings) (limits : Limits) (e : FormulaError)
    (h : evaluate source bindings limits [] = .error (.formula e)) :
    (e.place = none ∧ e.cause.family = .limit) ∨
      ∃ p, e.place = some (p, source) ∧ p ≤ source.length ∧ e.cause.PointsTo source limits p := by
  rcases evaluate_error h with hparse | ⟨output, t, stack, hparse, ht, hfails⟩ | rfl
  · exact parse_blames hparse
  · obtain ⟨tokens, tree, htokens, htree, rfl⟩ := parse_sound hparse
    obtain ⟨o, ho, hbecomes⟩ := htree.mem_postorder t ht
    exact fails_blames htokens ho hbecomes hfails
  · exact Or.inr ⟨0, rfl, Nat.zero_le _, rfl⟩

/-- A function that is not there is shown where it is called, although its argument comes first. -/
theorem unknown_call_blames :
    evaluate "-Twice(x)" [("x", .float 1)] {} [] = .error (.formula (.located (.unknownName "Twice") 1 "-Twice(x)")) ∧
      Cause.PointsTo "-Twice(x)" {} 1 (.unknownName "Twice") := by
  have hparse : parse "-Twice(x)" {} = .ok [⟨.name, "x", 7⟩, ⟨.function, "Twice", 1⟩, ⟨.negate, "-", 0⟩] :=
    eq_ok_of_toOption (by decide +kernel)
  have hevaluate : evaluate "-Twice(x)" [("x", .float 1)] {} [] =
      .error (.formula (.located (.unknownName "Twice") 1 "-Twice(x)")) := by
    rw [evaluate, hparse]
    rfl
  rcases evaluate_blames _ _ _ _ hevaluate with ⟨hplace, -⟩ | ⟨p, hplace, -, hpoints⟩
  · cases hplace
  · cases hplace
    exact ⟨hevaluate, hpoints⟩

end Formwork.Formula
