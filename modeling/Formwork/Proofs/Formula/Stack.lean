/-
  Formwork.Proofs.Formula.Stack: what stands on the stack while a formula runs.

  A token takes as many operands off the stack as its kind asks for and leaves one value. So the
  height of the stack is known before any value is (`Token.height?`), and the postorder of a tree
  raises it by one: no token of it finds too few operands, and one value is left in the end.

  - `foldlM_height_postorder`: the height after the postorder of a tree.
  - `parse_runsThrough`: a formula that can be read runs to one value, or up to a token whose name,
    operator or function fails on the operands that are there.
  - `evaluate_not_internal`: so evaluation has no use for the errors about missing operands, unknown
    operators, leftover values and tokens of another order.
-/

import Formwork.Proofs.Formula.Names
import Formwork.Proofs.Formula.Parse
import Formwork.Proofs.Number.Literal

namespace Formwork.Formula

/-! ## Heights -/

/-- How many operands a token of a kind takes; parentheses have no place in postfix order. -/
def Kind.arity? : Kind → Option Nat
  | .number | .name => some 0
  | .negate | .function => some 1
  | .plus | .minus | .star | .slash | .percent | .caret => some 2
  | .opening | .closing => none

/-- The height of the stack after a token that finds `n` values there, unless these are too few. -/
def Token.height? (n : Nat) (t : Token) : Option Nat := do
  let k ← t.kind.arity?
  if k ≤ n then some (n - k + 1) else none

theorem Token.height?_eq_some {n m : Nat} {t : Token} :
    t.height? n = some m ↔ ∃ k, t.kind.arity? = some k ∧ k ≤ n ∧ m + k = n + 1 := by
  unfold Token.height?
  rcases t.kind.arity? with _ | k
  · simp
  · by_cases hk : k ≤ n
    · simp only [Option.bind_eq_bind, Option.bind_some, hk, if_true, Option.some.injEq, exists_eq_left', true_and]
      omega
    · simp [hk]

theorem Operator.arity?_kind (op : Operator) : op.kind.arity? = some 2 := by
  cases op <;> rfl

theorem foldlM_height_append {ts : List Token} {t : Token} {n m : Nat} (h : ts.foldlM Token.height? n = some m) :
    (ts ++ [t]).foldlM Token.height? n = t.height? m := by
  rw [List.foldlM_append, h, Option.bind_eq_bind, Option.bind_some, List.foldlM_cons]
  exact bind_pure _

/-- The postorder of a tree raises the stack by one value. -/
theorem foldlM_height_postorder (tree : Tree) (n : Nat) : tree.postorder.foldlM Token.height? n = some (n + 1) := by
  induction tree generalizing n with
  | number w | name w => rfl
  | negate w t ih =>
    rw [Tree.postorder, foldlM_height_append (ih n)]
    exact Token.height?_eq_some.mpr ⟨1, rfl, by omega, rfl⟩
  | binary op w l r ihl ihr =>
    have hboth : (l.postorder ++ r.postorder).foldlM Token.height? n = some (n + 1 + 1) := by
      rw [List.foldlM_append, ihl, Option.bind_eq_bind, Option.bind_some, ihr]
    rw [Tree.postorder, foldlM_height_append hboth]
    exact Token.height?_eq_some.mpr ⟨2, op.arity?_kind, by omega, rfl⟩
  | call w t ih =>
    rw [Tree.postorder, foldlM_height_append (ih n)]
    exact Token.height?_eq_some.mpr ⟨1, rfl, by omega, rfl⟩

theorem exists_height_of_mem {ts : List Token} {n m : Nat} {t : Token} (h : ts.foldlM Token.height? n = some m)
    (ht : t ∈ ts) : ∃ k, t.kind.arity? = some k := by
  obtain ⟨before, after, rfl⟩ := List.append_of_mem ht
  rw [List.foldlM_append, Option.bind_eq_bind, Option.bind_eq_some_iff] at h
  obtain ⟨height, -, h⟩ := h
  rw [List.foldlM_cons, Option.bind_eq_bind, Option.bind_eq_some_iff] at h
  obtain ⟨after, hafter, -⟩ := h
  obtain ⟨k, hk, -⟩ := Token.height?_eq_some.mp hafter
  exact ⟨k, hk⟩

namespace Scope

/-! ## One step -/

/-- A token fails on operands that are there: its name stands for no number, its operator is not
defined on them, or its function fails. -/
inductive Fails (scope : Scope) : List Float → Token → Failure → Prop
  | name {stack t e} : t.kind = .name → scope.lookup t = .error e → Fails scope stack t e
  | operator {x y rest t e} (op : Operator) : t.kind = op.kind → scope.apply t x y = .error e →
      Fails scope (y :: x :: rest) t e
  | function {x rest t e} : t.kind = .function → scope.functions.call t.text x (scope.site t) = .error e →
      Fails scope (x :: rest) t e

variable {scope : Scope} {t : Token} {ts before after : List Token} {stack stack' : List Float} {n : Nat}
  {e : Failure}

theorem numeral_eq_ok (h : Literal.isWhole t.text.toList = true) :
    ∃ l, Literal.take t.text.toList = some (l, []) ∧ numeral t = .ok l.value := by
  obtain ⟨l, hl, hvalue⟩ := Literal.float?_of_isWhole h
  rw [String.ofList_toList] at hvalue
  exact ⟨l, hl, by rw [numeral, hvalue]⟩

/-- The height is that of the stack as long as no token fails. -/
theorem height_of_step (h : scope.step stack t = .ok stack') : t.height? stack.length = some stack'.length := by
  rw [Token.height?_eq_some]
  cases hk : t.kind <;> simp only [step, hk] at h
  case number | name =>
    obtain ⟨x, -, h⟩ := bind_eq_ok.mp h
    cases h
    exact ⟨0, rfl, Nat.zero_le _, rfl⟩
  case negate =>
    cases stack with
    | nil => cases h
    | cons x rest => cases h; exact ⟨1, rfl, by simp, rfl⟩
  case function =>
    cases stack with
    | nil => cases h
    | cons x rest =>
      obtain ⟨y, -, h⟩ := bind_eq_ok.mp h
      cases h
      exact ⟨1, rfl, by simp, rfl⟩
  case plus | minus | star | slash | percent | caret =>
    rcases stack with _ | ⟨y, _ | ⟨x, rest⟩⟩
    · cases h
    · cases h
    · obtain ⟨z, -, h⟩ := bind_eq_ok.mp h
      cases h
      exact ⟨2, rfl, by simp, rfl⟩
  case opening | closing =>
    rcases stack with _ | ⟨y, _ | ⟨x, rest⟩⟩
    · cases h
    · cases h
    · obtain ⟨z, hz, -⟩ := bind_eq_ok.mp h
      simp only [apply, hk] at hz
      cases hz

/-- A token that has its operands fails for its name, its operator or its function. -/
theorem fails_of_step (hliteral : t.kind = .number → Literal.isWhole t.text.toList = true)
    (hheight : t.height? stack.length = some n) (h : scope.step stack t = .error e) : scope.Fails stack t e := by
  obtain ⟨k, harity, hlen, -⟩ := Token.height?_eq_some.mp hheight
  rcases hop : t.kind.operator? with _ | op
  · cases hk : t.kind
    case number =>
      obtain ⟨l, -, hl⟩ := numeral_eq_ok (hliteral hk)
      simp only [step, hk, hl] at h
      cases h
    case name =>
      simp only [step, hk] at h
      rcases bind_eq_error.mp h with h | ⟨_, -, h⟩
      · exact .name hk h
      · cases h
    case negate =>
      rw [hk] at harity
      cases harity
      obtain ⟨x, rest, rfl⟩ := List.exists_cons_of_length_pos hlen
      simp only [step, hk] at h
      cases h
    case function =>
      rw [hk] at harity
      cases harity
      obtain ⟨x, rest, rfl⟩ := List.exists_cons_of_length_pos hlen
      simp only [step, hk] at h
      rcases bind_eq_error.mp h with h | ⟨_, -, h⟩
      · exact .function hk h
      · cases h
    case opening | closing => rw [hk] at harity; cases harity
    case plus | minus | star | slash | percent | caret => rw [hk] at hop; cases hop
  · rw [Kind.operator?_eq_some] at hop
    rw [hop, op.arity?_kind] at harity
    cases harity
    rcases stack with _ | ⟨y, _ | ⟨x, rest⟩⟩
    · simp at hlen
    · simp at hlen
    · have hstep : scope.step (y :: x :: rest) t = (do let z ← scope.apply t x y; return z :: rest) := by
        rw [← Token.word_as hop]
        exact step_binary scope op t.word x y rest
      rw [hstep] at h
      rcases bind_eq_error.mp h with h | ⟨_, -, h⟩
      · exact .operator op hop h
      · cases h

/-- Only a function can fail for a cause that the evaluator has for a broken order. -/
theorem Fails.function_of_isInternal {e : FormulaError} (h : scope.Fails stack t (.formula e))
    (hc : e.cause.isInternal = true) :
    ∃ f x, scope.functions.find? t.text = some f ∧ f x (scope.site t) = .error (.formula e) := by
  generalize hfailure : Failure.formula e = failure at h
  cases h with
  | name _ h =>
    subst hfailure
    rcases lookup_error h with ⟨-, rfl⟩ | ⟨-, rfl⟩ <;> cases hc
  | operator op hk h =>
    subst hfailure
    rw [(apply_error h).2 ⟨op, hk⟩] at hc
    cases hc
  | @function x _ _ _ _ h =>
    subst hfailure
    rcases call_error h with ⟨-, rfl⟩ | ⟨f, hf, hfail⟩
    · cases hc
    · exact ⟨f, x, hf, hfail⟩

/-! ## A whole run -/

theorem height_of_run (h : ts.foldlM scope.step stack = .ok stack') :
    ts.foldlM Token.height? stack.length = some stack'.length := by
  induction ts generalizing stack with
  | nil => cases h; rfl
  | cons t ts ih =>
    rw [List.foldlM_cons] at h
    obtain ⟨next, hnext, h⟩ := bind_eq_ok.mp h
    rw [List.foldlM_cons, height_of_step hnext, Option.bind_eq_bind, Option.bind_some, ih h]

/-- Where a run of a tree has got to, the next token finds its operands. -/
theorem height_of_prefix {tree : Tree} (hsplit : tree.postorder = before ++ t :: after)
    (hrun : before.foldlM scope.step [] = .ok stack) : ∃ m, t.height? stack.length = some m := by
  have h := foldlM_height_postorder tree 0
  rw [hsplit, List.foldlM_append, show (0 : Nat) = ([] : List Float).length from rfl, height_of_run hrun,
    Option.bind_eq_bind, Option.bind_some, List.foldlM_cons, Option.bind_eq_bind, Option.bind_eq_some_iff] at h
  obtain ⟨m, hm, -⟩ := h
  exact ⟨m, hm⟩

/-- A postfix order holds tokens that the stack knows. Each of them finds its operands where the run gets
to it, and the run leaves one value, unless it ends at a name, an operator or a function that fails. -/
structure RunsThrough (scope : Scope) (output : List Token) : Prop where
  known : ∀ t ∈ output, ∃ k, t.kind.arity? = some k
  fed : ∀ before t after stack, output = before ++ t :: after → before.foldlM scope.step [] = .ok stack →
    ∃ k, t.kind.arity? = some k ∧ k ≤ stack.length
  ends : (∃ x, output.foldlM scope.step [] = .ok [x]) ∨
    ∃ before t after stack e, output = before ++ t :: after ∧ before.foldlM scope.step [] = .ok stack ∧
      scope.Fails stack t e ∧ output.foldlM scope.step [] = .error e

end Scope

variable {source : String} {bindings : Bindings} {limits : Limits} {functions : Functions} {e : FormulaError}

theorem parse_runsThrough (scope : Scope) {output : List Token} (h : parse source limits = .ok output) :
    scope.RunsThrough output := by
  have hliteral := parse_isWhole h
  obtain ⟨tokens, tree, -, -, rfl⟩ := parse_sound h
  refine ⟨fun t ht => exists_height_of_mem (foldlM_height_postorder tree 0) ht, ?_, ?_⟩
  · intro before t after stack hsplit hrun
    obtain ⟨m, hm⟩ := Scope.height_of_prefix hsplit hrun
    obtain ⟨k, hk, hlen, -⟩ := Token.height?_eq_some.mp hm
    exact ⟨k, hk, hlen⟩
  · cases hrun : tree.postorder.foldlM scope.step [] with
    | ok stack =>
      have hlen := Scope.height_of_run hrun
      rw [List.length_nil, foldlM_height_postorder] at hlen
      obtain ⟨x, rfl⟩ := List.length_eq_one_iff.mp (Option.some.inj hlen).symm
      exact Or.inl ⟨x, rfl⟩
    | error e =>
      obtain ⟨before, t, after, stack, hsplit, hbefore, ht⟩ := foldlM_eq_error hrun
      obtain ⟨m, hm⟩ := Scope.height_of_prefix hsplit hbefore
      have hfails := Scope.fails_of_step (hliteral t (hsplit ▸ by simp)) hm ht
      exact Or.inr ⟨before, t, after, stack, e, hsplit, hbefore, hfails, rfl⟩

theorem parse_not_internal (h : parse source limits = .error e) : e.cause.isInternal = false := by
  have hfamily := parse_error h
  have hstray := parse_error_ne_stray h
  cases hc : e.cause with
  | stray text => exact absurd hc (hstray text)
  | missingOperand | unknownOperator | malformed =>
    rw [hc] at hfamily
    rcases hfamily with h | h | h <;> cases h
  | _ => rfl

/-- A formula fails in being read, at a token of its postfix order, or for a value that is not finite. -/
theorem evaluate_error (h : evaluate source bindings limits functions = .error (.formula e)) :
    parse source limits = .error e ∨
      (∃ output t stack, parse source limits = .ok output ∧ t ∈ output ∧
        Scope.Fails ⟨bindings, functions, source⟩ stack t (.formula e)) ∨
      e = .located .notFinite 0 source := by
  unfold evaluate at h
  split at h
  · rename_i hparse
    cases h
    exact Or.inl hparse
  · rename_i output hparse
    rcases (parse_runsThrough ⟨bindings, functions, source⟩ hparse).ends with
      ⟨x, hrun⟩ | ⟨before, t, after, stack, failure, hsplit, -, hfails, hrun⟩
    · -- one value is left, which may be refused for not being finite only
      rw [Scope.evaluatePostfix, hrun, ok_bind] at h
      unfold Scope.result at h
      simp only at h
      split at h <;> cases h
      exact Or.inr (Or.inr rfl)
    · rw [Scope.evaluatePostfix, hrun, error_bind] at h
      cases h
      exact Or.inr (Or.inl ⟨output, t, stack, hparse, hsplit ▸ by simp, hfails⟩)

theorem function_of_isInternal (h : evaluate source bindings limits functions = .error (.formula e))
    (hc : e.cause.isInternal = true) :
    ∃ name f x site, functions.find? name = some f ∧ f x site = .error (.formula e) := by
  rcases evaluate_error h with hparse | ⟨_, t, stack, -, -, hfails⟩ | rfl
  · rw [parse_not_internal hparse] at hc
    cases hc
  · obtain ⟨f, x, hf, hfail⟩ := hfails.function_of_isInternal hc
    exact ⟨_, f, x, _, hf, hfail⟩
  · cases hc

/-- Whatever the text of a formula: evaluating it never comes to a missing operand, an unknown operator,
leftover values or a token of another order, unless a function of the registry itself says so, and the
built-in ones do not. Any postfix order that the text has runs through on the stack. -/
theorem evaluate_not_internal (source : String) (bindings : Bindings) (limits : Limits) (functions : Functions) :
    (∀ e, evaluate source bindings limits functions = .error (.formula e) → e.cause.isInternal = true →
      ∃ name f x site, functions.find? name = some f ∧ f x site = .error (.formula e)) ∧
    (∀ e, evaluate source bindings limits [] = .error (.formula e) → e.cause.isInternal = false) ∧
    (∀ output, parse source limits = .ok output → ∀ scope : Scope, scope.RunsThrough output) := by
  refine ⟨fun e h hc => function_of_isInternal h hc, fun e h => ?_, fun output h scope => parse_runsThrough scope h⟩
  cases hc : e.cause.isInternal with
  | false => rfl
  | true =>
    obtain ⟨name, f, x, site, hf, hfail⟩ := function_of_isInternal h hc
    rw [builtins_not_internal name f x site e hf hfail] at hc
    cases hc

end Formwork.Formula
