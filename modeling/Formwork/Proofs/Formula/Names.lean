/-
  Formwork.Proofs.Formula.Names: the names in a formula, and how a run meets them.

  A scope knows a token unless it is a variable without a binding or a function outside the
  registry. A step on a known token fails for the values only; a step on an unknown one fails
  in any case, and with the name if the stack holds what it needs. So a run goes through the
  tokens that are known and ends at the first other one, if it gets that far.

  - `knows_of_run`: a run that goes through has met no unknown name.
  - `value_not_internal`: a tree never lacks an operand, whatever its names.
  - `meets_error` / `evaluatePostfix_error`: a formula fails for an unknown name exactly when its
    run meets one, and the error says which name and where.
-/

import Formwork.Proofs.Entries
import Formwork.Proofs.Formula.Value

namespace Formwork.Formula

/-- Causes that a formula in the postorder of a tree leaves no room for. -/
def Cause.isInternal : Cause → Bool
  | .missingOperand _ | .unknownOperator _ | .malformed | .stray _ => true
  | _ => false

/-! ## Functions -/

def Functions.FailWith (functions : Functions) (p : Cause → Prop) : Prop :=
  ∀ name f x site e, functions.find? name = some f → f x site = .error (.formula e) → p e.cause

theorem ofNumeric_ne_formula {α : Type} {r : Except NumericError α} {e : FormulaError} :
    ofNumeric r ≠ .error (.formula e) := by
  cases r <;> simp [ofNumeric]

def Function.Rejects (f : Function) : Prop :=
  ∀ x site e, f x site = .error (.formula e) → e.cause.family = .rejected

def Function.RejectsAs (name : String) (f : Function) : Prop :=
  ∀ x site e, f x site = .error (.formula e) → ∃ why, e = .located (.rejected name why) site.position site.source

/-- A test of the argument in front of a result. -/
theorem rejectsAs_guard {bad : Float → Prop} [DecidablePred bad] {name : String} {why : Float → Rejection}
    {value : Float → Float} :
    Function.RejectsAs name fun x site => if bad x then site.fail (.rejected name (why x)) else .ok (value x) := by
  intro x site e h
  simp only at h
  split at h
  · cases h
    exact ⟨why x, rfl⟩
  · cases h

theorem rejectsAs_numeric {name : String} {value : Float → Except NumericError Float} :
    Function.RejectsAs name fun x _ => ofNumeric (value x) :=
  fun _ _ _ h => absurd h ofNumeric_ne_formula

theorem rejectsAs_total {name : String} {value : Float → Float} : Function.RejectsAs name fun x _ => .ok (value x) := by
  intro x site e h
  cases h

theorem builtins_rejectAs : ∀ f ∈ builtins, Function.RejectsAs f.1 f.2 := by
  simp only [builtins, List.forall_mem_cons]
  exact ⟨rejectsAs_total, rejectsAs_numeric, rejectsAs_numeric, rejectsAs_numeric, rejectsAs_guard, rejectsAs_guard,
    rejectsAs_guard, rejectsAs_guard, rejectsAs_total, rejectsAs_total, by simp⟩

theorem builtins_reject : ∀ f ∈ builtins, Function.Rejects f.2 := by
  intro f hf x site e h
  obtain ⟨why, rfl⟩ := builtins_rejectAs f hf x site e h
  rfl

/-- The functions that formulas may call by default. -/
theorem builtins_fail : Functions.FailWith [] (·.family = .rejected) := by
  intro name f x site e hf h
  exact builtins_reject _ (Entries.mem_of_get? hf) x site e h

theorem builtins_not_internal : Functions.FailWith [] (·.isInternal = false) := by
  intro name f x site e hf h
  have hc := builtins_fail name f x site e hf h
  cases he : e.cause <;> rw [he] at hc <;> first | rfl | cases hc

/-- A call fails for its name, or as the function does. -/
theorem call_error {functions : Functions} {name : String} {x : Float} {site : Site} {e : FormulaError}
    (h : functions.call name x site = .error (.formula e)) :
    (functions.has name = false ∧ e = .located (.unknownName name) site.position site.source) ∨
      ∃ f, functions.find? name = some f ∧ f x site = .error (.formula e) := by
  unfold Functions.call at h
  split at h
  · rename_i f hf
    exact Or.inr ⟨f, hf, h⟩
  · rename_i hf
    cases h
    exact Or.inl ⟨by simp [Functions.has, hf], rfl⟩

namespace Scope

variable {scope : Scope} {t u : Token} {ts : List Token} {stack stack' : List Float} {x y : Float} {e : FormulaError}

/-! ## One step -/

/-- A variable is bound, a function is in the registry; nothing else has a name. -/
def Knows (scope : Scope) (t : Token) : Prop :=
  (t.kind = .name → (scope.bindings.get? t.text).isSome = true) ∧
    (t.kind = .function → scope.functions.has t.text = true)

def unknown (scope : Scope) (t : Token) : FormulaError := .located (.unknownName t.text) t.position scope.source

theorem lookup_error (h : scope.lookup t = .error (.formula e)) :
    (scope.bindings.get? t.text = none ∧ e = scope.unknown t) ∨
      ((scope.bindings.get? t.text).isSome = true ∧ e = .located (.notANumber t.text) t.position scope.source) := by
  unfold lookup at h
  split at h
  · rename_i hb
    cases h
    exact Or.inl ⟨hb, rfl⟩
  · rename_i v hb
    split at h
    · cases h
      exact Or.inr ⟨by simp [hb], rfl⟩
    · exact absurd h ofNumeric_ne_formula

theorem numeral_ne_formula : numeral t ≠ .error (.formula e) := by
  unfold numeral
  split <;> simp

theorem modulo_ne_formula : modulo x y ≠ .error (.formula e) := by
  unfold modulo
  repeat' split
  all_goals simp

/-- An operator fails where it stands: a quotient, a remainder or a power is not defined, or it is no operator. -/
theorem apply_eq_error (h : scope.apply t x y = .error (.formula e)) :
    ∃ c, e = .located c t.position scope.source ∧
      ((t.kind = .slash ∧ c = .divisionByZero) ∨ (t.kind = .percent ∧ c = .moduloByZero) ∨
        (t.kind = .caret ∧ c = .powerUndefined x y) ∨
        ((∀ op : Operator, t.kind ≠ op.kind) ∧ c = .unknownOperator t.text)) := by
  unfold apply at h
  split at h
  case h_1 | h_2 | h_3 => cases h
  case h_4 hk =>
    split at h <;> cases h
    exact ⟨_, rfl, by simp [hk]⟩
  case h_5 hk =>
    split at h
    · cases h
      exact ⟨_, rfl, by simp [hk]⟩
    · exact absurd h modulo_ne_formula
  case h_6 hk =>
    simp only at h
    split at h <;> cases h
    exact ⟨_, rfl, by simp [hk]⟩
  case h_7 =>
    cases h
    refine ⟨_, rfl, Or.inr (Or.inr (Or.inr ⟨fun op hop => ?_, rfl⟩))⟩
    cases op <;> contradiction

theorem apply_error (h : scope.apply t x y = .error (.formula e)) :
    e.cause.family = .evaluation ∧ ((∃ op : Operator, t.kind = op.kind) → e.cause.isInternal = false) := by
  obtain ⟨c, rfl, ⟨-, rfl⟩ | ⟨-, rfl⟩ | ⟨-, rfl⟩ | ⟨hk, rfl⟩⟩ := apply_eq_error h
  · exact ⟨rfl, fun _ => rfl⟩
  · exact ⟨rfl, fun _ => rfl⟩
  · exact ⟨rfl, fun _ => rfl⟩
  · exact ⟨rfl, fun ⟨op, hop⟩ => absurd hop (hk op)⟩

theorem knows_of_step (h : scope.step stack t = .ok stack') : scope.Knows t := by
  constructor
  · intro hk
    simp only [step, hk] at h
    obtain ⟨v, hv, -⟩ := bind_eq_ok.mp h
    unfold lookup at hv
    split at hv
    · cases hv
    · rename_i hb
      simp [hb]
  · intro hk
    simp only [step, hk] at h
    split at h
    · obtain ⟨v, hv, -⟩ := bind_eq_ok.mp h
      unfold Functions.call at hv
      split at hv
      · rename_i hf
        simp [Functions.has, hf]
      · cases hv
    · cases h

/-- A token that is not known fails with its name, unless its operand is missing. -/
theorem step_unknown (h : ¬ scope.Knows t) :
    ∃ e, scope.step stack t = .error (.formula e) ∧ (e = scope.unknown t ∨ e.cause.isInternal = true) := by
  rcases Classical.not_and_iff_not_or_not.mp h with h | h
  · obtain ⟨hk, hb⟩ := Classical.not_imp.mp h
    rw [Bool.not_eq_true, Option.isSome_eq_false_iff, Option.isNone_iff_eq_none] at hb
    refine ⟨_, ?_, Or.inl rfl⟩
    simp only [step, hk, lookup, hb]
    rfl
  · obtain ⟨hk, hf⟩ := Classical.not_imp.mp h
    rw [Bool.not_eq_true, Functions.has, Option.isSome_eq_false_iff, Option.isNone_iff_eq_none] at hf
    cases stack with
    | nil =>
      refine ⟨.located (.missingOperand t.text) t.position scope.source, ?_, Or.inr rfl⟩
      simp only [step, hk]
      rfl
    | cons x rest =>
      refine ⟨_, ?_, Or.inl rfl⟩
      simp only [step, hk, Functions.call, hf]
      rfl

/-- A step fails for a name that is not known, or for the values. -/
theorem step_error (hf : scope.functions.FailWith (·.family = .rejected))
    (h : scope.step stack t = .error (.formula e)) :
    (¬ scope.Knows t ∧ e = scope.unknown t) ∨ e.cause.family = .evaluation ∨ e.cause.family = .rejected := by
  unfold step at h
  split at h
  case h_1 hk =>
    rcases bind_eq_error.mp h with h | ⟨_, -, h⟩
    · exact absurd h numeral_ne_formula
    · cases h
  case h_2 hk =>
    rcases bind_eq_error.mp h with h | ⟨_, -, h⟩
    · rcases lookup_error h with ⟨hb, rfl⟩ | ⟨-, rfl⟩
      · exact Or.inl ⟨fun known => by simpa [hb] using known.1 hk, rfl⟩
      · exact Or.inr (Or.inl rfl)
    · cases h
  case h_3 hk =>
    split at h <;> cases h
    exact Or.inr (Or.inl rfl)
  case h_4 hk =>
    split at h
    · rcases bind_eq_error.mp h with h | ⟨_, -, h⟩
      · rcases call_error h with ⟨hn, rfl⟩ | ⟨f, hfind, h⟩
        · exact Or.inl ⟨fun known => by simpa [hn] using known.2 hk, rfl⟩
        · exact Or.inr (Or.inr (hf _ _ _ _ _ hfind h))
      · cases h
    · cases h
      exact Or.inr (Or.inl rfl)
  case h_5 =>
    split at h
    · rcases bind_eq_error.mp h with h | ⟨_, -, h⟩
      · exact Or.inr (Or.inl (apply_error h).1)
      · cases h
    · cases h
      exact Or.inr (Or.inl rfl)

/-! ## A whole run -/

/-- A run that goes through has met no unknown name. -/
theorem knows_of_run (h : ts.foldlM scope.step stack = .ok stack') : ∀ t ∈ ts, scope.Knows t := by
  induction ts generalizing stack with
  | nil => simp
  | cons t ts ih =>
    rw [List.foldlM_cons] at h
    obtain ⟨next, hs, h⟩ := bind_eq_ok.mp h
    rintro u (_ | ⟨_, hu⟩)
    · exact knows_of_step hs
    · exact ih h u hu

/-- A tree fails for its names, values and functions only: no operand or operator is missing. -/
theorem value_not_internal (hf : scope.functions.FailWith (·.isInternal = false)) {tree : Tree} :
    ∀ {e : FormulaError}, tree.value scope = .error (.formula e) → e.cause.isInternal = false := by
  induction tree with
  | number w => exact fun h => absurd h numeral_ne_formula
  | name w =>
    intro e h
    rcases lookup_error h with ⟨-, rfl⟩ | ⟨-, rfl⟩ <;> rfl
  | negate w t ih =>
    intro e h
    rcases bind_eq_error.mp h with h | ⟨_, -, h⟩
    · exact ih h
    · cases h
  | binary op w l r ihl ihr =>
    intro e h
    rcases bind_eq_error.mp h with h | ⟨x, -, h⟩
    · exact ihl h
    · rcases bind_eq_error.mp h with h | ⟨y, -, h⟩
      · exact ihr h
      · exact (apply_error h).2 ⟨op, rfl⟩
  | call w t ih =>
    intro e h
    rcases bind_eq_error.mp h with h | ⟨x, -, h⟩
    · exact ih h
    · rcases call_error h with ⟨-, rfl⟩ | ⟨f, hfind, h⟩
      · rfl
      · exact hf _ _ _ _ _ hfind h

/-- The run gets as far as `u`, which is not known. -/
def Meets (scope : Scope) (ts : List Token) (u : Token) : Prop :=
  ∃ before after stack, ts = before ++ u :: after ∧ before.foldlM scope.step [] = .ok stack ∧ ¬ scope.Knows u

/-- The run of a tree that meets an unknown name ends there. -/
theorem meets_error (hf : scope.functions.FailWith (·.isInternal = false)) {tree : Tree}
    (h : scope.Meets tree.postorder u) :
    scope.evaluatePostfix tree.postorder = .error (.formula (scope.unknown u)) := by
  obtain ⟨before, after, stack, hs, hb, hu⟩ := h
  obtain ⟨e, he, hc⟩ := @step_unknown _ _ stack hu
  have hrun : tree.postorder.foldlM scope.step [] = .error (.formula e) := by
    rw [hs, List.foldlM_append, hb, ok_bind, List.foldlM_cons, he, error_bind]
  -- the same run by its tree, which shows that the operand was there
  have hval := foldlM_step_postorder scope tree [] []
  rw [List.append_nil, hrun] at hval
  rcases bind_eq_error.mp hval.symm with hval | ⟨_, -, hval⟩
  · rcases hc with rfl | hc
    · rw [evaluatePostfix, hrun, error_bind]
    · rw [value_not_internal hf hval] at hc
      cases hc
  · cases hval

/-- A run that fails has met an unknown name, or fails for the values. -/
theorem evaluatePostfix_error (hf : scope.functions.FailWith (·.family = .rejected))
    (h : scope.evaluatePostfix ts = .error (.formula e)) :
    (∃ u, scope.Meets ts u ∧ e = scope.unknown u) ∨ e.cause.family = .evaluation ∨ e.cause.family = .rejected := by
  rcases bind_eq_error.mp h with h | ⟨stack, -, h⟩
  · obtain ⟨before, u, after, stack, rfl, hb, hu⟩ := foldlM_eq_error h
    rcases step_error hf hu with ⟨hk, he⟩ | hc
    · exact Or.inl ⟨u, ⟨before, after, stack, rfl, hb, hk⟩, he⟩
    · exact Or.inr hc
  · unfold result at h
    repeat' split at h
    all_goals cases h
    all_goals exact Or.inr (Or.inl rfl)

end Scope

end Formwork.Formula
