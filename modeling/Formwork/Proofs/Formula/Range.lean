/-
  Formwork.Proofs.Formula.Range: formulas whose arithmetic leaves the floats.

  Most of what a formula computes stays among the floats: sums and products become infinite, and what
  has no value is reported as a formula error. Three steps go beyond. A variable may be bound to an
  integer that no float is near, rounding and its kind look for the integer of an infinity or of NaN,
  and an infinity has no remainder. Such a failure is no formula error, so it goes past those who take
  formula errors (`attempt`).

  - `step_numeric_iff`: which tokens fail in that way, on which operands.
  - `evaluate_numeric_iff`: a formula does exactly when its run gets to such a token.
  - `attempt_ok_iff`: an attempt has an outcome for all other formulas.
  - `attempt_not_total`: it has none for the floor of a number that is read as an infinity.
-/

import Formwork.Proofs.Formula.Stack
import Formwork.Proofs.Number.Range

namespace Formwork.Formula

open Binary64

/-! ## Functions -/

def TakesInteger (name : String) : Prop := name = "round" ∨ name = "floor" ∨ name = "ceil"

theorem ofNumeric_eq_numeric {α : Type} {r : Except NumericError α} {e : NumericError} :
    ofNumeric r = .error (.numeric e) ↔ r = .error e := by
  cases r <;> simp [ofNumeric]

def Function.LeavesFloats (name : String) (f : Function) : Prop :=
  ∀ x site e, f x site = .error (.numeric e) ↔ TakesInteger name ∧ NoInteger x e

theorem leavesFloats_total {name : String} {value : Float → Float} (h : ¬ TakesInteger name) :
    Function.LeavesFloats name fun x _ => .ok (value x) :=
  fun _ _ _ => iff_of_false (by simp) fun hn => h hn.1

theorem leavesFloats_guard {name own : String} {bad : Float → Prop} [DecidablePred bad] {why : Float → Rejection}
    {value : Float → Float} (h : ¬ TakesInteger name) :
    Function.LeavesFloats name fun x site => if bad x then site.fail (.rejected own (why x)) else .ok (value x) := by
  refine fun x site e => iff_of_false ?_ fun hn => h hn.1
  simp only
  split <;> simp [Site.fail]

theorem leavesFloats_integer {name : String} {value : Float → Except NumericError Float} (hn : TakesInteger name)
    (h : ∀ x e, value x = .error e ↔ NoInteger x e) : Function.LeavesFloats name fun x _ => ofNumeric (value x) :=
  fun x _ e => by rw [ofNumeric_eq_numeric, h, and_iff_right hn]

theorem builtins_leaveFloats : ∀ f ∈ builtins, Function.LeavesFloats f.1 f.2 := by
  simp only [builtins, List.forall_mem_cons]
  refine ⟨leavesFloats_total ?_, leavesFloats_integer ?_ fun _ _ => roundedFloat_eq_error,
    leavesFloats_integer ?_ fun _ _ => wholeFloat_floor_eq_error,
    leavesFloats_integer ?_ fun _ _ => wholeFloat_ceil_eq_error, leavesFloats_guard ?_, leavesFloats_guard ?_,
    leavesFloats_guard ?_, leavesFloats_guard ?_, leavesFloats_total ?_, leavesFloats_total ?_, by simp⟩
  all_goals unfold TakesInteger; decide

theorem call_numeric_iff {name : String} {x : Float} {site : Site} {e : NumericError} :
    Functions.call [] name x site = .error (.numeric e) ↔ TakesInteger (Text.lower name) ∧ NoInteger x e := by
  unfold Functions.call
  split
  · rename_i f hf
    exact builtins_leaveFloats _ (Entries.mem_of_get? hf) x site e
  · rename_i hnone
    refine iff_of_false (by simp [Site.fail]) ?_
    rintro ⟨hn, -⟩
    unfold Functions.find? at hnone
    rcases hn with hn | hn | hn <;> rw [hn] at hnone <;> cases hnone

namespace Scope

variable {scope : Scope} {t : Token} {stack : List Float} {x y : Float} {e : NumericError}

/-! ## One step -/

/-- The value of a token on its operands leaves the floats: a variable is too large for a float, a
function finds no integer, or an infinity is to be divided with remainder. -/
inductive LeavesFloats (scope : Scope) : List Float → Token → NumericError → Prop
  | name {stack t v i} : t.kind = .name → scope.bindings.get? t.text = some v → v.number? = some (.int i) →
      integerLimit ≤ i.natAbs → LeavesFloats scope stack t .integerTooLarge
  | function {x rest t e} : t.kind = .function → TakesInteger (Text.lower t.text) → NoInteger x e →
      LeavesFloats scope (x :: rest) t e
  | remainder {x y rest t} : t.kind = .percent → x.isInf = true → y.isNaN = false → (y == 0) = false →
      LeavesFloats scope (y :: x :: rest) t .outsideDomain

theorem lookup_numeric_iff : scope.lookup t = .error (.numeric e) ↔
    ∃ v i, scope.bindings.get? t.text = some v ∧ v.number? = some (.int i) ∧ integerLimit ≤ i.natAbs ∧
      e = .integerTooLarge := by
  unfold lookup
  split
  · rename_i hnone
    simp [fail, hnone]
  · rename_i v hv
    split
    · rename_i hnumber
      simp [fail, hv, hnumber]
    · rename_i n hn
      rw [ofNumeric_eq_numeric, Number.toFloat_eq_error]
      simp [hv, hn]

theorem modulo_numeric_iff : modulo x y = .error (.numeric e) ↔
    x.isInf = true ∧ y.isNaN = false ∧ e = .outsideDomain := by
  unfold modulo
  split
  · rename_i hnan
    refine iff_of_false (by simp) ?_
    rintro ⟨hx, hy, -⟩
    rw [isNaN_of_isInf hx, hy] at hnan
    cases hnan
  · rename_i hnan
    simp only [Bool.or_eq_true, not_or, Bool.not_eq_true] at hnan
    split
    · rename_i hinf
      constructor
      · intro h
        cases h
        exact ⟨hinf, hnan.2, rfl⟩
      · rintro ⟨-, -, rfl⟩
        rfl
    · rename_i hinf
      split <;> simp [hinf]

theorem apply_numeric_iff : scope.apply t x y = .error (.numeric e) ↔
    t.kind = .percent ∧ (y == 0) = false ∧ x.isInf = true ∧ y.isNaN = false ∧ e = .outsideDomain := by
  unfold apply
  cases hk : t.kind
  case percent =>
    simp only
    split
    · rename_i hzero
      simp [fail, hzero]
    · rename_i hzero
      rw [modulo_numeric_iff]
      simp [hzero]
  case slash => simp only; split <;> simp [fail]
  case caret => simp only; split <;> simp [fail]
  all_goals simp [fail]

/-- A token that stands for a number, if it is a numeral, fails outside the floats exactly there. -/
theorem step_numeric_iff (hf : scope.functions = [])
    (hliteral : t.kind = .number → Literal.isWhole t.text.toList = true) :
    scope.step stack t = .error (.numeric e) ↔ scope.LeavesFloats stack t e := by
  constructor
  · intro h
    cases hk : t.kind <;> simp only [step, hk] at h
    case number =>
      obtain ⟨l, -, hl⟩ := numeral_eq_ok (hliteral hk)
      rw [hl] at h
      cases h
    case name =>
      rcases bind_eq_error.mp h with h | ⟨_, -, h⟩
      · obtain ⟨v, i, hv, hi, hlimit, rfl⟩ := lookup_numeric_iff.mp h
        exact .name hk hv hi hlimit
      · cases h
    case negate => split at h <;> cases h
    case function =>
      split at h
      · rcases bind_eq_error.mp h with h | ⟨_, -, h⟩
        · rw [hf] at h
          obtain ⟨hn, hx⟩ := call_numeric_iff.mp h
          exact .function hk hn hx
        · cases h
      · cases h
    all_goals
      split at h
      · rcases bind_eq_error.mp h with h | ⟨_, -, h⟩
        · obtain ⟨hpercent, hzero, hx, hy, rfl⟩ := apply_numeric_iff.mp h
          exact .remainder hpercent hx hy hzero
        · cases h
      · cases h
  · rintro (⟨hk, hv, hi, hlimit⟩ | ⟨hk, hn, hx⟩ | ⟨hk, hx, hy, hzero⟩)
    · simp only [step, hk]
      rw [lookup_numeric_iff.mpr ⟨_, _, hv, hi, hlimit, rfl⟩]
      rfl
    · simp only [step, hk, hf]
      rw [call_numeric_iff.mpr ⟨hn, hx⟩]
      rfl
    · simp only [step, hk]
      rw [apply_numeric_iff.mpr ⟨hk, hzero, hx, hy, rfl⟩]
      rfl

end Scope

/-! ## A whole formula -/

variable {source : String} {bindings : Bindings} {limits : Limits} {e : NumericError}

def LeavesFloats (source : String) (bindings : Bindings) (limits : Limits) (e : NumericError) : Prop :=
  ∃ before t after stack, parse source limits = .ok (before ++ t :: after) ∧
    before.foldlM (Scope.step ⟨bindings, [], source⟩) [] = .ok stack ∧
    Scope.LeavesFloats ⟨bindings, [], source⟩ stack t e

theorem result_ne_numeric {scope : Scope} {stack : List Float} : scope.result stack ≠ .error (.numeric e) := by
  unfold Scope.result
  repeat' split
  all_goals simp

theorem evaluate_numeric_iff :
    evaluate source bindings limits [] = .error (.numeric e) ↔ LeavesFloats source bindings limits e := by
  unfold evaluate LeavesFloats
  cases hparse : parse source limits with
  | error err => simp
  | ok output =>
    have hliteral := parse_isWhole hparse
    simp only [Except.ok.injEq]
    constructor
    · intro h
      rcases bind_eq_error.mp h with h | ⟨_, -, h⟩
      · obtain ⟨before, t, after, stack, hsplit, hrun, ht⟩ := foldlM_eq_error h
        exact ⟨before, t, after, stack, hsplit, hrun,
          (Scope.step_numeric_iff rfl (hliteral t (hsplit ▸ by simp))).mp ht⟩
      · exact absurd h result_ne_numeric
    · rintro ⟨before, t, after, stack, hsplit, hrun, ht⟩
      rw [hsplit] at hliteral
      have hfail := (Scope.step_numeric_iff rfl (hliteral t (by simp))).mpr ht
      rw [Scope.evaluatePostfix, hsplit, List.foldlM_append, hrun, ok_bind, List.foldlM_cons, hfail, error_bind,
        error_bind]

/-- The value of a formula is finite. -/
theorem isFinite_of_evaluate {functions : Functions} {x : Float} (h : evaluate source bindings limits functions = .ok x) :
    x.isFinite = true := by
  unfold evaluate at h
  split at h
  · cases h
  · obtain ⟨stack, -, h⟩ := bind_eq_ok.mp h
    unfold Scope.result at h
    split at h
    · split at h
      · cases h
      · rename_i hnumber
        cases h
        simp only [Bool.or_eq_true, not_or, Bool.not_eq_true] at hnumber
        exact isFinite_of_isNaN_of_isInf hnumber.1 hnumber.2
    · cases h

theorem attempt_eq_error : attempt source bindings limits [] = .error e ↔ LeavesFloats source bindings limits e := by
  rw [← evaluate_numeric_iff, attempt]
  split <;> simp [*]

theorem exists_attempt_iff :
    (∃ outcome, attempt source bindings limits [] = .ok outcome) ↔ ¬ ∃ e, LeavesFloats source bindings limits e := by
  simp only [exists_ok_iff, attempt_eq_error]

/-- An attempt has the value of a formula or its formula error, unless the run gets to a token whose value
leaves the floats; then it fails with the error of that step. -/
theorem attempt_ok_iff (source : String) (bindings : Bindings) (limits : Limits) :
    (∀ e, attempt source bindings limits [] = .error e ↔ LeavesFloats source bindings limits e) ∧
    ((∃ outcome, attempt source bindings limits [] = .ok outcome) ↔ ¬ ∃ e, LeavesFloats source bindings limits e) ∧
    (∀ outcome, attempt source bindings limits [] = .ok outcome →
      (∃ x, outcome = .ok x ∧ x.isFinite = true ∧ evaluate source bindings limits [] = .ok x) ∨
        ∃ err, outcome = .error err ∧ evaluate source bindings limits [] = .error (.formula err)) := by
  refine ⟨fun e => attempt_eq_error, exists_attempt_iff, ?_⟩
  intro outcome h
  unfold attempt at h
  split at h
  · rename_i x hx
    cases h
    exact Or.inl ⟨x, rfl, isFinite_of_evaluate hx, hx⟩
  · rename_i err herr
    cases h
    exact Or.inr ⟨err, rfl, herr⟩
  · cases h

theorem leavesFloats_floor_of_infinity (bindings : Bindings) :
    LeavesFloats "floor(1e999)" bindings {} .infinityHasNoInteger := by
  have hparse : parse "floor(1e999)" {} = .ok ([⟨.number, "1e999", 6⟩] ++ ⟨.function, "floor", 0⟩ :: []) :=
    eq_ok_of_toOption (by decide +kernel)
  have hvalue : Literal.float? "1e999" = some infinity := by decide +kernel
  refine ⟨_, _, _, [infinity], hparse, ?_, .function rfl ?_ (.infinity (by decide +kernel))⟩
  · simp only [List.foldlM_cons, Scope.step, Scope.numeral, hvalue]
    rfl
  · unfold TakesInteger
    decide

/-- So there are formulas that an attempt at their value has no outcome for. -/
theorem attempt_not_total :
    ¬ ∀ (source : String) (bindings : Bindings) (limits : Limits),
      ∃ outcome, attempt source bindings limits [] = .ok outcome := by
  intro h
  obtain ⟨outcome, hok⟩ := h "floor(1e999)" [] {}
  rw [attempt_eq_error.mpr (leavesFloats_floor_of_infinity [])] at hok
  cases hok

end Formwork.Formula
