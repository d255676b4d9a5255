/-
  Formwork.Proofs.Formula.Bounds: a bound stops a formula, and does nothing else to it.

  The length is checked before the scanner, the number of tokens behind it, the depth at each open
  parenthesis. Between the checks nothing looks at the bounds. So a stage under wider bounds does
  what it does under narrower ones, up to the point where one of these is exceeded (`Relaxes`), and
  computations that are related so stay related when one follows the other (`Relaxes.bind`).

  - `run_relaxes`: the pass over the tokens, from one step of it.
  - `evaluate_relaxes`: evaluation as a whole.
-/

import Formwork.Formula.Evaluation
import Formwork.Proofs.Formula.Scan

namespace Formwork.Formula

/-- A bound is exceeded on the way to `x`, or else `y` is the same outcome. -/
def Relaxes {α : Type} (limits : Limits) (x y : Except FormulaError α) : Prop :=
  (∃ e, limits.Exceeded e ∧ x = .error e) ∨ x = y

section

variable {α β : Type} {source : String} {limits limits' : Limits} {x y : Except FormulaError α}
  {f g : α → Except FormulaError β}

theorem Relaxes.refl (x : Except FormulaError α) : Relaxes limits x x := Or.inr rfl

/-- What follows is compared where both go on, and they go on from the same result. -/
theorem Relaxes.bind (h : Relaxes limits x y) (hnext : ∀ a, Relaxes limits (f a) (g a)) :
    Relaxes limits (x >>= f) (y >>= g) := by
  rcases h with ⟨e, he, rfl⟩ | rfl
  · exact Or.inl ⟨e, he, rfl⟩
  · cases x with
    | error e => exact .refl _
    | ok a => exact hnext a

/-- A check against a wider bound passes where the one against the narrower bound does. -/
theorem check_relaxes (hwider : ∀ bound, limits.allowed bound ≤ limits'.allowed bound) (bound : Bound) (actual : Int) :
    Relaxes limits (limits.check bound actual) (limits'.check bound actual) := by
  by_cases hactual : actual ≤ limits.allowed bound
  · rw [check_eq_ok.mpr hactual, check_eq_ok.mpr (Int.le_trans hactual (hwider bound))]
    exact .refl _
  · have hexceeded : limits.allowed bound < actual := Int.not_le.mp hactual
    exact Or.inl ⟨_, ⟨bound, actual, hexceeded, rfl⟩, check_eq_error.mpr ⟨hexceeded, rfl⟩⟩

theorem tokenize_relaxes (hwider : ∀ bound, limits.allowed bound ≤ limits'.allowed bound) :
    Relaxes limits (tokenize source limits) (tokenize source limits') :=
  (check_relaxes hwider .length _).bind fun _ => (Relaxes.refl _).bind fun tokens =>
    (check_relaxes hwider .tokens tokens.length).bind fun _ => .refl _

namespace Reading

variable {t : Token} {next : Option Kind}

/-- Only an open parenthesis has its bound. -/
theorem step_eq_of_not_opening (limits limits' : Limits) (r : Reading) (hk : t.kind ≠ .opening) :
    r.step source limits t next = r.step source limits' t next := by
  unfold step
  cases h : t.kind with
  | opening => exact absurd h hk
  | _ => rfl

theorem step_relaxes (hwider : ∀ bound, limits.allowed bound ≤ limits'.allowed bound) (r : Reading) :
    Relaxes limits (r.step source limits t next) (r.step source limits' t next) := by
  by_cases hk : t.kind = .opening
  · simp only [step, hk]
    exact (Relaxes.refl _).bind fun _ => (check_relaxes hwider .nesting _).bind fun _ => .refl _
  · rw [step_eq_of_not_opening limits limits' r hk]
    exact .refl _

theorem run_relaxes (hwider : ∀ bound, limits.allowed bound ≤ limits'.allowed bound) (tokens : List Token)
    (r : Reading) : Relaxes limits (r.run source limits tokens) (r.run source limits' tokens) := by
  induction tokens generalizing r with
  | nil => exact .refl _
  | cons t rest ih => exact (step_relaxes hwider r).bind ih

end Reading

theorem toPostfix_relaxes (hwider : ∀ bound, limits.allowed bound ≤ limits'.allowed bound) (tokens : List Token) :
    Relaxes limits (toPostfix tokens source limits) (toPostfix tokens source limits') := by
  unfold toPostfix
  split
  · exact .refl _
  · exact (Reading.run_relaxes hwider tokens Reading.start).bind fun _ => .refl _

theorem parse_relaxes (source : String) (hwider : ∀ bound, limits.allowed bound ≤ limits'.allowed bound) :
    Relaxes limits (parse source limits) (parse source limits') :=
  (tokenize_relaxes hwider).bind (toPostfix_relaxes hwider)

end

/-- Bounds turn an outcome into the error of a bound that is exceeded, or leave it as it is: under wider
bounds a formula has the same value, the same error at the same place or the same failure of
arithmetic, unless the narrower bounds stop it. -/
theorem evaluate_relaxes (source : String) (bindings : Bindings) (functions : Functions) {limits limits' : Limits}
    (hwider : ∀ bound, limits.allowed bound ≤ limits'.allowed bound) :
    evaluate source bindings limits functions = evaluate source bindings limits' functions ∨
      ∃ bound actual, limits.allowed bound < actual ∧ evaluate source bindings limits functions =
        .error (.formula ⟨.exceeds bound (limits.allowed bound) actual, none⟩) := by
  rcases parse_relaxes source hwider with ⟨e, ⟨bound, actual, hexceeded, rfl⟩, hparse⟩ | hparse
  · exact Or.inr ⟨bound, actual, hexceeded, by rw [evaluate, hparse]⟩
  · exact Or.inl (by rw [evaluate, evaluate, hparse])

/-- Two levels of parentheses are enough for a formula that has two. -/
theorem two_levels_suffice :
    (∀ bound, Limits.allowed ⟨5, 5, 2⟩ bound ≤ Limits.allowed {} bound) ∧
      evaluate "((x))" [] ⟨5, 5, 2⟩ [] = evaluate "((x))" [] {} [] := by
  have hwider : ∀ bound, Limits.allowed ⟨5, 5, 2⟩ bound ≤ Limits.allowed {} bound := by
    rintro (_ | _ | _) <;> decide
  have hparse : parse "((x))" ⟨5, 5, 2⟩ = .ok [⟨.name, "x", 2⟩] := eq_ok_of_toOption (by decide +kernel)
  have hunknown : evaluate "((x))" [] ⟨5, 5, 2⟩ [] = .error (.formula (.located (.unknownName "x") 2 "((x))")) := by
    rw [evaluate, hparse]
    rfl
  refine ⟨hwider, (evaluate_relaxes "((x))" [] [] hwider).resolve_right ?_⟩
  rintro ⟨bound, actual, -, hexceeded⟩
  rw [hunknown] at hexceeded
  cases hexceeded

end Formwork.Formula
