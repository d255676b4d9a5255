/-
  Formwork.Proofs.Formula.Value: what a formula is worth, by its tree and on the stack.

  `Tree.value` evaluates a tree from its leaves: the left operand, then the right one, then
  the operator; the argument of a call, then the function. Each part may fail, and the first
  failure in this order is the failure of the whole. `Scope.settle` then refuses what is not
  finite.

  - `foldlM_step_postorder`: the stack machine on the postorder of a tree, whatever follows
    and whatever is on the stack, pushes the value of the tree or fails as the tree does.
  - `evaluatePostfix_postorder`: on its own, it has the outcome of the tree.
-/

import Formwork.Formula.Evaluation
import Formwork.Proofs.Bind
import Formwork.Proofs.Formula.Grammar

namespace Formwork.Formula

def Tree.value (scope : Scope) : Tree → Except Failure Float
  | number w => Scope.numeral (w.as .number)
  | name w => scope.lookup (w.as .name)
  | negate _ t => do
    let x ← t.value scope
    return -x
  | binary op w l r => do
    let x ← l.value scope
    let y ← r.value scope
    scope.apply (w.as op.kind) x y
  | call w t => do
    let x ← t.value scope
    scope.functions.call w.text x ⟨w.position, scope.source⟩

namespace Scope

def settle (scope : Scope) (x : Float) : Except Failure Float :=
  if x.isNaN || x.isInf then .error (.formula (.located .notFinite 0 scope.source)) else .ok x

variable (scope : Scope)

/-! ## One token -/

theorem step_number (w : Word) (stack : List Float) :
    scope.step stack (w.as .number) = (do let x ← numeral (w.as .number); return x :: stack) := rfl

theorem step_name (w : Word) (stack : List Float) :
    scope.step stack (w.as .name) = (do let x ← scope.lookup (w.as .name); return x :: stack) := rfl

theorem step_binary (op : Operator) (w : Word) (x y : Float) (stack : List Float) :
    scope.step (y :: x :: stack) (w.as op.kind) =
      (do let z ← scope.apply (w.as op.kind) x y; return z :: stack) := by
  cases op <;> rfl

theorem step_call (w : Word) (x : Float) (stack : List Float) :
    scope.step (x :: stack) (w.as .function) =
      (do let y ← scope.functions.call w.text x ⟨w.position, scope.source⟩; return y :: stack) := rfl

/-! ## A whole tree -/

/-- The postorder of a tree pushes its value, whatever follows and whatever is on the stack;
where the tree fails, the run ends with its failure. -/
theorem foldlM_step_postorder (t : Tree) (rest : List Token) (stack : List Float) :
    (t.postorder ++ rest).foldlM scope.step stack =
      (do let x ← t.value scope; rest.foldlM scope.step (x :: stack)) := by
  induction t generalizing rest stack with
  | number w =>
    simp only [Tree.postorder, Tree.value, List.cons_append, List.nil_append, List.foldlM_cons, step_number]
    cases numeral (w.as .number) <;> rfl
  | name w =>
    simp only [Tree.postorder, Tree.value, List.cons_append, List.nil_append, List.foldlM_cons, step_name]
    cases scope.lookup (w.as .name) <;> rfl
  | negate w t ih =>
    rw [Tree.postorder, List.append_assoc, ih, Tree.value]
    cases t.value scope <;> rfl
  | binary op w l r ihl ihr =>
    rw [Tree.postorder, List.append_assoc, List.append_assoc, ihl, Tree.value]
    cases l.value scope with
    | error e => rfl
    | ok x =>
      rw [ok_bind, ok_bind, ihr]
      cases r.value scope with
      | error e => rfl
      | ok y =>
        rw [ok_bind, ok_bind, List.singleton_append, List.foldlM_cons, step_binary]
        cases scope.apply (w.as op.kind) x y <;> rfl
  | call w t ih =>
    rw [Tree.postorder, List.append_assoc, ih, Tree.value]
    cases t.value scope with
    | error e => rfl
    | ok x =>
      rw [ok_bind, ok_bind, List.singleton_append, List.foldlM_cons, step_call]
      cases scope.functions.call w.text x ⟨w.position, scope.source⟩ <;> rfl

/-- A tree in postorder has the outcome of the tree: the same float, or the same first failure. -/
theorem evaluatePostfix_postorder (t : Tree) :
    scope.evaluatePostfix t.postorder = (do let x ← t.value scope; scope.settle x) := by
  have h := foldlM_step_postorder scope t [] []
  rw [List.append_nil] at h
  rw [evaluatePostfix, h]
  cases t.value scope <;> rfl

end Scope

end Formwork.Formula
