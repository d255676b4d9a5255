/-
  Formwork.Formula.Evaluation: the value of a formula.

  A formula in postfix order runs on one stack of floats. Numbers and variables push a
  value, the others take their operands from the top, the right operand first. A formula has
  a value when exactly one finite float is left.
-/

import Formwork.Formula.Function
import Formwork.Formula.Postfix
import Formwork.Value

namespace Formwork.Formula

abbrev Bindings := Entries Value

def Bindings.ofFloats (values : Entries Float) : Bindings := values.map fun e => (e.1, .float e.2)

structure Scope where
  bindings : Bindings
  functions : Functions := []
  source : String

namespace Scope

def fail {α : Type} (scope : Scope) (cause : Cause) (t : Token) : Except Failure α :=
  .error (.formula (.located cause t.position scope.source))

def site (scope : Scope) (t : Token) : Site := ⟨t.position, scope.source⟩

def lookup (scope : Scope) (t : Token) : Except Failure Float :=
  match scope.bindings.get? t.text with
  | none => scope.fail (.unknownName t.text) t
  | some v =>
    match v.number? with
    | none => scope.fail (.notANumber t.text) t
    | some n => ofNumeric n.toFloat

def numeral (t : Token) : Except Failure Float :=
  match Literal.float? t.text with
  | some x => .ok x
  | none => .error (.numeric (.unreadable (Text.quoted t.text)))

/-- The remainder with the sign of `x`. An infinite `x` has none; an infinite `y` leaves `x` as it is. -/
def modulo (x y : Float) : Except Failure Float :=
  if x.isNaN || y.isNaN then .ok Binary64.nan
  else if x.isInf then .error (.numeric .outsideDomain)
  else if y.isInf then .ok x
  else .ok (Binary64.remainder x y)

def apply (scope : Scope) (t : Token) (left right : Float) : Except Failure Float :=
  match t.kind with
  | .plus => .ok (left + right)
  | .minus => .ok (left - right)
  | .star => .ok (left * right)
  | .slash => if right == 0 then scope.fail .divisionByZero t else .ok (left / right)
  | .percent => if right == 0 then scope.fail .moduloByZero t else modulo left right
  | .caret =>
    let power := left.pow right
    if left.isFinite && right.isFinite && !power.isFinite then scope.fail (.powerUndefined left right) t
    else .ok power
  | _ => scope.fail (.unknownOperator t.text) t

/-- One token on the stack, whose top is the head of the list. -/
def step (scope : Scope) (stack : List Float) (t : Token) : Except Failure (List Float) :=
  match t.kind with
  | .number => do return (← numeral t) :: stack
  | .name => do return (← scope.lookup t) :: stack
  | .negate =>
    match stack with
    | x :: rest => .ok (-x :: rest)
    | [] => scope.fail (.missingOperand t.text) t
  | .function =>
    match stack with
    | x :: rest => do return (← scope.functions.call t.text x (scope.site t)) :: rest
    | [] => scope.fail (.missingOperand t.text) t
  | _ =>
    match stack with
    | right :: left :: rest => do return (← scope.apply t left right) :: rest
    | _ => scope.fail (.missingOperand t.text) t

def result (scope : Scope) (stack : List Float) : Except Failure Float :=
  match stack with
  | [x] =>
    if x.isNaN || x.isInf then .error (.formula (.located .notFinite 0 scope.source)) else .ok x
  | _ => .error (.formula (.located .malformed 0 scope.source))

def evaluatePostfix (scope : Scope) (tokens : List Token) : Except Failure Float := do
  scope.result (← tokens.foldlM scope.step [])

end Scope

def evaluate (source : String) (bindings : Bindings) (limits : Limits) (functions : Functions) :
    Except Failure Float :=
  match parse source limits with
  | .error e => .error (.formula e)
  | .ok tokens => Scope.evaluatePostfix ⟨bindings, functions, source⟩ tokens

/-- The value of a formula or the formula error; only arithmetic outside the floats remains a failure. -/
def attempt (source : String) (bindings : Bindings) (limits : Limits) (functions : Functions) :
    Except NumericError (Except FormulaError Float) :=
  match evaluate source bindings limits functions with
  | .ok x => .ok (.ok x)
  | .error (.formula e) => .ok (.error e)
  | .error (.numeric e) => .error e

end Formwork.Formula
