/-
  Formwork.Formula.Error: why a formula has no value.

  A formula error has a cause and, unless a bound was exceeded, the column it is about. Its
  report shows the formula with a caret under that column. Arithmetic that leaves the floats
  on the way (an integer out of range, the floor of an infinity) is a failure of its own
  kind, without a column.
-/

import Formwork.Number.Basic
import Formwork.Number.Layout

namespace Formwork.Formula

inductive Bound where
  | length
  | tokens
  | nesting
  deriving DecidableEq, Repr

def Bound.name : Bound → String
  | length => "max_expression_length"
  | tokens => "max_tokens"
  | nesting => "max_nesting_depth"

inductive Rejection where
  | negative (x : Float)
  | notPositive (x : Float)
  | overflow (x : Float)
  deriving DecidableEq, Repr

def Rejection.message : Rejection → String
  | negative x => s!"argument must be non-negative, got {naturalText x}"
  | notPositive x => s!"argument must be positive, got {naturalText x}"
  | overflow x => s!"result overflows for argument {naturalText x}"

inductive Cause where
  /-- Functions take one argument, so a comma has no place. -/
  | comma
  | exceeds (bound : Bound) (allowed actual : Int)
  | empty
  | endsEarly
  | unclosed
  | unopened
  /-- A binary operator where an operand must start. -/
  | operatorFirst (text : String)
  /-- An operand right after an operand. -/
  | operandTwice (text : String)
  /-- A token that only the postfix order has. -/
  | stray (text : String)
  | emptyGroup
  | unknownName (name : String)
  | notANumber (name : String)
  | divisionByZero
  | moduloByZero
  | powerUndefined (base exponent : Float)
  | rejected (function : String) (why : Rejection)
  | notFinite
  | missingOperand (text : String)
  | unknownOperator (text : String)
  | malformed
  deriving DecidableEq, Repr

def Cause.message : Cause → String
  | comma => "Unexpected ','. Functions accept a single argument"
  | exceeds bound allowed actual => s!"Formula exceeds {bound.name}: {actual} (allowed {allowed})"
  | empty => "Empty formula"
  | endsEarly => "Unexpected end of formula"
  | unclosed => "Unmatched '('"
  | unopened => "Unmatched ')'"
  | operatorFirst text => s!"Unexpected operator '{text}'"
  | operandTwice text => s!"Unexpected '{text}' after operand"
  | stray text => s!"Unexpected token: {text}"
  | emptyGroup => "Expected expression before ')'"
  | unknownName name => s!"Unknown variable or function: {name}"
  | notANumber name => s!"Variable '{name}' is not a number"
  | divisionByZero => "Division by zero"
  | moduloByZero => "Modulo by zero"
  | powerUndefined base exponent => s!"Cannot raise {naturalText base} to the power {naturalText exponent}"
  | rejected function why => s!"{function}(): {why.message}"
  | notFinite => "Formula result is not a finite number"
  | missingOperand text => s!"Missing operand for '{text}'"
  | unknownOperator text => s!"Unknown operator: {text}"
  | malformed => "Malformed formula"

/-- The families of causes, after the part of a formula's life that they end. -/
inductive Family where
  | lexical
  | syntactic
  | limit
  | unknownName
  | rejected
  | evaluation
  deriving DecidableEq, Repr

def Cause.family : Cause → Family
  | comma => .lexical
  | exceeds .. => .limit
  | empty | endsEarly | unclosed | unopened | operatorFirst _ | operandTwice _ | stray _ | emptyGroup => .syntactic
  | unknownName _ => .unknownName
  | rejected .. => .rejected
  | notANumber _ | divisionByZero | moduloByZero | powerUndefined .. | notFinite | missingOperand _
  | unknownOperator _ | malformed => .evaluation

end Formwork.Formula

namespace Formwork

structure FormulaError where
  cause : Formula.Cause
  place : Option (Nat × String)
  deriving DecidableEq, Repr

namespace FormulaError

def located (cause : Formula.Cause) (position : Nat) (source : String) : FormulaError :=
  ⟨cause, some (position, source)⟩

def message (e : FormulaError) : String := e.cause.message

def position (e : FormulaError) : Option Nat := e.place.map (·.1)

/-- The message, then the formula and a caret under the column. -/
def report (e : FormulaError) : String :=
  match e.place with
  | none => e.message
  | some (position, source) =>
    e.message ++ "\n  " ++ source ++ "\n  " ++ String.ofList (List.replicate position ' ') ++ "^"

end FormulaError

namespace Formula

inductive Failure where
  | formula (e : FormulaError)
  | numeric (e : NumericError)
  deriving DecidableEq, Repr

def Failure.message : Failure → String
  | formula e => e.message
  | numeric e => e.message

end Formula

end Formwork
