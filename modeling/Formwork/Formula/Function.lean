/-
  Formwork.Formula.Function: the functions that formulas may call.

  A function takes one float and knows where in the formula it stands. Functions are found
  by name in lower case; a registry without functions stands for the built-in one. `min` and
  `max` of a single argument are that argument.
-/

import Formwork.Entries
import Formwork.Formula.Error
import Formwork.Text.Lowercase

namespace Formwork.Formula

structure Site where
  position : Nat
  source : String
  deriving DecidableEq, Repr

abbrev Function := Float → Site → Except Failure Float

abbrev Functions := Entries Function

def Site.fail {α : Type} (site : Site) (cause : Cause) : Except Failure α :=
  .error (.formula (.located cause site.position site.source))

def ofNumeric {α : Type} : Except NumericError α → Except Failure α
  | .ok a => .ok a
  | .error e => .error (.numeric e)

namespace Function

def root : Function := fun x site => if x < 0 then site.fail (.rejected "sqrt" (.negative x)) else .ok x.sqrt

def decimalLog : Function := fun x site => if x ≤ 0 then site.fail (.rejected "log" (.notPositive x)) else .ok x.log10

def naturalLog : Function := fun x site => if x ≤ 0 then site.fail (.rejected "ln" (.notPositive x)) else .ok x.log

/-- An infinite power of a finite exponent is an overflow. -/
def exponential : Function := fun x site =>
  if x.exp.isInf && x.isFinite then site.fail (.rejected "exp" (.overflow x)) else .ok x.exp

def absolute : Function := fun x _ => .ok x.abs

def round : Function := fun x _ => ofNumeric (roundedFloat x)

def floor : Function := fun x _ => ofNumeric (wholeFloat x (Binary64.floor? x))

def ceiling : Function := fun x _ => ofNumeric (wholeFloat x (Binary64.ceil? x))

def identity : Function := fun x _ => .ok x

end Function

def builtins : Functions := [
  ("abs", Function.absolute), ("round", Function.round), ("floor", Function.floor), ("ceil", Function.ceiling),
  ("sqrt", Function.root), ("log", Function.decimalLog), ("ln", Function.naturalLog), ("exp", Function.exponential),
  ("min", Function.identity), ("max", Function.identity)]

namespace Functions

def orBuiltins (functions : Functions) : Functions := if functions.isEmpty then builtins else functions

/-- The function of a name, in any case. -/
def find? (functions : Functions) (name : String) : Option Function := functions.orBuiltins.get? (Text.lower name)

def has (functions : Functions) (name : String) : Bool := (functions.find? name).isSome

def call (functions : Functions) (name : String) (x : Float) (site : Site) : Except Failure Float :=
  match functions.find? name with
  | some f => f x site
  | none => site.fail (.unknownName name)

end Functions

end Formwork.Formula
