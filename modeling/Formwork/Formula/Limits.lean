/-
  Formwork.Formula.Limits: bounds that keep a formula small.

  Formulas are written by the authors of a site; the bounds keep one formula from taking
  unbounded time.
-/

import Formwork.Formula.Error

namespace Formwork.Formula

structure Limits where
  length : Int := 4096
  tokens : Int := 512
  nesting : Int := 32
  deriving DecidableEq, Repr

def Limits.allowed (l : Limits) : Bound → Int
  | .length => l.length
  | .tokens => l.tokens
  | .nesting => l.nesting

def Limits.check (l : Limits) (bound : Bound) (actual : Int) : Except FormulaError Unit :=
  if l.allowed bound < actual then .error ⟨.exceeds bound (l.allowed bound) actual, none⟩ else .ok ()

end Formwork.Formula
