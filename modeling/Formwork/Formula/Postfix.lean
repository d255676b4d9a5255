/-
  Formwork.Formula.Postfix: formulas in postfix order.

  From weak to strong bind `+ -`, then `* / %`, then the signs in front of an operand, then
  `^`; `^` groups to the right and the other binary operators to the left. A name before an
  opening parenthesis is a function. In postfix order operands come before their operator
  and parentheses are gone; a minus in front of an operand becomes `negate`, a plus in front
  of one disappears.

  One pass reads the tokens. Operators, functions and open parentheses wait in `pending`,
  the latest first, until what they apply to has been written.
-/

import Formwork.Formula.Token

namespace Formwork.Formula

/-- How strongly an operator binds; parentheses and functions do not bind. -/
def Kind.precedence? : Kind → Option Nat
  | .plus | .minus => some 1
  | .star | .slash | .percent => some 2
  | .negate => some 3
  | .caret => some 4
  | _ => none

structure Reading where
  output : List Token
  pending : List Token
  depth : Nat
  /-- The next token has to start an operand. -/
  wantsOperand : Bool
  deriving DecidableEq, Repr

namespace Reading

def start : Reading := ⟨[], [], 0, true⟩

/-- An operator that waits is written before `next` starts to wait. -/
def yieldsTo (next waiting : Token) : Bool :=
  match waiting.kind.precedence?, next.kind.precedence? with
  | some w, some n => n < w || (n == w && next.kind != .caret)
  | _, _ => false

def needOperandPlace (source : String) (r : Reading) (t : Token) : Except FormulaError Unit :=
  if r.wantsOperand then .ok () else .error (.located (.operandTwice t.text) t.position source)

/-- A binary operator: those that bind at least as strongly are written first. -/
def binary (r : Reading) (t : Token) : Reading :=
  { r with
    output := r.output ++ r.pending.takeWhile (yieldsTo t)
    pending := t :: r.pending.dropWhile (yieldsTo t)
    wantsOperand := true }

def isInner (t : Token) : Bool := t.kind != .opening

/-- A closing parenthesis: what waits inside the group is written, then the function it belongs to. -/
def close (source : String) (r : Reading) (t : Token) : Except FormulaError Reading :=
  if r.wantsOperand then .error (.located .emptyGroup t.position source)
  else
    let output := r.output ++ r.pending.takeWhile isInner
    match r.pending.dropWhile isInner with
    | [] => .error (.located .unopened t.position source)
    | _ :: f :: rest =>
      if f.kind == .function then .ok ⟨output ++ [f], rest, r.depth - 1, false⟩
      else .ok ⟨output, f :: rest, r.depth - 1, false⟩
    | [_] => .ok ⟨output, [], r.depth - 1, false⟩

/-- One token; `next` is the kind of the token after it. -/
def step (source : String) (limits : Limits) (r : Reading) (t : Token) (next : Option Kind) :
    Except FormulaError Reading :=
  match t.kind with
  | .number => do
    r.needOperandPlace source t
    return { r with output := r.output ++ [t], wantsOperand := false }
  | .name => do
    r.needOperandPlace source t
    if next == some .opening then return { r with pending := { t with kind := .function } :: r.pending }
    else return { r with output := r.output ++ [t], wantsOperand := false }
  | .opening => do
    r.needOperandPlace source t
    limits.check .nesting (r.depth + 1 : Nat)
    return { r with pending := t :: r.pending, depth := r.depth + 1 }
  | .closing => r.close source t
  | .function | .negate => .error (.located (.stray t.text) t.position source)
  | kind =>
    if r.wantsOperand then
      if kind == .minus then .ok { r with pending := ⟨.negate, "-", t.position⟩ :: r.pending }
      else if kind == .plus then .ok r
      else .error (.located (.operatorFirst t.text) t.position source)
    else .ok (r.binary t)

def run (source : String) (limits : Limits) (r : Reading) : List Token → Except FormulaError Reading
  | [] => .ok r
  | t :: rest => do run source limits (← r.step source limits t (rest.head?.map Token.kind)) rest

/-- What still waits is written; an open parenthesis among it was never closed. -/
def finish (source : String) (r : Reading) : Except FormulaError (List Token) :=
  if r.wantsOperand then .error (.located .endsEarly source.length source)
  else match r.pending.find? fun t => t.kind == .opening with
    | some t => .error (.located .unclosed t.position source)
    | none => .ok (r.output ++ r.pending)

end Reading

def toPostfix (tokens : List Token) (source : String) (limits : Limits) : Except FormulaError (List Token) :=
  if tokens.isEmpty then .error (.located .empty 0 source)
  else do
    let r ← Reading.start.run source limits tokens
    r.finish source

def parse (source : String) (limits : Limits) : Except FormulaError (List Token) := do
  toPostfix (← tokenize source limits) source limits

end Formwork.Formula
