/-
  Formwork.Formula.Token: the words of a formula.

  Operators and parentheses are words of one character. Any other run of characters up to a
  blank, an operator or a comma is one word: a number if it is a literal, a name otherwise.
  A sign belongs to the run when the run is a number up to an exponent mark and a digit
  follows, so `1e-5` is one word and `1e-x` three. The tokens of a text tile it: what lies
  between them is blank.
-/

import Formwork.Formula.Limits
import Formwork.Number.Literal

namespace Formwork.Formula

/-- The kinds of words; the last two arise only when a formula is put into postfix order. -/
inductive Kind where
  | number
  | name
  | plus
  | minus
  | star
  | slash
  | percent
  | caret
  | opening
  | closing
  | function
  | negate
  deriving DecidableEq, Repr

structure Token where
  kind : Kind
  text : String
  position : Nat
  deriving DecidableEq, Repr

def operator? (c : Char) : Option Kind :=
  if c == '+' then some .plus
  else if c == '-' then some .minus
  else if c == '*' then some .star
  else if c == '/' then some .slash
  else if c == '%' then some .percent
  else if c == '^' then some .caret
  else if c == '(' then some .opening
  else if c == ')' then some .closing
  else none

def endsRun (c : Char) : Bool := Text.isBlank c || (operator? c).isSome || c == ','

/-- The sign `c` continues the number `run` when `rest` goes on with a digit. -/
def continuesNumber (run : List Char) (c : Char) (rest : List Char) : Bool :=
  (c == '+' || c == '-') && Literal.isOpen run && (rest.head?.any Char.isDigit)

def takeRun (run : List Char) : List Char → List Char × List Char
  | [] => (run, [])
  | c :: rest =>
    if continuesNumber run c rest then takeRun (run ++ [c]) rest
    else if endsRun c then (run, c :: rest)
    else takeRun (run ++ [c]) rest

theorem length_takeRun_le (run cs : List Char) : (takeRun run cs).2.length ≤ cs.length := by
  induction cs generalizing run with
  | nil => simp [takeRun]
  | cons c rest ih =>
    simp only [takeRun]
    split
    · exact Nat.le_succ_of_le (ih _)
    · split
      · exact Nat.le_refl _
      · exact Nat.le_succ_of_le (ih _)

def Token.ofRun (run : List Char) (position : Nat) : Token :=
  let text := String.ofList run
  ⟨if isNumberLiteral text then .number else .name, text, position⟩

/-- The tokens of `cs`, which starts at column `position` of `source`. -/
def scan (source : String) (position : Nat) (cs : List Char) : Except FormulaError (List Token) :=
  match cs with
  | [] => .ok []
  | c :: rest =>
    if Text.isBlank c then scan source (position + 1) rest
    else match operator? c with
      | some kind => do
        return ⟨kind, String.singleton c, position⟩ :: (← scan source (position + 1) rest)
      | none =>
        if c == ',' then .error (.located .comma position source)
        else
          let run := takeRun [c] rest
          do
            return Token.ofRun run.1 position :: (← scan source (position + run.1.length) run.2)
  termination_by cs.length
  decreasing_by
    · simp
    · simp
    · exact Nat.lt_succ_of_le (length_takeRun_le _ _)

def tokenize (source : String) (limits : Limits) : Except FormulaError (List Token) := do
  limits.check .length source.length
  let tokens ← scan source 0 source.toList
  limits.check .tokens tokens.length
  return tokens

end Formwork.Formula
