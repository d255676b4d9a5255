/-
  Formwork.Text.NameRun: names of characters, run by run.

  A run names characters that follow each other. What their names have in common is
  written once, before the endings. A star in the common part stands for CAPITAL and for
  SMALL in turn: each ending then names two letters.
-/

namespace Formwork.Text

structure NameRun where
  /-- The first code point. -/
  first : Nat
  start : String
  /-- One ending a character or pair, with commas between those in one text. -/
  endings : List String
  deriving DecidableEq, Repr

namespace NameRun

/-- The place among the endings of the one with which `name` goes on after `start`. -/
def place? (r : NameRun) (start : List Char) (name : List Char) : Option Nat := do
  let ending ← start.isPrefixOf? name
  (r.endings.flatMap (·.splitOn ",")).idxOf? (String.ofList ending)

def code? (r : NameRun) (name : List Char) : Option Nat :=
  match r.start.toList.span (· != '*') with
  | (before, '*' :: behind) =>
    let pair (word : String) : Option Nat := r.place? (before ++ word.toList ++ behind) name
    ((pair "CAPITAL").map (r.first + 2 * ·)).or ((pair "SMALL").map (r.first + 2 * · + 1))
  | (start, _) => (r.place? start name).map (r.first + ·)

end NameRun

end Formwork.Text
