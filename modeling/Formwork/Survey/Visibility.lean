/-
  Formwork.Survey.Visibility: which questions a survey shows.

  Whether a condition holds depends on the answer to one question. A list of answers equals
  a value when it includes it and contains a list when they share an element; only numbers
  are greater or less. `visible` is computed from the answers alone, so the order in which
  they were given does not matter.
-/

import Formwork.Survey.Config
import Formwork.Text.Search

namespace Formwork

namespace Survey

def includes (items : List Value) (v : Value) : Bool := items.any (v.same ·)

def matchesValue (answer value : Value) : Bool :=
  match answer with
  | .list items => includes items value
  | _ => answer.same value

/-- The value as a text stands in the text. A value that cannot be written stands in none. -/
def standsIn (text : Text.Points) (value : Value) : Bool :=
  match value, value.display with
  | .scalar (.broken word), _ => Text.occursIn word text.codes
  | _, .ok word => Text.occursIn (Text.Points.text word).codes text.codes
  | _, .error _ => false

/-- A text that has the value's text in it, or a list that includes the value or shares an element with it. -/
def containsValue (answer value : Value) : Bool :=
  match answer, value with
  | .text s, v => standsIn (.text s) v
  | .scalar (.broken codes), v => standsIn (.broken codes) v
  | .list items, .list values => values.any (includes items)
  | .list items, v => includes items v
  | _, _ => false

/-- A comparison of two numbers; other values do not compare. -/
def bothNumbers (compare : Number → Number → Bool) (a b : Value) : Bool :=
  match a.number?, b.number? with
  | some x, some y => compare x y
  | _, _ => false

def Comparison.holds (answer value : Value) : Comparison → Bool
  | .equals => matchesValue answer value
  | .notEquals => !matchesValue answer value
  | .contains => containsValue answer value
  | .greaterThan => bothNumbers (fun x y => y.lt x) answer value
  | .lessThan => bothNumbers Number.lt answer value

def answerTo (answers : Entries Value) (questionId : String) : Value := (answers.get? questionId).getD .null

def Condition.holds (c : Condition) (answers : Entries Value) : Bool :=
  c.operator.holds (answerTo answers c.questionId) c.value

def Logic.holds (l : Logic) (answers : Entries Value) : Bool :=
  match l.operator with
  | .all => l.conditions.all (·.holds answers)
  | .any => l.conditions.any (·.holds answers)

/-- A question that is to be shown needs its conditions, one that is to be hidden needs them to
fail, and any other is always visible. -/
def Question.isVisible (q : Question) (answers : Entries Value) : Bool :=
  match q.conditionalLogic with
  | none => true
  | some l =>
    match l.action with
    | .skipTo => true
    | .show => l.holds answers
    | .hide => !l.holds answers

/-- Visible before there are answers: all but those that are to be shown. -/
def Question.isVisibleAtFirst (q : Question) : Bool :=
  match q.conditionalLogic with
  | none => true
  | some l => l.action != .show

def visible (s : Survey) (answers : Entries Value) : List String :=
  (s.questions.filter (·.isVisible answers)).map (·.id)

def visibleAtFirst (s : Survey) : List String := (s.questions.filter (·.isVisibleAtFirst)).map (·.id)

end Survey

end Formwork
