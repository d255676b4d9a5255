/-
  Formwork.Quiz.Result: what the answers to a quiz amount to.

  Every question gives one entry of the breakdown, weighted; score and greatest score are
  the sums over the entries from the left. The result is the first one whose range contains
  the score, or the percentage where that is what counts, and possibly the first of all
  where no range does.
-/

import Formwork.Element.Processed
import Formwork.Element.Submission
import Formwork.Number.Layout
import Formwork.Quiz.Scoring

namespace Formwork

namespace Quiz

structure Entry where
  question : Question
  answer : Value
  isCorrect : Bool
  points : Float
  maxPoints : Float
  deriving Repr

structure Totals where
  score : Float
  maxScore : Float
  correct : Nat
  deriving DecidableEq, Repr

structure Evaluation where
  totals : Totals
  percentage : Int
  result : Outcome
  breakdown : List Entry
  deriving Repr

/-- Points count as often as the weight says; an unset weight is 1. -/
def Question.entry (answers : Entries Value) (q : Question) : Except NumericError Entry :=
  let answer := (answers.get? q.id).getD .null
  let weight := setOr 1 q.weight
  (q.score answer).map fun s =>
    ⟨q, if answer.isAnswered then answer else .text "", s.isCorrect, s.points * weight, q.maxPoints * weight⟩

def Totals.add (t : Totals) (e : Entry) : Totals :=
  ⟨t.score + e.points, t.maxScore + e.maxPoints, if e.isCorrect then t.correct + 1 else t.correct⟩

def Totals.ofEntries (entries : List Entry) : Totals := entries.foldl Totals.add ⟨0, 0, 0⟩

/-- The score as a percentage of the greatest one, 0 if that is not positive. -/
def Totals.percentage (t : Totals) : Except NumericError Int :=
  if 0 < t.maxScore then Formwork.percentage (.float t.score) (.float t.maxScore) else .ok 0

def compared (q : Quiz) (score : Float) (percentage : Int) : Number :=
  if q.scoring.any (·.type == .percentage) then .int percentage else .float score

def Outcome.contains (o : Outcome) (x : Number) : Bool := Number.le (.float o.minScore) x && x.le (.float o.maxScore)

def outcome? (q : Quiz) (x : Number) : Option Outcome :=
  (q.results.find? (·.contains x)).or (if q.settings.fallbackToFirstResult then q.results.head? else none)

inductive Failure where
  | numeric (e : NumericError)
  /-- No range contains the number. -/
  | unmatched (score : Float)
  deriving DecidableEq, Repr

def Failure.message : Failure → String
  | numeric e => e.message
  | unmatched score => s!"No matching result found for score {briefText score}"

def entries (q : Quiz) (answers : Entries Value) : Except NumericError (List Entry) :=
  q.questions.mapM (Question.entry answers)

def evaluate (q : Quiz) (answers : Entries Value) : Except Failure Evaluation := do
  let breakdown ← (q.entries answers).mapError .numeric
  let totals := Totals.ofEntries breakdown
  let percentage ← totals.percentage.mapError .numeric
  let x := q.compared totals.score percentage
  match q.outcome? x with
  | some result => return ⟨totals, percentage, result, breakdown⟩
  | none => throw (.unmatched (← x.toFloat.mapError .numeric))

def processAnswers (q : Quiz) (now : Timestamp) (answers : Entries Value) : Processed Evaluation :=
  match q.evaluate answers with
  | .error e => .refused e.message none
  | .ok data => .done data [("completedAt", .text now.text), ("resultId", .text data.result.id)]

def process (q : Quiz) (now : Timestamp) (response : Value) : Processed Evaluation :=
  match readResponse Response.schema response with
  | .error issues => .unreadable issues
  | .ok r => q.processAnswers now r.answers

end Quiz

end Formwork
