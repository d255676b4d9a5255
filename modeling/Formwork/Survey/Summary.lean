/-
  Formwork.Survey.Summary: what the answers to a survey say.

  Every answer has a text. From the answers come the counts of answered and skipped
  questions, the mean rating, the recommendation score with its class, and the
  satisfaction, which is the mean rating on a scale of five.
-/

import Formwork.Element.Processed
import Formwork.Element.Submission
import Formwork.Survey.Visibility

namespace Formwork

namespace Survey

/-! ## The text of an answer -/

/-- The text of the option with that id, or else the value itself. -/
def Question.choiceText (q : Question) (v : Value) : Except NumericError String :=
  match (q.options.getD []).find? fun o => (Value.text o.id).same v with
  | some o => if o.text == "" then v.display else .ok o.text
  | none => v.display

def isRating (kind : QuestionKind) : Bool := kind == .rating || kind == .recommendation

/-- A bound of a scale; 0 counts as none. -/
def boundOr (default : Int) (bound : Option Int) : Int := (bound.filter (· != 0)).getD default

def ranked (q : Question) (items : List Value) : Except NumericError (List String) :=
  items.zipIdx.mapM fun (v, i) => do return s!"{i + 1}. {← q.choiceText v}"

def Question.answerText (q : Question) (answer : Value) : Except NumericError String :=
  if !answer.isAnswered then .ok "Skipped" else
    match q.type, answer with
    | .singleChoice, v | .multipleChoice, v => do return ", ".intercalate (← v.asList.mapM q.choiceText)
    | .rating, v | .recommendation, v => do
      return (← v.display) ++ "/" ++ (← (Value.int (boundOr 10 q.maxRating)).display)
    | .ranking, .list items => do return ", ".intercalate (← ranked q items)
    | _, v => v.display

/-! ## Results by question -/

structure QuestionResult where
  question : Question
  answer : Value
  text : String
  isSkipped : Bool
  deriving Repr

def questionResult (answers : Entries Value) (q : Question) : Except NumericError QuestionResult :=
  let answer := answerTo answers q.id
  (q.answerText answer).map fun text => ⟨q, answer, text, !answer.isAnswered⟩

def questionResults (s : Survey) (answers : Entries Value) : Except NumericError (List QuestionResult) :=
  s.questions.mapM (questionResult answers)

/-! ## Counts and the mean rating -/

structure Counts where
  total : Nat
  answered : Nat
  completion : Int
  meanRating : Option Float
  deriving DecidableEq, Repr

def QuestionResult.rating? (r : QuestionResult) : Option Number :=
  if isRating r.question.type then r.answer.number? else none

def mean? (xs : List Number) : Except NumericError (Option Float) :=
  if xs.isEmpty then .ok none
  else do return some (← (← Number.sum xs).div (.int xs.length))

def counts (results : List QuestionResult) : Except NumericError Counts := do
  let answered := results.countP (!·.isSkipped)
  let mean ← mean? (results.filterMap (·.rating?))
  let completion ← if results.isEmpty then pure 0 else percentage (.int answered) (.int results.length)
  return ⟨results.length, answered, completion, mean⟩

/-! ## Recommendation -/

inductive Loyalty where
  | promoter
  | passive
  | detractor
  deriving DecidableEq, Repr

def Loyalty.word : Loyalty → String
  | promoter => "promoter"
  | passive => "passive"
  | detractor => "detractor"

/-- Promoters from 9 up, passive from 7 up. -/
def Loyalty.ofScore (score : Number) : Loyalty :=
  if Number.le (.int 9) score then promoter else if Number.le (.int 7) score then passive else detractor

structure Recommendation where
  score : Number
  loyalty : Loyalty
  feedback : Option String
  deriving DecidableEq, Repr

def followUpTo? (s : Survey) (id : String) : Option Question :=
  s.questions.find? fun q =>
    q.type == .openText && q.conditionalLogic.any fun l => l.conditions.any (·.questionId == id)

def Question.recommended? (q : Question) (answers : Entries Value) : Option Number :=
  (answerTo answers q.id).number?.filter fun score => Number.le (.int 0) score && Number.le score (.int 10)

/-- The answer to the first recommendation question, if it is a number from 0 to 10. -/
def recommendation? (s : Survey) (answers : Entries Value) : Except NumericError (Option Recommendation) :=
  match s.questions.find? (·.type == .recommendation) with
  | none => .ok none
  | some q =>
    match q.recommended? answers with
    | none => .ok none
    | some score => do
      let feedback := ((s.followUpTo? q.id).map fun f => answerTo answers f.id).filter Value.isAnswered
      return some ⟨score, .ofScore score, ← feedback.mapM Value.display⟩

/-! ## Satisfaction -/

def ratingShare (answers : Entries Value) (q : Question) : Except NumericError (Option Float) :=
  match if q.type == .rating then (answerTo answers q.id).number? else none with
  | none => .ok none
  | some rating => (rating.div (.int (boundOr 5 q.maxRating))).map some

def satisfaction (s : Survey) (answers : Entries Value) : Except NumericError (Option Float) := do
  let shares ← s.questions.mapM (ratingShare answers)
  let mean ← mean? ((shares.filterMap id).map .float)
  return mean.map (· * 5)

/-! ## All together -/

structure Evaluation where
  counts : Counts
  questions : List QuestionResult
  recommendation : Option Recommendation
  satisfaction : Option Float
  deriving Repr

def evaluate (s : Survey) (answers : Entries Value) : Except NumericError Evaluation := do
  let results ← s.questionResults answers
  let counts ← counts results
  let recommendation ← s.recommendation? answers
  let satisfaction ← s.satisfaction answers
  return ⟨counts, results, recommendation, satisfaction⟩

def processAnswers (s : Survey) (now : Timestamp) (answers : Entries Value) : Processed Evaluation :=
  match s.evaluate answers with
  | .error e => .refused e.message none
  | .ok data =>
    .done data [("completedAt", .text now.text), ("surveyType", .text (Keyword.word s.surveyType))]

def process (s : Survey) (now : Timestamp) (response : Value) : Processed Evaluation :=
  match readResponse Response.schema response with
  | .error issues => .unreadable issues
  | .ok r => s.processAnswers now r.answers

end Survey

end Formwork
