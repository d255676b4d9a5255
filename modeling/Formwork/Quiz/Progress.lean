/-
  Formwork.Quiz.Progress: how a visitor goes through a quiz.

  The order of the questions is fixed at the start. An answer moves on to the question that
  the chosen option names, or else to the next one in that order; the quiz is complete when
  there is none.
-/

import Formwork.Element.Processed
import Formwork.Number.Basic
import Formwork.Quiz.Config

namespace Formwork

namespace Quiz

structure State where
  /-- A place in `order`; its length behind the last question. -/
  index : Int := 0
  answers : Entries Value := []
  score : Float := 0
  startedAt : String := ""
  isComplete : Bool := false
  /-- In seconds. -/
  timeRemaining : Option Int := none
  /-- The ids of the questions as shown; empty stands for their order in the quiz. -/
  order : List String := []
  deriving Repr

/-- The questions in order; equal places keep the order of the quiz. -/
def ordered (q : Quiz) : List Question := q.questions.mergeSort fun a b => a.order ≤ b.order

def orderedIds (q : Quiz) : List String := q.ordered.map (·.id)

def question? (q : Quiz) (id : String) : Option Question := q.questions.find? (·.id == id)

/-- The questions in order, or as `shuffle` leaves them if the quiz is random. -/
def presented (q : Quiz) (shuffle : List Question → List Question) : List Question :=
  if q.settings.randomizeQuestions then shuffle q.ordered else q.ordered

def presentedChoices (q : Quiz) (shuffle : List Choice → List Choice) (question : Question) : List Choice :=
  let choices := question.options.getD []
  if q.settings.randomizeOptions then shuffle choices else choices

def start (q : Quiz) (shuffle : List Question → List Question) (now : Timestamp) : State :=
  { order := (q.presented shuffle).map (·.id), startedAt := now.text, timeRemaining := q.settings.timeLimit }

/-- The id that an order which may be empty stands for. -/
def orderOr (q : Quiz) (order : List String) : List String := if order.isEmpty then q.orderedIds else order

def Question.branch? (question : Question) (answer : Value) : Option String :=
  match answer with
  | .text id =>
    (((question.options.getD []).find? (·.id == id)).bind (·.nextQuestionId)).filter (· != "")
  | _ => none

def idAfter? (order : List String) (id : String) : Option String := ((order.dropWhile (· != id)).drop 1).head?

def next? (q : Quiz) (current : Question) (answer : Value) (order : List String) : Option Question :=
  match current.branch? answer with
  | some id => q.question? id
  | none => (idAfter? (q.orderOr order) current.id).bind q.question?

def answer (q : Quiz) (state : State) (id : String) (answer : Value) : Except UnknownQuestion State :=
  match q.question? id with
  | none => .error ⟨id⟩
  | some question =>
    let order := q.orderOr state.order
    let answers := state.answers.put id answer
    match (q.next? question answer order).filter fun next => order.contains next.id with
    | some next => .ok { state with answers, order, index := order.findIdx (· == next.id) }
    | none => .ok { state with answers, order, index := order.length, isComplete := true }

def current? (q : Quiz) (state : State) : Option Question :=
  if 0 ≤ state.index then ((q.orderOr state.order)[state.index.toNat]?).bind q.question? else none

def progress (q : Quiz) (answered : Number) : Except NumericError Int :=
  if q.questions.isEmpty then .ok 0 else percentage answered (.int q.questions.length)

def isComplete (q : Quiz) (answers : Entries Value) : Bool :=
  q.questions.all fun question => !question.required || isAnswered (answers.get? question.id)

/-- In seconds; 0 without a limit. -/
def timeLimit (q : Quiz) : Int := q.settings.timeLimit.getD 0

def hasTimeLimit (q : Quiz) : Bool := 0 < q.timeLimit

end Quiz

end Formwork
