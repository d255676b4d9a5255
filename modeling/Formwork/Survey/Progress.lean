/-
  Formwork.Survey.Progress: how a visitor goes through a survey.

  `State.answer` records an answer, or a skipped question when the answer is empty,
  recomputes what is visible and moves on: to the target of a skip whose conditions hold on
  the new answers, or else to the next visible question in order. Behind the last question
  the survey is complete when every required visible question is answered.
-/

import Formwork.Element.Processed
import Formwork.Survey.Visibility

namespace Formwork

namespace Survey

structure State where
  /-- A place among the questions in order; their number behind the last one. -/
  index : Int := 0
  answers : Entries Value := []
  skipped : List String := []
  visible : List String := []
  startedAt : String := ""
  isComplete : Bool := false
  deriving Repr

/-- The questions in order; equal places keep the order of the survey. -/
def ordered (s : Survey) : List Question := s.questions.mergeSort fun a b => a.order ≤ b.order

def question? (s : Survey) (id : String) : Option Question := s.questions.find? (·.id == id)

/-- The question that a skip leads to once `answer` is added to the answers. -/
def skipTarget? (s : Survey) (current : Question) (answer : Value) (answers : Entries Value) : Option Question := do
  let l ← current.conditionalLogic
  let target ← l.targetQuestionId
  if l.action == .skipTo && target != "" && l.holds (answers.put current.id answer) then s.question? target
  else none

def nextInOrder? (s : Survey) (id : String) (visible : List String) : Option Question :=
  ((s.ordered.dropWhile (·.id != id)).drop 1).find? fun q => visible.contains q.id

def next? (s : Survey) (current : Question) (answer : Value) (visible : List String) (answers : Entries Value) :
    Option Question :=
  (s.skipTarget? current answer answers).or (s.nextInOrder? current.id visible)

def Question.same (a b : Question) : Bool :=
  (Question.schema.write .plain a).same (Question.schema.write .plain b)

/-- The place at which a question first stands; one that is not the same as itself, as a NaN is
not, is told by its id. -/
def place (s : Survey) (q : Question) : Nat :=
  (s.ordered.findIdx? (·.same q)).getD (s.ordered.findIdx (·.id == q.id))

def isComplete (s : Survey) (answers : Entries Value) (visible : List String) : Bool :=
  s.questions.all fun q => !(q.required && visible.contains q.id) || isAnswered (answers.get? q.id)

def isCompleteFor (s : Survey) (answers : Entries Value) : Bool := s.isComplete answers (s.visible answers)

def start (s : Survey) (now : Timestamp) : State := { visible := s.visibleAtFirst, startedAt := now.text }

def State.record (state : State) (id : String) (answer : Value) : State :=
  if answer.isAnswered then
    { state with answers := state.answers.erase id ++ [(id, answer)], skipped := state.skipped.filter (· != id) }
  else { state with answers := state.answers.erase id, skipped := state.skipped.filter (· != id) ++ [id] }

def advance (s : Survey) (state : State) (q : Question) (answer : Value) : State :=
  let visible := s.visible state.answers
  match s.next? q answer visible state.answers with
  | some next => { state with visible, index := s.place next }
  | none => { state with visible, index := s.ordered.length, isComplete := s.isComplete state.answers visible }

def answer (s : Survey) (state : State) (id : String) (answer : Value) : Except UnknownQuestion State :=
  match s.question? id with
  | none => .error ⟨id⟩
  | some q => .ok (s.advance (state.record id answer) q answer)

/-- The questions in order, or as `shuffle` leaves them if the survey is random. -/
def presented (s : Survey) (shuffle : List Question → List Question) : List Question :=
  if s.settings.randomizeQuestions then shuffle s.ordered else s.ordered

def canSkip (s : Survey) (q : Question) : Bool := s.settings.allowSkip || !q.required

def progress (answered totalVisible : Number) : Except NumericError Int :=
  if totalVisible.same (.int 0) then .ok 0 else percentage answered totalVisible

end Survey

end Formwork
