/-
  Formwork.Survey.Check: what an author gets to hear about a survey.
-/

import Formwork.Element.Check
import Formwork.Survey.Config
import Formwork.Text.Blank

namespace Formwork

namespace Survey

def Logic.check (l : Logic) (questionIds : List String) (place : String) : List Defect :=
  let target := l.targetQuestionId.getD ""
  Defect.when l.conditions.isEmpty s!"{place}.conditionalLogic" "Conditional logic must have at least one condition"
    "NO_CONDITIONS" ++
  l.conditions.flatMap (fun c =>
    Defect.when (!questionIds.contains c.questionId) s!"{place}.conditionalLogic"
      s!"Conditional logic references unknown question: {c.questionId}" "INVALID_QUESTION_REFERENCE") ++
  Defect.when (l.action == .skipTo && target != "" && !questionIds.contains target)
    s!"{place}.conditionalLogic.targetQuestionId" s!"Skip-to target question not found: {target}"
    "INVALID_TARGET_QUESTION"

def QuestionKind.hasChoices : QuestionKind → Bool
  | .multipleChoice | .singleChoice | .ranking => true
  | _ => false

def Question.check (q : Question) (questionIds : List String) (index : Nat) : List Defect :=
  let place := s!"questions[{index}]"
  let label := s!"Question {index + 1}"
  Defect.when (Text.isBlankText q.question) s!"{place}.question" s!"{label} text is required" "EMPTY_QUESTION" ++
  Defect.when (q.type.hasChoices && (q.options.getD []).length < 2) s!"{place}.options"
    s!"{label} must have at least 2 options" "INSUFFICIENT_OPTIONS" ++
  Defect.when (q.type == .rating && (match q.minRating, q.maxRating with
      | some low, some high => decide (high ≤ low)
      | _, _ => false))
    s!"{place}.minRating" s!"{label} min rating must be less than max rating" "INVALID_RATING_RANGE" ++
  q.conditionalLogic.elim [] fun l => l.check questionIds place

def checkQuestions (s : Survey) : Report :=
  if s.questions.isEmpty then
    ⟨[⟨"questions", "Survey must have at least one question", "NO_QUESTIONS"⟩], []⟩
  else
    let ids := s.questions.map (·.id)
    ⟨(s.questions.mapIdx fun i q => q.check ids i).flatten,
      Warning.when (s.surveyType == .recommendation && !s.questions.any (·.type == .recommendation)) "questions"
        "NPS survey type should have at least one NPS question" ++
      Warning.when (s.settings.thankYouMessage == "") "settings.thankYouMessage" "No thank you message configured"⟩

def check (s : Survey) : Report := s.toElement.check ++ s.checkQuestions

end Survey

end Formwork
