/-
  Formwork.Quiz.Check: what an author gets to hear about a quiz.
-/

import Formwork.Element.Check
import Formwork.Insertion
import Formwork.Quiz.Scoring
import Formwork.Text.Blank

namespace Formwork

namespace Quiz

def QuestionKind.hasChoices : QuestionKind → Bool
  | .multipleChoice | .singleChoice | .imageChoice => true
  | _ => false

def Question.canBeRight (q : Question) : Bool :=
  q.hasRightAnswer || q.choices.any fun o => o.isCorrect == some true || 0 < setOr 0 o.score

def Question.check (q : Question) (countsPoints : Bool) (index : Nat) : Report :=
  let place := s!"questions[{index}]"
  let label := s!"{index + 1}"
  ⟨Defect.when (Text.isBlankText q.question) s!"{place}.question" s!"Question {label} text is required"
      "EMPTY_QUESTION" ++
    Defect.when (q.type.hasChoices && q.choices.length < 2) s!"{place}.options"
      s!"Question {label} must have at least 2 options" "INSUFFICIENT_OPTIONS" ++
    Defect.when (q.type == .trueFalse && q.options.any (·.length != 2)) s!"{place}.options"
      s!"True/False question {label} must have exactly 2 options" "INVALID_TRUE_FALSE",
    Warning.when (q.type.hasChoices && countsPoints && !q.canBeRight) s!"{place}.correctAnswer"
      s!"Question {label} has no correct answer defined"⟩

def ranges (q : Quiz) : List (Float × Float) :=
  Insertion.sort (fun a b => a.1 < b.1) (q.results.map fun r => (r.minScore, r.maxScore))

/-- Some range ends more than 1 below the start of the next. -/
def gapBetween : List (Float × Float) → Bool
  | a :: b :: rest => decide (a.2 < b.1 - 1) || gapBetween (b :: rest)
  | _ => false

def hasGaps (q : Quiz) : Bool := q.results.isEmpty || gapBetween q.ranges

/-- The shortest time limit, in seconds, that draws no warning. -/
def shortLimit : Int := 10

def checkQuestions (q : Quiz) : Report :=
  if q.questions.isEmpty then
    ⟨[⟨"questions", "Quiz must have at least one question", "NO_QUESTIONS"⟩], []⟩
  else
    let countsPoints := q.scoring.any (·.type == .points)
    Report.merge (q.questions.mapIdx fun i question => question.check countsPoints i) ++
    ⟨Defect.when q.results.isEmpty "results" "Quiz must have at least one result" "NO_RESULTS" ++
        Defect.when q.scoring.isNone "scoring" "Scoring configuration is required" "NO_SCORING_CONFIG",
      Warning.when (!q.results.isEmpty && q.hasGaps) "results" "Some score ranges may not be covered by results" ++
        Warning.when (q.settings.timeLimit.any fun t => t != 0 && t < shortLimit) "settings.timeLimit"
          "Time limit is very short (less than 10 seconds)"⟩

def check (q : Quiz) : Report := q.toElement.check ++ q.checkQuestions

end Quiz

end Formwork
