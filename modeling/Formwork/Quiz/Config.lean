/-
  Formwork.Quiz.Config: what a quiz consists of.
-/

import Formwork.Element.Config

namespace Formwork

namespace Quiz

inductive QuestionKind where
  | multipleChoice
  | singleChoice
  | trueFalse
  | text
  | rating
  | imageChoice
  deriving DecidableEq, Repr

instance : Keyword QuestionKind where
  all := [.multipleChoice, .singleChoice, .trueFalse, .text, .rating, .imageChoice]
  word
    | .multipleChoice => "multiple-choice"
    | .singleChoice => "single-choice"
    | .trueFalse => "true-false"
    | .text => "text"
    | .rating => "rating"
    | .imageChoice => "image-choice"
  complete a := by cases a <;> decide
  injective a b := by cases a <;> cases b <;> decide

/-- What the results of a quiz are matched against. -/
inductive ScoringKind where
  | points
  | percentage
  | weighted
  | custom
  deriving DecidableEq, Repr

instance : Keyword ScoringKind where
  all := [.points, .percentage, .weighted, .custom]
  word
    | .points => "points"
    | .percentage => "percentage"
    | .weighted => "weighted"
    | .custom => "custom"
  complete a := by cases a <;> decide
  injective a b := by cases a <;> cases b <;> decide

structure Choice where
  id : String
  text : String := ""
  imageUrl : Option String := none
  score : Option Float := none
  isCorrect : Option Bool := none
  /-- The question that follows when this answer is chosen. -/
  nextQuestionId : Option String := none
  deriving DecidableEq, Repr

def Choice.schema : Schema Choice :=
  .record
    (.need "id" .text <|
      .or "text" .text "" <|
      .opt "image_url" .text <|
      .opt "score" (.decimal none) <|
      .opt "is_correct" .flag <|
      .opt "next_question_id" .text <|
      .done)
    (fun (id, text, imageUrl, score, isCorrect, nextQuestionId, ()) =>
      ⟨id, text, imageUrl, score, isCorrect, nextQuestionId⟩)
    (fun r => (r.id, r.text, r.imageUrl, r.score, r.isCorrect, r.nextQuestionId, ()))
    (fun _ => rfl) (fun _ => rfl)

/-- A question; its time limit is in seconds. -/
structure Question where
  id : String
  type : QuestionKind
  question : String := ""
  description : Option String := none
  imageUrl : Option String := none
  options : Option (List Choice) := none
  correctAnswer : Option TextOrTexts := none
  hint : Option String := none
  explanation : Option String := none
  required : Bool := false
  weight : Option Float := none
  timeLimit : Option Int := none
  order : Int := 0
  deriving DecidableEq, Repr

def Question.schema : Schema Question :=
  .record
    (.need "id" .text <|
      .need "type" (.word inferInstance) <|
      .or "question" .text "" <|
      .opt "description" .text <|
      .opt "image_url" .text <|
      .opt "options" (.list Choice.schema) <|
      .opt "correct_answer" .textOrTexts <|
      .opt "hint" .text <|
      .opt "explanation" .text <|
      .or "required" .flag false <|
      .opt "weight" (.decimal none) <|
      .opt "time_limit" (.integer none) <|
      .or "order" (.integer none) 0 <|
      .done)
    (fun (id, type, question, description, imageUrl, options, correctAnswer, hint, explanation, required, weight,
          timeLimit, order, ()) =>
      ⟨id, type, question, description, imageUrl, options, correctAnswer, hint, explanation, required, weight,
       timeLimit, order⟩)
    (fun r => (r.id, r.type, r.question, r.description, r.imageUrl, r.options, r.correctAnswer, r.hint, r.explanation,
               r.required, r.weight, r.timeLimit, r.order, ()))
    (fun _ => rfl) (fun _ => rfl)

structure Scoring where
  type : ScoringKind := .points
  maxScore : Option Float := none
  passingScore : Option Float := none
  showScoreAfterEach : Bool := false
  showFinalScore : Bool := true
  deriving DecidableEq, Repr

def Scoring.schema : Schema Scoring :=
  .record
    (.or "type" (.word inferInstance) .points <|
      .opt "max_score" (.decimal none) <|
      .opt "passing_score" (.decimal none) <|
      .or "show_score_after_each" .flag false <|
      .or "show_final_score" .flag true <|
      .done)
    (fun (type, maxScore, passingScore, showScoreAfterEach, showFinalScore, ()) =>
      ⟨type, maxScore, passingScore, showScoreAfterEach, showFinalScore⟩)
    (fun r => (r.type, r.maxScore, r.passingScore, r.showScoreAfterEach, r.showFinalScore, ()))
    (fun _ => rfl) (fun _ => rfl)

/-- A result for the scores from `minScore` to `maxScore`, both included. -/
structure Outcome where
  id : String
  minScore : Float
  maxScore : Float
  title : String := ""
  message : String := ""
  imageUrl : Option String := none
  recommendation : Option String := none
  personaMatch : Option String := none
  followUpAction : Option FollowUp := none
  ctaText : Option String := none
  ctaUrl : Option String := none
  deriving DecidableEq, Repr

def Outcome.schema : Schema Outcome :=
  .record
    (.need "id" .text <|
      .need "min_score" (.decimal none) <|
      .need "max_score" (.decimal none) <|
      .or "title" .text "" <|
      .or "message" .text "" <|
      .opt "image_url" .text <|
      .opt "recommendation" .text <|
      .opt "persona_match" .text <|
      .opt "follow_up_action" FollowUp.schema <|
      .opt "cta_text" .text <|
      .opt "cta_url" .text <|
      .done)
    (fun (id, minScore, maxScore, title, message, imageUrl, recommendation, personaMatch, followUpAction, ctaText,
          ctaUrl, ()) =>
      ⟨id, minScore, maxScore, title, message, imageUrl, recommendation, personaMatch, followUpAction, ctaText,
       ctaUrl⟩)
    (fun r => (r.id, r.minScore, r.maxScore, r.title, r.message, r.imageUrl, r.recommendation, r.personaMatch,
               r.followUpAction, r.ctaText, r.ctaUrl, ()))
    (fun _ => rfl) (fun _ => rfl)

/-- How a quiz is run; its time limit is in seconds. -/
structure Settings where
  allowRetake : Bool := true
  randomizeQuestions : Bool := false
  randomizeOptions : Bool := false
  showProgress : Bool := true
  showCorrectAnswers : Bool := false
  timeLimit : Option Int := none
  questionsPerPage : Int := 1
  /-- The first result stands in where no range contains the score. -/
  fallbackToFirstResult : Bool := false
  deriving DecidableEq, Repr

def Settings.schema : Schema Settings :=
  .record
    (.or "allow_retake" .flag true <|
      .or "randomize_questions" .flag false <|
      .or "randomize_options" .flag false <|
      .or "show_progress" .flag true <|
      .or "show_correct_answers" .flag false <|
      .opt "time_limit" (.integer none) <|
      .or "questions_per_page" (.integer none) 1 <|
      .or "fallback_to_first_result" .flag false <|
      .done)
    (fun (allowRetake, randomizeQuestions, randomizeOptions, showProgress, showCorrectAnswers, timeLimit,
          questionsPerPage, fallbackToFirstResult, ()) =>
      ⟨allowRetake, randomizeQuestions, randomizeOptions, showProgress, showCorrectAnswers, timeLimit,
       questionsPerPage, fallbackToFirstResult⟩)
    (fun r => (r.allowRetake, r.randomizeQuestions, r.randomizeOptions, r.showProgress, r.showCorrectAnswers,
               r.timeLimit, r.questionsPerPage, r.fallbackToFirstResult, ()))
    (fun _ => rfl) (fun _ => rfl)

end Quiz

structure Quiz extends Element where
  questions : List Quiz.Question := []
  results : List Quiz.Outcome := []
  scoring : Option Quiz.Scoring := none
  settings : Quiz.Settings := {}
  deriving Repr

def Quiz.schema : Schema Quiz :=
  .record
    (Element.fields (.constant "quiz") (some ()) <|
      .or "questions" (.list Quiz.Question.schema) [] <|
      .or "results" (.list Quiz.Outcome.schema) [] <|
      .opt "scoring" Quiz.Scoring.schema <|
      .or "settings" Quiz.Settings.schema {} <|
      .done)
    (fun r =>
      let (e, (), questions, results, scoring, settings, ()) := Element.ofRow r
      ⟨e, questions, results, scoring, settings⟩)
    (fun q => Element.toRow (q.toElement, (), q.questions, q.results, q.scoring, q.settings, ()))
    (fun _ => rfl) (fun _ => rfl)

end Formwork
