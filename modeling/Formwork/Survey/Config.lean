/-
  Formwork.Survey.Config: what a survey consists of.
-/

import Formwork.Element.Config

namespace Formwork

namespace Survey

inductive QuestionKind where
  | rating
  | recommendation
  | multipleChoice
  | singleChoice
  | openText
  | ranking
  | matrix
  | date
  | fileUpload
  deriving DecidableEq, Repr

instance : Keyword QuestionKind where
  all := [.rating, .recommendation, .multipleChoice, .singleChoice, .openText, .ranking, .matrix, .date, .fileUpload]
  word
    | .rating => "rating"
    | .recommendation => "nps"
    | .multipleChoice => "multiple-choice"
    | .singleChoice => "single-choice"
    | .openText => "open-text"
    | .ranking => "ranking"
    | .matrix => "matrix"
    | .date => "date"
    | .fileUpload => "file-upload"
  complete a := by cases a <;> decide
  injective a b := by cases a <;> cases b <;> decide

inductive SurveyKind where
  | feedback
  | recommendation
  | satisfaction
  | research
  | custom
  deriving DecidableEq, Repr

instance : Keyword SurveyKind where
  all := [.feedback, .recommendation, .satisfaction, .research, .custom]
  word
    | .feedback => "feedback"
    | .recommendation => "nps"
    | .satisfaction => "satisfaction"
    | .research => "research"
    | .custom => "custom"
  complete a := by cases a <;> decide
  injective a b := by cases a <;> cases b <;> decide

inductive Action where
  | show
  | hide
  | skipTo
  deriving DecidableEq, Repr

instance : Keyword Action where
  all := [.show, .hide, .skipTo]
  word
    | .show => "show"
    | .hide => "hide"
    | .skipTo => "skip-to"
  complete a := by cases a <;> decide
  injective a b := by cases a <;> cases b <;> decide

inductive Comparison where
  | equals
  | notEquals
  | contains
  | greaterThan
  | lessThan
  deriving DecidableEq, Repr

instance : Keyword Comparison where
  all := [.equals, .notEquals, .contains, .greaterThan, .lessThan]
  word
    | .equals => "equals"
    | .notEquals => "not-equals"
    | .contains => "contains"
    | .greaterThan => "greater-than"
    | .lessThan => "less-than"
  complete a := by cases a <;> decide
  injective a b := by cases a <;> cases b <;> decide

inductive Combination where
  | all
  | any
  deriving DecidableEq, Repr

instance : Keyword Combination where
  all := [.all, .any]
  word
    | .all => "and"
    | .any => "or"
  complete a := by cases a <;> decide
  injective a b := by cases a <;> cases b <;> decide

structure Choice where
  id : String
  text : String := ""
  value : Option NumberOrText := none
  imageUrl : Option String := none
  deriving DecidableEq, Repr

def Choice.schema : Schema Choice :=
  .record
    (.need "id" .text <|
      .or "text" .text "" <|
      .opt "value" .numberOrText <|
      .opt "image_url" .text <|
      .done)
    (fun (id, text, value, imageUrl, ()) =>
      ⟨id, text, value, imageUrl⟩)
    (fun r => (r.id, r.text, r.value, r.imageUrl, ()))
    (fun _ => rfl) (fun _ => rfl)

structure Condition where
  questionId : String
  operator : Comparison := .equals
  value : Value := Value.null
  deriving Repr

def Condition.schema : Schema Condition :=
  .record
    (.need "question_id" .text <|
      .or "operator" (.word inferInstance) .equals <|
      .or "value" .anything Value.null <|
      .done)
    (fun (questionId, operator, value, ()) =>
      ⟨questionId, operator, value⟩)
    (fun r => (r.questionId, r.operator, r.value, ()))
    (fun _ => rfl) (fun _ => rfl)

structure Logic where
  action : Action
  conditions : List Condition := []
  operator : Combination := .all
  targetQuestionId : Option String := none
  deriving Repr

def Logic.schema : Schema Logic :=
  .record
    (.need "action" (.word inferInstance) <|
      .or "conditions" (.list Condition.schema) [] <|
      .or "operator" (.word inferInstance) .all <|
      .opt "target_question_id" .text <|
      .done)
    (fun (action, conditions, operator, targetQuestionId, ()) =>
      ⟨action, conditions, operator, targetQuestionId⟩)
    (fun r => (r.action, r.conditions, r.operator, r.targetQuestionId, ()))
    (fun _ => rfl) (fun _ => rfl)

structure RatingLabels where
  low : String := ""
  high : String := ""
  deriving DecidableEq, Repr

def RatingLabels.schema : Schema RatingLabels :=
  .record
    (.or "low" .text "" <|
      .or "high" .text "" <|
      .done)
    (fun (low, high, ()) =>
      ⟨low, high⟩)
    (fun r => (r.low, r.high, ()))
    (fun _ => rfl) (fun _ => rfl)

structure Question where
  id : String
  type : QuestionKind
  question : String := ""
  description : Option String := none
  options : Option (List Choice) := none
  required : Bool := false
  placeholder : Option String := none
  minLength : Option Int := none
  maxLength : Option Int := none
  minRating : Option Int := none
  maxRating : Option Int := none
  ratingLabels : Option RatingLabels := none
  conditionalLogic : Option Logic := none
  order : Int := 0
  deriving Repr

def Question.schema : Schema Question :=
  .record
    (.need "id" .text <|
      .need "type" (.word inferInstance) <|
      .or "question" .text "" <|
      .opt "description" .text <|
      .opt "options" (.list Choice.schema) <|
      .or "required" .flag false <|
      .opt "placeholder" .text <|
      .opt "min_length" (.integer none) <|
      .opt "max_length" (.integer none) <|
      .opt "min_rating" (.integer none) <|
      .opt "max_rating" (.integer none) <|
      .opt "rating_labels" RatingLabels.schema <|
      .opt "conditional_logic" Logic.schema <|
      .or "order" (.integer none) 0 <|
      .done)
    (fun (id, type, question, description, options, required, placeholder, minLength, maxLength, minRating, maxRating,
          ratingLabels, conditionalLogic, order, ()) =>
      ⟨id, type, question, description, options, required, placeholder, minLength, maxLength, minRating, maxRating,
       ratingLabels, conditionalLogic, order⟩)
    (fun r => (r.id, r.type, r.question, r.description, r.options, r.required, r.placeholder, r.minLength,
               r.maxLength, r.minRating, r.maxRating, r.ratingLabels, r.conditionalLogic, r.order, ()))
    (fun _ => rfl) (fun _ => rfl)

structure Settings where
  allowAnonymous : Bool := true
  randomizeQuestions : Bool := false
  showProgress : Bool := true
  questionsPerPage : Int := 1
  allowSkip : Bool := false
  thankYouMessage : String := ""
  thankYouTitle : Option String := none
  deriving DecidableEq, Repr

def Settings.schema : Schema Settings :=
  .record
    (.or "allow_anonymous" .flag true <|
      .or "randomize_questions" .flag false <|
      .or "show_progress" .flag true <|
      .or "questions_per_page" (.integer none) 1 <|
      .or "allow_skip" .flag false <|
      .or "thank_you_message" .text "" <|
      .opt "thank_you_title" .text <|
      .done)
    (fun (allowAnonymous, randomizeQuestions, showProgress, questionsPerPage, allowSkip, thankYouMessage,
          thankYouTitle, ()) =>
      ⟨allowAnonymous, randomizeQuestions, showProgress, questionsPerPage, allowSkip, thankYouMessage, thankYouTitle⟩)
    (fun r => (r.allowAnonymous, r.randomizeQuestions, r.showProgress, r.questionsPerPage, r.allowSkip,
               r.thankYouMessage, r.thankYouTitle, ()))
    (fun _ => rfl) (fun _ => rfl)

end Survey

structure Survey extends Element where
  surveyType : Survey.SurveyKind := .custom
  questions : List Survey.Question := []
  settings : Survey.Settings := {}
  deriving Repr

def Survey.schema : Schema Survey :=
  .record
    (Element.fields (.constant "survey") (some ()) <|
      .or "survey_type" (.word inferInstance) .custom <|
      .or "questions" (.list Survey.Question.schema) [] <|
      .or "settings" Survey.Settings.schema {} <|
      .done)
    (fun r =>
      let (e, (), surveyType, questions, settings, ()) := Element.ofRow r
      ⟨e, surveyType, questions, settings⟩)
    (fun s => Element.toRow (s.toElement, (), s.surveyType, s.questions, s.settings, ()))
    (fun _ => rfl) (fun _ => rfl)

end Formwork
