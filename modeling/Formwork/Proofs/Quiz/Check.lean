/-
  Formwork.Proofs.Quiz.Check: what a quiz without defects has.

  Nothing is looked at in a quiz without questions beyond the lack of them, and each question is
  looked at by itself, as its kind asks for. Questions with choices have to list them. A question
  about truth may go without, as it is clear what there is to choose; if it lists options there are two.

  - `isValid_check_iff`: a quiz is without defects exactly when the element is and the quiz is
    complete (`Complete`).
  - `truth_without_options`: a valid quiz may ask for truth without options.
-/

import Formwork.Proofs.Element.Check
import Formwork.Quiz.Check

namespace Formwork

namespace Quiz

structure Question.Complete (q : Question) : Prop where
  text : ∃ c ∈ q.question.toList, Text.isBlank c = false
  choices : q.type = .multipleChoice ∨ q.type = .singleChoice ∨ q.type = .imageChoice →
    ∃ options, q.options = some options ∧ 2 ≤ options.length
  truth : q.type = .trueFalse → ∀ options, q.options = some options → options.length = 2

structure Complete (q : Quiz) : Prop where
  asks : q.questions ≠ []
  concludes : q.results ≠ []
  scores : ∃ scoring, q.scoring = some scoring
  questions : ∀ question ∈ q.questions, question.Complete

variable {q : Quiz} {question : Question}

theorem hasChoices_iff {kind : QuestionKind} :
    kind.hasChoices = true ↔ kind = .multipleChoice ∨ kind = .singleChoice ∨ kind = .imageChoice := by
  cases kind <;> decide

/-- Options that are not listed are too few. -/
theorem two_le_choices_iff : 2 ≤ question.choices.length ↔ ∃ options, question.options = some options ∧ 2 ≤ options.length := by
  unfold Question.choices
  cases question.options <;> simp

theorem isBlankText_eq_false {s : String} : Text.isBlankText s = false ↔ ∃ c ∈ s.toList, Text.isBlank c = false :=
  List.all_eq_false.trans (by simp only [Bool.not_eq_true])

theorem isValid_question_iff {countsPoints : Bool} {index : Nat} :
    (question.check countsPoints index).isValid = true ↔ question.Complete := by
  have hchoices : (question.type.hasChoices && decide (question.choices.length < 2)) = false ↔
      (question.type = .multipleChoice ∨ question.type = .singleChoice ∨ question.type = .imageChoice →
        ∃ options, question.options = some options ∧ 2 ≤ options.length) := by
    rw [← hasChoices_iff, ← two_le_choices_iff, Bool.and_eq_false_imp, decide_eq_false_iff_not, Nat.not_lt]
  have htruth : (question.type == .trueFalse && question.options.any (·.length != 2)) = false ↔
      (question.type = .trueFalse → ∀ options, question.options = some options → options.length = 2) := by
    cases question.options <;> simp
  rw [Report.isValid_iff, Question.check, List.append_eq_nil_iff, List.append_eq_nil_iff, Defect.when_eq_nil,
    Defect.when_eq_nil, Defect.when_eq_nil, isBlankText_eq_false, hchoices, htruth, and_assoc]
  constructor
  · rintro ⟨htext, hchoices, htruth⟩
    exact ⟨htext, hchoices, htruth⟩
  · exact fun h => ⟨h.text, h.choices, h.truth⟩

theorem isValid_questions_iff {countsPoints : Bool} {questions : List Question} :
    (Report.merge (questions.mapIdx fun i question => question.check countsPoints i)).isValid = true ↔
      ∀ question ∈ questions, question.Complete := by
  rw [Report.isValid_merge]
  constructor
  · intro h question hmem
    obtain ⟨i, hi, rfl⟩ := List.getElem_of_mem hmem
    exact isValid_question_iff.mp (h _ (List.mem_mapIdx.mpr ⟨i, hi, rfl⟩))
  · intro h report hmem
    obtain ⟨i, hi, rfl⟩ := List.mem_mapIdx.mp hmem
    exact isValid_question_iff.mpr (h _ (List.getElem_mem hi))

/-- The questions and what belongs to them are without defects exactly when they are complete. -/
theorem isValid_checkQuestions_iff : q.checkQuestions.isValid = true ↔ q.Complete := by
  unfold checkQuestions
  split
  · next hempty =>
    refine iff_of_false (by simp [Report.isValid]) fun h => h.asks (List.isEmpty_iff.mp hempty)
  · next hasked =>
    have hasks : q.questions ≠ [] := fun h => hasked (List.isEmpty_iff.mpr h)
    rw [Report.isValid_append, isValid_questions_iff, Report.isValid_iff, List.append_eq_nil_iff, Defect.when_eq_nil,
      Defect.when_eq_nil, List.isEmpty_eq_false_iff, Option.isNone_eq_false_iff, Option.isSome_iff_exists]
    constructor
    · rintro ⟨hquestions, hresults, hscoring⟩
      exact ⟨hasks, hresults, hscoring, hquestions⟩
    · exact fun h => ⟨h.questions, h.concludes, h.scores⟩

/-- A quiz is without defects exactly when the element is and the quiz is complete: there is a question, a
result and a scoring, every question says something, one with choices lists two or more, and one about
truth that lists options lists two. -/
theorem isValid_check_iff (q : Quiz) : q.check.isValid = true ↔ q.toElement.check.isValid = true ∧ q.Complete := by
  rw [check, Report.isValid_append, isValid_checkQuestions_iff]

def roundness : Quiz where
  id := "earth"
  title := "The Earth"
  websiteId := "w"
  questions := [{ id := "round", type := .trueFalse, question := "Is the Earth round?" }]
  results := [{ id := "r", minScore := 0, maxScore := 1 }]
  scoring := some { type := .percentage }

/-- So not every question about truth in a valid quiz lists two options. -/
theorem truth_without_options :
    ¬ ∀ q : Quiz, q.check.isValid = true → ∀ question ∈ q.questions, question.type = .trueFalse →
      ∃ options, question.options = some options ∧ options.length = 2 := by
  intro h
  obtain ⟨options, hoptions, -⟩ := h roundness (by decide +kernel) _ List.mem_cons_self rfl
  cases hoptions

end Quiz

end Formwork
