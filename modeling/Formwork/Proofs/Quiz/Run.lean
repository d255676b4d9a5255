/-
  Formwork.Proofs.Quiz.Run: what the answers to a quiz keep.

  A visitor answers questions one after another, not always the one shown, and some more than
  once. All that an answer can do is said once (`answer_cases`): it is recorded and leads to a
  place in the order or to its end. What holds at every moment (`Underway`) and what the quiz
  does next (`Serves`) follow from that.

  - `underway_run`: the order stays the arrangement of the start, the place stays within it and
    shows its question, the last answer to each question is kept, a quiz at its end is complete
    and stays so, and an answer to an unknown question is refused.
-/

import Formwork.Proofs.Bind
import Formwork.Proofs.Entries
import Formwork.Quiz.Progress

namespace Formwork

namespace Quiz

abbrev History := Entries Value

def Asks (q : Quiz) (id : String) : Prop := (q.question? id).isSome = true

instance (q : Quiz) (id : String) : Decidable (q.Asks id) := inferInstanceAs (Decidable (_ = true))

def run (q : Quiz) (state : State) (history : History) : Except UnknownQuestion State :=
  history.foldlM (fun state e => q.answer state e.1 e.2) state

/-- The state that a visitor is left with: the next one, or the one from before a refused answer. -/
def keep (q : Quiz) (state : State) (id : String) (v : Value) : State := (q.answer state id v).toOption.getD state

/-- The order has the id of every question, as often as it comes. -/
def Arranges (q : Quiz) (order : List String) : Prop := order.Perm (q.questions.map (·.id))

variable {q : Quiz} {first state next : State} {history : History} {order : List String} {id : String} {v : Value}
  {question target : Question} {shuffle : List Question → List Question}

/-! ## Ids and the order -/

theorem id_of_question? (h : q.question? id = some question) : question.id = id := by
  have hid := List.find?_some h
  exact eq_of_beq hid

theorem asks_iff : q.Asks id ↔ id ∈ q.questions.map (·.id) := by
  simp [Asks, question?, List.find?_isSome]

theorem exists_question? (h : q.Asks id) : ∃ question, q.question? id = some question :=
  Option.isSome_iff_exists.mp h

theorem Arranges.mem_iff (h : q.Arranges order) : id ∈ order ↔ q.Asks id := by
  rw [asks_iff]
  exact List.Perm.mem_iff h

theorem arranges_orderedIds (q : Quiz) : q.Arranges q.orderedIds := (List.mergeSort_perm _ _).map _

/-- Only a quiz without questions has an empty order, and then nothing else could stand for it. -/
theorem Arranges.orderOr_eq (h : q.Arranges order) : q.orderOr order = order := by
  cases order with
  | nil => exact ((arranges_orderedIds q).trans h.symm).eq_nil
  | cons id order => rfl

theorem arranges_start (hshuffle : ∀ l, (shuffle l).Perm l) (now : Timestamp) :
    q.Arranges (q.start shuffle now).order := by
  have hordered : q.ordered.Perm q.questions := List.mergeSort_perm _ _
  refine List.Perm.map _ ?_
  unfold presented
  split
  · exact (hshuffle _).trans hordered
  · exact hordered

/-! ## One answer -/

/-- Every answer is recorded. It leads to a question that stands in the order, or completes the quiz. -/
theorem answer_cases (harr : q.Arranges state.order) (h : q.answer state id v = .ok next) :
    ∃ question, q.question? id = some question ∧
      ((∃ target, q.next? question v state.order = some target ∧ target.id ∈ state.order ∧
          next = { state with answers := state.answers.put id v, index := state.order.idxOf target.id }) ∨
        ((∀ target, q.next? question v state.order = some target → target.id ∉ state.order) ∧
          next = { state with answers := state.answers.put id v, index := state.order.length, isComplete := true })) := by
  unfold answer at h
  cases hq : q.question? id with
  | none =>
    rw [hq] at h
    cases h
  | some question =>
    rw [hq] at h
    dsimp only at h
    rw [harr.orderOr_eq] at h
    refine ⟨question, rfl, ?_⟩
    split at h
    · rename_i target htarget
      obtain ⟨hnext, hmem⟩ := Option.filter_eq_some_iff.mp htarget
      exact Or.inl ⟨target, hnext, List.contains_iff_mem.mp hmem, (Except.ok.inj h).symm⟩
    · rename_i hnone
      refine Or.inr ⟨?_, (Except.ok.inj h).symm⟩
      intro target hnext hmem
      have hstays : (q.next? question v state.order).filter (fun next => state.order.contains next.id) = some target :=
        Option.filter_eq_some_iff.mpr ⟨hnext, List.contains_iff_mem.mpr hmem⟩
      rw [hnone] at hstays
      cases hstays

theorem exists_answer (h : q.Asks id) (state : State) (v : Value) : ∃ next, q.answer state id v = .ok next := by
  obtain ⟨question, hq⟩ := exists_question? h
  unfold answer
  rw [hq]
  dsimp only
  split
  · exact ⟨_, rfl⟩
  · exact ⟨_, rfl⟩

theorem answer_of_not_asks (h : ¬ q.Asks id) (state : State) (v : Value) : q.answer state id v = .error ⟨id⟩ := by
  have hnone : q.question? id = none := by simpa [Asks] using h
  rw [answer, hnone]

theorem isComplete_of_atEnd (harr : q.Arranges state.order) (h : q.answer state id v = .ok next)
    (hend : next.index = next.order.length) : next.isComplete = true := by
  obtain ⟨question, -, ⟨target, -, hmem, rfl⟩ | ⟨-, rfl⟩⟩ := answer_cases harr h
  · have hlt := List.idxOf_lt_length_of_mem hmem
    dsimp only at hend
    omega
  · rfl

theorem isComplete_mono (harr : q.Arranges state.order) (h : q.answer state id v = .ok next)
    (hcomplete : state.isComplete = true) : next.isComplete = true := by
  obtain ⟨question, -, ⟨target, -, -, rfl⟩ | ⟨-, rfl⟩⟩ := answer_cases harr h
  · exact hcomplete
  · rfl

/-! ## A whole run -/

structure Underway (q : Quiz) (first : State) (history : History) (state : State) : Prop where
  arranges : q.Arranges state.order
  order : state.order = first.order
  startedAt : state.startedAt = first.startedAt
  timeRemaining : state.timeRemaining = first.timeRemaining
  index_nonneg : 0 ≤ state.index
  index_le : state.index ≤ state.order.length
  distinct : state.answers.Distinct
  answers : ∀ id, state.answers.get? id = Entries.last? history id

theorem underway_start (hshuffle : ∀ l, (shuffle l).Perm l) (now : Timestamp) :
    Underway q (q.start shuffle now) [] (q.start shuffle now) where
  arranges := arranges_start hshuffle now
  order := rfl
  startedAt := rfl
  timeRemaining := rfl
  index_nonneg := Int.le_refl 0
  index_le := Int.natCast_nonneg _
  distinct := Entries.distinct_nil
  answers _ := rfl

theorem Underway.answer (h : Underway q first history state) (ha : q.answer state id v = .ok next) :
    Underway q first (history ++ [(id, v)]) next := by
  have hanswers : ∀ name, (state.answers.put id v).get? name = Entries.last? (history ++ [(id, v)]) name := by
    intro name
    rw [Entries.get?_put, Entries.last?_concat, h.answers]
  have hdistinct := h.distinct.put id v
  obtain ⟨question, -, ⟨target, -, hmem, rfl⟩ | ⟨-, rfl⟩⟩ := answer_cases h.arranges ha
  · have hlt := List.idxOf_lt_length_of_mem hmem
    exact ⟨h.arranges, h.order, h.startedAt, h.timeRemaining, Int.natCast_nonneg _, Int.ofNat_le.mpr (Nat.le_of_lt hlt),
      hdistinct, hanswers⟩
  · exact ⟨h.arranges, h.order, h.startedAt, h.timeRemaining, Int.natCast_nonneg _, Int.le_refl _, hdistinct, hanswers⟩

/-- What a quiz does in a state: it shows the question at the place, takes an answer to any question,
and refuses one to any other id. -/
structure Serves (q : Quiz) (state : State) : Prop where
  shows : state.index < state.order.length →
    ∃ question, q.current? state = some question ∧ state.order[state.index.toNat]? = some question.id
  takes : ∀ id v, q.Asks id → ∃ next, q.answer state id v = .ok next ∧
    (next.index = next.order.length → next.isComplete = true) ∧ (state.isComplete = true → next.isComplete = true)
  refuses : ∀ id v, ¬ q.Asks id → q.answer state id v = .error ⟨id⟩ ∧ q.keep state id v = state

theorem current?_eq (harr : q.Arranges state.order) {i : Nat} (hindex : state.index = i) (hi : i < state.order.length) :
    ∃ question, q.current? state = some question ∧ question.id = state.order[i] := by
  have hmem : state.order[i] ∈ state.order := List.getElem_mem hi
  obtain ⟨question, hq⟩ := exists_question? (harr.mem_iff.mp hmem)
  refine ⟨question, ?_, id_of_question? hq⟩
  rw [current?, hindex, if_pos (Int.natCast_nonneg i), Int.toNat_natCast, harr.orderOr_eq,
    List.getElem?_eq_getElem hi, Option.bind_some, hq]

/-- No question is shown at the end of the order. -/
theorem current?_eq_none (harr : q.Arranges state.order) (hindex : state.index = state.order.length) :
    q.current? state = none := by
  rw [current?, hindex, if_pos (Int.natCast_nonneg _), Int.toNat_natCast, harr.orderOr_eq,
    List.getElem?_eq_none (Nat.le_refl _), Option.bind_none]

theorem Underway.serves (h : Underway q first history state) : q.Serves state where
  shows hlt := by
    obtain ⟨i, hindex⟩ := Int.eq_ofNat_of_zero_le h.index_nonneg
    have hi : i < state.order.length := by omega
    obtain ⟨question, hcurrent, hid⟩ := current?_eq h.arranges hindex hi
    refine ⟨question, hcurrent, ?_⟩
    rw [hindex, Int.toNat_natCast, List.getElem?_eq_getElem hi, hid]
  takes id v hid := by
    obtain ⟨next, hnext⟩ := exists_answer hid state v
    exact ⟨next, hnext, isComplete_of_atEnd h.arranges hnext, isComplete_mono h.arranges hnext⟩
  refuses id v hid := by
    have herror := answer_of_not_asks hid state v
    refine ⟨herror, ?_⟩
    rw [keep, herror]
    rfl

/-- Answers to any questions of a quiz keep its order and its books, and leave it ready for the next. -/
theorem underway_run (q : Quiz) (shuffle : List Question → List Question) (now : Timestamp) (history : History)
    (hshuffle : ∀ l, (shuffle l).Perm l) (hk : ∀ e ∈ history, q.Asks e.1) :
    ∃ state, q.run (q.start shuffle now) history = .ok state ∧
      Underway q (q.start shuffle now) history state ∧ q.Serves state := by
  have hstep : ∀ before state e, e ∈ history → Underway q (q.start shuffle now) before state →
      ∃ next, q.answer state e.1 e.2 = .ok next ∧ Underway q (q.start shuffle now) (before ++ [e]) next := by
    intro before state e he h
    obtain ⟨next, hnext⟩ := exists_answer (hk e he) state e.2
    exact ⟨next, hnext, h.answer hnext⟩
  obtain ⟨state, hrun, h⟩ := foldlM_invariant _ hstep (underway_start hshuffle now)
  exact ⟨state, hrun, h, h.serves⟩

/-- A quiz in which who likes the sea is asked about boats at once. -/
def holidays : Quiz where
  id := "holidays"
  title := "Holidays"
  websiteId := "w"
  questions := [
    { id := "boats", type := .text, question := "Which boats?", order := 1 },
    { id := "hills", type := .rating, question := "And the hills?", order := 2 },
    { id := "sea", type := .singleChoice, question := "Do you like the sea?", order := 3,
      options := some [{ id := "yes", nextQuestionId := some "boats" }, { id := "no" }] }]
  settings := { randomizeQuestions := true }

theorem order_holidays (now : Timestamp) :
    (holidays.start List.reverse now).order = ["sea", "hills", "boats"] := by
  have hordered : holidays.ordered = holidays.questions := List.mergeSort_of_pairwise (by decide +kernel)
  rw [start, presented, hordered]
  rfl

def wavering : History := [("sea", .text "yes"), ("boats", .text "rafts"), ("sea", .text "no")]

/-- The order of the holidays is turned round, and the visitor comes back to its beginning. -/
theorem holidays_underway :
    (∀ l : List Question, l.reverse.Perm l) ∧ (∀ e ∈ wavering, holidays.Asks e.1) ∧
    ∃ state, holidays.run (holidays.start List.reverse (.midnight ⟨2024, 1, 2⟩)) wavering = .ok state ∧
      Underway holidays (holidays.start List.reverse (.midnight ⟨2024, 1, 2⟩)) wavering state ∧
      holidays.Serves state := by
  have hk : ∀ e ∈ wavering, holidays.Asks e.1 := by decide +kernel
  exact ⟨List.reverse_perm, hk, underway_run holidays List.reverse _ wavering List.reverse_perm hk⟩

end Quiz

end Formwork
