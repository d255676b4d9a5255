/-
  Formwork.Proofs.Quiz.Completion: when a quiz counts as complete.

  An answer that leads to no further question takes the visitor to the end of the order, where no
  question is shown, and completes the quiz. Nothing takes that back (`isComplete_answer`), so the
  verdict is about the past: who comes back from the end is shown a question of a quiz that still
  counts as complete.

  - `isComplete_iff_was_at_end`: a quiz counts as complete exactly when no question was shown at
    some moment of the run. So it tells whether a question is shown now as long as nobody who got
    to the end has come back from it.
  - `isComplete_outlasts_end`: after that it does not.
-/

import Formwork.Proofs.Quiz.Run

namespace Formwork

namespace Quiz

variable {q : Quiz} {first state next : State} {history before : History} {id : String} {v : Value}
  {shuffle : List Question → List Question}

/-- At some moment of the run no question was shown. -/
def WasAtEnd (q : Quiz) (first : State) (history : History) : Prop :=
  ∃ before middle, before <+: history ∧ q.run first before = .ok middle ∧ q.current? middle = none

/-! ## One answer -/

/-- An answer completes a quiz by leading to its end; what is complete stays so. -/
theorem isComplete_answer (harr : q.Arranges state.order) (h : q.answer state id v = .ok next) :
    next.isComplete = true ↔ state.isComplete = true ∨ q.current? next = none := by
  obtain ⟨question, -, ⟨target, -, hmem, hnext⟩ | ⟨-, hnext⟩⟩ := answer_cases harr h
  · have hlt := List.idxOf_lt_length_of_mem hmem
    have harr' : q.Arranges next.order := by rwa [hnext]
    have hindex : next.index = (state.order.idxOf target.id : Nat) := by rw [hnext]
    obtain ⟨shown, hshown, -⟩ := current?_eq harr' hindex (by rwa [hnext])
    rw [hshown, hnext]
    simp
  · have harr' : q.Arranges next.order := by rwa [hnext]
    rw [current?_eq_none harr' (by rw [hnext]), hnext]
    simp

/-! ## A whole run -/

theorem run_concat {e : String × Value} (hrun : q.run first history = .ok state)
    (ha : q.answer state e.1 e.2 = .ok next) : q.run first (history ++ [e]) = .ok next := by
  rw [run, List.foldlM_append]
  rw [run] at hrun
  rw [hrun, ok_bind, List.foldlM_cons, ha, ok_bind]
  rfl

theorem wasAtEnd_concat {e : String × Value} (hrun : q.run first (history ++ [e]) = .ok next) :
    q.WasAtEnd first (history ++ [e]) ↔ q.WasAtEnd first history ∨ q.current? next = none := by
  constructor
  · rintro ⟨before, middle, hpart, hmiddle, hnone⟩
    rcases List.prefix_concat_iff.mp hpart with rfl | hpart
    · cases hmiddle.symm.trans hrun
      exact Or.inr hnone
    · exact Or.inl ⟨before, middle, hpart, hmiddle, hnone⟩
  · rintro (⟨before, middle, hpart, hmiddle, hnone⟩ | hnone)
    · exact ⟨before, middle, hpart.trans (List.prefix_append _ _), hmiddle, hnone⟩
    · exact ⟨_, next, List.prefix_refl _, hrun, hnone⟩

structure Completes (q : Quiz) (first : State) (history : History) (state : State) : Prop where
  underway : Underway q first history state
  reached : q.run first history = .ok state
  isComplete : state.isComplete = true ↔ q.WasAtEnd first history

/-- A quiz with a question shows one at the start. -/
theorem exists_current?_start (hshuffle : ∀ l, (shuffle l).Perm l) (now : Timestamp) (hne : q.questions ≠ []) :
    ∃ question, q.current? (q.start shuffle now) = some question := by
  have harr : q.Arranges (q.start shuffle now).order := arranges_start hshuffle now
  have hpos : 0 < (q.start shuffle now).order.length := by
    rw [List.Perm.length_eq harr, List.length_map]
    exact List.length_pos_iff.mpr hne
  obtain ⟨question, hshown, -⟩ := current?_eq harr rfl hpos
  exact ⟨question, hshown⟩

theorem completes_start (hshuffle : ∀ l, (shuffle l).Perm l) (now : Timestamp) (hne : q.questions ≠ []) :
    Completes q (q.start shuffle now) [] (q.start shuffle now) where
  underway := underway_start hshuffle now
  reached := rfl
  isComplete := by
    obtain ⟨question, hshown⟩ := exists_current?_start hshuffle now hne
    constructor
    · intro h
      cases h
    · rintro ⟨before, middle, hpart, hmiddle, hnone⟩
      rw [List.prefix_nil.mp hpart] at hmiddle
      cases hmiddle
      rw [hshown] at hnone
      cases hnone

theorem Completes.answer (h : Completes q first history state) (ha : q.answer state id v = .ok next) :
    Completes q first (history ++ [(id, v)]) next where
  underway := h.underway.answer ha
  reached := run_concat h.reached ha
  isComplete := by
    rw [isComplete_answer h.underway.arranges ha, h.isComplete, wasAtEnd_concat (run_concat h.reached ha)]

/-- A quiz with questions counts as complete exactly when the visitor was at its end at some moment. It
does so wherever no question is shown; that none is shown wherever it does holds just as long as nobody
has come back from the end. -/
theorem isComplete_iff_was_at_end (q : Quiz) (shuffle : List Question → List Question) (now : Timestamp)
    (history : History) (hshuffle : ∀ l, (shuffle l).Perm l) (hne : q.questions ≠ [])
    (hk : ∀ e ∈ history, q.Asks e.1) :
    ∃ state, q.run (q.start shuffle now) history = .ok state ∧
      (state.isComplete = true ↔ q.WasAtEnd (q.start shuffle now) history) ∧
      (q.current? state = none → state.isComplete = true) ∧
      ((state.isComplete = true ↔ q.current? state = none) ↔
        (q.WasAtEnd (q.start shuffle now) history → q.current? state = none)) := by
  have hstep : ∀ before state e, e ∈ history → Completes q (q.start shuffle now) before state →
      ∃ next, q.answer state e.1 e.2 = .ok next ∧ Completes q (q.start shuffle now) (before ++ [e]) next := by
    intro before state e he h
    obtain ⟨next, hnext⟩ := exists_answer (hk e he) state e.2
    exact ⟨next, hnext, h.answer hnext⟩
  obtain ⟨state, hrun, h⟩ := foldlM_invariant _ hstep (completes_start hshuffle now hne)
  have hend : q.current? state = none → state.isComplete = true :=
    fun hnone => h.isComplete.mpr ⟨history, state, List.prefix_refl _, h.reached, hnone⟩
  refine ⟨state, hrun, h.isComplete, hend, ?_⟩
  rw [h.isComplete] at hend ⊢
  exact ⟨fun hiff => hiff.mp, fun hback => ⟨hback, hend⟩⟩

theorem run_wavering (now : Timestamp) :
    ∃ state, holidays.run (holidays.start List.reverse now) wavering = .ok state ∧
      state.isComplete = true ∧ (holidays.current? state).map (·.id) = some "hills" := by
  have hstart : holidays.start List.reverse now =
      { order := ["sea", "hills", "boats"], startedAt := now.text } := by
    rw [← order_holidays now]
    rfl
  rw [hstart]
  exact ⟨_, rfl, rfl, rfl⟩

/-- The visitor was at the end with the boats, and thinks again about the sea. -/
theorem wavering_was_at_end :
    (∀ l : List Question, l.reverse.Perm l) ∧ holidays.questions ≠ [] ∧ (∀ e ∈ wavering, holidays.Asks e.1) ∧
    ∃ state, holidays.run (holidays.start List.reverse (.midnight ⟨2024, 1, 2⟩)) wavering = .ok state ∧
      (state.isComplete = true ↔ holidays.WasAtEnd (holidays.start List.reverse (.midnight ⟨2024, 1, 2⟩)) wavering) ∧
      (holidays.current? state = none → state.isComplete = true) ∧
      ((state.isComplete = true ↔ holidays.current? state = none) ↔
        (holidays.WasAtEnd (holidays.start List.reverse (.midnight ⟨2024, 1, 2⟩)) wavering →
          holidays.current? state = none)) := by
  have hne : holidays.questions ≠ [] := by decide
  have hk : ∀ e ∈ wavering, holidays.Asks e.1 := by decide +kernel
  exact ⟨List.reverse_perm, hne, hk,
    isComplete_iff_was_at_end holidays List.reverse _ wavering List.reverse_perm hne hk⟩

/-- So a quiz that counts as complete may show a question. -/
theorem isComplete_outlasts_end :
    ¬ ∀ (q : Quiz) (shuffle : List Question → List Question) (now : Timestamp) (history : History) (state : State),
      (∀ l, (shuffle l).Perm l) → q.questions ≠ [] → (∀ e ∈ history, q.Asks e.1) →
        q.run (q.start shuffle now) history = .ok state → (state.isComplete = true ↔ q.current? state = none) := by
  intro h
  have hne : holidays.questions ≠ [] := by decide
  have hk : ∀ e ∈ wavering, holidays.Asks e.1 := by decide +kernel
  obtain ⟨state, hrun, hcomplete, hshown⟩ := run_wavering (.midnight ⟨2024, 1, 2⟩)
  rw [(h holidays _ _ wavering state List.reverse_perm hne hk hrun).mp hcomplete] at hshown
  cases hshown

end Quiz

end Formwork
