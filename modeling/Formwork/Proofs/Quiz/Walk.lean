/-
  Formwork.Proofs.Quiz.Walk: going through a quiz from question to question.

  On a walk the visitor answers whatever question is shown, until none is. Where every branch
  leads on in the order, an answer moves the place up (`At.step`), so a walk comes to each
  question once at most and to the end of the order (`walk_from`).

  - `walk_completes`: such a walk visits no question twice and completes the quiz within as many
    answers as there are questions; without branches it follows the order, and completes the
    quiz with the last question.
-/

import Formwork.Proofs.Quiz.Run

namespace Formwork

namespace Quiz

/-- Answers the questions that are shown, one after another, as long as there are answers and questions.
What is left is the answers in order of the questions, and the state after them. -/
def walk (q : Quiz) (state : State) : List Value → Except UnknownQuestion (History × State)
  | [] => .ok ([], state)
  | v :: rest =>
    match q.current? state with
    | none => .ok ([], state)
    | some question => do
      let next ← q.answer state question.id v
      let (visited, last) ← q.walk next rest
      return ((question.id, v) :: visited, last)

/-- Every option that names a question of the quiz names one behind its own in the order. -/
def LeadsOn (q : Quiz) (order : List String) : Prop :=
  ∀ question ∈ q.questions, ∀ choice ∈ question.options.getD [], ∀ name, choice.nextQuestionId = some name →
    name ≠ "" → q.Asks name → order.idxOf question.id < order.idxOf name

def Branches (q : Quiz) (e : String × Value) : Prop :=
  ∃ question, q.question? e.1 = some question ∧ (question.branch? e.2).isSome = true

variable {q : Quiz} {state next last : State} {order : List String} {vs : List Value} {visited : History}
  {id name : String} {v : Value} {i j : Nat} {question target : Question}
  {shuffle : List Question → List Question}

/-! ## The next question -/

theorem idAfter?_eq (order : List String) (id : String) : idAfter? order id = order[order.idxOf id + 1]? := by
  have hfirst : order.dropWhile (· != id) = order.drop (order.idxOf id) := by
    rw [List.dropWhile_eq_drop_findIdx_not]
    simp [List.idxOf, bne]
  rw [idAfter?, hfirst, List.drop_drop, List.head?_drop]

theorem exists_choice_of_branch? (h : question.branch? v = some name) :
    ∃ choice ∈ question.options.getD [], choice.nextQuestionId = some name ∧ name ≠ "" := by
  unfold Question.branch? at h
  split at h
  · obtain ⟨hbind, hne⟩ := Option.filter_eq_some_iff.mp h
    obtain ⟨choice, hfind, hnext⟩ := Option.bind_eq_some_iff.mp hbind
    exact ⟨choice, List.mem_of_find?_eq_some hfind, hnext, by simpa using hne⟩
  · cases h

theorem next?_of_branch? (h : question.branch? v = some name) : q.next? question v order = q.question? name := by
  rw [next?, h]

theorem next?_of_not_branch (harr : q.Arranges order) (h : question.branch? v = none) :
    q.next? question v order = order[order.idxOf question.id + 1]?.bind q.question? := by
  rw [next?, h, harr.orderOr_eq, idAfter?_eq]

theorem mem_of_question? (h : q.question? id = some question) : question ∈ q.questions := List.mem_of_find?_eq_some h

theorem asks_of_question? (h : q.question? id = some question) : q.Asks id := by
  rw [Asks, h]
  rfl

/-! ## One step -/

/-- The visitor is at place `i` of the order, and the quiz is complete just at its end. -/
structure At (q : Quiz) (order : List String) (i : Nat) (state : State) : Prop where
  le : i ≤ order.length
  isComplete : state.isComplete = true ↔ i = order.length
  index : state.index = i
  order : state.order = order

/-- A question that an answer leads to stands behind the one answered, right behind it if there is no branch. -/
theorem idxOf_lt_of_next? (harr : q.Arranges order) (hnodup : order.Nodup) (hon : q.LeadsOn order)
    (hq : q.question? id = some question) (h : q.next? question v order = some target) :
    order.idxOf id < order.idxOf target.id ∧
      (question.branch? v = none → order.idxOf target.id = order.idxOf id + 1) := by
  have hid := id_of_question? hq
  cases hb : question.branch? v with
  | some name =>
    rw [next?_of_branch? hb] at h
    obtain ⟨choice, hchoice, hnext, hne⟩ := exists_choice_of_branch? hb
    have hlt := hon question (mem_of_question? hq) choice hchoice name hnext hne (asks_of_question? h)
    rw [id_of_question? h, ← hid]
    exact ⟨hlt, fun hnone => by cases hnone⟩
  | none =>
    rw [next?_of_not_branch harr hb, hid] at h
    obtain ⟨name, hname, htarget⟩ := Option.bind_eq_some_iff.mp h
    obtain ⟨hlt, rfl⟩ := List.getElem?_eq_some_iff.mp hname
    rw [id_of_question? htarget, hnodup.idxOf_getElem _ hlt]
    exact ⟨Nat.lt_succ_self _, fun _ => rfl⟩

/-- Without a branch only the last question leads to none of the order. -/
theorem idxOf_add_one_of_ends (harr : q.Arranges order) (hq : q.question? id = some question)
    (hb : question.branch? v = none) (hmem : id ∈ order)
    (h : ∀ target, q.next? question v order = some target → target.id ∉ order) :
    order.idxOf id + 1 = order.length := by
  have hlt := List.idxOf_lt_length_of_mem hmem
  by_cases hnext : order.idxOf id + 1 < order.length
  · have hin : order[order.idxOf id + 1] ∈ order := List.getElem_mem hnext
    obtain ⟨target, htarget⟩ := exists_question? (harr.mem_iff.mp hin)
    refine absurd ?_ (h target ?_)
    · rwa [id_of_question? htarget]
    · rw [next?_of_not_branch harr hb, id_of_question? hq, List.getElem?_eq_getElem hnext, Option.bind_some, htarget]
  · omega

/-- An answer to the question that is shown moves the place up, by one if there is no branch. -/
theorem At.step (harr : q.Arranges order) (hnodup : order.Nodup) (hon : q.LeadsOn order) (h : q.At order i state)
    (hi : i < order.length) (v : Value) :
    ∃ question next j, q.current? state = some question ∧ question.id = order[i] ∧
      q.answer state question.id v = .ok next ∧ q.At order j next ∧ i < j ∧
      (¬ q.Branches (question.id, v) → j = i + 1) := by
  obtain ⟨-, hcomplete, hindex, rfl⟩ := h
  obtain ⟨question, hcurrent, hid⟩ := current?_eq harr hindex hi
  have hmem : question.id ∈ state.order := hid ▸ List.getElem_mem hi
  have hplace : state.order.idxOf question.id = i := by rw [hid, hnodup.idxOf_getElem i hi]
  obtain ⟨next, hnext⟩ := exists_answer (harr.mem_iff.mp hmem) state v
  obtain ⟨question', hq, hcases⟩ := answer_cases harr hnext
  have hstraight : ¬ q.Branches (question.id, v) → question'.branch? v = none := by
    intro hb
    simpa [Branches, hq] using hb
  rcases hcases with ⟨target, htarget, htmem, rfl⟩ | ⟨hends, rfl⟩
  · obtain ⟨hlt, hone⟩ := idxOf_lt_of_next? harr hnodup hon hq htarget
    have hinside := List.idxOf_lt_length_of_mem htmem
    rw [hplace] at hlt hone
    have hat : state.isComplete = true ↔ state.order.idxOf target.id = state.order.length := by
      rw [hcomplete]
      omega
    exact ⟨question, _, state.order.idxOf target.id, hcurrent, hid, hnext, ⟨Nat.le_of_lt hinside, hat, rfl, rfl⟩, hlt,
      fun hb => hone (hstraight hb)⟩
  · refine ⟨question, _, state.order.length, hcurrent, hid, hnext, ⟨Nat.le_refl _, by simp, rfl, rfl⟩, hi, ?_⟩
    intro hb
    rw [← idxOf_add_one_of_ends harr hq (hstraight hb) hmem hends, hplace]

theorem At.current?_eq_none (harr : q.Arranges order) (h : q.At order order.length state) :
    q.current? state = none := by
  obtain ⟨-, -, hindex, rfl⟩ := h
  exact Quiz.current?_eq_none harr hindex

/-! ## A whole walk -/

/-- A walk from place `i` to place `j` of an order takes its answers in turn, rises through places of the
order, and stops where the order or the answers end. -/
structure Walked (q : Quiz) (order : List String) (i j : Nat) (vs : List Value) (visited : History) : Prop where
  answers : visited.map (·.2) <+: vs
  above : ∀ e ∈ visited, i ≤ order.idxOf e.1
  rises : visited.Pairwise fun a b => order.idxOf a.1 < order.idxOf b.1
  length_le : i + visited.length ≤ j
  stops : j = order.length ∨ visited.length = vs.length
  straight : (∀ e ∈ visited, ¬ q.Branches e) →
    j = i + visited.length ∧ visited.map (·.1) = (order.drop i).take visited.length

theorem walked_nil (h : i = order.length ∨ vs = []) : Walked q order i i vs [] where
  answers := List.nil_prefix
  above e he := by cases he
  rises := List.Pairwise.nil
  length_le := Nat.le_refl i
  stops := h.imp_right fun hvs => by rw [hvs]; rfl
  straight _ := ⟨rfl, rfl⟩

theorem Walked.cons {k : Nat} (hnodup : order.Nodup) (hi : i < order.length) (hid : id = order[i]) (hlt : i < k)
    (hone : ¬ q.Branches (id, v) → k = i + 1) (h : Walked q order k j vs visited) :
    Walked q order i j (v :: vs) ((id, v) :: visited) := by
  have hplace : order.idxOf id = i := by rw [hid, hnodup.idxOf_getElem i hi]
  have habove : ∀ e ∈ visited, i < order.idxOf e.1 := fun e he => Nat.lt_of_lt_of_le hlt (h.above e he)
  constructor
  case answers => exact List.cons_prefix_cons.mpr ⟨rfl, h.answers⟩
  case above =>
    intro e he
    rcases List.mem_cons.mp he with rfl | he
    · exact Nat.le_of_eq hplace.symm
    · exact Nat.le_of_lt (habove e he)
  case rises => exact List.pairwise_cons.mpr ⟨fun e he => by rw [hplace]; exact habove e he, h.rises⟩
  case length_le =>
    have := h.length_le
    rw [List.length_cons]
    omega
  case stops => exact h.stops.imp_right fun hlength => by rw [List.length_cons, List.length_cons, hlength]
  case straight =>
    intro hb
    obtain ⟨hj, hmap⟩ := h.straight fun e he => hb e (List.mem_cons_of_mem _ he)
    obtain rfl := hone (hb _ List.mem_cons_self)
    refine ⟨by rw [hj, List.length_cons]; omega, ?_⟩
    rw [List.drop_eq_getElem_cons hi, List.map_cons, List.length_cons, List.take_succ_cons, hmap, hid]

theorem walk_from (harr : q.Arranges order) (hnodup : order.Nodup) (hon : q.LeadsOn order) (vs : List Value) :
    ∀ {i : Nat} {state : State}, q.At order i state →
      ∃ visited last j, q.walk state vs = .ok (visited, last) ∧ q.At order j last ∧ Walked q order i j vs visited := by
  induction vs with
  | nil =>
    intro i state h
    exact ⟨[], state, i, rfl, h, walked_nil (Or.inr rfl)⟩
  | cons v vs ih =>
    intro i state h
    by_cases hi : i < order.length
    · obtain ⟨question, next, k, hcurrent, hid, hanswer, hnext, hlt, hone⟩ := h.step harr hnodup hon hi v
      obtain ⟨visited, last, j, hwalk, hlast, hw⟩ := ih hnext
      refine ⟨(question.id, v) :: visited, last, j, ?_, hlast, hw.cons hnodup hi hid hlt hone⟩
      simp only [walk, hcurrent, hanswer, hwalk, ok_bind]
      rfl
    · have hend : i = order.length := Nat.le_antisymm h.le (Nat.le_of_not_lt hi)
      subst hend
      refine ⟨[], state, order.length, ?_, h, walked_nil (Or.inl rfl)⟩
      rw [walk, h.current?_eq_none harr]

theorem at_start (hshuffle : ∀ l, (shuffle l).Perm l) (now : Timestamp) (hne : q.questions ≠ []) :
    q.At (q.start shuffle now).order 0 (q.start shuffle now) := by
  have hlength := (arranges_start (q := q) hshuffle now).length_eq
  have hpos : 0 < q.questions.length := List.length_pos_iff.mpr hne
  rw [List.length_map] at hlength
  refine ⟨Nat.zero_le _, ?_, rfl, rfl⟩
  rw [hlength]
  constructor
  · intro h
    cases h
  · intro h
    omega

/-- Where every branch leads on, a walk visits no question twice and completes the quiz within as many
answers as it has questions. A walk without branches follows the order and completes it with the last. -/
theorem walk_completes (q : Quiz) (shuffle : List Question → List Question) (now : Timestamp) (vs : List Value)
    (hshuffle : ∀ l, (shuffle l).Perm l) (hne : q.questions ≠ []) (hids : (q.questions.map (·.id)).Nodup)
    (hon : q.LeadsOn (q.start shuffle now).order) :
    ∃ visited last, q.walk (q.start shuffle now) vs = .ok (visited, last) ∧
      visited.map (·.2) <+: vs ∧ (visited.map (·.1)).Nodup ∧ visited.length ≤ q.questions.length ∧
      (last.isComplete = true ∨ visited.length = vs.length) ∧
      (q.questions.length ≤ vs.length → last.isComplete = true) ∧
      ((∀ e ∈ visited, ¬ q.Branches e) →
        visited.map (·.1) = (q.start shuffle now).order.take vs.length ∧
        (last.isComplete = true ↔ q.questions.length ≤ vs.length)) := by
  have harr : q.Arranges (q.start shuffle now).order := arranges_start hshuffle now
  have hlength : (q.start shuffle now).order.length = q.questions.length := by
    rw [List.Perm.length_eq harr, List.length_map]
  have hnodup := (List.Perm.nodup_iff harr).mpr hids
  obtain ⟨visited, last, j, hwalk, hlast, hw⟩ := walk_from harr hnodup hon vs (at_start hshuffle now hne)
  have hj := hlast.le
  have hvisited := hw.length_le
  have hanswers : visited.length ≤ vs.length := by simpa using hw.answers.length_le
  refine ⟨visited, last, hwalk, hw.answers, ?_, by omega, ?_, ?_, ?_⟩
  · refine List.pairwise_map.mpr (hw.rises.imp ?_)
    intro a b hlt heq
    rw [heq] at hlt
    exact Nat.lt_irrefl _ hlt
  · rw [hlast.isComplete]
    exact hw.stops
  · intro hmany
    rw [hlast.isComplete]
    have := hw.stops
    omega
  · intro hb
    obtain ⟨hj', hmap⟩ := hw.straight hb
    rw [hlast.isComplete, hmap, List.drop_zero]
    rcases hw.stops with hend | hend
    · refine ⟨?_, by omega⟩
      rw [List.take_of_length_le (by omega), List.take_of_length_le (by omega)]
    · refine ⟨by rw [hend], by omega⟩

theorem leadsOn_holidays : holidays.LeadsOn ["sea", "hills", "boats"] := by
  intro question hquestion choice hchoice name hname _ _
  simp only [holidays, List.mem_cons, List.not_mem_nil, or_false] at hquestion
  rcases hquestion with rfl | rfl | rfl
  · cases hchoice
  · cases hchoice
  · simp only [Option.getD_some, List.mem_cons, List.not_mem_nil, or_false] at hchoice
    rcases hchoice with rfl | rfl
    · obtain rfl := Option.some.inj hname
      decide
    · cases hname

def ashore : List Value := [.text "no", .int 4, .text "rafts"]

/-- Where the sea comes first and the boats last, its branch to the boats leads on. -/
theorem holidays_completes :
    (∀ l : List Question, l.reverse.Perm l) ∧ holidays.questions ≠ [] ∧ (holidays.questions.map (·.id)).Nodup ∧
    holidays.LeadsOn (holidays.start List.reverse (.midnight ⟨2024, 1, 2⟩)).order ∧
    ∃ visited last, holidays.walk (holidays.start List.reverse (.midnight ⟨2024, 1, 2⟩)) ashore = .ok (visited, last) ∧
      visited.map (·.2) <+: ashore ∧ (visited.map (·.1)).Nodup ∧ visited.length ≤ holidays.questions.length ∧
      (last.isComplete = true ∨ visited.length = ashore.length) ∧
      (holidays.questions.length ≤ ashore.length → last.isComplete = true) ∧
      ((∀ e ∈ visited, ¬ holidays.Branches e) →
        visited.map (·.1) = (holidays.start List.reverse (.midnight ⟨2024, 1, 2⟩)).order.take ashore.length ∧
        (last.isComplete = true ↔ holidays.questions.length ≤ ashore.length)) := by
  have hne : holidays.questions ≠ [] := by decide
  have hids : (holidays.questions.map (·.id)).Nodup := by decide +kernel
  have hon : holidays.LeadsOn (holidays.start List.reverse (.midnight ⟨2024, 1, 2⟩)).order := by
    rw [order_holidays]
    exact leadsOn_holidays
  exact ⟨List.reverse_perm, hne, hids, hon, walk_completes holidays _ _ ashore List.reverse_perm hne hids hon⟩

end Quiz

end Formwork
