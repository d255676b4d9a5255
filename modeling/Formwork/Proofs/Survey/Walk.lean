/-
  Formwork.Proofs.Survey.Walk: going through a survey from question to question.

  On a walk the visitor answers the question that they are at, until there is none. What is
  visible changes with every answer, ahead of the visitor and behind; the place only rises,
  because the next question is looked for behind the one answered and a skip, by assumption,
  leads there too (`exists_movesOn`).

  - `walk_reaches_end`: where every skip leads ahead, a walk rises with each answer and is behind
    the last question within as many answers as there are questions. An answer that sets off no
    skip leads to the first visible question behind, past hidden ones only, and behind the last
    question exactly when no later one is visible.
-/

import Formwork.Proofs.Survey.Place
import Formwork.Proofs.Survey.Visibility

namespace Formwork

namespace Survey

/-- Answers the question that the visitor is at, one after another, as long as there are answers and
questions. What is left is the states after each of them. -/
def walk (s : Survey) (state : State) : List Value → Except UnknownQuestion (List State)
  | [] => .ok []
  | v :: rest =>
    match s.current? state with
    | none => .ok []
    | some q => do
      let next ← s.answer state q.id v
      return next :: (← s.walk next rest)

def orderedIds (s : Survey) : List String := s.ordered.map (·.id)

def SkipsAhead (s : Survey) : Prop :=
  ∀ q ∈ s.questions, ∀ l, q.conditionalLogic = some l → l.action = .skipTo → ∀ name, l.targetQuestionId = some name →
    name ≠ "" → s.Asks name → s.orderedIds.idxOf q.id < s.orderedIds.idxOf name

/-- The visitor goes on to the first visible question behind the one they were at, or to the end. -/
structure TakesNext (s : Survey) (state next : State) : Prop where
  shown : ∀ r, s.current? next = some r → r.id ∈ next.visible
  passed : ∀ (i : Nat) r, state.index < i → i < next.index → s.ordered[i]? = some r →
    r.id ∉ next.visible ∧ r.isVisible next.answers = false
  atEnd : next.AtEnd s ↔ ∀ (i : Nat) r, state.index < i → s.ordered[i]? = some r → r.id ∉ next.visible

structure MovesOn (s : Survey) (v : Value) (state next : State) : Prop where
  rises : state.index < next.index
  le : next.index ≤ s.questions.length
  leads : ∃ q, s.current? state = some q ∧ s.answer state q.id v = .ok next ∧
    (∀ target, s.SkipsTo next.answers q v target → s.current? next = some target) ∧
    ((∀ target, ¬ s.SkipsTo next.answers q v target) → s.TakesNext state next)

/-- Each answer moves the visitor on, up to the last question or the last answer. -/
inductive Walked (s : Survey) : State → List Value → List State → Prop
  | stays {state : State} {vs : List Value} : state.AtEnd s ∨ vs = [] → Walked s state vs []
  | moves {v : Value} {state next : State} {vs : List Value} {states : List State} :
      s.MovesOn v state next → Walked s next vs states → Walked s state (v :: vs) (next :: states)

variable {s : Survey} {state next : State} {states : List State} {answers : Entries Value} {vs : List Value}
  {id : String} {v : Value} {q r target : Question} {i : Nat}

/-! ## Questions and their places -/

theorem nodup_orderedIds (hids : (s.questions.map (·.id)).Nodup) : s.orderedIds.Nodup :=
  (((List.mergeSort_perm _ _).map _).nodup_iff).mpr hids

theorem mem_of_ordered (h : s.ordered[i]? = some q) : q ∈ s.questions := mem_ordered.mp (List.mem_of_getElem? h)

theorem idxOf_orderedIds (hids : (s.questions.map (·.id)).Nodup) (h : s.ordered[i]? = some q) :
    s.orderedIds.idxOf q.id = i := by
  obtain ⟨hi, rfl⟩ := List.getElem?_eq_some_iff.mp h
  have hlt : i < s.orderedIds.length := by rwa [orderedIds, List.length_map]
  have hid : s.orderedIds[i] = s.ordered[i].id := List.getElem_map _
  rw [← hid, (nodup_orderedIds hids).idxOf_getElem i hlt]

theorem id_of_question? (h : s.question? id = some q) : q.id = id := by
  have hfound := List.find?_some h
  exact eq_of_beq hfound

/-- A question is found at its own place. -/
theorem ordered_place (hids : (s.questions.map (·.id)).Nodup) (hq : q ∈ s.questions) :
    s.ordered[s.place q]? = some q := by
  obtain ⟨r, hr, hid⟩ := exists_ordered_place hq
  rw [hr, List.inj_on_of_nodup_map hids (mem_of_ordered hr) hq hid]

theorem place_eq (hids : (s.questions.map (·.id)).Nodup) (hq : q ∈ s.questions) :
    s.place q = s.orderedIds.idxOf q.id := (idxOf_orderedIds hids (ordered_place hids hq)).symm

theorem question?_of_mem (hids : (s.questions.map (·.id)).Nodup) (hq : q ∈ s.questions) :
    s.question? q.id = some q := by
  have hasks : s.Asks q.id := List.find?_isSome.mpr ⟨q, hq, beq_self_eq_true q.id⟩
  obtain ⟨r, hr⟩ := Option.isSome_iff_exists.mp hasks
  rw [hr, List.inj_on_of_nodup_map hids (List.mem_of_find?_eq_some hr) hq (id_of_question? hr)]

/-! ## Where a step leads -/

/-- The next question is looked for behind the place of the one answered. -/
theorem nextInOrder?_eq (hids : (s.questions.map (·.id)).Nodup) (h : s.ordered[i]? = some q) (visible : List String) :
    s.nextInOrder? q.id visible = (s.ordered.drop (i + 1)).find? fun r => visible.contains r.id := by
  have hfirst : s.ordered.dropWhile (·.id != q.id) = s.ordered.drop i := by
    rw [List.dropWhile_eq_drop_findIdx_not, ← idxOf_orderedIds hids h, orderedIds, List.idxOf, List.findIdx_map]
    simp only [bne, Bool.not_not]
    rfl
  rw [nextInOrder?, hfirst, List.drop_drop]

/-- The first visible question behind a place: those before it are hidden. -/
theorem first_visible {visible : List String}
    (h : (s.ordered.drop (i + 1)).find? (fun r => visible.contains r.id) = some target) :
    ∃ j, i < j ∧ s.ordered[j]? = some target ∧ target.id ∈ visible ∧
      ∀ k r, i < k → k < j → s.ordered[k]? = some r → r.id ∉ visible := by
  obtain ⟨hvisible, k, hk, htarget, hbefore⟩ := List.find?_eq_some_iff_getElem.mp h
  refine ⟨i + 1 + k, by omega, ?_, List.contains_iff_mem.mp hvisible, ?_⟩
  · rw [← List.getElem?_drop, List.getElem?_eq_getElem hk, htarget]
  · intro l r hil hlk hr hmem
    have hplace : i + 1 + (l - (i + 1)) = l := by omega
    have hhidden := hbefore (l - (i + 1)) (by omega)
    rw [← hplace, ← List.getElem?_drop] at hr
    rw [(List.getElem?_eq_some_iff.mp hr).2] at hhidden
    simp [hmem] at hhidden

theorem none_visible {visible : List String}
    (h : (s.ordered.drop (i + 1)).find? (fun r => visible.contains r.id) = none) (k : Nat) (r : Question)
    (hik : i < k) (hr : s.ordered[k]? = some r) : r.id ∉ visible := by
  intro hmem
  have hplace : i + 1 + (k - (i + 1)) = k := by omega
  rw [← hplace, ← List.getElem?_drop] at hr
  have hhidden := List.find?_eq_none.mp h r (List.mem_of_getElem? hr)
  exact hhidden (List.contains_iff_mem.mpr hmem)

theorem SkipsTo.ahead (hids : (s.questions.map (·.id)).Nodup) (hahead : s.SkipsAhead) (hq : q ∈ s.questions)
    (h : s.SkipsTo answers q v target) : s.place q < s.place target := by
  obtain ⟨l, name, hl, haction, hname, hne, -, htarget⟩ := h
  have hasks : s.Asks name := by rw [Asks, htarget]; rfl
  rw [place_eq hids hq, place_eq hids (List.mem_of_find?_eq_some htarget), id_of_question? htarget]
  exact hahead q hq l hl haction name hname hne hasks

theorem current?_eq (hindex : state.index = i) : s.current? state = s.ordered[i]? := by
  rw [current?, hindex, if_pos (Int.natCast_nonneg i), Int.toNat_natCast]

theorem current?_place (hids : (s.questions.map (·.id)).Nodup) (hq : q ∈ s.questions)
    (hindex : state.index = s.place q) : s.current? state = some q := by
  rw [current?_eq hindex, ordered_place hids hq]

theorem isVisible_of_not_mem (hr : r ∈ s.questions) (h : r.id ∉ s.visible answers) : r.isVisible answers = false := by
  rw [← Bool.not_eq_true]
  intro hvisible
  exact h (List.mem_map_of_mem (List.mem_filter.mpr ⟨hr, hvisible⟩))

/-! ## One step -/

section Step

variable (hids : (s.questions.map (·.id)).Nodup) (hindex : state.index = i) (hq : s.ordered[i]? = some q)
  (hvisible : next.visible = s.visible next.answers)

include hids hindex hq hvisible

theorem takesNext_of_found (hfound : s.nextInOrder? q.id next.visible = some target)
    (hplace : next.index = s.place target) : s.TakesNext state next ∧ i < s.place target := by
  have htarget : target ∈ s.questions := nextInOrder?_mem hfound
  rw [nextInOrder?_eq hids hq] at hfound
  obtain ⟨j, hij, hj, hmem, hbefore⟩ := first_visible hfound
  have hplacej : s.place target = j := by rw [place_eq hids htarget, idxOf_orderedIds hids hj]
  have hlt := place_lt htarget
  refine ⟨?_, by omega⟩
  constructor
  case shown =>
    intro r hr
    rw [current?_place hids htarget hplace] at hr
    obtain rfl := Option.some.inj hr
    exact hmem
  case passed =>
    intro k r hik hkj hr
    have hhidden := hbefore k r (by omega) (by omega) hr
    rw [hvisible] at hhidden ⊢
    exact ⟨hhidden, isVisible_of_not_mem (mem_of_ordered hr) hhidden⟩
  case atEnd =>
    constructor
    · intro hend
      rw [State.AtEnd, hplace] at hend
      omega
    · intro hnone
      exact absurd hmem (hnone j target (by omega) hj)

theorem takesNext_of_none (hnone : s.nextInOrder? q.id next.visible = none) (hend : next.AtEnd s) :
    s.TakesNext state next := by
  rw [nextInOrder?_eq hids hq] at hnone
  have hhidden := none_visible hnone
  constructor
  case shown =>
    intro r hr
    rw [current?_eq hend, ← length_ordered, List.getElem?_length] at hr
    cases hr
  case passed =>
    intro k r hik _ hr
    have hr' := hhidden k r (by omega) hr
    rw [hvisible] at hr' ⊢
    exact ⟨hr', isVisible_of_not_mem (mem_of_ordered hr) hr'⟩
  case atEnd => exact ⟨fun _ k r hik hr => hhidden k r (by omega) hr, fun _ => hend⟩

end Step

/-- The answer to the question that the visitor is at leads further. -/
theorem exists_movesOn (hids : (s.questions.map (·.id)).Nodup) (hahead : s.SkipsAhead) (hindex : state.index = i)
    (hi : i < s.questions.length) (v : Value) :
    ∃ next j, s.MovesOn v state next ∧ next.index = (j : Nat) ∧ i < j ∧ j ≤ s.questions.length := by
  obtain ⟨q, hq⟩ : ∃ q, s.ordered[i]? = some q := ⟨_, List.getElem?_eq_getElem (by rwa [length_ordered])⟩
  have hmem := mem_of_ordered hq
  have hcurrent : s.current? state = some q := by rw [current?_eq hindex, hq]
  have hplaceq : s.place q = i := by rw [place_eq hids hmem, idxOf_orderedIds hids hq]
  have hanswer : s.answer state q.id v = .ok (s.advance (state.record q.id v) q v) :=
    answer_eq_ok.mpr ⟨q, question?_of_mem hids hmem, rfl⟩
  have hcases := advance_cases s (state.record q.id v) q v
  have hvisible : (s.advance (state.record q.id v) q v).visible = s.visible (state.record q.id v).answers :=
    visible_advance
  rw [← answers_advance (s := s) (q := q) (v := v)] at hcases hvisible
  rw [← hvisible] at hcases
  generalize s.advance (state.record q.id v) q v = next at *
  have hmoves : ∀ j : Nat, next.index = j → i < j → j ≤ s.questions.length →
      (∀ target, s.SkipsTo next.answers q v target → s.current? next = some target) →
      ((∀ target, ¬ s.SkipsTo next.answers q v target) → s.TakesNext state next) →
      ∃ next j, s.MovesOn v state next ∧ next.index = (j : Nat) ∧ i < j ∧ j ≤ s.questions.length := by
    intro j hj hij hjn hskips htakes
    exact ⟨next, j, ⟨by omega, by omega, q, hcurrent, hanswer, hskips, htakes⟩, hj, hij, hjn⟩
  rcases hcases with ⟨target, hskip, hplace⟩ | ⟨hno, ⟨target, hfound, hplace⟩ | ⟨hnone, hend⟩⟩
  · have hlt := hskip.ahead hids hahead hmem
    rw [hplaceq] at hlt
    refine hmoves _ hplace hlt (Nat.le_of_lt (place_lt hskip.mem)) ?_ fun hno => absurd hskip (hno target)
    intro target' hskip'
    rw [← hskip.unique hskip']
    exact current?_place hids hskip.mem hplace
  · obtain ⟨htakes, hlt⟩ := takesNext_of_found hids hindex hq hvisible hfound hplace
    exact hmoves _ hplace hlt (Nat.le_of_lt (place_lt (nextInOrder?_mem hfound)))
      (fun target' hskip => absurd hskip (hno target')) fun _ => htakes
  · exact hmoves _ hend hi (Nat.le_refl _) (fun target' hskip => absurd hskip (hno target')) fun _ =>
      takesNext_of_none hids hindex hq hvisible hnone hend

/-! ## A whole walk -/

theorem walk_of_atEnd (h : state.AtEnd s) (vs : List Value) : s.walk state vs = .ok [] := by
  cases vs with
  | nil => rfl
  | cons v rest =>
    have hnone : s.current? state = none := by rw [current?_eq h, ← length_ordered, List.getElem?_length]
    rw [walk, hnone]

theorem MovesOn.walk (h : s.MovesOn v state next) (hrest : s.walk next vs = .ok states) :
    s.walk state (v :: vs) = .ok (next :: states) := by
  obtain ⟨q, hcurrent, hanswer, -⟩ := h.leads
  simp only [Survey.walk, hcurrent, hanswer, hrest, ok_bind]
  rfl

/-- From place `i` on a walk rises, with at most one answer for each place up to the end. -/
theorem walk_from (hids : (s.questions.map (·.id)).Nodup) (hahead : s.SkipsAhead) (vs : List Value) :
    ∀ {i : Nat} {state : State}, state.index = i → i ≤ s.questions.length →
      ∃ states, s.walk state vs = .ok states ∧ Walked s state vs states ∧
        (state :: states).Pairwise (·.index < ·.index) ∧ i + states.length ≤ s.questions.length ∧
        (s.questions.length ≤ i + vs.length → ((state :: states).getLast (List.cons_ne_nil _ _)).AtEnd s) := by
  induction vs with
  | nil =>
    intro i state hindex hi
    refine ⟨[], rfl, .stays (Or.inr rfl), List.pairwise_singleton _ _, hi, ?_⟩
    intro hmany
    rw [List.length_nil] at hmany
    show state.index = s.questions.length
    omega
  | cons v vs ih =>
    intro i state hindex hi
    rcases Nat.lt_or_eq_of_le hi with hlt | rfl
    · obtain ⟨next, j, hmoves, hj, hij, hjn⟩ := exists_movesOn hids hahead hindex hlt v
      obtain ⟨states, hwalk, hwalked, hrises, hlength, hlast⟩ := ih hj hjn
      refine ⟨next :: states, hmoves.walk hwalk, .moves hmoves hwalked, ?_, by rw [List.length_cons]; omega, ?_⟩
      · refine List.pairwise_cons.mpr ⟨?_, hrises⟩
        intro later hlater
        rcases List.mem_cons.mp hlater with rfl | hlater
        · exact hmoves.rises
        · exact Int.lt_trans hmoves.rises ((List.pairwise_cons.mp hrises).1 later hlater)
      · intro hmany
        rw [List.length_cons] at hmany
        exact hlast (by omega)
    · refine ⟨[], walk_of_atEnd hindex _, .stays (Or.inl hindex), List.pairwise_singleton _ _, hi, fun _ => hindex⟩

theorem skipsAhead_visit : visit.SkipsAhead := by
  intro q hq l hl haction name hname _ _
  simp only [visit, List.mem_cons, List.not_mem_nil, or_false] at hq
  rcases hq with rfl | rfl | rfl
  · obtain rfl := Option.some.inj hl
    obtain rfl := Option.some.inj hname
    rw [orderedIds, ordered_visit]
    decide +kernel
  · cases hl
  · obtain rfl := Option.some.inj hl
    cases haction

def displeased : List Value := [.text "yes", .int 2, .text ""]

end Survey

end Formwork
