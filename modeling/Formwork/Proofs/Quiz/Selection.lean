/-
  Formwork.Proofs.Quiz.Selection: what a selection of options earns.

  The score of a selection is meant to be told by the set of the selected ids: one point for the
  set of the right ones, or else the share of them that is left when each wrong one takes back a
  right one (`scoreOfSet`). It is computed from lists, by their lengths and by counting members,
  so an id that is selected twice counts twice.

  - `score_eq_scoreOfSet_iff`: selections without repeats are scored by their sets, for each
    question that lists its right ids once, and for no other; for no question are all selections.
  - `score_ne_scoreOfSet`: who selects one of two right options twice gets full credit.
-/

import Formwork.Proofs.Bind
import Formwork.Proofs.Number.Share
import Formwork.Quiz.Scoring

namespace Formwork

def TextOrTexts.given : TextOrTexts → List String
  | .one s => if s == "" then [] else [s]
  | .several items => items

namespace Quiz

/-- The ids that are right: those that the question lists, or those that its options mark if it lists none. -/
def Question.configured (q : Question) : List String :=
  let listed := (q.correctAnswer.map TextOrTexts.given).getD []
  if listed.isEmpty then (q.choices.filter (·.isCorrect == some true)).map (·.id) else listed

/-- The right ids are listed once each, and not by an empty list, which hides the marks of the options. -/
def Question.ListsOnce (q : Question) : Prop := q.correctAnswer ≠ some (.several []) ∧ q.configured.Nodup

def scoreOfSet (right selected : Finset String) : Score :=
  if selected = right then ⟨1, true⟩
  else
    ⟨greater 0 ((Binary64.divInt? (((selected ∩ right).card : Int) - (selected \ right).card) right.card).getD 0),
      false⟩

/-- A score from 0 to 1 that is full for the right ids only. From `2 ^ 54` right ids on a share next to 1
is rounded to 1. -/
structure Score.IsShareFor (score : Score) (right selected : Finset String) : Prop where
  nonneg : 0 ≤ score.points
  le_one : score.points ≤ 1
  isCorrect : score.isCorrect = true ↔ selected = right
  full : right.card < 2 ^ 54 → (score.points = 1 ↔ selected = right)

variable {q : Question} {right selected ids : List String} {items : List Value} {id : String}

/-! ## The share as a quotient -/

open Binary64

theorem greater_zero_ofRatio {num den : Nat} (h : (ofRatio num den).isInf = false) :
    greater 0 (ofRatio num den) = ofRatio num den := by
  obtain ⟨b, hb, heq⟩ := exists_bits_of_not_isInf h
  have hzero : (0 : Float) = ofNatBits 0 := rfl
  rw [heq, greater]
  rcases Nat.eq_zero_or_pos b with rfl | hpos
  · rw [hzero, ite_self]
  · rw [if_pos]
    rw [hzero, ofNatBits_lt_ofNatBits (by decide) hb]
    exact hpos

/-- The greater of 0 and the rounded quotient is the float nearest to the hits less the misses, as a share. -/
theorem greater_zero_divInt? {hits misses total : Nat} (h : hits ≤ total) (hpos : 0 < total) :
    greater 0 ((divInt? ((hits : Int) - misses) total).getD 0) = ofRatio (hits - misses) total := by
  have hsign : decide ((total : Int) < 0) = false := decide_eq_false (by omega)
  unfold divInt?
  simp only [hsign, Int.natAbs_natCast, Bool.bne_false]
  by_cases hle : misses ≤ hits
  · have habs : ((hits : Int) - misses).natAbs = hits - misses := by omega
    have hinf := isInf_ofRatio_of_le (show hits - misses ≤ total by omega) hpos
    rw [habs, hinf, if_neg Bool.false_ne_true, decide_eq_false (by omega)]
    exact greater_zero_ofRatio hinf
  · have hzero : ofRatio (hits - misses) total = 0 := by
      rw [Nat.sub_eq_zero_of_le (by omega)]
      rfl
    rw [hzero, decide_eq_true (by omega)]
    cases hinf : (ofRatio ((hits : Int) - misses).natAbs total).isInf with
    | true =>
      rw [if_pos rfl]
      exact ite_self 0
    | false =>
      rw [if_neg Bool.false_ne_true]
      exact if_neg (not_pos_neg_ofRatio hinf)

/-! ## Lists and sets -/

theorem countP_contains (h : selected.Nodup) :
    selected.countP (right.contains ·) = (selected.toFinset ∩ right.toFinset).card := by
  have hfilter : (selected.filter (right.contains ·)).toFinset = selected.toFinset ∩ right.toFinset := by
    ext id
    simp
  rw [List.countP_eq_length_filter, ← List.toFinset_card_of_nodup (h.filter _), hfilter]

theorem length_sub_countP (h : selected.Nodup) :
    selected.length - selected.countP (right.contains ·) = (selected.toFinset \ right.toFinset).card := by
  rw [countP_contains h, ← List.toFinset_card_of_nodup h, Finset.card_sdiff, Finset.inter_comm]

theorem toFinset_dedup : selected.dedup.toFinset = selected.toFinset := by
  ext id
  simp

/-- A selection that is as long as the right ids and made of them has all of them, where none occurs twice. -/
theorem length_eq_and_all_iff (hright : right.Nodup) (hselected : selected.Nodup) :
    (selected.length == right.length && selected.all (right.contains ·)) = true ↔
      selected.toFinset = right.toFinset := by
  rw [Bool.and_eq_true, beq_iff_eq, List.all_eq_true, ← List.toFinset_card_of_nodup hselected,
    ← List.toFinset_card_of_nodup hright]
  constructor
  · rintro ⟨hcard, hall⟩
    refine Finset.eq_of_subset_of_card_le ?_ (Nat.le_of_eq hcard.symm)
    intro id hid
    exact List.mem_toFinset.mpr (List.contains_iff_mem.mp (hall id (List.mem_toFinset.mp hid)))
  · intro heq
    refine ⟨by rw [heq], ?_⟩
    intro id hid
    rw [List.contains_iff_mem, ← List.mem_toFinset, ← heq]
    exact List.mem_toFinset.mpr hid

theorem scoreChoices_of_ne_nil (hne : q.rightAnswers ≠ []) (selected : List String) : q.scoreChoices selected =
    if selected.length == q.rightAnswers.length && selected.all (q.rightAnswers.contains ·) then ⟨1, true⟩
    else ⟨shareOf q.rightAnswers selected, false⟩ := by
  have hempty : q.rightAnswers.isEmpty = false := by simpa using hne
  unfold Question.scoreChoices
  simp only [hempty]
  rfl

theorem scoreChoices_eq_scoreOfSet (hne : q.rightAnswers ≠ []) (hright : q.rightAnswers.Nodup)
    (hselected : selected.Nodup) : q.scoreChoices selected = scoreOfSet q.rightAnswers.toFinset selected.toFinset := by
  rw [scoreChoices_of_ne_nil hne, scoreOfSet]
  refine if_congr (length_eq_and_all_iff hright hselected) rfl ?_
  have hmisses : selected.length - selected.countP (q.rightAnswers.contains ·) =
      (selected.toFinset \ q.rightAnswers.toFinset).card := length_sub_countP hselected
  rw [shareOf, hmisses, countP_contains hselected, List.toFinset_card_of_nodup hright]

/-! ## Questions -/

theorem rightAnswers_eq_configured (h : q.correctAnswer ≠ some (.several [])) : q.rightAnswers = q.configured := by
  unfold Question.rightAnswers Question.configured
  cases hanswer : q.correctAnswer with
  | none => rfl
  | some a =>
    cases a with
    | one s =>
      by_cases hs : (s == "") = true
      · simp [TextOrTexts.given, hs]
      · simp [TextOrTexts.given, hs]
    | several items =>
      cases items with
      | nil => exact absurd hanswer h
      | cons first rest => rfl

theorem score_list_of_ne_nil (hq : q.type = .multipleChoice) (hne : items ≠ []) :
    q.score (.list items) = (selection (.list items)).map q.scoreChoices := by
  obtain ⟨first, rest, rfl⟩ := List.exists_cons_of_ne_nil hne
  unfold Question.score
  rw [hq]
  rfl

/-- An empty selection is not looked at, and earns what it would. -/
theorem score_list (hq : q.type = .multipleChoice) (hne : q.rightAnswers ≠ []) (items : List Value) :
    q.score (.list items) = (selection (.list items)).map q.scoreChoices := by
  cases items with
  | cons first rest => exact score_list_of_ne_nil hq (List.cons_ne_nil first rest)
  | nil =>
    have hnone : selection (.list []) = .ok [] := rfl
    have hpos : 0 < q.rightAnswers.length := List.length_pos_iff.mpr hne
    have hlength : (0 == q.rightAnswers.length) = false := beq_false_of_ne (Nat.ne_of_lt hpos)
    have hnothing : greater 0 ((divInt? ((0 : Nat) - (0 : Nat) : Int) q.rightAnswers.length).getD 0) = 0 :=
      greater_zero_divInt? (Nat.zero_le _) hpos
    rw [hnone, Except.map, scoreChoices_of_ne_nil hne, List.length_nil, hlength, Bool.false_and, if_neg Bool.false_ne_true,
      shareOf, List.countP_nil]
    exact congrArg (fun points => Except.ok (Score.mk points false)) hnothing.symm

def answerOf (ids : List String) : List Value := ids.map Value.text

theorem selection_answerOf (ids : List String) : selection (.list (answerOf ids)) = .ok ids := by
  refine mapM_eq_ok_iff.mpr ?_
  show List.Forall₂ _ (ids.map Value.text) ids
  rw [List.forall₂_map_left_iff, List.forall₂_same]
  exact fun _ _ => rfl

theorem score_of_listsOnce (hq : q.type = .multipleChoice) (hne : q.configured ≠ []) (h : q.ListsOnce)
    (hids : selection (.list items) = .ok ids) (hnodup : ids.Nodup) :
    q.score (.list items) = .ok (scoreOfSet q.configured.toFinset ids.toFinset) := by
  have heq := rightAnswers_eq_configured h.1
  rw [← heq] at hne ⊢
  rw [score_list hq hne, hids, Except.map, scoreChoices_eq_scoreOfSet hne (by rw [heq]; exact h.2) hnodup]

/-- The right ids, selected in a list of another length than the one that lists them, are not taken for right. -/
theorem score_ne_of_length_ne (hq : q.type = .multipleChoice) (hright : q.correctAnswer ≠ some (.several []))
    (hne : q.configured ≠ []) (hlength : selected.length ≠ q.configured.length)
    (hset : selected.toFinset = q.configured.toFinset) :
    q.score (.list (answerOf selected)) ≠ .ok (scoreOfSet q.configured.toFinset selected.toFinset) := by
  intro hscore
  rw [← rightAnswers_eq_configured hright] at hne hlength hset hscore
  have hfalse : (selected.length == q.rightAnswers.length) = false := by simpa using hlength
  rw [score_list hq hne, selection_answerOf, Except.map, scoreChoices_of_ne_nil hne, hfalse, Bool.false_and,
    if_neg Bool.false_ne_true, scoreOfSet, if_pos hset] at hscore
  obtain ⟨-, hcorrect⟩ := Score.mk.inj (Except.ok.inj hscore)
  cases hcorrect

/-- Where an empty list of right answers hides the marks of the options, scores are added up, and an id that
no option has adds nothing. -/
theorem score_of_several_nil (hq : q.type = .multipleChoice) (hnil : q.correctAnswer = some (.several []))
    (hne : selected ≠ []) : ∃ total : Float, q.score (.list (answerOf selected)) = .ok ⟨total, 0 < total⟩ ∧
      ∀ id, q.choice? id = none → q.score (.list (answerOf (selected ++ [id]))) = .ok ⟨total + 0, 0 < total + 0⟩ := by
  have hright : q.rightAnswers = [] := by rw [Question.rightAnswers, hnil]
  have hanswer : ∀ ids, ids ≠ [] → q.score (.list (answerOf ids)) = .ok (q.scoreChoices ids) := by
    intro ids hids
    rw [score_list_of_ne_nil hq (by simpa [answerOf] using hids), selection_answerOf, Except.map]
  refine ⟨selected.foldl (fun total id => total + ((q.choice? id).map fun o => setOr 0 o.score).getD 0) 0, ?_, ?_⟩
  · rw [hanswer selected hne, Question.scoreChoices, hright]
    rfl
  · intro id hid
    rw [hanswer _ (by simp), Question.scoreChoices, hright]
    simp only [List.foldl_append, List.foldl_cons, List.foldl_nil, hid]
    rfl

section ListsOnce

variable (hq : q.type = .multipleChoice) (hne : q.configured ≠ [])
  (h : ∀ selected : List String, selected.Nodup →
    q.score (.list (answerOf selected)) = .ok (scoreOfSet q.configured.toFinset selected.toFinset))

include hq hne h

/-- With the right ids an id that is none of them nor of an option would be right as well. -/
theorem correctAnswer_ne_several_nil : q.correctAnswer ≠ some (.several []) := by
  intro hnil
  obtain ⟨fresh, hfresh⟩ := Infinite.exists_notMem_finset (q.configured ++ q.choices.map (·.id)).toFinset
  simp only [List.mem_toFinset, List.mem_append, List.mem_map, not_or] at hfresh
  obtain ⟨hnew, hoption⟩ := hfresh
  have hchoice : q.choice? fresh = none := by
    refine List.find?_eq_none.mpr fun o ho hid => hoption ⟨o, ho, ?_⟩
    exact eq_of_beq hid
  have hsome : q.configured.dedup ≠ [] := by simpa using hne
  obtain ⟨total, htotal, hmore⟩ := score_of_several_nil hq hnil hsome
  have hall := h _ (List.nodup_dedup q.configured)
  rw [htotal, scoreOfSet, if_pos toFinset_dedup] at hall
  obtain ⟨rfl, -⟩ := Score.mk.inj (Except.ok.inj hall)
  have hnodup : (q.configured.dedup ++ [fresh]).Nodup := by
    rw [← List.concat_eq_append, List.nodup_concat]
    exact ⟨fun hmem => hnew (List.mem_dedup.mp hmem), List.nodup_dedup _⟩
  have hother : (q.configured.dedup ++ [fresh]).toFinset ≠ q.configured.toFinset := by
    intro heq
    have hmem : fresh ∈ (q.configured.dedup ++ [fresh]).toFinset := by simp
    rw [heq, List.mem_toFinset] at hmem
    exact hnew hmem
  have hscore := h _ hnodup
  rw [hmore fresh hchoice, scoreOfSet, if_neg hother] at hscore
  obtain ⟨-, hcorrect⟩ := Score.mk.inj (Except.ok.inj hscore)
  exact absurd hcorrect (by decide +kernel)

/-- The right ids without repeats are as many as are listed. -/
theorem listsOnce_of_scores : q.ListsOnce := by
  have hright := correctAnswer_ne_several_nil hq hne h
  refine ⟨hright, ?_⟩
  by_contra hrepeats
  have hlength : q.configured.dedup.length ≠ q.configured.length := by
    intro hlength
    rw [← (List.dedup_sublist _).eq_of_length hlength] at hrepeats
    exact hrepeats (List.nodup_dedup _)
  exact score_ne_of_length_ne hq hright hne hlength toFinset_dedup (h _ (List.nodup_dedup _))

end ListsOnce

theorem isShareFor_scoreOfSet {right : Finset String} (hne : right.Nonempty) (selected : Finset String) :
    (scoreOfSet right selected).IsShareFor right selected := by
  unfold scoreOfSet
  split
  · rename_i heq
    exact ⟨by decide +kernel, by decide +kernel, iff_of_true rfl heq, fun _ => iff_of_true rfl heq⟩
  · rename_i hset
    have hpos := hne.card_pos
    have hhits : (selected ∩ right).card ≤ right.card := Finset.card_le_card Finset.inter_subset_right
    have hpart : (selected ∩ right).card - (selected \ right).card < right.card := by
      by_contra hall
      have hinter : selected ∩ right = right :=
        Finset.eq_of_subset_of_card_le Finset.inter_subset_right (by omega)
      have hsdiff : (selected \ right).card = 0 := by omega
      rw [Finset.card_eq_zero, Finset.sdiff_eq_empty_iff_subset] at hsdiff
      exact hset (Finset.Subset.antisymm hsdiff (Finset.inter_eq_right.mp hinter))
    rw [greater_zero_divInt? hhits hpos]
    refine ⟨ofRatio_nonneg (Nat.le_of_lt hpart) hpos, ofRatio_le_one (Nat.le_of_lt hpart) hpos,
      iff_of_false Bool.false_ne_true hset, ?_⟩
    intro hmany
    refine iff_of_false ?_ hset
    rw [ofRatio_eq_one_iff (Nat.le_of_lt hpart) hpos]
    omega

/-- Selections without repeats are scored by their sets just where each right id is listed once, and no
question scores all selections so. Scored by its set, a selection earns its share of one point. -/
theorem score_eq_scoreOfSet_iff (q : Question) (hq : q.type = .multipleChoice) (hne : q.configured ≠ []) :
    (q.ListsOnce ↔ ∀ items ids, selection (.list items) = .ok ids → ids.Nodup →
      q.score (.list items) = .ok (scoreOfSet q.configured.toFinset ids.toFinset)) ∧
    (∃ items ids, selection (.list items) = .ok ids ∧
      q.score (.list items) ≠ .ok (scoreOfSet q.configured.toFinset ids.toFinset)) ∧
    ∀ selected : Finset String,
      (scoreOfSet q.configured.toFinset selected).IsShareFor q.configured.toFinset selected := by
  have hiff : q.ListsOnce ↔ ∀ items ids, selection (.list items) = .ok ids → ids.Nodup →
      q.score (.list items) = .ok (scoreOfSet q.configured.toFinset ids.toFinset) := by
    refine ⟨fun h items ids hids hnodup => score_of_listsOnce hq hne h hids hnodup, fun h => ?_⟩
    refine listsOnce_of_scores hq hne fun selected hselected => ?_
    exact h (answerOf selected) selected (selection_answerOf selected) hselected
  refine ⟨hiff, ?_, isShareFor_scoreOfSet (by simpa [List.toFinset_nonempty_iff] using hne)⟩
  by_cases honce : q.ListsOnce
  · -- the right ids, each selected twice
    have hpos := List.length_pos_iff.mpr hne
    refine ⟨answerOf (q.configured ++ q.configured), _, selection_answerOf _, ?_⟩
    refine score_ne_of_length_ne hq honce.1 hne ?_ (by simp)
    rw [List.length_append]
    omega
  · rw [hiff] at honce
    simp only [not_forall] at honce
    obtain ⟨items, ids, hids, -, hscore⟩ := honce
    exact ⟨items, ids, hids, hscore⟩

def planets : Question where
  id := "planets"
  type := .multipleChoice
  question := "Which of these are planets?"
  options := some [{ id := "mars", text := "Mars" }, { id := "venus", text := "Venus" },
    { id := "moon", text := "Moon" }]
  correctAnswer := some (.several ["mars", "venus"])

/-- One planet without repeats earns a half. -/
theorem planets_scores :
    planets.type = .multipleChoice ∧ planets.configured ≠ [] ∧ planets.ListsOnce ∧
    (selection (.list [.text "venus"]) = .ok ["venus"] ∧ ["venus"].Nodup ∧
      planets.score (.list [.text "venus"]) = .ok (scoreOfSet planets.configured.toFinset ["venus"].toFinset)) ∧
    (∃ items ids, selection (.list items) = .ok ids ∧
      planets.score (.list items) ≠ .ok (scoreOfSet planets.configured.toFinset ids.toFinset)) ∧
    ∀ selected : Finset String,
      (scoreOfSet planets.configured.toFinset selected).IsShareFor planets.configured.toFinset selected := by
  have hne : planets.configured ≠ [] := by decide
  have honce : planets.ListsOnce := ⟨by decide, by decide⟩
  have hvenus : ["venus"].Nodup := List.nodup_singleton _
  obtain ⟨hiff, hsome, hshare⟩ := score_eq_scoreOfSet_iff planets rfl hne
  exact ⟨rfl, hne, honce, ⟨rfl, hvenus, hiff.mp honce _ _ rfl hvenus⟩, hsome, hshare⟩

def marsTwice : List Value := [.text "mars", .text "mars"]

/-- It is taken for both planets, as long as the list of them and made of them. -/
theorem score_ne_scoreOfSet :
    ¬ ∀ (q : Question) (items : List Value) (ids : List String), q.type = .multipleChoice → q.configured ≠ [] →
      selection (.list items) = .ok ids →
      q.score (.list items) = .ok (scoreOfSet q.configured.toFinset ids.toFinset) := by
  intro h
  have hscore := h planets marsTwice ["mars", "mars"] rfl (by decide) rfl
  have hfull : planets.score (.list marsTwice) = .ok ⟨1, true⟩ := by decide +kernel
  have hhalf :
      (scoreOfSet planets.configured.toFinset ["mars", "mars"].toFinset).isCorrect = false := by
    decide +kernel
  rw [hfull] at hscore
  rw [← Except.ok.inj hscore] at hhalf
  cases hhalf

end Quiz

end Formwork
