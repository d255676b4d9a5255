/-
  Formwork.Proofs.Quiz.Bounds: points lie between 0 and the greatest points of their question.

  The greatest points are those of the best option and above 0 (`worth_le_maxPoints`,
  `maxPoints_pos`), and an answer earns what one option is worth, one point or a share of it. Two
  kinds of answers are bounded by what they ask for (`Question.Fits`): a rating earns the number that
  it starts with over the scale, whatever that number is, and a selection without right answers
  earns the sum of its options, which is within the greatest points when only one of them has any
  (`sumOf_le_maxPoints`). Where all answers fit, weights and sums keep the score within the greatest
  score (`within_ofEntries`), and with it the percentage.

  - `points_within`: the bounds for one answer, and for the totals of a quiz.
  - `points_not_within`: off the scale a rating is out of range, and so is a sum of two options.
-/

import Formwork.Proofs.Quiz.Breakdown
import Formwork.Proofs.Quiz.Scored
import Formwork.Proofs.Quiz.Selection

namespace Formwork

open Binary64

namespace Quiz

variable {q : Question} {answer : Value} {o : Choice} {x y d : Float} {s : Score} {ids : List String}

/-! ## What is asked of questions and answers -/

def Question.ScoresNonneg (q : Question) : Prop := ∀ o ∈ q.choices, ∀ x, o.score = some x → 0 ≤ x

/-- A question may pay one whole point, whatever its options are worth. -/
def Question.PaysPoint (q : Question) : Prop :=
  match q.type with
  | .singleChoice | .trueFalse | .imageChoice =>
    ∃ x, x ≠ "" ∧ q.correctAnswer = some (.one x) ∧ ∃ o, q.choice? x = some o ∧ o.worth = 0
  | .multipleChoice => q.rightAnswers ≠ []
  | .text | .rating => True

def Question.pointsOf (q : Question) (id : String) : Float := ((q.choice? id).map fun o => setOr 0 o.score).getD 0

def Question.sumOf (q : Question) (selected : List String) : Float :=
  selected.foldl (fun total id => total + q.pointsOf id) 0

/-- The answer asks for no more than the question has: a rating is on the scale, and a selection picks no option
twice, or where points are added up only one that has any. -/
def Question.Fits (q : Question) (answer : Value) : Prop :=
  match q.type with
  | .singleChoice | .trueFalse | .imageChoice | .text => True
  | .multipleChoice => ∀ ids, selection answer = .ok ids →
    if q.rightAnswers = [] then ids.countP (fun id => decide (0 < q.pointsOf id)) ≤ 1 else ids.Nodup
  | .rating => ∀ n, rated? answer = some n → 0 ≤ n ∧ n ≤ q.scale

/-! ## The greatest points -/

theorem greater_bounds (hx : 0 ≤ x) (hy : 0 ≤ y) : x ≤ greater x y ∧ y ≤ greater x y := by
  obtain ⟨a, hx⟩ := nonneg_iff.mp hx
  obtain ⟨b, hy⟩ := nonneg_iff.mp hy
  unfold greater
  split
  · rename_i hlt
    rw [lt_iff_of_rank hx hy] at hlt
    rw [le_iff_of_rank hx hy, le_iff_of_rank hy hy]
    omega
  · rename_i hnot
    rw [lt_iff_of_rank hx hy] at hnot
    rw [le_iff_of_rank hx hx, le_iff_of_rank hy hx]
    omega

/-- A set score counts, or counts as unset. -/
theorem setOr_some (d x : Float) : setOr d (some x) = d ∨ setOr d (some x) = x := by
  rw [setOr]
  split
  · exact Or.inl rfl
  · exact Or.inr rfl

theorem setOr_nonneg (hd : 0 ≤ d) (h : ∀ x, o.score = some x → 0 ≤ x) : 0 ≤ setOr d o.score := by
  cases hscore : o.score with
  | none => exact hd
  | some x =>
    rcases setOr_some d x with heq | heq <;> rw [heq]
    · exact hd
    · exact h x hscore

theorem worth_nonneg (h : ∀ x, o.score = some x → 0 ≤ x) : 0 ≤ o.worth := by
  refine setOr_nonneg ?_ h
  split
  · exact zero_le_one_float
  · exact zero_le_zero_float

/-- The best of some options is worth no less than each. -/
theorem le_foldl_greater {rest : List Choice} (hrest : ∀ o ∈ rest, 0 ≤ o.worth) (hx : 0 ≤ x) :
    x ≤ rest.foldl (fun best o => greater best o.worth) x ∧
      ∀ o ∈ rest, o.worth ≤ rest.foldl (fun best o => greater best o.worth) x := by
  induction rest generalizing x with
  | nil => exact ⟨le_refl_of_nonneg hx, fun o ho => absurd ho List.not_mem_nil⟩
  | cons o rest ih =>
    have ho := hrest o (.head _)
    obtain ⟨hxle, hole⟩ := greater_bounds hx ho
    obtain ⟨hfirst, hlater⟩ := ih (fun p hp => hrest p (.tail _ hp)) (le_of_le_of_le hx hxle)
    refine ⟨le_of_le_of_le hxle hfirst, fun p hp => ?_⟩
    rcases List.mem_cons.mp hp with rfl | hp
    · exact le_of_le_of_le hole hfirst
    · exact hlater p hp

theorem maxPoints_pos (q : Question) : 0 < q.maxPoints := by
  unfold Question.maxPoints
  split
  · exact zero_lt_one_float
  · simp only
    split
    · assumption
    · exact zero_lt_one_float

/-- No option is worth more than the greatest points. -/
theorem worth_le_maxPoints (h : q.ScoresNonneg) (ho : o ∈ q.choices) : o.worth ≤ q.maxPoints := by
  unfold Question.ScoresNonneg at h
  unfold Question.maxPoints
  cases hchoices : q.choices with
  | nil =>
    rw [hchoices] at ho
    cases ho
  | cons first rest =>
    rw [hchoices] at h ho
    have hworth : ∀ o ∈ first :: rest, 0 ≤ o.worth := fun o ho => worth_nonneg (h o ho)
    obtain ⟨hfirst, hrest⟩ := le_foldl_greater (fun o ho => hworth o (.tail _ ho)) (hworth first (.head _))
    have hbest : o.worth ≤ rest.foldl (fun best o => greater best o.worth) first.worth := by
      rcases List.mem_cons.mp ho with rfl | ho
      · exact hfirst
      · exact hrest o ho
    simp only
    split
    · exact hbest
    · rename_i hnot
      have hnonneg := le_of_le_of_le (hworth o ho) hbest
      exact le_of_le_of_le hbest (le_of_not_pos hnonneg hnot zero_le_one_float)

/-! ## Single options and texts -/

def Score.InRange (s : Score) (q : Question) : Prop := 0 ≤ s.points ∧ s.points ≤ q.maxPoints

theorem inRange_nothing (q : Question) : Score.nothing.InRange q :=
  ⟨zero_le_zero_float, le_of_pos (maxPoints_pos q)⟩

theorem inRange_worth (h : q.ScoresNonneg) (ho : o ∈ q.choices) {isCorrect : Bool} :
    Score.InRange ⟨o.worth, isCorrect⟩ q :=
  ⟨worth_nonneg (h o ho), worth_le_maxPoints h ho⟩

theorem mem_of_choice? {id : String} (h : q.choice? id = some o) : o ∈ q.choices := List.mem_of_find?_eq_some h

theorem inRange_point (hone : 1 ≤ q.maxPoints) (right isCorrect : Bool) :
    Score.InRange ⟨if right then 1 else 0, isCorrect⟩ q := by
  cases right with
  | false => exact inRange_nothing q
  | true => exact ⟨zero_le_one_float, hone⟩

/-- What a right option earns is what it is worth, unless neither a score nor a mark says so. -/
theorem setOr_one_score (o : Choice) :
    setOr 1 o.score = o.worth ∨ (setOr 1 o.score = 1 ∧ o.worth = 0) := by
  unfold Choice.worth
  cases hmark : o.isCorrect == some true with
  | true => exact Or.inl rfl
  | false =>
    cases o.score with
    | none => exact Or.inr ⟨rfl, rfl⟩
    | some x =>
      unfold setOr
      simp only
      split
      · exact Or.inr ⟨rfl, rfl⟩
      · exact Or.inl rfl

theorem setOr_ne_zero (hd : d ≠ 0) (score : Option Float) : setOr d score ≠ 0 := by
  unfold setOr
  split
  · split
    · exact hd
    · rename_i hne
      rintro rfl
      exact hne (by decide +kernel)
  · exact hd

/-- An option that is marked as right is worth something. -/
theorem worth_ne_zero (hmark : o.isCorrect = some true) : o.worth ≠ 0 := by
  rw [Choice.worth, hmark]
  exact setOr_ne_zero (by decide +kernel) _

theorem inRange_right (h : q.ScoresNonneg) (ho : o ∈ q.choices) (right isCorrect : Bool)
    (hright : right = true → o.worth = 0 → 1 ≤ q.maxPoints) :
    Score.InRange ⟨if right then setOr 1 o.score else 0, isCorrect⟩ q := by
  cases right with
  | false => exact inRange_nothing q
  | true =>
    rcases setOr_one_score o with heq | ⟨heq, hworth⟩ <;> rw [if_pos rfl, heq]
    · exact inRange_worth h ho
    · exact ⟨zero_le_one_float, hright rfl hworth⟩

theorem scoreChoice_inRange (h : q.ScoresNonneg) (hq : q.type.picksOne = true) (hpays : q.PaysPoint → 1 ≤ q.maxPoints)
    (answer : String) : (q.scoreChoice answer).InRange q := by
  unfold Question.scoreChoice
  split
  · exact inRange_nothing q
  rename_i o hchoice
  have ho := mem_of_choice? hchoice
  split
  · -- by the right answer of the question, which need not be marked
    rename_i hhas
    refine inRange_right h ho _ _ fun hright hworth => hpays ?_
    have hanswer : q.correctAnswer = some (.one answer) := eq_of_beq hright
    have hgiven : answer ≠ "" := by
      rw [Question.hasRightAnswer, hanswer] at hhas
      simpa [TextOrTexts.isGiven] using hhas
    unfold Question.PaysPoint
    cases htype : q.type with
    | singleChoice | trueFalse | imageChoice => exact ⟨answer, hgiven, hanswer, o, hchoice, hworth⟩
    | multipleChoice | text | rating =>
      rw [htype] at hq
      cases hq
  · split
    · -- by its own mark, which counts for what it is worth
      rename_i right hmark
      refine inRange_right h ho _ _ fun hright hworth => ?_
      exact absurd hworth (worth_ne_zero (by rw [hmark, hright]))
    · rename_i hmark
      have hworth : setOr 0 o.score = o.worth := by rw [Choice.worth, hmark]; rfl
      simp only [hworth]
      exact inRange_worth h ho

theorem scoreText_inRange (hq : q.type = .text) (hpays : q.PaysPoint → 1 ≤ q.maxPoints) (answer : String) :
    (q.scoreText answer).InRange q := by
  have hone : 1 ≤ q.maxPoints := hpays (by rw [Question.PaysPoint, hq]; trivial)
  unfold Question.scoreText
  split
  · exact ⟨zero_le_one_float, hone⟩
  · exact inRange_point hone _ _

/-! ## Selections -/

theorem pointsOf_nonneg (h : q.ScoresNonneg) (id : String) : 0 ≤ q.pointsOf id := by
  unfold Question.pointsOf
  cases hchoice : q.choice? id with
  | none => exact zero_le_zero_float
  | some o => exact setOr_nonneg zero_le_zero_float (h o (mem_of_choice? hchoice))

theorem sumOf_nonneg (h : q.ScoresNonneg) (selected : List String) : 0 ≤ q.sumOf selected := by
  have hfold : ∀ (selected : List String) (total : Float), 0 ≤ total →
      0 ≤ selected.foldl (fun total id => total + q.pointsOf id) total := by
    intro selected
    induction selected with
    | nil => exact fun total htotal => htotal
    | cons id rest ih => exact fun total htotal => ih _ (add_nonneg_float htotal (pointsOf_nonneg h id))
  exact hfold selected 0 zero_le_zero_float

theorem pointsOf_le_maxPoints (h : q.ScoresNonneg) (id : String) : q.pointsOf id ≤ q.maxPoints := by
  unfold Question.pointsOf
  cases hchoice : q.choice? id with
  | none => exact le_of_pos (maxPoints_pos q)
  | some o =>
    rw [Option.map_some, Option.getD_some]
    cases hscore : o.score with
    | none => exact le_of_pos (maxPoints_pos q)
    | some x =>
      unfold setOr
      simp only
      split
      · exact le_of_pos (maxPoints_pos q)
      · rename_i hset
        have hworth : o.worth = x := by
          rw [Choice.worth, hscore, setOr]
          exact if_neg hset
        exact hworth ▸ worth_le_maxPoints h (mem_of_choice? hchoice)

/-- Options without points add nothing. -/
theorem rank?_foldl_of_none (h : q.ScoresNonneg) {a : ℕ} (hnone : ∀ id ∈ ids, ¬ 0 < q.pointsOf id)
    (hx : rank? x = some (a : ℤ)) :
    rank? (ids.foldl (fun total id => total + q.pointsOf id) x) = some (a : ℤ) := by
  induction ids generalizing x with
  | nil => exact hx
  | cons id rest ih =>
    obtain ⟨hid, hrest⟩ := List.forall_mem_cons.mp hnone
    exact ih hrest (rank?_add_of_not_pos hx (pointsOf_nonneg h id) hid)

/-- The sum of a selection with one option that has points is what that option is worth. -/
theorem sumOf_le_maxPoints (h : q.ScoresNonneg) (hone : ids.countP (fun id => decide (0 < q.pointsOf id)) ≤ 1) :
    q.sumOf ids ≤ q.maxPoints := by
  have hfold : ∀ (ids : List String) (total : Float), ids.countP (fun id => decide (0 < q.pointsOf id)) ≤ 1 →
      rank? total = some 0 → ids.foldl (fun total id => total + q.pointsOf id) total ≤ q.maxPoints := by
    intro ids
    induction ids with
    | nil =>
      intro total _ htotal
      obtain ⟨b, -, hmax⟩ := pos_iff.mp (maxPoints_pos q)
      exact (le_iff_of_rank htotal hmax).mpr (Int.natCast_nonneg b)
    | cons id rest ih =>
      intro total hone htotal
      rw [List.foldl_cons]
      by_cases hid : 0 < q.pointsOf id
      · -- the rest has no points, so the sum stays with this option
        rw [List.countP_cons_of_pos (by simpa using hid)] at hone
        have hnone : ∀ id ∈ rest, ¬ 0 < q.pointsOf id := by
          have hzero : rest.countP (fun id => decide (0 < q.pointsOf id)) = 0 := by omega
          simpa [List.countP_eq_zero] using hzero
        obtain ⟨a, hpoints⟩ := nonneg_iff.mp (pointsOf_nonneg h id)
        obtain ⟨b, -, hmax⟩ := pos_iff.mp (maxPoints_pos q)
        have hle := (le_iff_of_rank hpoints hmax).mp (pointsOf_le_maxPoints h id)
        have hsum := rank?_foldl_of_none h hnone (rank?_zero_add htotal hpoints)
        exact (le_iff_of_rank hsum hmax).mpr hle
      · rw [List.countP_cons_of_neg (by simpa using hid)] at hone
        exact ih _ hone (rank?_add_of_not_pos htotal (pointsOf_nonneg h id) hid)
  exact hfold ids 0 hone rank?_zero

theorem shareOf_bounds {right selected : List String} (hne : right ≠ []) (hselected : selected.Nodup) :
    0 ≤ shareOf right selected ∧ shareOf right selected ≤ 1 := by
  have hpos : 0 < right.length := List.length_pos_iff.mpr hne
  have hhits : selected.countP (right.contains ·) ≤ right.length := by
    rw [countP_contains hselected]
    exact (Finset.card_le_card Finset.inter_subset_right).trans (List.toFinset_card_le right)
  have hpart : selected.countP (right.contains ·) - (selected.length - selected.countP (right.contains ·)) ≤
      right.length := by omega
  rw [shareOf, greater_zero_divInt? hhits hpos]
  exact ⟨ofRatio_nonneg hpart hpos, ofRatio_le_one hpart hpos⟩

theorem scoreChoices_of_rightAnswers_eq_nil (hright : q.rightAnswers = []) (selected : List String) :
    q.scoreChoices selected = ⟨q.sumOf selected, 0 < q.sumOf selected⟩ := by
  unfold Question.scoreChoices
  simp only [hright]
  rfl

theorem scoreChoices_inRange (h : q.ScoresNonneg) (hq : q.type = .multipleChoice)
    (hpays : q.PaysPoint → 1 ≤ q.maxPoints)
    (hfits : if q.rightAnswers = [] then ids.countP (fun id => decide (0 < q.pointsOf id)) ≤ 1 else ids.Nodup) :
    (q.scoreChoices ids).InRange q := by
  split at hfits
  · rename_i hright
    rw [scoreChoices_of_rightAnswers_eq_nil hright]
    exact ⟨sumOf_nonneg h ids, sumOf_le_maxPoints h hfits⟩
  · rename_i hright
    have hone : 1 ≤ q.maxPoints := hpays (by rw [Question.PaysPoint, hq]; exact hright)
    rw [scoreChoices_of_ne_nil hright]
    split
    · exact ⟨zero_le_one_float, hone⟩
    · obtain ⟨hlow, hhigh⟩ := shareOf_bounds hright hfits
      exact ⟨hlow, le_of_le_of_le hhigh hone⟩

/-! ## Answers -/

/-- The points of an answer that fits are in range. -/
theorem inRange_of_score (h : q.ScoresNonneg) (hpays : q.PaysPoint → 1 ≤ q.maxPoints) (hfits : q.Fits answer)
    (hscore : q.score answer = .ok s) : s.InRange q := by
  have hrating := fun hq => points_of_rating hq hscore
  cases hanswered : answer.isAnswered with
  | false =>
    rw [score_of_not_answered hanswered] at hscore
    exact Except.ok.inj hscore ▸ inRange_nothing q
  | true =>
    unfold Question.score at hscore
    rw [hanswered] at hscore
    cases htype : q.type with
    | singleChoice | trueFalse | imageChoice =>
      simp only [htype] at hscore
      obtain ⟨text, -, rfl⟩ := map_eq_ok.mp hscore
      exact scoreChoice_inRange h (by rw [htype]; rfl) hpays text
    | text =>
      simp only [htype] at hscore
      obtain ⟨text, -, rfl⟩ := map_eq_ok.mp hscore
      exact scoreText_inRange htype hpays text
    | multipleChoice =>
      simp only [htype] at hscore
      obtain ⟨ids, hids, rfl⟩ := map_eq_ok.mp hscore
      simp only [Question.Fits, htype] at hfits
      exact scoreChoices_inRange h htype hpays (hfits ids hids)
    | rating =>
      have hone : 1 ≤ q.maxPoints := hpays (by rw [Question.PaysPoint, htype]; trivial)
      rw [Score.InRange, hrating htype]
      cases hrated : rated? answer with
      | none => exact inRange_nothing q
      | some n =>
        simp only [Question.Fits, htype] at hfits
        obtain ⟨hlow, hhigh⟩ := hfits n hrated
        obtain ⟨hnonneg, hle⟩ := shareOfScale_bounds hlow hhigh
        exact ⟨hnonneg, le_of_le_of_le hle hone⟩

/-- On the scale a share is not too large. -/
theorem not_overflows (hfits : q.Fits answer) : ¬ q.Overflows answer := by
  rintro ⟨hq, negative, digits, hleading, -, hlarge⟩
  have hrated : rated? answer = some (integerOf negative digits) := by rw [rated?, hleading]; rfl
  simp only [Question.Fits, hq] at hfits
  obtain ⟨hlow, hhigh⟩ := hfits _ hrated
  have hvalue : (Text.digitsValue digits : ℤ) = integerOf negative digits := by
    rw [← natAbs_integerOf negative, Int.natAbs_of_nonneg hlow]
  have hpos := scale_pos q
  -- the scale would be more than itself
  have hle : integerLimit * q.scale ≤ q.scale := by omega
  have hlimit : 1 < integerLimit := by decide +kernel
  exact absurd hle (Nat.not_le.mpr ((Nat.lt_mul_iff_one_lt_left hpos).mpr hlimit))

theorem score_inRange (h : q.ScoresNonneg) (hpays : q.PaysPoint → 1 ≤ q.maxPoints) (hfits : q.Fits answer) :
    (∃ s, q.score answer = .ok s ∧ s.InRange q) ∨ ∃ e, q.score answer = .error e ∧ q.Unreadable answer e := by
  cases hscore : q.score answer with
  | ok s => exact Or.inl ⟨s, rfl, inRange_of_score h hpays hfits hscore⟩
  | error e =>
    rcases score_eq_error_iff.mp hscore with hunreadable | ⟨-, hover⟩
    · exact Or.inr ⟨e, rfl, hunreadable⟩
    · exact absurd hover (not_overflows hfits)

theorem points_of_sum (hq : q.type = .multipleChoice) (hright : q.rightAnswers = [])
    (hanswered : answer.isAnswered = true) (hscore : q.score answer = .ok s) :
    ∃ ids, selection answer = .ok ids ∧ s.points = q.sumOf ids := by
  unfold Question.score at hscore
  rw [hanswered, hq] at hscore
  obtain ⟨ids, hids, rfl⟩ := map_eq_ok.mp hscore
  exact ⟨ids, hids, by rw [scoreChoices_of_rightAnswers_eq_nil hright]⟩

/-! ## Totals -/

/-- The question bounds what its answer earns, and counts positively. -/
structure Question.Bounds (q : Question) (answers : Entries Value) : Prop where
  nonneg : q.ScoresNonneg
  point : q.PaysPoint → 1 ≤ q.maxPoints
  fits : q.Fits (answerTo answers q)
  weight : 0 < setOr 1 q.weight

/-- The score does not exceed the greatest score, nor the percentage a hundred. Only where the greatest score is
infinite need there be no score and no percentage. -/
structure Totals.InRange (t : Totals) : Prop where
  not_above : ¬ t.maxScore < t.score
  percentage : ∀ p, t.percentage = .ok p → 0 ≤ p ∧ p ≤ 100
  finite : t.maxScore.isFinite = true → 0 ≤ t.score ∧ t.score ≤ t.maxScore ∧ ∃ p, t.percentage = .ok p

theorem within_of_isFor {question : Question} {answers : Entries Value} {entry : Entry}
    (h : question.Bounds answers) (hentry : entry.IsFor answers question) : Within entry.points entry.maxPoints := by
  obtain ⟨s, hscore, -, hpoints⟩ := hentry.scored
  have hs := inRange_of_score h.nonneg h.point h.fits hscore
  rw [hpoints, hentry.maxPoints_eq]
  exact Within.mul hs.1 hs.2 (maxPoints_pos question) h.weight

/-- Entries within their greatest points add up to a score within the greatest score. -/
theorem within_ofEntries {entries : List Entry} (h : ∀ entry ∈ entries, Within entry.points entry.maxPoints) :
    Within (Totals.ofEntries entries).score (Totals.ofEntries entries).maxScore := by
  have hfold : ∀ (entries : List Entry) (t : Totals), (∀ entry ∈ entries, Within entry.points entry.maxPoints) →
      Within t.score t.maxScore → Within (entries.foldl Totals.add t).score (entries.foldl Totals.add t).maxScore := by
    intro entries
    induction entries with
    | nil => exact fun t _ ht => ht
    | cons entry rest ih =>
      intro t h ht
      exact ih _ (fun e he => h e (.tail _ he)) (ht.add (h entry (.head _)))
  exact hfold entries _ h (within_of_le zero_le_zero_float zero_le_zero_float)

theorem totals_inRange {t : Totals} (h : Within t.score t.maxScore) : t.InRange := by
  refine ⟨h.not_lt, ?_, ?_⟩
  · intro p hp
    unfold Totals.percentage at hp
    split at hp
    · rename_i hpos
      exact (percentage_within h hpos).1 p hp
    · rw [← Except.ok.inj hp]
      decide
  · intro hfinite
    obtain ⟨hlow, hhigh⟩ := h.bounds hfinite
    refine ⟨hlow, hhigh, ?_⟩
    unfold Totals.percentage
    split
    · rename_i hpos
      exact (percentage_within h hpos).2 hfinite
    · exact ⟨0, rfl⟩

/-- Answers that fit earn from 0 to the greatest points of their questions, so that no quiz gives more than its
greatest score or a percentage above a hundred. Of all answers, a rating earns its share of the scale, and a
selection where no answer is right the sum of its options. -/
theorem points_within :
    (∀ (q : Question) (answer : Value), q.ScoresNonneg → (q.PaysPoint → 1 ≤ q.maxPoints) → q.Fits answer →
      (∃ s, q.score answer = .ok s ∧ 0 ≤ s.points ∧ s.points ≤ q.maxPoints) ∨
        ∃ e, q.score answer = .error e ∧ q.Unreadable answer e) ∧
    (∀ (q : Question) (answer : Value) (e : NumericError), q.score answer = .error e ↔
      q.Unreadable answer e ∨ e = .quotientTooLarge ∧ q.Overflows answer) ∧
    (∀ (q : Question) (answer : Value) (s : Score), q.score answer = .ok s →
      (q.type = .rating → s.points = (rated? answer).elim 0 (shareOfScale · q.scale)) ∧
      (q.type = .multipleChoice → q.rightAnswers = [] → answer.isAnswered = true →
        ∃ ids, selection answer = .ok ids ∧ s.points = q.sumOf ids ∧ (q.ScoresNonneg → 0 ≤ s.points))) ∧
    ∀ (q : Quiz) (answers : Entries Value) (breakdown : List Entry),
      (∀ question ∈ q.questions, question.Bounds answers) → q.entries answers = .ok breakdown →
      (Totals.ofEntries breakdown).InRange := by
  refine ⟨fun q answer h hpays hfits => score_inRange h hpays hfits, fun q answer e => score_eq_error_iff,
    fun q answer s hscore => ⟨fun hq => points_of_rating hq hscore, fun hq hright hanswered => ?_⟩,
    fun q answers breakdown hbounds hentries => ?_⟩
  · obtain ⟨ids, hids, hpoints⟩ := points_of_sum hq hright hanswered hscore
    exact ⟨ids, hids, hpoints, fun h => hpoints ▸ sumOf_nonneg h ids⟩
  · refine totals_inRange (within_ofEntries fun entry hentry => ?_)
    obtain ⟨question, hquestion, hfor⟩ := exists_of_mem_mapM hentries entry hentry
    exact within_of_isFor (hbounds question hquestion) (entry_eq_ok_iff.mp hfor)

def view : Question where
  id := "view"
  type := .rating
  question := "How much is the view worth?"

def trips : Question where
  id := "trips"
  type := .multipleChoice
  question := "Where would you go?"
  options := some [{ id := "lake", text := "To the lake", score := some 1 },
    { id := "peak", text := "To the peak", score := some 2 }]
  weight := some 2

/-- A stay in the hills: one option, a sum of options that counts twice, and a rating out of five. -/
def stay : Quiz where
  id := "stay"
  title := "A stay in the hills"
  websiteId := "w"
  questions := [
    { id := "bed", type := .singleChoice, question := "Where would you sleep?",
      options := some [{ id := "tent", text := "In a tent", score := some 1 },
        { id := "hut", text := "In a hut", score := some 3 }] },
    trips,
    view]

def stayed : Entries Value :=
  [("bed", .text "tent"), ("trips", .list [.text "peak"]), ("view", .text "4")]

theorem scoresNonneg_of_all (h : (q.choices.all fun o => o.score.all fun x => decide (0 ≤ x)) = true) :
    q.ScoresNonneg := by
  intro o ho x hx
  have hall := List.all_eq_true.mp h o ho
  rw [hx] at hall
  exact of_decide_eq_true hall

theorem view_scoresNonneg : view.ScoresNonneg := fun _ ho => absurd ho List.not_mem_nil

theorem trips_scoresNonneg : trips.ScoresNonneg := scoresNonneg_of_all (by decide +kernel)

theorem view_fits : view.Fits (.text "4") := by
  intro n hn
  have hrated : rated? (.text "4") = some 4 := by decide +kernel
  obtain rfl : n = 4 := Option.some.inj (hn.symm.trans hrated)
  exact ⟨by decide, by decide +kernel⟩

theorem stay_bounds : ∀ question ∈ stay.questions, question.Bounds stayed := by
  intro question h
  have hone : 1 ≤ question.maxPoints := by
    revert question
    decide +kernel
  simp only [stay, List.mem_cons, List.not_mem_nil, or_false] at h
  refine ⟨?_, fun _ => hone, ?_, ?_⟩
  · rcases h with rfl | rfl | rfl
    · exact scoresNonneg_of_all (by decide +kernel)
    · exact trips_scoresNonneg
    · exact view_scoresNonneg
  · rcases h with rfl | rfl | rfl
    · trivial
    · intro ids hids
      obtain rfl : ["peak"] = ids := Except.ok.inj hids
      decide +kernel
    · exact view_fits
  · rcases h with rfl | rfl | rfl <;> decide +kernel

/-- Four of five earns four fifths, which is in range, as are the totals of the stay. -/
theorem stay_within :
    (∃ s, view.score (.text "4") = .ok s ∧ 0 ≤ s.points ∧ s.points ≤ view.maxPoints ∧
      s.points = shareOfScale 4 view.scale) ∧
    ∃ breakdown, stay.entries stayed = .ok breakdown ∧ (Totals.ofEntries breakdown).InRange := by
  obtain ⟨hanswer, -, hterms, hquiz⟩ := points_within
  constructor
  · have hone : 1 ≤ view.maxPoints := by decide +kernel
    have hscored : (view.score (.text "4")).isOk = true := by decide +kernel
    rcases hanswer view (.text "4") view_scoresNonneg (fun _ => hone) view_fits with ⟨s, hs, hlow, hhigh⟩ | ⟨e, he, -⟩
    · exact ⟨s, hs, hlow, hhigh, (hterms view _ s hs).1 rfl⟩
    · rw [he] at hscored
      cases hscored
  · have hentries : (stay.entries stayed).toOption.any (fun _ => true) = true := by decide +kernel
    obtain ⟨breakdown, hbreakdown, -⟩ := exists_ok_of_any hentries
    exact ⟨breakdown, hbreakdown, hquiz stay stayed breakdown stay_bounds hbreakdown⟩

/-- Seven of five is more than one and minus two of five is negative; both trips earn more than the better one. -/
theorem points_not_within :
    (view.ScoresNonneg ∧ (∃ s, view.score (.text "7") = .ok s ∧ ¬ s.points ≤ view.maxPoints) ∧
      ∃ s, view.score (.text "-2") = .ok s ∧ ¬ 0 ≤ s.points) ∧
    trips.ScoresNonneg ∧
      ∃ s, trips.score (.list [.text "lake", .text "peak"]) = .ok s ∧ ¬ s.points ≤ trips.maxPoints := by
  have hseven : (view.score (.text "7")).toOption.any (fun s => !decide (s.points ≤ view.maxPoints)) = true := by
    decide +kernel
  have hnegative : (view.score (.text "-2")).toOption.any (fun s => !decide (0 ≤ s.points)) = true := by
    decide +kernel
  have hboth : (trips.score (.list [.text "lake", .text "peak"])).toOption.any
      (fun s => !decide (s.points ≤ trips.maxPoints)) = true := by
    decide +kernel
  obtain ⟨seven, hseven, habove⟩ := exists_ok_of_any hseven
  obtain ⟨negative, hnegative, hbelow⟩ := exists_ok_of_any hnegative
  obtain ⟨both, hboth, hsum⟩ := exists_ok_of_any hboth
  rw [Bool.not_eq_true', decide_eq_false_iff_not] at habove hbelow hsum
  exact ⟨⟨view_scoresNonneg, ⟨seven, hseven, habove⟩, negative, hnegative, hbelow⟩,
    trips_scoresNonneg, both, hboth, hsum⟩

end Quiz

end Formwork
