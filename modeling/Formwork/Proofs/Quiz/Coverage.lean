/-
  Formwork.Proofs.Quiz.Coverage: a quiz without gaps has a result for every integer between its ends.

  The ranges of the results are looked at in the order of their lower ends (`rising_ranges`), and
  none may end more than 1 below the start of the next (`isChain_of_not_gapBetween`). So whoever goes
  through them from the first and finds that an integer lies above each range so far, finds the next
  one starting at it or below, until one ends at it or above (`exists_within`). Ranges may overlap,
  lie within one another or be empty: only neighbours are compared.

  - `contains_of_not_hasGaps`: every integer from the least lower end to the greatest upper one lies
    in the range of a result, so that no percentage between the two is left without one.
-/

import Formwork.Proofs.Insertion
import Formwork.Proofs.Number.Whole
import Formwork.Proofs.Quiz.Breakdown
import Formwork.Quiz.Check

namespace Formwork

open Binary64

def Number.whole? : Number → Option ℤ
  | int n => some n
  | float x => toInt? x

variable {x y : Number} {m n : ℤ}

/-- Numbers that are integers compare as these do. -/
theorem Number.compare_of_whole? (hx : x.whole? = some m) (hy : y.whole? = some n) :
    x.compare y = some (Ord.compare m n) := by
  cases x with
  | int i =>
    obtain rfl : i = m := Option.some.inj hx
    cases y with
    | int j =>
      obtain rfl : j = n := Option.some.inj hy
      rfl
    | float y => exact compareInt_of_toInt? hy i
  | float x =>
    cases y with
    | int j =>
      obtain rfl : j = n := Option.some.inj hy
      rw [Number.compare, compareInt_of_toInt? hx, Option.map_some, Int.compare_swap]
    | float y =>
      rw [Number.compare]
      simp only [lt_iff_of_toInt? hx hy, lt_iff_of_toInt? hy hx, beq_iff_of_toInt? hx hy]
      rcases lt_trichotomy m n with h | h | h
      · rw [if_pos h, compare_lt_iff_lt.mpr h]
      · rw [if_neg (by omega), if_neg (by omega), if_pos h, compare_eq_iff_eq.mpr h]
      · rw [if_neg (by omega), if_pos h, compare_gt_iff_gt.mpr h]

theorem Number.le_iff_of_whole? (hx : x.whole? = some m) (hy : y.whole? = some n) : x.le y = true ↔ m ≤ n := by
  rw [Number.le, Number.compare_of_whole? hx hy]
  simp [compare_lt_iff_lt, le_iff_lt_or_eq]

namespace Quiz

variable {q : Quiz} {r : Outcome}

/-- The ends of a range are these integers, small enough for floats to calculate with. -/
structure Outcome.Spans (r : Outcome) (low high : ℤ) : Prop where
  low_eq : toInt? r.minScore = some low
  high_eq : toInt? r.maxScore = some high
  low_short : low.natAbs < 2 ^ 53
  high_short : high.natAbs < 2 ^ 53

theorem Outcome.Spans.contains_iff {low high : ℤ} (h : r.Spans low high) (hx : x.whole? = some n) :
    r.contains x = true ↔ low ≤ n ∧ n ≤ high := by
  rw [Outcome.contains, Bool.and_eq_true, Number.le_iff_of_whole? (x := .float r.minScore) h.low_eq hx,
    Number.le_iff_of_whole? (y := .float r.maxScore) hx h.high_eq]

/-! ## Neighbours -/

def lowEnd (p : Float × Float) : ℤ := (toInt? p.1).getD 0

def highEnd (p : Float × Float) : ℤ := (toInt? p.2).getD 0

/-- The ends of a range are integers, the lower one small enough to take 1 from it. -/
structure Bounded (p : Float × Float) : Prop where
  low_eq : toInt? p.1 = some (lowEnd p)
  high_eq : toInt? p.2 = some (highEnd p)
  low_short : (lowEnd p).natAbs < 2 ^ 53

theorem Outcome.Spans.lowEnd_eq {low high : ℤ} (h : r.Spans low high) : lowEnd (r.minScore, r.maxScore) = low := by
  rw [lowEnd, h.low_eq, Option.getD_some]

theorem Outcome.Spans.highEnd_eq {low high : ℤ} (h : r.Spans low high) : highEnd (r.minScore, r.maxScore) = high := by
  rw [highEnd, h.high_eq, Option.getD_some]

theorem Outcome.Spans.bounded {low high : ℤ} (h : r.Spans low high) : Bounded (r.minScore, r.maxScore) :=
  ⟨by rw [h.lowEnd_eq, h.low_eq], by rw [h.highEnd_eq, h.high_eq], by rw [h.lowEnd_eq]; exact h.low_short⟩

/-- Where no gap is found, each range starts at most 1 above the end of the one before it. -/
theorem isChain_of_not_gapBetween {ranges : List (Float × Float)} (hranges : ∀ p ∈ ranges, Bounded p)
    (h : gapBetween ranges = false) : ranges.IsChain fun a b => lowEnd b ≤ highEnd a + 1 := by
  induction ranges with
  | nil => exact .nil
  | cons a rest ih =>
    cases rest with
    | nil => exact .singleton a
    | cons b rest =>
      obtain ⟨hstep, hrest⟩ := Bool.or_eq_false_iff.mp h
      have ha := hranges a (.head _)
      have hb := hranges b (.tail _ (.head _))
      refine .cons_cons ?_ (ih (fun p hp => hranges p (.tail _ hp)) hrest)
      have hnot := of_decide_eq_false hstep
      rw [lt_iff_of_toInt? ha.high_eq (toInt?_sub_one hb.low_eq hb.low_short)] at hnot
      omega

theorem comparesKeys_lowEnd : Insertion.ComparesKeys (fun a b => decide (a.1 < b.1)) lowEnd Bounded := by
  intro a b ha hb
  rw [decide_eq_true_iff, lt_iff_of_toInt? ha.low_eq hb.low_eq]

/-- From a start at an integer or below, some range ends at it or above, and the first that does holds it. -/
theorem exists_within {α : Type} {low high : α → ℤ} {first : α} {rest : List α}
    (hchain : (first :: rest).IsChain fun a b => low b ≤ high a + 1) (hlow : low first ≤ n)
    (hhigh : ∃ p ∈ first :: rest, n ≤ high p) : ∃ p ∈ first :: rest, low p ≤ n ∧ n ≤ high p := by
  induction rest generalizing first with
  | nil =>
    obtain ⟨p, hp, hn⟩ := hhigh
    obtain rfl := List.mem_singleton.mp hp
    exact ⟨p, hp, hlow, hn⟩
  | cons next rest ih =>
    by_cases hfirst : n ≤ high first
    · exact ⟨first, List.mem_cons_self, hlow, hfirst⟩
    · -- the integer lies above the first range, so the next one starts at it or below
      obtain ⟨hstep, hchain⟩ := List.isChain_cons_cons.mp hchain
      obtain ⟨p, hp, hn⟩ := hhigh
      have hp' : p ∈ next :: rest := (List.mem_cons.mp hp).resolve_left fun heq => hfirst (heq ▸ hn)
      obtain ⟨o, ho, hin⟩ := ih hchain (by omega) ⟨p, hp', hn⟩
      exact ⟨o, List.mem_cons_of_mem _ ho, hin⟩

theorem mem_ranges {p : Float × Float} : p ∈ q.ranges ↔ ∃ r ∈ q.results, (r.minScore, r.maxScore) = p := by
  rw [Quiz.ranges, (Insertion.sort_perm _ _).mem_iff, List.mem_map]

section Spans

variable {low high : Outcome → ℤ} (hspans : ∀ r ∈ q.results, r.Spans (low r) (high r)) (hgaps : q.hasGaps = false)

include hspans

theorem bounded_ranges : ∀ p ∈ q.ranges, Bounded p := by
  intro p hp
  obtain ⟨r, hr, rfl⟩ := mem_ranges.mp hp
  exact (hspans r hr).bounded

/-- The ranges are looked at in the order of their lower ends. -/
theorem rising_ranges : Insertion.Rising lowEnd q.ranges :=
  Insertion.sort_rising comparesKeys_lowEnd fun p hp =>
    bounded_ranges hspans p ((Insertion.sort_perm _ _).mem_iff.mpr hp)

include hgaps

/-- An integer between the ends of the ranges lies in one of them. -/
theorem exists_range (hlow : ∃ r ∈ q.results, low r ≤ n) (hhigh : ∃ r ∈ q.results, n ≤ high r) :
    ∃ r ∈ q.results, low r ≤ n ∧ n ≤ high r := by
  obtain ⟨-, hgap⟩ := Bool.or_eq_false_iff.mp hgaps
  have hrising := rising_ranges hspans
  have hchain := isChain_of_not_gapBetween (bounded_ranges hspans) hgap
  obtain ⟨r, hr, hrn⟩ := hlow
  obtain ⟨s, hs, hns⟩ := hhigh
  have hmem : (r.minScore, r.maxScore) ∈ q.ranges := mem_ranges.mpr ⟨r, hr, rfl⟩
  have hend : ∃ p ∈ q.ranges, n ≤ highEnd p :=
    ⟨_, mem_ranges.mpr ⟨s, hs, rfl⟩, by rwa [(hspans s hs).highEnd_eq]⟩
  rw [← (hspans r hr).lowEnd_eq] at hrn
  generalize (r.minScore, r.maxScore) = start at hmem hrn
  obtain ⟨p, hp, hin⟩ : ∃ p ∈ q.ranges, lowEnd p ≤ n ∧ n ≤ highEnd p := by
    cases hranges : q.ranges with
    | nil =>
      rw [hranges] at hmem
      cases hmem
    | cons first rest =>
      rw [hranges] at hrising hchain hmem hend
      refine exists_within hchain ?_ hend
      -- the first range starts lowest
      rcases List.mem_cons.mp hmem with rfl | hmem
      · exact hrn
      · exact (List.rel_of_pairwise_cons hrising hmem).trans hrn
  obtain ⟨o, ho, rfl⟩ := mem_ranges.mp hp
  rw [(hspans o ho).lowEnd_eq, (hspans o ho).highEnd_eq] at hin
  exact ⟨o, ho, hin⟩

theorem exists_contains (hx : x.whole? = some n) (hlow : ∃ r ∈ q.results, low r ≤ n)
    (hhigh : ∃ r ∈ q.results, n ≤ high r) : ∃ r ∈ q.results, r.contains x = true := by
  obtain ⟨r, hr, hin⟩ := exists_range hspans hgaps hlow hhigh
  exact ⟨r, hr, ((hspans r hr).contains_iff hx).mpr hin⟩

/-- A number that is an integer and in no range lies below all of them or above all. -/
theorem outside_of_not_contains (hx : x.whole? = some n) (hnone : ∀ r ∈ q.results, r.contains x = false) :
    (∀ r ∈ q.results, n < low r) ∨ ∀ r ∈ q.results, high r < n := by
  by_contra hboth
  simp only [not_or, not_forall, not_lt, exists_prop] at hboth
  obtain ⟨r, hr, hcontains⟩ := exists_contains hspans hgaps hx hboth.1 hboth.2
  rw [hnone r hr] at hcontains
  cases hcontains

end Spans

/-- A quiz without gaps has a result for every integer from the least lower end of its ranges to the greatest
upper one; so under percentage scoring only percentages outside these ends are left without a result. -/
theorem contains_of_not_hasGaps (q : Quiz) (low high : Outcome → ℤ)
    (hspans : ∀ r ∈ q.results, r.Spans (low r) (high r)) (hgaps : q.hasGaps = false) :
    (∀ x n, Number.whole? x = some n → (∃ r ∈ q.results, low r ≤ n) → (∃ r ∈ q.results, n ≤ high r) →
      ∃ r ∈ q.results, r.contains x = true) ∧
    (q.scoring.any (·.type == .percentage) = true → ∀ answers score,
      q.evaluate answers = .error (.unmatched score) →
      ∃ breakdown percentage, q.entries answers = .ok breakdown ∧
        (Totals.ofEntries breakdown).percentage = .ok percentage ∧
        ((∀ r ∈ q.results, percentage < low r) ∨ ∀ r ∈ q.results, high r < percentage)) := by
  refine ⟨fun x n hx hlow hhigh => exists_contains hspans hgaps hx hlow hhigh, fun hscoring answers score h => ?_⟩
  obtain ⟨breakdown, percentage, hentries, hpercentage, hnone⟩ := of_evaluate_eq_unmatched h
  refine ⟨breakdown, percentage, hentries, hpercentage, ?_⟩
  rw [Quiz.compared, if_pos hscoring] at hnone
  exact outside_of_not_contains hspans hgaps rfl hnone

/-- Grades by percentage; their ranges overlap, and one of them is empty. -/
def grades : Quiz where
  id := "grades"
  title := "Grades"
  websiteId := "w"
  questions := [{ id := "name", type := .text, question := "What is your name?" }]
  results := [{ id := "fair", minScore := 30, maxScore := 50 }, { id := "never", minScore := 60, maxScore := 59 },
    { id := "poor", minScore := 0, maxScore := 40 }, { id := "odd", minScore := 51, maxScore := 59 },
    { id := "good", minScore := 60, maxScore := 90 }]
  scoring := some { type := .percentage }

/-- Sixty percent is a grade; a hundred is above all of them. -/
theorem grades_contains :
    grades.hasGaps = false ∧ (∃ r ∈ grades.results, r.contains (.int 60) = true) ∧
    ∃ score, grades.evaluate [("name", .text "Ann")] = .error (.unmatched score) ∧
      ∃ breakdown percentage, grades.entries [("name", .text "Ann")] = .ok breakdown ∧
        (Totals.ofEntries breakdown).percentage = .ok percentage ∧
        ((∀ r ∈ grades.results, percentage < (toInt? r.minScore).getD 0) ∨
          ∀ r ∈ grades.results, (toInt? r.maxScore).getD 0 < percentage) := by
  have hspans : ∀ r ∈ grades.results, r.Spans ((toInt? r.minScore).getD 0) ((toInt? r.maxScore).getD 0) := by
    have hends : ∀ r ∈ grades.results, toInt? r.minScore = some ((toInt? r.minScore).getD 0) ∧
        toInt? r.maxScore = some ((toInt? r.maxScore).getD 0) ∧ ((toInt? r.minScore).getD 0).natAbs < 2 ^ 53 ∧
        ((toInt? r.maxScore).getD 0).natAbs < 2 ^ 53 := by decide +kernel
    intro r hr
    obtain ⟨hlow, hhigh, hlowshort, hhighshort⟩ := hends r hr
    exact ⟨hlow, hhigh, hlowshort, hhighshort⟩
  have hgaps : grades.hasGaps = false := by decide +kernel
  have hunmatched : grades.evaluate [("name", .text "Ann")] = .error (.unmatched 100) := by
    have hfailure : (grades.evaluate [("name", .text "Ann")]).map (fun _ => ()) = .error (.unmatched 100) := by
      decide +kernel
    exact map_eq_error.mp hfailure
  obtain ⟨hcontains, houtside⟩ := contains_of_not_hasGaps grades _ _ hspans hgaps
  refine ⟨hgaps, hcontains (.int 60) 60 rfl ?_ ?_, 100, hunmatched, houtside rfl _ _ hunmatched⟩
  · decide +kernel
  · decide +kernel

end Quiz

end Formwork
