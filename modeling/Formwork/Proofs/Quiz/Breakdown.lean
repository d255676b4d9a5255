/-
  Formwork.Proofs.Quiz.Breakdown: the breakdown of an evaluation accounts for its totals and its result.

  The entries of the breakdown stand for the questions one by one, and score, greatest score and
  number of right answers are folds over them (`ofEntries_eq`). The result is the first whose range
  contains the number that counts, or the first of all where none does (`outcome?_eq_some_iff`).

  - `process_accounts`: a response is evaluated to what its breakdown accounts for, and where its
    answers can be scored it is refused only if no range contains the number that counts and no
    result may stand in.
-/

import Formwork.Proofs.Bind
import Formwork.Quiz.Result

namespace Formwork

namespace Quiz

variable {q : Quiz} {question : Question} {answers : Entries Value} {v : Evaluation} {e : Entry}
  {x : Number} {o : Outcome} {percentage : Int} {response : Value} {now : Timestamp} {notes : Entries Value}

/-! ## What accounts for an evaluation -/

def answerTo (answers : Entries Value) (question : Question) : Value := (answers.get? question.id).getD .null

/-- An entry is what the answer to its question comes to, times the weight of the question. -/
structure Entry.IsFor (answers : Entries Value) (question : Question) (e : Entry) : Prop where
  question_eq : e.question = question
  answer_eq : e.answer = if (answerTo answers question).isAnswered then answerTo answers question else .text ""
  scored : ∃ s, question.score (answerTo answers question) = .ok s ∧ e.isCorrect = s.isCorrect ∧
    e.points = s.points * setOr 1 question.weight
  maxPoints_eq : e.maxPoints = question.maxPoints * setOr 1 question.weight

/-- The result that a number leads to: the first whose range contains it, or the first of all. -/
inductive Chosen (q : Quiz) (x : Number) (o : Outcome) : Prop
  | within (before after : List Outcome) (results_eq : q.results = before ++ o :: after) (contains : o.contains x = true)
      (none_before : ∀ r ∈ before, r.contains x = false)
  | fallback (none_contains : ∀ r ∈ q.results, r.contains x = false)
      (allowed : q.settings.fallbackToFirstResult = true) (first : q.results.head? = some o)

structure Evaluation.Accounts (q : Quiz) (answers : Entries Value) (v : Evaluation) : Prop where
  entries : List.Forall₂ (Entry.IsFor answers) q.questions v.breakdown
  score : v.totals.score = (v.breakdown.map (·.points)).foldl (· + ·) 0
  maxScore : v.totals.maxScore = (v.breakdown.map (·.maxPoints)).foldl (· + ·) 0
  correct : v.totals.correct = v.breakdown.countP (·.isCorrect)
  percentage : v.totals.percentage = .ok v.percentage
  result : Chosen q (q.compared v.totals.score v.percentage) v.result

/-! ## Entries and totals -/

theorem entry_eq_ok_iff : question.entry answers = .ok e ↔ e.IsFor answers question := by
  unfold Question.entry
  simp only
  rw [map_eq_ok]
  constructor
  · rintro ⟨s, hs, rfl⟩
    exact ⟨rfl, rfl, ⟨s, hs, rfl, rfl⟩, rfl⟩
  · rintro ⟨hquestion, hanswer, ⟨s, hs, hcorrect, hpoints⟩, hmax⟩
    refine ⟨s, hs, ?_⟩
    cases e
    simp only at hquestion hanswer hcorrect hpoints hmax
    rw [hquestion, hanswer, hcorrect, hpoints, hmax]
    rfl

theorem entries_eq_ok_iff {breakdown : List Entry} :
    q.entries answers = .ok breakdown ↔ List.Forall₂ (Entry.IsFor answers) q.questions breakdown := by
  rw [Quiz.entries, mapM_eq_ok_iff]
  simp only [entry_eq_ok_iff]

theorem foldl_add_eq (entries : List Entry) (t : Totals) : entries.foldl Totals.add t =
    ⟨(entries.map (·.points)).foldl (· + ·) t.score, (entries.map (·.maxPoints)).foldl (· + ·) t.maxScore,
      t.correct + entries.countP (·.isCorrect)⟩ := by
  induction entries generalizing t with
  | nil => rfl
  | cons e entries ih =>
    rw [List.foldl_cons, ih, List.countP_cons]
    simp only [Totals.add, List.map_cons, List.foldl_cons]
    congr 1
    split <;> omega

/-- The totals are folds over the entries. -/
theorem ofEntries_eq (entries : List Entry) : Totals.ofEntries entries =
    ⟨(entries.map (·.points)).foldl (· + ·) 0, (entries.map (·.maxPoints)).foldl (· + ·) 0,
      entries.countP (·.isCorrect)⟩ := by
  rw [Totals.ofEntries, foldl_add_eq, Nat.zero_add]

/-! ## The result -/

theorem outcome?_eq_some_iff : q.outcome? x = some o ↔ Chosen q x o := by
  unfold Quiz.outcome?
  rw [Option.or_eq_some_iff]
  constructor
  · rintro (h | ⟨hnone, h⟩)
    · obtain ⟨hcontains, before, after, hsplit, hbefore⟩ := List.find?_eq_some_iff_append.mp h
      exact .within before after hsplit hcontains fun r hr => by simpa using hbefore r hr
    · split at h
      · rename_i hallowed
        exact .fallback (fun r hr => by simpa using List.find?_eq_none.mp hnone r hr) hallowed h
      · cases h
  · rintro (⟨before, after, hsplit, hcontains, hbefore⟩ | ⟨hnone, hallowed, hfirst⟩)
    · exact .inl (List.find?_eq_some_iff_append.mpr ⟨hcontains, before, after, hsplit, fun r hr => by
        simp [hbefore r hr]⟩)
    · refine .inr ⟨List.find?_eq_none.mpr fun r hr => by simp [hnone r hr], ?_⟩
      rw [if_pos hallowed, hfirst]

theorem outcome?_eq_none_iff : q.outcome? x = none ↔
    (∀ r ∈ q.results, r.contains x = false) ∧ (q.settings.fallbackToFirstResult = false ∨ q.results = []) := by
  unfold Quiz.outcome?
  rw [Option.or_eq_none_iff, List.find?_eq_none]
  refine and_congr (by simp) ?_
  cases q.settings.fallbackToFirstResult <;> simp [List.head?_eq_none_iff]

/-! ## Evaluations -/

/-- What an evaluation comes to once the answers are scored. -/
theorem evaluate_eq {breakdown : List Entry} (hentries : q.entries answers = .ok breakdown)
    (hpercentage : (Totals.ofEntries breakdown).percentage = .ok percentage) : q.evaluate answers =
      match q.outcome? (q.compared (Totals.ofEntries breakdown).score percentage) with
      | some result => .ok ⟨Totals.ofEntries breakdown, percentage, result, breakdown⟩
      | none => (q.compared (Totals.ofEntries breakdown).score percentage).toFloat.mapError .numeric >>= fun y =>
        .error (.unmatched y) := by
  unfold Quiz.evaluate
  rw [hentries, Except.mapError, ok_bind]
  simp only
  rw [hpercentage, Except.mapError, ok_bind]
  rfl

theorem evaluate_eq_ok_iff : q.evaluate answers = .ok v ↔ v.Accounts q answers := by
  constructor
  · intro h
    obtain ⟨breakdown, hentries, h'⟩ := bind_eq_ok.mp h
    rw [mapError_eq_ok] at hentries
    obtain ⟨percentage, hpercentage, h'⟩ := bind_eq_ok.mp h'
    rw [mapError_eq_ok] at hpercentage
    rw [evaluate_eq hentries hpercentage] at h
    split at h
    · rename_i result hresult
      obtain rfl := Except.ok.inj h
      have htotals := ofEntries_eq breakdown
      exact ⟨entries_eq_ok_iff.mp hentries, congrArg Totals.score htotals, congrArg Totals.maxScore htotals,
        congrArg Totals.correct htotals, hpercentage, outcome?_eq_some_iff.mp hresult⟩
    · obtain ⟨y, -, h⟩ := bind_eq_ok.mp h
      cases h
  · rintro ⟨hentries, hscore, hmax, hcorrect, hpercentage, hresult⟩
    obtain ⟨totals, percentage, result, breakdown⟩ := v
    have htotals : totals = Totals.ofEntries breakdown := by
      rw [ofEntries_eq]
      cases totals
      simp only at hscore hmax hcorrect
      rw [hscore, hmax, hcorrect]
    subst htotals
    rw [evaluate_eq (entries_eq_ok_iff.mpr hentries) hpercentage, outcome?_eq_some_iff.mpr hresult]

/-- Where the answers can be scored, an evaluation fails for want of a result only. -/
theorem exists_evaluate_eq_error_iff {breakdown : List Entry} (hentries : q.entries answers = .ok breakdown)
    (hpercentage : (Totals.ofEntries breakdown).percentage = .ok percentage) :
    (∃ failure, q.evaluate answers = .error failure) ↔
      q.outcome? (q.compared (Totals.ofEntries breakdown).score percentage) = none := by
  rw [evaluate_eq hentries hpercentage]
  cases q.outcome? (q.compared (Totals.ofEntries breakdown).score percentage) with
  | some result => simp
  | none =>
    refine iff_of_true ?_ rfl
    cases (q.compared (Totals.ofEntries breakdown).score percentage).toFloat with
    | error e => exact ⟨_, rfl⟩
    | ok y => exact ⟨_, rfl⟩

/-- An evaluation that finds no result has scored the answers, and no range contains the number that counts. -/
theorem of_evaluate_eq_unmatched {score : Float} (h : q.evaluate answers = .error (.unmatched score)) :
    ∃ breakdown percentage, q.entries answers = .ok breakdown ∧
      (Totals.ofEntries breakdown).percentage = .ok percentage ∧
      ∀ o ∈ q.results, o.contains (q.compared (Totals.ofEntries breakdown).score percentage) = false := by
  rcases bind_eq_error.mp h with h' | ⟨breakdown, hentries, h'⟩
  · obtain ⟨_, -, h'⟩ := mapError_eq_error.mp h'
    cases h'
  rcases bind_eq_error.mp h' with h' | ⟨percentage, hpercentage, -⟩
  · obtain ⟨_, -, h'⟩ := mapError_eq_error.mp h'
    cases h'
  rw [mapError_eq_ok] at hentries hpercentage
  have hnone := (exists_evaluate_eq_error_iff hentries hpercentage).mp ⟨_, h⟩
  exact ⟨breakdown, percentage, hentries, hpercentage, (outcome?_eq_none_iff.mp hnone).1⟩

theorem processAnswers_eq_done_iff : q.processAnswers now answers = .done v notes ↔
    v.Accounts q answers ∧ notes = [("completedAt", .text now.text), ("resultId", .text v.result.id)] := by
  rw [← evaluate_eq_ok_iff]
  unfold Quiz.processAnswers
  cases q.evaluate answers with
  | error e => simp
  | ok data =>
    simp only [Processed.done.injEq, Except.ok.injEq]
    constructor
    · rintro ⟨rfl, rfl⟩
      exact ⟨rfl, rfl⟩
    · rintro ⟨rfl, rfl⟩
      exact ⟨rfl, rfl⟩

theorem processAnswers_eq_refused_iff :
    (∃ message defects, q.processAnswers now answers = .refused message defects) ↔
      ∃ failure, q.evaluate answers = .error failure := by
  unfold Quiz.processAnswers
  cases q.evaluate answers <;> simp

/-- A response is evaluated to what its breakdown accounts for. Where its answers can be scored it is refused
just when no range contains the number that counts and no result may stand in. -/
theorem process_accounts (q : Quiz) (now : Timestamp) (response : Value) :
    (∀ v notes, q.process now response = .done v notes ↔
      ∃ r, readResponse Response.schema response = .ok r ∧ v.Accounts q r.answers ∧
        notes = [("completedAt", .text now.text), ("resultId", .text v.result.id)]) ∧
    ∀ r breakdown percentage, readResponse Response.schema response = .ok r → q.entries r.answers = .ok breakdown →
      (Totals.ofEntries breakdown).percentage = .ok percentage →
      ((∃ message defects, q.process now response = .refused message defects) ↔
        (∀ o ∈ q.results, o.contains (q.compared (Totals.ofEntries breakdown).score percentage) = false) ∧
          (q.settings.fallbackToFirstResult = false ∨ q.results = [])) := by
  unfold Quiz.process
  constructor
  · intro v notes
    cases readResponse Response.schema response with
    | error issues => simp [Processed.unreadable]
    | ok r =>
      simp only [processAnswers_eq_done_iff, Except.ok.injEq, exists_eq_left']
  · intro r breakdown percentage hresponse hentries hpercentage
    rw [hresponse]
    simp only
    rw [processAnswers_eq_refused_iff, exists_evaluate_eq_error_iff hentries hpercentage, outcome?_eq_none_iff]

def capitals : Quiz where
  id := "capitals"
  title := "Capitals"
  websiteId := "w"
  questions := [
    { id := "france", type := .text, question := "What is the capital of France?",
      correctAnswer := some (.one "Paris"), weight := some 2 },
    { id := "visits", type := .rating, question := "How well do you know it?" }]
  results := [{ id := "low", minScore := 0, maxScore := 1 }, { id := "high", minScore := 2, maxScore := 3 }]

def noon : Timestamp := ⟨⟨2024, 5, 1⟩, 12, 0, 0, 0, none⟩

def bothAnswered : Value := .map [(.text "answers", .map [(.text "france", .text "paris"), (.text "visits", .text "3")])]

/-- One question is answered, by a number above its scale. -/
def oneAnswered : Value := .map [(.text "answers", .map [(.text "visits", .text "9")])]

/-- Both answers lead to the high result; a score between the ranges leads to none. -/
theorem capitals_accounts :
    (∃ r v notes, readResponse Response.schema bothAnswered = .ok r ∧
      capitals.process noon bothAnswered = .done v notes ∧ v.Accounts capitals r.answers ∧ v.totals.correct = 2 ∧
      v.result.id = "high") ∧
    ∃ message defects, capitals.process noon oneAnswered = .refused message defects := by
  constructor
  · have heval : ((capitals.evaluate [("france", .text "paris"), ("visits", .text "3")]).toOption.map
        fun v => (v.totals.correct, v.result.id)) = some (2, "high") := by decide +kernel
    obtain ⟨v, hv, hresult⟩ := Option.map_eq_some_iff.mp heval
    have hdone : capitals.process noon bothAnswered =
        .done v [("completedAt", .text noon.text), ("resultId", .text v.result.id)] := by
      change capitals.processAnswers noon [("france", .text "paris"), ("visits", .text "3")] = _
      rw [Quiz.processAnswers, eq_ok_of_toOption hv]
    obtain ⟨r, hr, haccounts, -⟩ := ((process_accounts capitals noon bothAnswered).1 _ _).mp hdone
    exact ⟨r, v, _, hr, hdone, haccounts, congrArg Prod.fst hresult, congrArg Prod.snd hresult⟩
  · have hentries : ((capitals.entries [("visits", .text "9")]).toOption.map fun breakdown =>
        ((Totals.ofEntries breakdown).percentage.toOption,
          capitals.results.all fun o => !o.contains (.float (Totals.ofEntries breakdown).score))) =
        some (some 60, true) := by decide +kernel
    obtain ⟨breakdown, hbreakdown, heq⟩ := Option.map_eq_some_iff.mp hentries
    obtain ⟨hpercentage, hnone⟩ := Prod.mk.inj heq
    refine ((process_accounts capitals noon oneAnswered).2 _ breakdown 60 rfl (eq_ok_of_toOption hbreakdown)
      (eq_ok_of_toOption hpercentage)).mpr ⟨fun o ho => ?_, .inl rfl⟩
    have hbetween : o.contains (.float (Totals.ofEntries breakdown).score) = false := by
      simpa using List.all_eq_true.mp hnone o ho
    exact hbetween

end Quiz

end Formwork
