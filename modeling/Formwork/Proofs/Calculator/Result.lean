/-
  Formwork.Proofs.Calculator.Result: what the result of a calculator accounts for.

  Results are kept by id. Nothing keeps two outputs from having one id, two labels of the breakdown from
  coming to one id, or an id from being empty. Of several results with one id only the last is kept, and an
  output with an empty id gives no total.

  - `lastOfEach_shownBy`: the results of several items are those of the last one with each id.
  - `oneForEach_shownBy_iff`: there is one for each item exactly when no id comes twice.
  - `process_accounts_iff`: exactly when nothing is lost or mixed up in the result of a response.
-/

import Mathlib.Data.List.Nodup
import Formwork.Proofs.Document.Models
import Formwork.Proofs.Entries
import Formwork.Calculator.Result

namespace Formwork

namespace Calculator

variable {α : Type} {c : Calculator} {output : Output} {item : BreakdownItem} {values : Entries Value}
  {numbers : Entries Float} {s : Shown} {shown : Entries Shown} {data : Evaluation}

/-! ## What accounts for a result -/

structure Shown.IsOf (numbers : Entries Float) (formula : String) (format : Float → Except NumericError String)
    (s : Shown) : Prop where
  value : evaluateFormula formula numbers = .ok s.value
  text : format s.value = .ok s.text

structure Shown.IsFor (numbers : Entries Float) (output : Output) (s : Shown) : Prop extends
    s.IsOf numbers output.formula
      (Amount.formatBetween output.format.style output.decimals output.textBefore output.textAfter) where
  label : s.label = output.label
  description : s.description = output.description
  highlight : s.highlight = output.highlight

/-- What is shown for an item of the breakdown, which is never highlighted. -/
structure Shown.IsForItem (numbers : Entries Float) (item : BreakdownItem) (s : Shown) : Prop extends
    s.IsOf numbers item.formula (Amount.formatBetween item.format.style none none none) where
  label : s.label = item.label
  description : s.description = item.description
  highlight : s.highlight = false

def BreakdownItem.id (item : BreakdownItem) : String := idOf item.label

def OneForEach (id : α → String) (IsFor : α → Shown → Prop) (items : List α) (shown : Entries Shown) : Prop :=
  List.Forall₂ (fun item entry => entry.1 = id item ∧ IsFor item entry.2) items shown

/-- Entries by id, each where the id first came and for the last item that has it. -/
structure LastOfEach (id : α → String) (IsFor : α → Shown → Prop) (items : List α) (shown : Entries Shown) : Prop where
  names : shown.map (·.1) = (items.map id).eraseDups
  last : ∀ name s, shown.get? name = some s ↔ ∃ item, items.reverse.find? (id · == name) = some item ∧ IsFor item s

def Evaluation.BreaksDown (c : Calculator) (Kept : Entries Shown → Prop) (data : Evaluation) : Prop :=
  match data.breakdown with
  | none => c.hasBreakdown = false
  | some shown => c.hasBreakdown = true ∧ Kept shown

/-- Nothing is lost or mixed up: there is an entry for each output and each item, and summary and total are
those of the primary output. -/
structure Evaluation.Accounts (c : Calculator) (numbers : Entries Float) (data : Evaluation) : Prop where
  outputs : OneForEach Output.id (Shown.IsFor numbers) c.outputs data.outputs
  breakdown : data.BreaksDown c (OneForEach BreakdownItem.id (Shown.IsForItem numbers) (c.breakdown.getD []))
  primary : ∀ p, c.primary? = some p →
    ∃ s, Shown.IsFor numbers p s ∧ data.summary = s!"{s.label}: {s.text}" ∧ data.total = some s.value

/-- What is kept in any case: what is shown for the last output and the last item of each id, also for summary
and total, and no total where the id of the primary output is empty. -/
structure Evaluation.Keeps (c : Calculator) (numbers : Entries Float) (data : Evaluation) : Prop where
  outputs : LastOfEach Output.id (Shown.IsFor numbers) c.outputs data.outputs
  breakdown : data.BreaksDown c (LastOfEach BreakdownItem.id (Shown.IsForItem numbers) (c.breakdown.getD []))
  primary : ∀ p, c.primary? = some p → ∃ output s, c.outputs.reverse.find? (·.id == p.id) = some output ∧
    Shown.IsFor numbers output s ∧ data.summary = s!"{s.label}: {s.text}" ∧
    data.total = if p.id = "" then none else some s.value

/-- No id comes twice among the outputs or in a breakdown that is shown, and that of the primary output is not
empty. -/
structure HasIds (c : Calculator) : Prop where
  outputs : (c.outputs.map Output.id).Nodup
  breakdown : c.hasBreakdown = true → ((c.breakdown.getD []).map BreakdownItem.id).Nodup
  primary : ∀ p, c.primary? = some p → p.id ≠ ""

/-! ## Entries -/

section

variable {id : α → String} {display : α → Except Failure Shown} {items : List α}

theorem shownBy_eq_ok : shownBy id display items = .ok shown ↔
    ∃ pairs, OneForEach id (fun item s => display item = .ok s) items pairs ∧ Entries.ofList pairs = shown :=
  Entries.foldlM_put_eq_ok

theorem OneForEach.map_fst {IsFor : α → Shown → Prop} (h : OneForEach id IsFor items shown) :
    shown.map (·.1) = items.map id := by
  induction h with
  | nil => rfl
  | cons hentry _ ih => rw [List.map_cons, List.map_cons, ih, hentry.1]

/-- The results of several items are those of the last one with each id. -/
theorem lastOfEach_shownBy (h : shownBy id display items = .ok shown) :
    LastOfEach id (fun item s => display item = .ok s) items shown := by
  obtain ⟨pairs, hpairs, rfl⟩ := shownBy_eq_ok.mp h
  constructor
  · rw [Entries.map_fst_ofList, hpairs.map_fst]
  · intro name s
    rw [← Option.map_eq_some_iff, ← Entries.get?_ofList_of_forall₂ hpairs]
    simp

/-- There is one result for each item exactly when no id comes twice. -/
theorem oneForEach_shownBy_iff (h : shownBy id display items = .ok shown) :
    OneForEach id (fun item s => display item = .ok s) items shown ↔ (items.map id).Nodup := by
  obtain ⟨pairs, hpairs, rfl⟩ := shownBy_eq_ok.mp h
  constructor
  · intro hone
    rw [← hone.map_fst]
    exact Entries.distinct_ofList pairs
  · intro hnodup
    rw [← hpairs.map_fst] at hnodup
    rwa [Entries.ofList_of_distinct hnodup]

end

/-! ## Results -/

/-- What is shown for a formula, whatever else is told with it. -/
theorem formula_shown_eq_ok {formula : String} {format : Float → Except NumericError String} {label : String}
    {description : Option String} {highlight : Bool} :
    (do
      let value ← evaluateFormula formula numbers
      let text ← (format value).mapError Failure.numeric
      return (⟨value, text, label, description, highlight⟩ : Shown)) = .ok s ↔
      s.IsOf numbers formula format ∧ s.label = label ∧ s.description = description ∧ s.highlight = highlight := by
  rw [bind_eq_ok]
  constructor
  · rintro ⟨x, hx, h⟩
    obtain ⟨t, ht, h⟩ := bind_eq_ok.mp h
    cases h
    exact ⟨⟨hx, mapError_eq_ok.mp ht⟩, rfl, rfl, rfl⟩
  · rintro ⟨⟨hvalue, htext⟩, rfl, rfl, rfl⟩
    exact ⟨s.value, hvalue, bind_eq_ok.mpr ⟨s.text, mapError_eq_ok.mpr htext, rfl⟩⟩

theorem shown_eq_ok_iff : output.shown numbers = .ok s ↔ s.IsFor numbers output := by
  unfold Output.shown
  rw [formula_shown_eq_ok]
  constructor
  · rintro ⟨hof, hlabel, hdescription, hhighlight⟩
    exact ⟨hof, hlabel, hdescription, hhighlight⟩
  · rintro ⟨hof, hlabel, hdescription, hhighlight⟩
    exact ⟨hof, hlabel, hdescription, hhighlight⟩

theorem shown_item_eq_ok_iff : item.shown numbers = .ok s ↔ s.IsForItem numbers item := by
  unfold BreakdownItem.shown
  rw [formula_shown_eq_ok]
  constructor
  · rintro ⟨hof, hlabel, hdescription, hhighlight⟩
    exact ⟨hof, hlabel, hdescription, hhighlight⟩
  · rintro ⟨hof, hlabel, hdescription, hhighlight⟩
    exact ⟨hof, hlabel, hdescription, hhighlight⟩

/-- What an evaluation puts together. -/
theorem exists_numbers_of_evaluate (h : c.evaluate values = .ok data) :
    ∃ numbers, c.numbers values = .ok numbers ∧ c.outputsFor numbers = .ok data.outputs ∧
      data.summary = c.summary data.outputs ∧ data.total = c.total? data.outputs ∧
      data.BreaksDown c fun shown => c.breakdownFor numbers = .ok shown := by
  obtain ⟨numbers, hnumbers, h⟩ := bind_eq_ok.mp h
  obtain ⟨outputs, houtputs, h⟩ := bind_eq_ok.mp h
  split at h
  · next hhas =>
    obtain ⟨_, hbreakdown, h⟩ := bind_eq_ok.mp h
    obtain ⟨shown, hshown, rfl⟩ := map_eq_ok.mp hbreakdown
    cases h
    exact ⟨numbers, hnumbers, houtputs, rfl, rfl, hhas, hshown⟩
  · next hhas =>
    cases h
    exact ⟨numbers, hnumbers, houtputs, rfl, rfl, Bool.eq_false_iff.mpr hhas⟩

theorem breaksDown_last (h : data.BreaksDown c fun shown => c.breakdownFor numbers = .ok shown) :
    data.BreaksDown c (LastOfEach BreakdownItem.id (Shown.IsForItem numbers) (c.breakdown.getD [])) := by
  unfold Evaluation.BreaksDown at *
  split at h
  · exact h
  · have hlast := lastOfEach_shownBy h.2
    simp only [shown_item_eq_ok_iff] at hlast
    exact ⟨h.1, hlast⟩

theorem breaksDown_one_iff (h : data.BreaksDown c fun shown => c.breakdownFor numbers = .ok shown) :
    data.BreaksDown c (OneForEach BreakdownItem.id (Shown.IsForItem numbers) (c.breakdown.getD [])) ↔
      (c.hasBreakdown = true → ((c.breakdown.getD []).map BreakdownItem.id).Nodup) := by
  unfold Evaluation.BreaksDown at *
  split at h
  · exact iff_of_true h (by simp [h])
  · have hone := oneForEach_shownBy_iff h.2
    simp only [shown_item_eq_ok_iff] at hone
    rw [and_iff_right h.1, imp_iff_right h.1]
    exact hone

theorem mem_of_primary {p : Output} (h : c.primary? = some p) : p ∈ c.outputs := by
  rcases Option.or_eq_some_iff.mp h with h | ⟨-, h⟩
  · exact List.mem_of_find?_eq_some h
  · exact List.mem_of_head? h

theorem summary_of_primary {p : Output} (h : c.primary? = some p) (hs : shown.get? p.id = some s) :
    c.summary shown = s!"{s.label}: {s.text}" := by
  rw [summary, h, Option.bind_some, hs]

theorem total_of_primary {p : Output} (h : c.primary? = some p) (hs : shown.get? p.id = some s) :
    c.total? shown = if p.id = "" then none else some s.value := by
  rw [total?, h, Option.map_some]
  by_cases hid : p.id = "" <;> simp [hid, hs, Option.filter]

/-- A result keeps the last entry of each id, and accounts for all of them exactly where each has an id of its
own. -/
theorem keeps_of_evaluate (h : c.evaluate values = .ok data) :
    ∃ numbers, c.numbers values = .ok numbers ∧ data.Keeps c numbers ∧ (data.Accounts c numbers ↔ HasIds c) := by
  obtain ⟨numbers, hnumbers, houtputs, hsummary, htotal, hbreakdown⟩ := exists_numbers_of_evaluate h
  have hlast := lastOfEach_shownBy houtputs
  have hone := oneForEach_shownBy_iff houtputs
  simp only [shown_eq_ok_iff] at hlast hone
  have hkeeps : data.Keeps c numbers := by
    refine ⟨hlast, breaksDown_last hbreakdown, fun p hp => ?_⟩
    have hmem : p.id ∈ data.outputs.map (·.1) := by
      rw [hlast.names, List.mem_eraseDups]
      exact List.mem_map_of_mem (mem_of_primary hp)
    obtain ⟨s, hs⟩ := Option.ne_none_iff_exists'.mp (mt Entries.get?_eq_none.mp (not_not_intro hmem))
    obtain ⟨output, houtput, hfor⟩ := (hlast.last p.id s).mp hs
    exact ⟨output, s, houtput, hfor, hsummary.trans (summary_of_primary hp hs), htotal.trans (total_of_primary hp hs)⟩
  refine ⟨numbers, hnumbers, hkeeps, ?_, ?_⟩
  · intro haccounts
    refine ⟨hone.mp haccounts.outputs, (breaksDown_one_iff hbreakdown).mp haccounts.breakdown, fun p hp hempty => ?_⟩
    obtain ⟨s, -, -, hsome⟩ := haccounts.primary p hp
    obtain ⟨_, _, -, -, -, hnone⟩ := hkeeps.primary p hp
    rw [if_pos hempty, hsome] at hnone
    cases hnone
  · intro hids
    refine ⟨hone.mpr hids.outputs, (breaksDown_one_iff hbreakdown).mpr hids.breakdown, fun p hp => ?_⟩
    obtain ⟨output, s, houtput, hfor, htext, hvalue⟩ := hkeeps.primary p hp
    have hid : output.id = p.id := by simpa using List.find?_some houtput
    have hmem : output ∈ c.outputs := List.mem_reverse.mp (List.mem_of_find?_eq_some houtput)
    have hsame : output = p := List.inj_on_of_nodup_map hids.outputs hmem (mem_of_primary hp) hid
    subst hsame
    rw [if_neg (hids.primary output hp)] at hvalue
    exact ⟨s, hfor, htext, hvalue⟩

theorem evaluate_of_process {now : Timestamp} {response : Value} {notes : Entries Value}
    (h : c.process now response = .ok (.done data notes)) :
    ∃ r, readResponse Response.schema response = .ok r ∧ c.evaluate r.inputValues = .ok data := by
  unfold process at h
  split at h
  · cases h
  · next r hread =>
    obtain ⟨report, -, h⟩ := bind_eq_ok.mp h
    split at h
    · cases h
    · cases hevaluate : c.evaluate r.inputValues with
      | error e =>
        rw [hevaluate] at h
        cases h
      | ok result =>
        rw [hevaluate] at h
        cases h
        exact ⟨r, hread, hevaluate⟩

/-- The result of a response keeps what is shown for the last output and the last item of each id. Nothing is
lost or mixed up exactly where no id comes twice and the primary output has one. -/
theorem process_accounts_iff (c : Calculator) (now : Timestamp) (response : Value) (data : Evaluation)
    (notes : Entries Value) (h : c.process now response = .ok (.done data notes)) :
    ∃ r numbers, readResponse Response.schema response = .ok r ∧ c.numbers r.inputValues = .ok numbers ∧
      data.Keeps c numbers ∧ (data.Accounts c numbers ↔ HasIds c) := by
  obtain ⟨r, hread, hevaluate⟩ := evaluate_of_process h
  obtain ⟨numbers, hnumbers, hkeeps, hiff⟩ := keeps_of_evaluate hevaluate
  exact ⟨r, numbers, hread, hnumbers, hkeeps, hiff⟩

/-! ## Ids that are shared or missing -/

def fixed (outputs : List Output) (breakdown : List BreakdownItem) : Calculator where
  id := "c"
  title := "C"
  websiteId := "w"
  outputs := outputs
  breakdown := some breakdown
  settings := { showBreakdown := true }

/-- Two outputs with ids of their own, the second highlighted, and two items of the breakdown. -/
def apart : Calculator :=
  fixed [{ id := "a", label := "First", formula := "1" }, { id := "b", label := "Second", formula := "2", highlight := true }]
    [{ label := "Per year", formula := "12" }, { label := "Per month", formula := "1" }]

def shared : Calculator :=
  fixed [{ id := "a", label := "First", formula := "1", highlight := true }, { id := "a", label := "Second", formula := "2" }] []

def alike : Calculator :=
  fixed [{ id := "a", label := "First", formula := "1" }]
    [{ label := "Per year", formula := "12" }, { label := "per  year", formula := "1" }]

def nameless : Calculator := fixed [{ id := "", label := "First", formula := "1" }] []

def newYear : Timestamp := .midnight ⟨2024, 1, 1⟩

def succeeds (c : Calculator) : Bool :=
  (c.process newYear .null).toOption.any fun
    | .done .. => true
    | .refused .. => false

theorem exists_done_of_succeeds (h : c.succeeds = true) :
    ∃ data notes, c.process newYear .null = .ok (.done data notes) := by
  obtain ⟨outcome, houtcome, hdone⟩ := exists_ok_of_any h
  cases outcome with
  | done data notes => exact ⟨data, notes, houtcome⟩
  | refused message defects => cases hdone

/-- Where ids are apart the result accounts for everything. -/
theorem process_apart_accounts : ∃ data notes, apart.process newYear .null = .ok (.done data notes) ∧
    ∃ numbers, data.Accounts apart numbers := by
  obtain ⟨data, notes, hdone⟩ := exists_done_of_succeeds (c := apart) (by decide +kernel)
  obtain ⟨r, numbers, -, -, -, hiff⟩ := process_accounts_iff apart newYear .null data notes hdone
  have hids : HasIds apart := ⟨by decide +kernel, by decide +kernel, by rintro p hp; cases hp; decide⟩
  exact ⟨data, notes, hdone, numbers, hiff.mpr hids⟩

theorem not_hasIds_shared : ¬ HasIds shared := fun h => absurd h.outputs (by decide +kernel)

theorem not_hasIds_alike : ¬ HasIds alike := fun h => absurd (h.breakdown rfl) (by decide +kernel)

theorem not_hasIds_nameless : ¬ HasIds nameless := fun h => h.primary _ rfl rfl

def Loses (c : Calculator) : Prop :=
  (∃ v, schema.read v = .ok c) ∧ ∃ data notes, c.process newYear .null = .ok (.done data notes) ∧
    ∀ r numbers, readResponse Response.schema .null = .ok r → c.numbers r.inputValues = .ok numbers →
      ¬ data.Accounts c numbers

theorem loses_of_not_hasIds (hadmits : schema.admits c = true) (hsucceeds : c.succeeds = true) (hids : ¬ HasIds c) :
    c.Loses := by
  refine ⟨(Schema.admits_iff_read (models_sound ⟨_, schema⟩ (by simp [models]))).mp hadmits, ?_⟩
  obtain ⟨data, notes, hdone⟩ := exists_done_of_succeeds hsucceeds
  refine ⟨data, notes, hdone, fun r numbers hread hnumbers haccounts => hids ?_⟩
  obtain ⟨r', hread', hevaluate⟩ := evaluate_of_process hdone
  obtain ⟨numbers', hnumbers', -, hiff⟩ := keeps_of_evaluate hevaluate
  cases hread.symm.trans hread'
  cases hnumbers.symm.trans hnumbers'
  exact hiff.mp haccounts

/-- But not where two outputs or two items of the breakdown share an id, or an output has none. -/
theorem process_not_accounts : shared.Loses ∧ alike.Loses ∧ nameless.Loses := by
  refine ⟨?_, ?_, ?_⟩
  · exact loses_of_not_hasIds (by decide +kernel) (by decide +kernel) not_hasIds_shared
  · exact loses_of_not_hasIds (by decide +kernel) (by decide +kernel) not_hasIds_alike
  · exact loses_of_not_hasIds (by decide +kernel) (by decide +kernel) not_hasIds_nameless

end Calculator

end Formwork
