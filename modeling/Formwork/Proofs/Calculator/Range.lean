/-
  Formwork.Proofs.Calculator.Range: calculations that leave the range of numbers.

  A calculator tells of what is wrong with its formulas, with the entries of a visitor and with the
  amounts it shows. What is out of the range of numbers gets past it, at three places: a formula whose
  value over the sample leaves the floats when the calculator is checked, an integer without a float where
  entries are checked, and while the visitor is typing any result of these kinds that no entry is blamed for.

  - `check_ok_iff`, `process_ok_iff`, `liveOutputs_ok_iff`: each of the three has an outcome exactly when
    nothing of its kind is there.
  - `exists_mem_check`, `process_refused_iff`, `liveOutputs_none_iff`: the outcome tells of every problem.
  - `outcomes_iff_in_range`: all of these together.
  - `outcomes_not_total`: a calculator from a document may have none.
-/

import Formwork.Proofs.Calculator.Amount
import Formwork.Proofs.Calculator.Check
import Formwork.Proofs.Document.Models
import Formwork.Proofs.Formula.Range

namespace Formwork

namespace Calculator

open Binary64 (integerLimit)
open Formula (LeavesFloats)

variable {c : Calculator} {formula : String} {numbers : Entries Float} {values : Entries Value} {e : NumericError}
  {input : Input} {output : Output} {entry : Option Value} {v : Value}

/-! ## Formulas -/

theorem evaluateFormula_eq_numeric :
    evaluateFormula formula numbers = .error (.numeric e) ↔ LeavesFloats formula (.ofFloats numbers) {} e := by
  rw [← Formula.evaluate_numeric_iff, evaluateFormula, mapError_eq_error]
  constructor
  · rintro ⟨failure, hf, h⟩
    cases failure <;> cases h
    exact hf
  · exact fun h => ⟨_, h, rfl⟩

/-- Over floats a formula is out of range at an infinity only; its other failures outside the floats are
about bad values. -/
theorem isBadValue_of_leavesFloats (h : LeavesFloats formula (.ofFloats numbers) {} e) :
    e.isBadValue = false ↔ e = .infinityHasNoInteger := by
  obtain ⟨_, t, _, stack, -, -, h⟩ := h
  cases h with
  | @name _ _ v i _ hv hi _ =>
    rw [Formula.Bindings.ofFloats, Entries.get?_map] at hv
    obtain ⟨x, -, rfl⟩ := Option.map_eq_some_iff.mp hv
    cases hi
  | function _ _ hx => cases hx <;> simp [NumericError.isBadValue]
  | remainder => simp [NumericError.isBadValue]

theorem not_leavesFloats_of_blank {bindings : Formula.Bindings} {limits : Formula.Limits}
    (h : Text.isBlankText formula = true) : ¬ LeavesFloats formula bindings limits e := by
  rintro ⟨before, t, after, stack, hparse, -⟩
  obtain ⟨failure, hfail⟩ := Formula.parse_of_blank limits h
  rw [hparse] at hfail
  cases hfail

/-! ## Checking a calculator -/

def formulas (c : Calculator) : List String := c.outputs.map (·.formula) ++ (c.breakdown.getD []).map (·.formula)

def LeavesSample (c : Calculator) (formula : String) : Prop :=
  ∃ e, LeavesFloats formula (.ofFloats c.sampleBindings) {} e

theorem formulaDefects_ok_iff {place name emptyCode wrongCode : String} :
    (∃ defects, c.formulaDefects formula place name emptyCode wrongCode = .ok defects) ↔ ¬ c.LeavesSample formula := by
  unfold formulaDefects
  split
  · rename_i hblank
    exact iff_of_true ⟨_, rfl⟩ fun ⟨_, h⟩ => not_leavesFloats_of_blank hblank h
  · rw [exists_map_eq_ok, checkFormula, exists_map_eq_ok, Formula.exists_attempt_iff, LeavesSample]

theorem checkOutput_ok_iff {index : Nat} :
    (∃ defects, c.checkOutput output index = .ok defects) ↔ ¬ c.LeavesSample output.formula := by
  rw [checkOutput, exists_map_eq_ok, formulaDefects_ok_iff]

/-- A traversal of numbered items succeeds when all items do, whatever their numbers. -/
theorem exists_mapM_zipIdx_eq_ok {α β : Type} {f : α × Nat → Except NumericError β} {items : List α} {Good : α → Prop}
    (h : ∀ a i, (∃ b, f (a, i) = .ok b) ↔ Good a) :
    (∃ bs, items.zipIdx.mapM f = .ok bs) ↔ ∀ a ∈ items, Good a := by
  rw [exists_mapM_eq_ok]
  conv => rhs; rw [← List.zipIdx_map_fst 0 items]
  simp only [List.forall_mem_map]
  exact forall₂_congr fun p _ => h p.1 p.2

/-- The check of a calculator has a report exactly when no formula leaves the floats over the sample. -/
theorem check_ok_iff : (∃ report, c.check = .ok report) ↔ ∀ formula ∈ c.formulas, ¬ c.LeavesSample formula := by
  have houtputs : (∃ ds, (c.outputs.zipIdx).mapM (fun o => c.checkOutput o.1 o.2) = .ok ds) ↔
      ∀ output ∈ c.outputs, ¬ c.LeavesSample output.formula :=
    exists_mapM_zipIdx_eq_ok fun _ _ => checkOutput_ok_iff
  have hbreakdown : (∃ ds, ((c.breakdown.getD []).zipIdx).mapM (fun b => c.checkBreakdownItem b.1 b.2) = .ok ds) ↔
      ∀ item ∈ c.breakdown.getD [], ¬ c.LeavesSample item.formula :=
    exists_mapM_zipIdx_eq_ok fun _ _ => formulaDefects_ok_iff
  rw [formulas, List.forall_mem_append, List.forall_mem_map, List.forall_mem_map, ← houtputs, ← hbreakdown]
  constructor
  · rintro ⟨report, h⟩
    obtain ⟨os, hos, h⟩ := bind_eq_ok.mp h
    obtain ⟨bs, hbs, -⟩ := bind_eq_ok.mp h
    exact ⟨⟨os, hos⟩, bs, hbs⟩
  · rintro ⟨⟨os, hos⟩, bs, hbs⟩
    exact ⟨_, by rw [check, hos, ok_bind, hbs, ok_bind]; rfl⟩

/-- What is wrong with the formula itself shows over the sample. -/
def AtFault (c : Calculator) (formula : String) : Prop :=
  ∃ e, evaluateFormula formula c.sampleBindings = .error (.formula e) ∧ e.cause.isStructural = true

theorem exists_mem_formulaDefects {place name emptyCode wrongCode : String} {ds : List Defect}
    (h : c.formulaDefects formula place name emptyCode wrongCode = .ok ds) (hfault : c.AtFault formula) :
    ∃ d ∈ ds, d.field = place := by
  unfold formulaDefects at h
  split at h
  · cases h
    exact ⟨_, List.mem_cons_self, rfl⟩
  · obtain ⟨e, he, hstructural⟩ := hfault
    rw [checkFormula_eq_some.mpr ⟨e, evaluateFormula_eq_error.mp he, hstructural, rfl⟩] at h
    cases h
    exact ⟨_, List.mem_cons_self, rfl⟩

theorem exists_mem_checkOutput {index : Nat} {ds : List Defect} (h : c.checkOutput output index = .ok ds)
    (hfault : c.AtFault output.formula) : ∃ d ∈ ds, d.field = s!"outputs[{index}].formula" := by
  obtain ⟨defects, hdefects, rfl⟩ := map_eq_ok.mp h
  obtain ⟨d, hd, hfield⟩ := exists_mem_formulaDefects hdefects hfault
  refine ⟨d, List.mem_append_right _ hd, ?_⟩
  rw [hfield]
  simp only [toString, String.append_assoc]
  rfl

/-- Every formula at fault has a defect at its place. -/
theorem exists_mem_check {report : Report} (h : c.check = .ok report) :
    (∀ (index : Nat) (output : Output), c.outputs[index]? = some output → c.AtFault output.formula →
      ∃ d ∈ report.defects, d.field = s!"outputs[{index}].formula") ∧
    ∀ (index : Nat) (item : BreakdownItem), (c.breakdown.getD [])[index]? = some item → c.AtFault item.formula →
      ∃ d ∈ report.defects, d.field = s!"breakdown[{index}].formula" := by
  obtain ⟨outputs, ho, h⟩ := bind_eq_ok.mp h
  obtain ⟨breakdown, hb, h⟩ := bind_eq_ok.mp h
  cases h
  simp only [Report.defects_append]
  constructor
  · intro index output hindex hfault
    obtain ⟨ds, hds, hcheck⟩ := exists_mem_of_mapM ho (output, index) (List.mem_zipIdx_iff_getElem?.mpr hindex)
    obtain ⟨d, hd, hfield⟩ := exists_mem_checkOutput hcheck hfault
    have hmem := List.mem_flatten.mpr ⟨ds, hds, hd⟩
    exact ⟨d, by simp only [List.mem_append]; simp only [hmem, or_true, true_or], hfield⟩
  · intro index item hindex hfault
    obtain ⟨ds, hds, hcheck⟩ := exists_mem_of_mapM hb (item, index) (List.mem_zipIdx_iff_getElem?.mpr hindex)
    obtain ⟨d, hd, hfield⟩ := exists_mem_formulaDefects hcheck hfault
    have hmem := List.mem_flatten.mpr ⟨ds, hds, hd⟩
    exact ⟨d, by simp only [List.mem_append]; simp only [hmem, or_true], hfield⟩

/-! ## Entries -/

def IsTooLarge (entry : Option Value) : Prop := ∃ n, entry = some (.int n) ∧ integerLimit ≤ n.natAbs

theorem readNumber_eq_error :
    readNumber v = .error e ↔ ∃ n, v = .int n ∧ integerLimit ≤ n.natAbs ∧ e = .integerTooLarge := by
  unfold readNumber
  split
  · simp
  · rename_i n
    have hmap : (Number.int n).toFloat.map some = .error e ↔ (Number.int n).toFloat = .error e := by
      cases (Number.int n).toFloat <;> simp [Except.map]
    rw [hmap, Number.toFloat_eq_error]
    simp
  · simp
  · simp
  · simp
  · rename_i hint _ _ _
    refine iff_of_false (by simp) ?_
    rintro ⟨n, hn, -⟩
    exact hint n hn

/-- Every integer is an answer. -/
theorem isTooLarge_filter : IsTooLarge (entry.filter Value.isAnswered) ↔ IsTooLarge entry := by
  unfold IsTooLarge
  constructor
  · rintro ⟨n, hn, hlimit⟩
    exact ⟨n, (Option.filter_eq_some_iff.mp hn).1, hlimit⟩
  · rintro ⟨n, rfl, hlimit⟩
    exact ⟨n, rfl, hlimit⟩

theorem isTooLarge_iff : IsTooLarge (some v) ↔ readNumber v = .error .integerTooLarge := by
  simp [readNumber_eq_error, IsTooLarge]

theorem exists_readNumber_iff : (∃ x, readNumber v = .ok x) ↔ ¬ IsTooLarge (some v) := by
  simp [exists_ok_iff, readNumber_eq_error, IsTooLarge]

theorem checkEntry_ok_iff : (∃ defects, input.checkEntry entry = .ok defects) ↔ ¬ IsTooLarge entry := by
  rw [← isTooLarge_filter]
  unfold Input.checkEntry
  cases entry.filter Value.isAnswered with
  | none => simp [IsTooLarge]
  | some v => exact exists_map_eq_ok.trans exists_readNumber_iff

theorem checkEntries_ok_iff :
    (∃ report, c.checkEntries values = .ok report) ↔ ∀ input ∈ c.inputs, ¬ IsTooLarge (values.get? input.name) := by
  rw [checkEntries, exists_map_eq_ok, exists_mapM_eq_ok]
  exact forall₂_congr fun input _ => checkEntry_ok_iff

/-- Once the entries are checked, whatever goes wrong is told to the visitor. -/
theorem processEntries_ok_iff {now : Timestamp} :
    (∃ outcome, c.processEntries now values = .ok outcome) ↔ ∃ report, c.checkEntries values = .ok report := by
  unfold processEntries
  cases c.checkEntries values with
  | error e => exact iff_of_false (fun ⟨_, h⟩ => by cases h) (by simp)
  | ok report =>
    refine iff_of_true ?_ ⟨report, rfl⟩
    rw [ok_bind]
    split
    · exact ⟨_, rfl⟩
    · split <;> exact ⟨_, rfl⟩

/-- Processing a response has an outcome exactly when no declared input is given an integer too large. -/
theorem process_ok_iff {now : Timestamp} {response : Value} :
    (∃ outcome, c.process now response = .ok outcome) ↔
      ∀ r, readResponse Response.schema response = .ok r →
        ∀ input ∈ c.inputs, ¬ IsTooLarge (r.inputValues.get? input.name) := by
  unfold process
  cases readResponse Response.schema response with
  | error issues => exact iff_of_true ⟨_, rfl⟩ (by simp)
  | ok r =>
    simp only [Except.ok.injEq, forall_eq']
    rw [processEntries_ok_iff, checkEntries_ok_iff]

/-- An outcome is a refusal exactly when the response cannot be read, its entries are refused or the
calculation fails. -/
theorem process_refused_iff {now : Timestamp} {response : Value} {outcome : Processed Evaluation}
    (h : c.process now response = .ok outcome) :
    (∃ message defects, outcome = .refused message defects) ↔
      ∀ r, readResponse Response.schema response = .ok r →
        (∃ report, c.checkEntries r.inputValues = .ok report ∧ report.isValid = false) ∨
          ∃ e, c.evaluate r.inputValues = .error e := by
  unfold process at h
  split at h
  · rename_i issues hread
    cases h
    simp [hread, Processed.unreadable]
  · rename_i r hread
    obtain ⟨report, hreport, h⟩ := bind_eq_ok.mp h
    simp only [hread, hreport, Except.ok.injEq, forall_eq', exists_eq_left']
    cases hvalid : report.isValid with
    | false =>
      rw [hvalid] at h
      cases h
      simp
    | true =>
      rw [hvalid] at h
      cases hevaluate : c.evaluate r.inputValues with
      | error e =>
        rw [hevaluate] at h
        cases h
        simp
      | ok data =>
        rw [hevaluate] at h
        cases h
        simp

/-! ## Results while the visitor is typing -/

/-- The first input without a number is given an integer too large. -/
def FailsTooLarge (c : Calculator) (values : Entries Value) : Prop :=
  ∃ before input after, c.inputs = before ++ input :: after ∧
    (∀ i ∈ before, ∃ x, i.number (values.get? i.name) = .ok x) ∧ IsTooLarge (values.get? input.name)

/-- No default is an integer. -/
theorem isTooLarge_entryOrDefault : IsTooLarge (input.entryOrDefault entry) ↔ IsTooLarge entry := by
  rw [← @isTooLarge_filter entry, Input.entryOrDefault]
  cases entry.filter Value.isAnswered with
  | some v => rfl
  | none =>
    refine iff_of_false ?_ (by simp [IsTooLarge])
    rintro ⟨n, hn, -⟩
    obtain ⟨d, -, hd⟩ := Option.map_eq_some_iff.mp hn
    cases d <;> cases hd

theorem number_eq_numeric :
    input.number entry = .error (.numeric e) ↔ IsTooLarge entry ∧ e = .integerTooLarge := by
  rw [← isTooLarge_entryOrDefault, Input.number]
  cases input.entryOrDefault entry with
  | none => simp [IsTooLarge]
  | some v =>
    rw [isTooLarge_iff]
    simp only
    cases hv : readNumber v with
    | error failure =>
      obtain ⟨-, -, -, rfl⟩ := readNumber_eq_error.mp hv
      simp [eq_comm]
    | ok x => cases x <;> simp

theorem numbers_eq_numeric : c.numbers values = .error (.numeric e) ↔ c.FailsTooLarge values ∧ e = .integerTooLarge := by
  unfold numbers FailsTooLarge
  rw [Entries.foldlM_put_eq_error]
  simp only [number_eq_numeric]
  constructor
  · rintro ⟨before, input, after, hsplit, hbefore, hinput, he⟩
    exact ⟨⟨before, input, after, hsplit, hbefore, hinput⟩, he⟩
  · rintro ⟨⟨before, input, after, hsplit, hbefore, hinput⟩, he⟩
    exact ⟨before, input, after, hsplit, hbefore, hinput, he⟩

/-- An output is out of range: its formula takes the integer of an infinity, or its amount cannot be shown. -/
def Output.LeavesRange (output : Output) (numbers : Entries Float) : Prop :=
  LeavesFloats output.formula (.ofFloats numbers) {} .infinityHasNoInteger ∨
    ∃ x, evaluateFormula output.formula numbers = .ok x ∧
      Amount.OutOfRange output.format.style (output.decimals.getD Amount.defaultPlaces) x

def FailsOutOfRange (c : Calculator) (numbers : Entries Float) : Prop :=
  ∃ before output after, c.outputs = before ++ output :: after ∧ (∀ o ∈ before, ∃ shown, o.shown numbers = .ok shown) ∧
    output.LeavesRange numbers

theorem isFinite_of_evaluateFormula {x : Float} (h : evaluateFormula formula numbers = .ok x) : x.isFinite = true :=
  Formula.isFinite_of_evaluate (mapError_eq_ok.mp h)

/-- A value that cannot be shown is told of as it is. -/
theorem shown_eq_numeric {x : Float} (h : evaluateFormula output.formula numbers = .ok x) :
    output.shown numbers = .error (.numeric e) ↔
      Amount.format output.format.style (output.decimals.getD Amount.defaultPlaces) x = .error e := by
  rw [Output.shown, h, ok_bind, Amount.formatBetween]
  cases Amount.format output.format.style (output.decimals.getD Amount.defaultPlaces) x with
  | error failure =>
    constructor <;> intro he <;> cases he <;> rfl
  | ok text =>
    constructor <;> intro he <;> cases he

/-- An output fails in a way that no entries are blamed for exactly when it is out of range. -/
theorem shown_out_of_range_iff :
    (∃ e, output.shown numbers = .error (.numeric e) ∧ e.isBadValue = false) ↔ output.LeavesRange numbers := by
  unfold Output.LeavesRange
  cases hvalue : evaluateFormula output.formula numbers with
  | error failure =>
    have hshown : output.shown numbers = .error failure := by rw [Output.shown, hvalue, error_bind]
    rw [hshown]
    constructor
    · rintro ⟨e, h, he⟩
      cases h
      have hleaves := evaluateFormula_eq_numeric.mp hvalue
      rw [isBadValue_of_leavesFloats hleaves] at he
      exact Or.inl (he ▸ hleaves)
    · rintro (hleaves | ⟨x, hx, -⟩)
      · rw [evaluateFormula_eq_numeric.mpr hleaves] at hvalue
        cases hvalue
        exact ⟨_, rfl, rfl⟩
      · cases hx
  | ok x =>
    have hleaves : ¬ LeavesFloats output.formula (.ofFloats numbers) {} .infinityHasNoInteger := fun h => by
      rw [evaluateFormula_eq_numeric.mpr h] at hvalue
      cases hvalue
    simp only [or_iff_right hleaves, shown_eq_numeric hvalue, Except.ok.injEq, exists_eq_left']
    exact Amount.format_out_of_range_iff (isFinite_of_evaluateFormula hvalue)

theorem outputsFor_out_of_range_iff :
    (∃ e, c.outputsFor numbers = .error (.numeric e) ∧ e.isBadValue = false) ↔ c.FailsOutOfRange numbers := by
  unfold outputsFor shownBy FailsOutOfRange
  simp only [Entries.foldlM_put_eq_error, ← shown_out_of_range_iff]
  constructor
  · rintro ⟨e, ⟨before, output, after, hsplit, hbefore, h⟩, he⟩
    exact ⟨before, output, after, hsplit, hbefore, e, h, he⟩
  · rintro ⟨before, output, after, hsplit, hbefore, e, h, he⟩
    exact ⟨e, ⟨before, output, after, hsplit, hbefore, h⟩, he⟩

/-- While the visitor is typing, a failure is let through only if no entries are blamed for it. -/
theorem liveOutputs_cases (c : Calculator) (values : Entries Value) :
    (c.settings.realTimeCalculation = false ∧ c.liveOutputs values = .ok none) ∨
    c.settings.realTimeCalculation = true ∧
      ((∃ outputs, (c.numbers values >>= c.outputsFor) = .ok outputs ∧ c.liveOutputs values = .ok (some outputs)) ∨
      (∃ failure, (c.numbers values >>= c.outputsFor) = .error failure ∧
        (∀ e, failure = .numeric e → e.isBadValue = true) ∧ c.liveOutputs values = .ok none) ∨
      ∃ e, (c.numbers values >>= c.outputsFor) = .error (.numeric e) ∧ e.isBadValue = false ∧
        c.liveOutputs values = .error e) := by
  unfold liveOutputs
  cases c.settings.realTimeCalculation with
  | false => exact Or.inl ⟨rfl, rfl⟩
  | true =>
    rw [show (c.numbers values).bind c.outputsFor = (c.numbers values >>= c.outputsFor) from rfl]
    refine Or.inr ⟨rfl, ?_⟩
    cases c.numbers values >>= c.outputsFor with
    | ok outputs => exact Or.inl ⟨outputs, rfl, rfl⟩
    | error failure =>
      cases failure with
      | entry label => exact Or.inr (Or.inl ⟨_, rfl, by simp, rfl⟩)
      | formula e => exact Or.inr (Or.inl ⟨_, rfl, by simp, rfl⟩)
      | numeric e =>
        cases hbad : e.isBadValue with
        | true => exact Or.inr (Or.inl ⟨_, rfl, by simp [hbad], by simp [hbad]⟩)
        | false => exact Or.inr (Or.inr ⟨e, rfl, hbad, by simp [hbad]⟩)

theorem liveOutputs_eq_error :
    c.liveOutputs values = .error e ↔
      c.settings.realTimeCalculation = true ∧
        (c.numbers values >>= c.outputsFor) = .error (.numeric e) ∧ e.isBadValue = false := by
  rcases c.liveOutputs_cases values with ⟨hoff, h⟩ | ⟨hon, ⟨outputs, hcalc, h⟩ | ⟨failure, hcalc, hbad, h⟩ |
    ⟨other, hcalc, hbad, h⟩⟩
  · simp [hoff, h]
  · simp [hcalc, h]
  · refine iff_of_false (by simp [h]) ?_
    rintro ⟨-, he, hgood⟩
    rw [hcalc] at he
    rw [hbad e (Except.error.inj he)] at hgood
    cases hgood
  · simp only [hon, hcalc, h, Except.error.injEq, Failure.numeric.injEq, true_and]
    exact ⟨fun he => ⟨he, he ▸ hbad⟩, And.left⟩

/-- Nothing is shown exactly when nothing is asked for or the calculation has failed. -/
theorem liveOutputs_none_iff {shown : Option (Entries Shown)} (h : c.liveOutputs values = .ok shown) :
    shown = none ↔
      (c.settings.realTimeCalculation = true → ∃ failure, (c.numbers values >>= c.outputsFor) = .error failure) := by
  rcases c.liveOutputs_cases values with ⟨hoff, h'⟩ | ⟨hon, ⟨outputs, hcalc, h'⟩ | ⟨failure, hcalc, -, h'⟩ |
    ⟨other, hcalc, -, h'⟩⟩
  all_goals
    rw [h'] at h
    cases h
  · simp [hoff]
  · simp [hon, hcalc]
  · simp [hcalc]

/-- There are results while the visitor is typing exactly when no integer is too large and no output out of
range, where they are asked for. -/
theorem liveOutputs_ok_iff :
    (∃ shown, c.liveOutputs values = .ok shown) ↔
      (c.settings.realTimeCalculation = true →
        ¬ c.FailsTooLarge values ∧ ∀ numbers, c.numbers values = .ok numbers → ¬ c.FailsOutOfRange numbers) := by
  have hfails : (∃ e, c.liveOutputs values = .error e) ↔ c.settings.realTimeCalculation = true ∧
      (c.FailsTooLarge values ∨ ∃ numbers, c.numbers values = .ok numbers ∧ c.FailsOutOfRange numbers) := by
    simp only [liveOutputs_eq_error, bind_eq_error, numbers_eq_numeric, ← outputsFor_out_of_range_iff]
    constructor
    · rintro ⟨e, htyping, ⟨hlarge, -⟩ | ⟨numbers, hn, h⟩, he⟩
      · exact ⟨htyping, Or.inl hlarge⟩
      · exact ⟨htyping, Or.inr ⟨numbers, hn, e, h, he⟩⟩
    · rintro ⟨htyping, hlarge | ⟨numbers, hn, e, h, he⟩⟩
      · exact ⟨_, htyping, Or.inl ⟨hlarge, rfl⟩, rfl⟩
      · exact ⟨e, htyping, Or.inr ⟨numbers, hn, h⟩, he⟩
  rw [exists_ok_iff, hfails]
  simp only [not_and, not_or, not_exists]

/-! ## All three -/

/-- Every outcome tells of what is wrong, and there is one except for what is out of range: the check of a
calculator has a report unless a formula leaves the floats over the sample, a response has an outcome unless
an entry is an integer too large, and the visitor who is typing has results unless one is out of range. -/
theorem outcomes_iff_in_range (c : Calculator) (now : Timestamp) (response : Value) (values : Entries Value) :
    (((∃ report, c.check = .ok report) ↔ ∀ formula ∈ c.formulas, ¬ c.LeavesSample formula) ∧
      ∀ report, c.check = .ok report →
        (∀ (index : Nat) (output : Output), c.outputs[index]? = some output → c.AtFault output.formula →
          ∃ d ∈ report.defects, d.field = s!"outputs[{index}].formula") ∧
        ∀ (index : Nat) (item : BreakdownItem), (c.breakdown.getD [])[index]? = some item → c.AtFault item.formula →
          ∃ d ∈ report.defects, d.field = s!"breakdown[{index}].formula") ∧
    (((∃ outcome, c.process now response = .ok outcome) ↔
        ∀ r, readResponse Response.schema response = .ok r →
          ∀ input ∈ c.inputs, ¬ IsTooLarge (r.inputValues.get? input.name)) ∧
      ∀ outcome, c.process now response = .ok outcome →
        ((∃ message defects, outcome = .refused message defects) ↔
          ∀ r, readResponse Response.schema response = .ok r →
            (∃ report, c.checkEntries r.inputValues = .ok report ∧ report.isValid = false) ∨
              ∃ failure, c.evaluate r.inputValues = .error failure)) ∧
    ((∃ shown, c.liveOutputs values = .ok shown) ↔
        (c.settings.realTimeCalculation = true →
          ¬ c.FailsTooLarge values ∧ ∀ numbers, c.numbers values = .ok numbers → ¬ c.FailsOutOfRange numbers)) ∧
    ∀ shown, c.liveOutputs values = .ok shown →
      (shown = none ↔
        (c.settings.realTimeCalculation = true →
          ∃ failure, (c.numbers values >>= c.outputsFor) = .error failure)) :=
  ⟨⟨check_ok_iff, fun _ => exists_mem_check⟩, ⟨process_ok_iff, fun _ => process_refused_iff⟩, liveOutputs_ok_iff,
    fun _ => liveOutputs_none_iff⟩

def unbounded : Calculator where
  id := "c"
  title := "C"
  websiteId := "w"
  inputs := [{ id := "x", name := "x", label := "X" }]
  outputs := [{ id := "o", label := "O", formula := "floor(1e999)" }]
  settings := { realTimeCalculation := true }

theorem read_unbounded : ∃ v, schema.read v = .ok unbounded :=
  (Schema.admits_iff_read (models_sound ⟨_, schema⟩ (by simp [models]))).mp (by decide +kernel)

def enormous : Value := .ofEntries [("inputValues", .ofEntries [("x", .int (10 ^ 400))])]

theorem readResponse_enormous :
    ∃ r, readResponse Response.schema enormous = .ok r ∧ IsTooLarge (r.inputValues.get? "x") := by
  have h : ((readResponse Response.schema enormous).toOption.map fun r =>
      (r.inputValues.get? "x").map fun v => (readNumber v).toOption) = some (some none) := by decide +kernel
  obtain ⟨r, hr, hx⟩ := Option.map_eq_some_iff.mp h
  obtain ⟨v, hv, hnumber⟩ := Option.map_eq_some_iff.mp hx
  refine ⟨r, eq_ok_of_toOption hr, ?_⟩
  rw [hv]
  cases hread : readNumber v with
  | error e =>
    obtain ⟨n, rfl, hlimit, -⟩ := readNumber_eq_error.mp hread
    exact ⟨n, rfl, hlimit⟩
  | ok x =>
    rw [hread] at hnumber
    cases hnumber

/-- So for a calculator from a document each of the three may have no outcome. -/
theorem outcomes_not_total :
    (¬ ∀ c : Calculator, (∃ v, schema.read v = .ok c) → ∃ report, c.check = .ok report) ∧
    (¬ ∀ c : Calculator, (∃ v, schema.read v = .ok c) →
      ∀ now response, ∃ outcome, c.process now response = .ok outcome) ∧
    ¬ ∀ c : Calculator, (∃ v, schema.read v = .ok c) → ∀ values, ∃ shown, c.liveOutputs values = .ok shown := by
  refine ⟨fun h => ?_, fun h => ?_, fun h => ?_⟩
  · refine check_ok_iff.mp (h unbounded read_unbounded) "floor(1e999)" List.mem_cons_self ?_
    exact ⟨_, Formula.leavesFloats_floor_of_infinity _⟩
  · obtain ⟨r, hr, hx⟩ := readResponse_enormous
    exact process_ok_iff.mp (h unbounded read_unbounded (.midnight ⟨2024, 1, 2⟩) enormous) r hr _ List.mem_cons_self hx
  · refine (liveOutputs_ok_iff.mp (h unbounded read_unbounded []) rfl).2 [("x", 0)] rfl ?_
    exact ⟨[], _, [], rfl, by simp, Or.inl (Formula.leavesFloats_floor_of_infinity _)⟩

end Calculator

end Formwork
