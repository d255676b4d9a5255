/-
  Formwork.Proofs.Calculator.Check: what the check of a formula says about its calculations.

  The check is one evaluation, with 1 for every declared input. Numbers of a submission give
  a value to the same names, so both evaluations read the same tokens and know the same
  names; they part only where the values decide. `Reaches` says how far one of them gets.

  - `structural_iff`: with a number for every declared input, a formula fails for what it is
    exactly when it cannot be read or its run reaches a name that stands for nothing.
  - `checkFormula_none_reaches`: a formula that passes can still do so: a name that the run
    over 1 did not reach is not noticed, and other numbers may reach it.
  - `check_reports_no_usable_formula`: a formula that is reported has no value, whatever is
    entered.
-/

import Formwork.Calculator.Check
import Formwork.Calculator.Result
import Formwork.Proofs.Element.Check
import Formwork.Proofs.Formula.Names
import Formwork.Proofs.Formula.Parse

namespace Formwork

open Formula (Token Scope parse)

/-- The formula itself is at fault when it cannot be read, exceeds a bound or names something unknown. -/
theorem Formula.Cause.isStructural_iff (c : Formula.Cause) :
    c.isStructural = true ↔
      c.family = .lexical ∨ c.family = .syntactic ∨ c.family = .limit ∨ c.family = .unknownName := by
  cases c <;> simp [isStructural, family]

namespace Calculator

variable {c : Calculator} {formula : String} {numbers : Entries Float} {u : Token}

/-! ## The names of a calculator -/

def Declares (c : Calculator) (name : String) : Prop := ∃ input ∈ c.inputs, input.name = name

/-- Every declared name has a number, and no other name has one. No formula can use the empty name. -/
def Assigns (c : Calculator) (numbers : Entries Float) : Prop :=
  ∀ name, name ≠ "" → ((numbers.get? name).isSome = true ↔ c.Declares name)

/-- A variable is a declared input, a function one of those that formulas may call. -/
def Knows (c : Calculator) (t : Token) : Prop :=
  (t.kind = .name → c.Declares t.text) ∧ (t.kind = .function → Formula.Functions.has [] t.text = true)

def scopeFor (formula : String) (numbers : Entries Float) : Scope := ⟨.ofFloats numbers, [], formula⟩

theorem assigns_sample (c : Calculator) : c.Assigns c.sampleBindings := by
  intro name hne
  rw [sampleBindings, Entries.isSome_get?_ofList]
  constructor
  · rintro ⟨p, hp, rfl⟩
    obtain ⟨input, hi, rfl⟩ := List.mem_map.mp hp
    exact ⟨input, (List.mem_filter.mp hi).1, rfl⟩
  · rintro ⟨input, hi, rfl⟩
    exact ⟨(input.name, 1), List.mem_map_of_mem (List.mem_filter.mpr ⟨hi, by simpa using hne⟩), rfl⟩

/-- The numbers of entries cover the declared names. -/
theorem assigns_numbers {values : Entries Value} (h : c.numbers values = .ok numbers) : c.Assigns numbers := by
  intro name _
  rw [Entries.isSome_get?_foldlM_put h]
  simp [Entries.get?, Declares]

/-- With a number for every declared name, the evaluation knows the names of the calculator. -/
theorem knows_iff (hn : c.Assigns numbers) (hu : u.text ≠ "") :
    (scopeFor formula numbers).Knows u ↔ c.Knows u := by
  have hb : ((Formula.Bindings.ofFloats numbers).get? u.text).isSome = (numbers.get? u.text).isSome := by
    rw [Formula.Bindings.ofFloats, Entries.get?_map, Option.isSome_map]
  simp only [scopeFor, Scope.Knows, Knows, hb, hn u.text hu]

/-! ## One evaluation -/

/-- The evaluation of a formula gets as far as `u`, which stands for nothing. -/
def Reaches (c : Calculator) (formula : String) (numbers : Entries Float) (u : Token) : Prop :=
  ∃ before after stack, parse formula {} = .ok (before ++ u :: after) ∧
    before.foldlM (scopeFor formula numbers).step [] = .ok stack ∧ ¬ c.Knows u

theorem reaches_iff {output : List Token} (hn : c.Assigns numbers) (hp : parse formula {} = .ok output) :
    c.Reaches formula numbers u ↔ (scopeFor formula numbers).Meets output u := by
  have hknows : u ∈ output → ((scopeFor formula numbers).Knows u ↔ c.Knows u) :=
    fun hu => knows_iff hn (Formula.parse_text_ne_empty hp u hu)
  constructor
  · rintro ⟨before, after, stack, hp', hb, hu⟩
    cases hp.symm.trans hp'
    exact ⟨before, after, stack, rfl, hb, fun h => hu ((hknows (by simp)).mp h)⟩
  · rintro ⟨before, after, stack, rfl, hb, hu⟩
    exact ⟨before, after, stack, hp, hb, fun h => hu ((hknows (by simp)).mpr h)⟩

theorem evaluate_of_parse {output : List Token} (hp : parse formula {} = .ok output) :
    Formula.evaluate formula (.ofFloats numbers) {} [] = (scopeFor formula numbers).evaluatePostfix output := by
  rw [Formula.evaluate, hp]
  rfl

theorem evaluate_of_parse_error {e : FormulaError} (hp : parse formula {} = .error e) :
    Formula.evaluate formula (.ofFloats numbers) {} [] = .error (.formula e) := by
  rw [Formula.evaluate, hp]

/-- An evaluation that reaches an unknown name ends there. -/
theorem evaluate_of_reaches (hn : c.Assigns numbers) (h : c.Reaches formula numbers u) :
    Formula.evaluate formula (.ofFloats numbers) {} [] =
      .error (.formula (.located (.unknownName u.text) u.position formula)) := by
  have ⟨before, after, stack, hp, _⟩ := h
  obtain ⟨tokens, t, -, -, ht⟩ := Formula.parse_sound hp
  have hm := (reaches_iff hn hp).mp h
  rw [ht] at hm
  rw [evaluate_of_parse hp, ht]
  exact Scope.meets_error Formula.builtins_not_internal hm

/-- The formula is at fault exactly when it cannot be read or names something unknown that is reached. -/
theorem structural_iff (hn : c.Assigns numbers) :
    (∃ e, Formula.evaluate formula (.ofFloats numbers) {} [] = .error (.formula e) ∧
        e.cause.isStructural = true) ↔
      (∃ e, parse formula {} = .error e) ∨ ∃ u, c.Reaches formula numbers u := by
  constructor
  · rintro ⟨e, he, hc⟩
    cases hp : parse formula {} with
    | error e => exact Or.inl ⟨e, rfl⟩
    | ok output =>
      rw [evaluate_of_parse hp] at he
      rcases Scope.evaluatePostfix_error Formula.builtins_fail he with ⟨u, hm, -⟩ | hf | hf
      · exact Or.inr ⟨u, (reaches_iff hn hp).mpr hm⟩
      · simp [Formula.Cause.isStructural_iff, hf] at hc
      · simp [Formula.Cause.isStructural_iff, hf] at hc
  · rintro (⟨e, hp⟩ | ⟨u, hu⟩)
    · refine ⟨e, evaluate_of_parse_error hp, e.cause.isStructural_iff.mpr ?_⟩
      rcases Formula.parse_error hp with h | h | h <;> simp [h]
    · exact ⟨_, evaluate_of_reaches hn hu, rfl⟩

theorem evaluateFormula_eq_error {e : FormulaError} :
    evaluateFormula formula numbers = .error (.formula e) ↔
      Formula.evaluate formula (.ofFloats numbers) {} [] = .error (.formula e) := by
  rw [evaluateFormula, mapError_eq_error]
  constructor
  · rintro ⟨e', he, h⟩
    cases e' <;> cases h
    exact he
  · exact fun h => ⟨_, h, rfl⟩

/-! ## The check of a formula -/

theorem checkFormula_eq_some {message : String} :
    c.checkFormula formula = .ok (some message) ↔
      ∃ e, Formula.evaluate formula (.ofFloats c.sampleBindings) {} [] = .error (.formula e) ∧
        e.cause.isStructural = true ∧ e.message = message := by
  unfold checkFormula Formula.attempt
  cases Formula.evaluate formula (.ofFloats c.sampleBindings) {} [] with
  | ok x => simp [Except.map]
  | error failure =>
    cases failure with
    | formula e => by_cases hc : e.cause.isStructural = true <;> simp [Except.map, hc]
    | numeric e => simp [Except.map]

/-- A formula passes when the evaluation over 1 shows nothing wrong with the formula itself. -/
theorem not_structural_of_checkFormula (h : c.checkFormula formula = .ok none) :
    ¬ ∃ e, Formula.evaluate formula (.ofFloats c.sampleBindings) {} [] = .error (.formula e) ∧
      e.cause.isStructural = true := by
  rintro ⟨e, he, hc⟩
  rw [checkFormula_eq_some.mpr ⟨e, he, hc, rfl⟩] at h
  cases h

/-- A formula that passes can be read, and the evaluation over 1 reaches no unknown name. A
calculation fails for the formula itself exactly when it reaches one; it then names it. -/
theorem checkFormula_none_reaches (c : Calculator) (formula : String) (numbers : Entries Float)
    (h : c.checkFormula formula = .ok none) (hn : c.Assigns numbers) :
    (∃ output, parse formula {} = .ok output) ∧ (∀ u, ¬ c.Reaches formula c.sampleBindings u) ∧
    ((∃ e, evaluateFormula formula numbers = .error (.formula e) ∧ e.cause.isStructural = true) ↔
      ∃ u, c.Reaches formula numbers u) ∧
    ∀ u, c.Reaches formula numbers u →
      evaluateFormula formula numbers = .error (.formula (.located (.unknownName u.text) u.position formula)) := by
  have hpass := not_structural_of_checkFormula h
  rw [structural_iff c.assigns_sample, not_or] at hpass
  obtain ⟨hread, hsample⟩ := hpass
  refine ⟨?_, fun u hu => hsample ⟨u, hu⟩, ?_, ?_⟩
  · cases hp : parse formula {} with
    | error e => exact absurd ⟨e, hp⟩ hread
    | ok output => exact ⟨output, rfl⟩
  · simp only [evaluateFormula_eq_error]
    rw [structural_iff hn, or_iff_right hread]
  · intro u hu
    exact evaluateFormula_eq_error.mpr (evaluate_of_reaches hn hu)

/-- A calculator whose formula divides before it gets to a name that no input has. -/
def reciprocal : Calculator where
  id := "c"
  title := "C"
  websiteId := "w"
  inputs := [{ id := "x", name := "x", label := "X" }]
  outputs := [{ id := "o", label := "O", formula := "1/(x-1)+nope" }]

theorem evaluate_reciprocal (x : Float) :
    Formula.evaluate "1/(x-1)+nope" (.ofFloats [("x", x)]) {} [] =
      .error (.formula (if x - 1 == 0 then .located .divisionByZero 1 "1/(x-1)+nope"
        else .located (.unknownName "nope") 8 "1/(x-1)+nope")) := by
  have hp : parse "1/(x-1)+nope" {} = .ok [⟨.number, "1", 0⟩, ⟨.name, "x", 3⟩, ⟨.number, "1", 5⟩, ⟨.minus, "-", 4⟩,
      ⟨.slash, "/", 1⟩, ⟨.name, "nope", 8⟩, ⟨.plus, "+", 7⟩] := eq_ok_of_toOption (by decide +kernel)
  have hone : Literal.float? "1" = some 1 := by decide +kernel
  rw [evaluate_of_parse hp]
  simp only [scopeFor, Scope.evaluatePostfix, List.foldlM_cons, Scope.step, Scope.numeral, hone, Scope.lookup,
    Scope.apply]
  by_cases hx : (x - 1 == 0) = true
  · simp [Formula.Bindings.ofFloats, Entries.get?, Value.number?, Number.toFloat, Formula.ofNumeric, hx, Scope.fail]
  · simp [Formula.Bindings.ofFloats, Entries.get?, Value.number?, Number.toFloat, Formula.ofNumeric, hx, Scope.fail]

theorem checkFormula_reciprocal : reciprocal.checkFormula "1/(x-1)+nope" = .ok none := by
  have hsample : reciprocal.sampleBindings = [("x", 1)] := rfl
  have hzero : ((1 : Float) - 1 == 0) = true := by decide +kernel
  rw [checkFormula, Formula.attempt, hsample, evaluate_reciprocal, if_pos hzero]
  rfl

theorem assigns_reciprocal (x : Float) : reciprocal.Assigns [("x", x)] := by
  intro name _
  simp [Entries.get?, Declares, reciprocal]

theorem evaluateFormula_reciprocal :
    evaluateFormula "1/(x-1)+nope" [("x", 2)] =
      .error (.formula (.located (.unknownName "nope") 8 "1/(x-1)+nope")) := by
  have hzero : ((2 : Float) - 1 == 0) = false := by decide +kernel
  rw [evaluateFormula_eq_error, evaluate_reciprocal, hzero]
  rfl

/-- Over 1 the division by zero comes first and the formula passes; over 2 the unknown name is reached. -/
theorem reciprocal_reaches :
    reciprocal.checkFormula "1/(x-1)+nope" = .ok none ∧ reciprocal.Assigns [("x", 2)] ∧
      ∃ u, reciprocal.Reaches "1/(x-1)+nope" [("x", 2)] u := by
  have h := checkFormula_none_reaches reciprocal _ _ checkFormula_reciprocal (assigns_reciprocal 2)
  exact ⟨checkFormula_reciprocal, assigns_reciprocal 2, h.2.2.1.mp ⟨_, evaluateFormula_reciprocal, rfl⟩⟩

/-- So passing the check does not keep a formula of a calculator from failing for a name. -/
theorem checkFormula_none_not_sufficient :
    ¬ ∀ (c : Calculator) (output : Output) (numbers : Entries Float), output ∈ c.outputs →
      c.checkFormula output.formula = .ok none → c.Assigns numbers → (∀ p ∈ numbers, p.2.isFinite = true) →
        ¬ ∃ e, evaluateFormula output.formula numbers = .error (.formula e) ∧ e.cause.isStructural = true := by
  intro h
  have hfinite : (2 : Float).isFinite = true := by decide +kernel
  exact h reciprocal { id := "o", label := "O", formula := "1/(x-1)+nope" } [("x", 2)] List.mem_cons_self
    checkFormula_reciprocal (assigns_reciprocal 2) (by simpa using hfinite) ⟨_, evaluateFormula_reciprocal, rfl⟩

/-- A formula that has a value can be read and knows all its names. -/
theorem knows_of_evaluateFormula {x : Float} (h : evaluateFormula formula numbers = .ok x) (hn : c.Assigns numbers) :
    ∃ output, parse formula {} = .ok output ∧ ∀ u ∈ output, c.Knows u := by
  have he := mapError_eq_ok.mp h
  cases hp : parse formula {} with
  | error e =>
    rw [evaluate_of_parse_error hp] at he
    cases he
  | ok output =>
    rw [evaluate_of_parse hp] at he
    obtain ⟨stack, hrun, -⟩ := bind_eq_ok.mp he
    refine ⟨output, rfl, fun u hu => ?_⟩
    rw [← knows_iff hn (Formula.parse_text_ne_empty hp u hu)]
    exact Scope.knows_of_run hrun u hu

/-- No formula that is reported has a value, whatever the numbers of the declared inputs are. -/
theorem evaluateFormula_fails {message : String} (h : c.checkFormula formula = .ok (some message))
    (hn : c.Assigns numbers) : ∃ e, evaluateFormula formula numbers = .error e := by
  obtain ⟨e, he, hc, -⟩ := checkFormula_eq_some.mp h
  cases hv : evaluateFormula formula numbers with
  | error e => exact ⟨e, rfl⟩
  | ok x =>
    -- both evaluations read the same tokens, so the name that the one over 1 reached stands in the other's way
    obtain ⟨output, hp, hknown⟩ := knows_of_evaluateFormula hv hn
    rcases (structural_iff c.assigns_sample).mp ⟨e, he, hc⟩ with ⟨e, hbad⟩ | ⟨u, before, after, _, hp', -, hu⟩
    · rw [hp] at hbad
      cases hbad
    · cases hp.symm.trans hp'
      exact absurd (hknown u (by simp)) hu

/-! ## The report -/

variable {d : Defect} {ds : List Defect} {i : Nat}

theorem mem_formulaDefects {place name emptyCode wrongCode : String}
    (h : c.formulaDefects formula place name emptyCode wrongCode = .ok ds) (hd : d ∈ ds) :
    d.code = emptyCode ∨ d.code = wrongCode ∧ d.field = place ∧ c.checkFormula formula = .ok (some d.message) := by
  unfold formulaDefects at h
  split at h
  · cases h
    rw [List.mem_singleton.mp hd]
    exact Or.inl rfl
  · obtain ⟨verdict, hv, rfl⟩ := map_eq_ok.mp h
    cases verdict with
    | none => cases hd
    | some message =>
      rw [List.mem_singleton.mp hd]
      exact Or.inr ⟨rfl, rfl, hv⟩

/-- The codes of the defects that do not say that a formula is wrong. -/
def otherCodes : List String :=
  Element.codes ++ ["NO_INPUTS", "EMPTY_INPUT_NAME", "EMPTY_INPUT_LABEL", "INVALID_MIN_MAX", "NO_OPTIONS", "NO_OUTPUTS",
    "EMPTY_OUTPUT_LABEL", "EMPTY_OUTPUT_FORMULA", "EMPTY_BREAKDOWN_FORMULA"]

theorem mem_checkInput {input : Input} (h : d ∈ input.check i) : d.code ∈ otherCodes := by
  simp only [Input.check, List.mem_append] at h
  rcases h with ((h | h) | h) | h <;> rw [Defect.code_of_mem_when h] <;> decide

theorem mem_checkOutput {output : Output} (h : c.checkOutput output i = .ok ds) (hd : d ∈ ds) :
    d.code ∈ otherCodes ∨ d.code = "INVALID_FORMULA" ∧ d.field = s!"outputs[{i}].formula" ∧
      c.checkFormula output.formula = .ok (some d.message) := by
  obtain ⟨defects, hf, rfl⟩ := map_eq_ok.mp h
  rcases List.mem_append.mp hd with hd | hd
  · exact Or.inl (by rw [Defect.code_of_mem_when hd]; decide)
  · rcases mem_formulaDefects hf hd with hc | ⟨hc, hp, hm⟩
    · exact Or.inl (by rw [hc]; decide)
    · refine Or.inr ⟨hc, ?_, hm⟩
      rw [hp]
      simp only [toString, String.append_assoc]
      rfl

theorem mem_checkBreakdownItem {item : BreakdownItem} (h : c.checkBreakdownItem item i = .ok ds) (hd : d ∈ ds) :
    d.code ∈ otherCodes ∨ d.code = "INVALID_BREAKDOWN_FORMULA" ∧ d.field = s!"breakdown[{i}].formula" ∧
      c.checkFormula item.formula = .ok (some d.message) := by
  rcases mem_formulaDefects h hd with hc | hr
  · exact Or.inl (by rw [hc]; decide)
  · exact Or.inr hr

/-- What the defects of a report stand for. -/
theorem mem_check {report : Report} (h : c.check = .ok report) (hd : d ∈ report.defects) :
    d.code ∈ otherCodes ∨
      (∃ (i : Nat) (output : Output), c.outputs[i]? = some output ∧ d.code = "INVALID_FORMULA" ∧
        d.field = s!"outputs[{i}].formula" ∧ c.checkFormula output.formula = .ok (some d.message)) ∨
      ∃ (i : Nat) (item : BreakdownItem), (c.breakdown.getD [])[i]? = some item ∧
        d.code = "INVALID_BREAKDOWN_FORMULA" ∧ d.field = s!"breakdown[{i}].formula" ∧
        c.checkFormula item.formula = .ok (some d.message) := by
  obtain ⟨outputs, ho, h⟩ := bind_eq_ok.mp h
  obtain ⟨breakdown, hb, h⟩ := bind_eq_ok.mp h
  cases h
  simp only [Report.defects_append, List.mem_append] at hd
  rcases hd with hd | (((hd | hd) | hd) | hd) | hd
  · exact Or.inl (List.mem_append.mpr (Or.inl (Element.mem_codes hd)))
  · exact Or.inl (by rw [Defect.code_of_mem_when hd]; decide)
  · obtain ⟨ds, hds, hd⟩ := List.mem_flatten.mp hd
    obtain ⟨i, hi, rfl⟩ := List.mem_mapIdx.mp hds
    exact Or.inl (mem_checkInput hd)
  · exact Or.inl (by rw [Defect.code_of_mem_when hd]; decide)
  · obtain ⟨ds, hds, hd⟩ := List.mem_flatten.mp hd
    obtain ⟨⟨output, i⟩, hi, hc⟩ := exists_of_mem_mapM ho ds hds
    rcases mem_checkOutput hc hd with hd | hd
    · exact Or.inl hd
    · exact Or.inr (Or.inl ⟨i, output, List.mem_zipIdx_iff_getElem?.mp hi, hd⟩)
  · obtain ⟨ds, hds, hd⟩ := List.mem_flatten.mp hd
    obtain ⟨⟨item, i⟩, hi, hc⟩ := exists_of_mem_mapM hb ds hds
    rcases mem_checkBreakdownItem hc hd with hd | hd
    · exact Or.inl hd
    · exact Or.inr (Or.inr ⟨i, item, List.mem_zipIdx_iff_getElem?.mp hi, hd⟩)

/-- A formula that is reported has no value, whatever the numbers of the declared inputs are.
So the report on a calculator holds no formula that some submission could compute. -/
theorem check_reports_no_usable_formula (c : Calculator) :
    (∀ formula message, c.checkFormula formula = .ok (some message) →
      ∀ numbers, c.Assigns numbers → ∃ e, evaluateFormula formula numbers = .error e) ∧
    ∀ report, c.check = .ok report → ∀ d ∈ report.defects,
      (d.code = "INVALID_FORMULA" → ∃ (i : Nat) (output : Output),
        c.outputs[i]? = some output ∧ d.field = s!"outputs[{i}].formula" ∧
          ∀ values numbers, c.numbers values = .ok numbers → ∃ e, evaluateFormula output.formula numbers = .error e) ∧
      (d.code = "INVALID_BREAKDOWN_FORMULA" → ∃ (i : Nat) (item : BreakdownItem),
        (c.breakdown.getD [])[i]? = some item ∧ d.field = s!"breakdown[{i}].formula" ∧
          ∀ values numbers, c.numbers values = .ok numbers → ∃ e, evaluateFormula item.formula numbers = .error e) := by
  refine ⟨fun formula message h numbers hn => evaluateFormula_fails h hn, fun report hr d hd => ?_⟩
  rcases mem_check hr hd with hother | ⟨i, output, hi, hcode, hfield, hm⟩ | ⟨i, item, hi, hcode, hfield, hm⟩
  · constructor
    · intro hcode
      rw [hcode] at hother
      exact absurd hother (by decide)
    · intro hcode
      rw [hcode] at hother
      exact absurd hother (by decide)
  · constructor
    · exact fun _ => ⟨i, output, hi, hfield, fun _ _ hn => evaluateFormula_fails hm (assigns_numbers hn)⟩
    · rw [hcode]
      exact fun h => absurd h (by decide)
  · constructor
    · rw [hcode]
      exact fun h => absurd h (by decide)
    · exact fun _ => ⟨i, item, hi, hfield, fun _ _ hn => evaluateFormula_fails hm (assigns_numbers hn)⟩

def misspelt : Calculator where
  id := "c"
  title := "C"
  websiteId := "w"
  inputs := [{ id := "x", name := "x", label := "X" }]
  outputs := [{ id := "o", label := "O", formula := "nope" }]
  breakdown := some [{ formula := "nope" }]

theorem checkFormula_misspelt : misspelt.checkFormula "nope" = .ok (some "Unknown variable or function: nope") := by
  have hp : parse "nope" {} = .ok [⟨.name, "nope", 0⟩] := eq_ok_of_toOption (by decide +kernel)
  have hsample : misspelt.sampleBindings = [("x", 1)] := rfl
  rw [checkFormula_eq_some]
  refine ⟨.located (.unknownName "nope") 0 "nope", ?_, rfl, by decide⟩
  rw [evaluate_of_parse hp, hsample]
  rfl

theorem check_misspelt :
    misspelt.check = .ok
      ⟨[⟨"outputs[0].formula", "Unknown variable or function: nope", "INVALID_FORMULA"⟩,
        ⟨"breakdown[0].formula", "Unknown variable or function: nope", "INVALID_BREAKDOWN_FORMULA"⟩], []⟩ := by
  have hblank : Text.isBlankText "nope" = false := by decide
  have houtputs : misspelt.outputs = [{ id := "o", label := "O", formula := "nope" }] := rfl
  have hbreakdown : misspelt.breakdown.getD [] = [{ formula := "nope" }] := rfl
  rw [check, houtputs, hbreakdown]
  simp only [List.zipIdx_cons, List.zipIdx_nil, List.mapM_cons, List.mapM_nil, checkOutput, checkBreakdownItem,
    formulaDefects, hblank, checkFormula_misspelt, Bool.false_eq_true, if_false]
  rfl

/-- Both formulas are reported, and neither has a value when nothing is entered. -/
theorem misspelt_fails :
    (misspelt.checkFormula "nope" = .ok (some "Unknown variable or function: nope") ∧
      misspelt.Assigns [("x", 0)] ∧ ∃ e, evaluateFormula "nope" [("x", 0)] = .error e) ∧
    ∃ report d b, misspelt.check = .ok report ∧ d ∈ report.defects ∧ b ∈ report.defects ∧
      d.code = "INVALID_FORMULA" ∧ b.code = "INVALID_BREAKDOWN_FORMULA" ∧ misspelt.numbers [] = .ok [("x", 0)] ∧
      (∃ output ∈ misspelt.outputs, ∃ e, evaluateFormula output.formula [("x", 0)] = .error e) ∧
      ∃ item ∈ misspelt.breakdown.getD [], ∃ e, evaluateFormula item.formula [("x", 0)] = .error e := by
  have hnumbers : misspelt.numbers [] = .ok [("x", 0)] := rfl
  have hassigns := assigns_numbers hnumbers
  obtain ⟨hformula, hreport⟩ := check_reports_no_usable_formula misspelt
  obtain ⟨i, output, hi, -, houtput⟩ := (hreport _ check_misspelt _ List.mem_cons_self).1 rfl
  obtain ⟨k, item, hk, -, hitem⟩ := (hreport _ check_misspelt _ (List.mem_cons_of_mem _ List.mem_cons_self)).2 rfl
  exact ⟨⟨checkFormula_misspelt, hassigns, hformula _ _ checkFormula_misspelt _ hassigns⟩,
    _, _, _, check_misspelt, List.mem_cons_self, List.mem_cons_of_mem _ List.mem_cons_self, rfl, rfl, hnumbers,
    ⟨output, List.mem_of_getElem? hi, houtput _ _ hnumbers⟩, item, List.mem_of_getElem? hk, hitem _ _ hnumbers⟩

end Calculator

end Formwork
