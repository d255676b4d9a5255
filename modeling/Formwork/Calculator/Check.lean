/-
  Formwork.Calculator.Check: what an author gets to hear about a calculator.

  A formula is checked by evaluating it with 1 for every declared name. Only what is wrong
  with the formula itself is reported: that it cannot be read, exceeds a bound or names
  something unknown. Failures that depend on the values are not.
-/

import Formwork.Calculator.Config
import Formwork.Element.Check
import Formwork.Formula.Evaluation
import Formwork.Text.Blank

namespace Formwork

/-- The formula itself is at fault, whatever the values. -/
def Formula.Cause.isStructural : Formula.Cause → Bool
  | .comma | .exceeds .. | .empty | .endsEarly | .unclosed | .unopened | .operatorFirst _ | .operandTwice _
  | .stray _ | .emptyGroup | .unknownName _ => true
  | .notANumber _ | .divisionByZero | .moduloByZero | .powerUndefined .. | .rejected .. | .notFinite
  | .missingOperand _ | .unknownOperator _ | .malformed => false

namespace Calculator

def Input.check (input : Input) (index : Nat) : List Defect :=
  let place := s!"inputs[{index}]"
  let label := s!"Input {index + 1}"
  Defect.when (Text.isBlankText input.name) s!"{place}.name" s!"{label} name is required" "EMPTY_INPUT_NAME" ++
  Defect.when (Text.isBlankText input.label) s!"{place}.label" s!"{label} label is required" "EMPTY_INPUT_LABEL" ++
  Defect.when (match input.min, input.max with
      | some low, some high => decide (high < low)
      | _, _ => false)
    s!"{place}.min" s!"{label} min value cannot be greater than max" "INVALID_MIN_MAX" ++
  Defect.when ((input.type == .select || input.type == .radio) && input.options.all List.isEmpty)
    s!"{place}.options" s!"{label} requires options for type {Keyword.word input.type}" "NO_OPTIONS"

/-- The names that formulas may use, each standing for 1. -/
def sampleBindings (c : Calculator) : Entries Float :=
  Entries.ofList ((c.inputs.filter (·.name != "")).map fun input => (input.name, 1))

/-- What is wrong with a formula, unless it depends on the values. -/
def checkFormula (c : Calculator) (formula : String) : Except NumericError (Option String) :=
  (Formula.attempt formula (.ofFloats c.sampleBindings) {} []).map fun
    | .ok _ => none
    | .error e => if e.cause.isStructural then some e.message else none

def formulaDefects (c : Calculator) (formula place name emptyCode wrongCode : String) :
    Except NumericError (List Defect) :=
  if Text.isBlankText formula then .ok [⟨place, s!"{name} formula is required", emptyCode⟩]
  else (c.checkFormula formula).map fun
    | some message => [⟨place, message, wrongCode⟩]
    | none => []

def checkOutput (c : Calculator) (output : Output) (index : Nat) : Except NumericError (List Defect) :=
  let place := s!"outputs[{index}]"
  let name := s!"Output {index + 1}"
  (c.formulaDefects output.formula s!"{place}.formula" name "EMPTY_OUTPUT_FORMULA" "INVALID_FORMULA").map
    (Defect.when (Text.isBlankText output.label) s!"{place}.label" s!"{name} label is required"
      "EMPTY_OUTPUT_LABEL" ++ ·)

def checkBreakdownItem (c : Calculator) (item : BreakdownItem) (index : Nat) : Except NumericError (List Defect) :=
  c.formulaDefects item.formula s!"breakdown[{index}].formula" s!"Breakdown item {index + 1}"
    "EMPTY_BREAKDOWN_FORMULA" "INVALID_BREAKDOWN_FORMULA"

/-- The report on a calculator; arithmetic outside the floats in a formula has no report. -/
def check (c : Calculator) : Except NumericError Report := do
  let inputs := c.inputs.mapIdx fun i input => input.check i
  let outputs ← (c.outputs.zipIdx).mapM fun o => c.checkOutput o.1 o.2
  let breakdown ← ((c.breakdown.getD []).zipIdx).mapM fun b => c.checkBreakdownItem b.1 b.2
  return c.toElement.check ++
    ⟨Defect.when c.inputs.isEmpty "inputs" "Calculator must have at least one input" "NO_INPUTS" ++ inputs.flatten ++
      Defect.when c.outputs.isEmpty "outputs" "Calculator must have at least one output" "NO_OUTPUTS" ++
      outputs.flatten ++ breakdown.flatten, []⟩

end Calculator

end Formwork
