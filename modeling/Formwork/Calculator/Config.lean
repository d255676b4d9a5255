/-
  Formwork.Calculator.Config: what a calculator consists of.
-/

import Formwork.Element.Config

namespace Formwork

namespace Calculator

inductive InputKind where
  | number
  | currency
  | percentage
  | slider
  | select
  | radio
  | toggle
  deriving DecidableEq, Repr

instance : Keyword InputKind where
  all := [.number, .currency, .percentage, .slider, .select, .radio, .toggle]
  word
    | .number => "number"
    | .currency => "currency"
    | .percentage => "percentage"
    | .slider => "slider"
    | .select => "select"
    | .radio => "radio"
    | .toggle => "toggle"
  complete a := by cases a <;> decide
  injective a b := by cases a <;> cases b <;> decide

inductive OutputFormat where
  | number
  | currency
  | percentage
  | custom
  deriving DecidableEq, Repr

instance : Keyword OutputFormat where
  all := [.number, .currency, .percentage, .custom]
  word
    | .number => "number"
    | .currency => "currency"
    | .percentage => "percentage"
    | .custom => "custom"
  complete a := by cases a <;> decide
  injective a b := by cases a <;> cases b <;> decide

inductive BreakdownFormat where
  | number
  | currency
  | percentage
  deriving DecidableEq, Repr

instance : Keyword BreakdownFormat where
  all := [.number, .currency, .percentage]
  word
    | .number => "number"
    | .currency => "currency"
    | .percentage => "percentage"
  complete a := by cases a <;> decide
  injective a b := by cases a <;> cases b <;> decide

inductive CalculatorKind where
  | returns
  | savings
  | pricing
  | sizing
  | custom
  deriving DecidableEq, Repr

instance : Keyword CalculatorKind where
  all := [.returns, .savings, .pricing, .sizing, .custom]
  word
    | .returns => "roi"
    | .savings => "savings"
    | .pricing => "pricing"
    | .sizing => "sizing"
    | .custom => "custom"
  complete a := by cases a <;> decide
  injective a b := by cases a <;> cases b <;> decide

inductive Arrangement where
  | vertical
  | horizontal
  | twoColumn
  deriving DecidableEq, Repr

instance : Keyword Arrangement where
  all := [.vertical, .horizontal, .twoColumn]
  word
    | .vertical => "vertical"
    | .horizontal => "horizontal"
    | .twoColumn => "two-column"
  complete a := by cases a <;> decide
  injective a b := by cases a <;> cases b <;> decide

structure InputChoice where
  value : NumberOrText
  label : String := ""
  deriving DecidableEq, Repr

def InputChoice.schema : Schema InputChoice :=
  .record
    (.need "value" .numberOrText <|
      .or "label" .text "" <|
      .done)
    (fun (value, label, ()) =>
      ⟨value, label⟩)
    (fun r => (r.value, r.label, ()))
    (fun _ => rfl) (fun _ => rfl)

structure Input where
  id : String := ""
  name : String := ""
  label : String := ""
  type : InputKind := .number
  defaultValue : Option NumberOrText := none
  min : Option Float := none
  max : Option Float := none
  step : Option Float := none
  unit : Option String := none
  textBefore : Option String := none
  textAfter : Option String := none
  description : Option String := none
  helpText : Option String := none
  options : Option (List InputChoice) := none
  required : Bool := false
  order : Int := 0
  deriving DecidableEq, Repr

def Input.schema : Schema Input :=
  .record
    (.or "id" .text "" <|
      .or "name" .text "" <|
      .or "label" .text "" <|
      .or "type" (.word inferInstance) .number <|
      .opt "default_value" .numberOrText <|
      .opt "min" (.decimal none) <|
      .opt "max" (.decimal none) <|
      .opt "step" (.decimal none) <|
      .opt "unit" .text <|
      .opt "prefix" .text <|
      .opt "suffix" .text <|
      .opt "description" .text <|
      .opt "help_text" .text <|
      .opt "options" (.list InputChoice.schema) <|
      .or "required" .flag false <|
      .or "order" (.integer none) 0 <|
      .done)
    (fun (id, name, label, type, defaultValue, min, max, step, unit, textBefore, textAfter, description, helpText,
          options, required, order, ()) =>
      ⟨id, name, label, type, defaultValue, min, max, step, unit, textBefore, textAfter, description, helpText,
       options, required, order⟩)
    (fun r => (r.id, r.name, r.label, r.type, r.defaultValue, r.min, r.max, r.step, r.unit, r.textBefore, r.textAfter,
               r.description, r.helpText, r.options, r.required, r.order, ()))
    (fun _ => rfl) (fun _ => rfl)

structure Output where
  id : String
  label : String := ""
  formula : String := ""
  format : OutputFormat := .number
  decimals : Option Int := none
  textBefore : Option String := none
  textAfter : Option String := none
  description : Option String := none
  highlight : Bool := false
  color : Option String := none
  order : Int := 0
  deriving DecidableEq, Repr

def Output.schema : Schema Output :=
  .record
    (.need "id" .text <|
      .or "label" .text "" <|
      .or "formula" .text "" <|
      .or "format" (.word inferInstance) .number <|
      .opt "decimals" (.integer (some 0)) <|
      .opt "prefix" .text <|
      .opt "suffix" .text <|
      .opt "description" .text <|
      .or "highlight" .flag false <|
      .opt "color" .text <|
      .or "order" (.integer none) 0 <|
      .done)
    (fun (id, label, formula, format, decimals, textBefore, textAfter, description, highlight, color, order, ()) =>
      ⟨id, label, formula, format, decimals, textBefore, textAfter, description, highlight, color, order⟩)
    (fun r => (r.id, r.label, r.formula, r.format, r.decimals, r.textBefore, r.textAfter, r.description, r.highlight,
               r.color, r.order, ()))
    (fun _ => rfl) (fun _ => rfl)

/-- A number shown besides the outputs. -/
structure BreakdownItem where
  label : String := ""
  formula : String := ""
  format : BreakdownFormat := .number
  description : Option String := none
  deriving DecidableEq, Repr

def BreakdownItem.schema : Schema BreakdownItem :=
  .record
    (.or "label" .text "" <|
      .or "formula" .text "" <|
      .or "format" (.word inferInstance) .number <|
      .opt "description" .text <|
      .done)
    (fun (label, formula, format, description, ()) =>
      ⟨label, formula, format, description⟩)
    (fun r => (r.label, r.formula, r.format, r.description, ()))
    (fun _ => rfl) (fun _ => rfl)

structure Settings where
  showBreakdown : Bool := false
  realTimeCalculation : Bool := false
  showInputDescriptions : Bool := true
  layout : Arrangement := .vertical
  submitButtonText : Option String := none
  resultTitle : Option String := none
  deriving DecidableEq, Repr

def Settings.schema : Schema Settings :=
  .record
    (.or "show_breakdown" .flag false <|
      .or "real_time_calculation" .flag false <|
      .or "show_input_descriptions" .flag true <|
      .or "layout" (.word inferInstance) .vertical <|
      .opt "submit_button_text" .text <|
      .opt "result_title" .text <|
      .done)
    (fun (showBreakdown, realTimeCalculation, showInputDescriptions, layout, submitButtonText, resultTitle, ()) =>
      ⟨showBreakdown, realTimeCalculation, showInputDescriptions, layout, submitButtonText, resultTitle⟩)
    (fun r => (r.showBreakdown, r.realTimeCalculation, r.showInputDescriptions, r.layout, r.submitButtonText,
               r.resultTitle, ()))
    (fun _ => rfl) (fun _ => rfl)

end Calculator

structure Calculator extends Element where
  calculatorType : Calculator.CalculatorKind := .custom
  inputs : List Calculator.Input := []
  outputs : List Calculator.Output := []
  breakdown : Option (List Calculator.BreakdownItem) := none
  settings : Calculator.Settings := {}
  deriving Repr

def Calculator.schema : Schema Calculator :=
  .record
    (Element.fields (.constant "calculator") (some ()) <|
      .or "calculator_type" (.word inferInstance) .custom <|
      .or "inputs" (.list Calculator.Input.schema) [] <|
      .or "outputs" (.list Calculator.Output.schema) [] <|
      .opt "breakdown" (.list Calculator.BreakdownItem.schema) <|
      .or "settings" Calculator.Settings.schema {} <|
      .done)
    (fun r =>
      let (e, (), calculatorType, inputs, outputs, breakdown, settings, ()) := Element.ofRow r
      ⟨e, calculatorType, inputs, outputs, breakdown, settings⟩)
    (fun c => Element.toRow
      (c.toElement, (), c.calculatorType, c.inputs, c.outputs, c.breakdown, c.settings, ()))
    (fun _ => rfl) (fun _ => rfl)

end Formwork
