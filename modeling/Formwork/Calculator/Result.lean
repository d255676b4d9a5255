/-
  Formwork.Calculator.Result: what a calculator computes from the entries.

  Outputs stand under their ids and breakdown items under ids made from their labels; of
  several with one id the last counts, at the place of the first. The summary and the total
  are those of the primary output: the first highlighted one, or else the first.
-/

import Formwork.Calculator.Amount
import Formwork.Calculator.Entry
import Formwork.Element.Processed
import Formwork.Element.Submission
import Formwork.Formula.Evaluation
import Formwork.Text.Lowercase

namespace Formwork

namespace Calculator

structure Shown where
  value : Float
  text : String
  label : String
  description : Option String := none
  highlight : Bool := false
  deriving DecidableEq, Repr

structure Evaluation where
  outputs : Entries Shown
  summary : String
  breakdown : Option (Entries Shown)
  total : Option Float
  deriving DecidableEq, Repr

def joinWords : List Char → List Char
  | [] => []
  | c :: rest =>
    if Text.isBlank c then
      if rest.head?.any Text.isBlank then joinWords rest else '_' :: joinWords rest
    else c :: joinWords rest

/-- The id of a breakdown item: its label in lower case, words joined by underscores. -/
def BreakdownItem.idOf (label : String) : String := String.ofList (joinWords (Text.lower label).toList)

def evaluateFormula (formula : String) (numbers : Entries Float) : Except Failure Float :=
  (Formula.evaluate formula (.ofFloats numbers) {} []).mapError Failure.ofFormula

def Output.shown (output : Output) (numbers : Entries Float) : Except Failure Shown := do
  let value ← evaluateFormula output.formula numbers
  let text ←
    (Amount.formatBetween output.format.style output.decimals output.textBefore output.textAfter value).mapError .numeric
  return ⟨value, text, output.label, output.description, output.highlight⟩

def BreakdownItem.shown (item : BreakdownItem) (numbers : Entries Float) : Except Failure Shown := do
  let value ← evaluateFormula item.formula numbers
  let text ← (Amount.formatBetween item.format.style none none none value).mapError .numeric
  return ⟨value, text, item.label, item.description, false⟩

def shownBy {α : Type} (id : α → String) (display : α → Except Failure Shown) (items : List α) :
    Except Failure (Entries Shown) :=
  items.foldlM (fun (shown : Entries Shown) item => (display item).map (shown.put (id item))) []

def outputsFor (c : Calculator) (numbers : Entries Float) : Except Failure (Entries Shown) :=
  shownBy (·.id) (·.shown numbers) c.outputs

def breakdownFor (c : Calculator) (numbers : Entries Float) : Except Failure (Entries Shown) :=
  shownBy (fun item => BreakdownItem.idOf item.label) (·.shown numbers) (c.breakdown.getD [])

def hasBreakdown (c : Calculator) : Bool := c.settings.showBreakdown && !(c.breakdown.getD []).isEmpty

def primary? (c : Calculator) : Option Output := (c.outputs.find? (·.highlight)).or c.outputs.head?

def summary (c : Calculator) (outputs : Entries Shown) : String :=
  match c.primary?.bind fun o => outputs.get? o.id with
  | some shown => s!"{shown.label}: {shown.text}"
  | none => "Calculation complete"

/-- The value of the primary output; an output with an empty id gives no total. -/
def total? (c : Calculator) (outputs : Entries Shown) : Option Float :=
  (((c.primary?.map (·.id)).filter (· != "")).bind outputs.get?).map (·.value)

def evaluate (c : Calculator) (values : Entries Value) : Except Failure Evaluation := do
  let numbers ← c.numbers values
  let outputs ← c.outputsFor numbers
  let breakdown ← if c.hasBreakdown then (c.breakdownFor numbers).map some else pure none
  return ⟨outputs, c.summary outputs, breakdown, c.total? outputs⟩

def processEntries (c : Calculator) (now : Timestamp) (values : Entries Value) :
    Except NumericError (Processed Evaluation) := do
  let report ← c.checkEntries values
  if !report.isValid then
    return .refused (", ".intercalate (report.defects.map (·.message))) (some report.defects)
  match c.evaluate values with
  | .error e => return .refused e.notice none
  | .ok data =>
    return .done data [("calculatedAt", .text now.text), ("inputCount", .int values.length)]

def process (c : Calculator) (now : Timestamp) (response : Value) : Except NumericError (Processed Evaluation) :=
  match readResponse Response.schema response with
  | .error issues => .ok (.unreadable issues)
  | .ok r => c.processEntries now r.inputValues

/-- The outputs while the visitor is typing: none if that is off or the entries do not make
sense yet. Results out of range remain failures. -/
def liveOutputs (c : Calculator) (values : Entries Value) : Except NumericError (Option (Entries Shown)) :=
  if !c.settings.realTimeCalculation then .ok none
  else match (c.numbers values).bind c.outputsFor with
    | .ok outputs => .ok (some outputs)
    | .error (.numeric e) => if e.isBadValue then .ok none else .error e
    | .error _ => .ok none

/-- The form before anything is entered: defaults, and 0 without one. -/
def initialValues (c : Calculator) : Entries Value :=
  Entries.ofList (c.inputs.map fun input => (input.name, (input.defaultValue.map ofDefault).getD (.int 0)))

def orderedInputs (c : Calculator) : List Input := c.inputs.mergeSort fun a b => a.order ≤ b.order

def orderedOutputs (c : Calculator) : List Output := c.outputs.mergeSort fun a b => a.order ≤ b.order

end Calculator

end Formwork
