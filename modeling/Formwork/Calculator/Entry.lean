/-
  Formwork.Calculator.Entry: the values that a visitor enters.

  An entry counts as the number at its start, so `12.5kg` is 12.5. Every declared input is
  checked, and every violation is reported. What is not entered is taken from the default
  of its input, and is 0 without one.
-/

import Formwork.Calculator.Config
import Formwork.Element.Report
import Formwork.Formula.Error
import Formwork.Number.Layout
import Formwork.Number.Literal

namespace Formwork

namespace Calculator

def finite? (x : Float) : Option Float := if x.isFinite then some x else none

def readText (s : String) : Option Float := (Literal.leading? s.toList).bind finite?

def readNumber : Value → Except NumericError (Option Float)
  | .bool b => .ok (some (if b then 1 else 0))
  | .int n => (Number.toFloat (.int n)).map some
  | .float x => .ok (finite? x)
  | .text s => .ok (readText s)
  | .scalar (.broken codes) => .ok (readText (Text.Points.broken codes).shown)
  | _ => .ok none

def ofDefault : NumberOrText → Value
  | .number x => .float x
  | .text s => .text s

namespace Input

def checkBounds (input : Input) (x : Float) : List Defect :=
  (match input.min with
    | some low =>
      Defect.when (x < low) input.name s!"{input.label} must be at least {briefText low}" "BELOW_MIN"
    | none => []) ++
  match input.max with
  | some high =>
    Defect.when (high < x) input.name s!"{input.label} must be at most {briefText high}" "ABOVE_MAX"
  | none => []

def checkEntry (input : Input) (entry : Option Value) : Except NumericError (List Defect) :=
  match entry.filter Value.isAnswered with
  | none => .ok (Defect.when input.required input.name s!"{input.label} is required" "REQUIRED_INPUT")
  | some v =>
    (readNumber v).map fun
      | none => [⟨input.name, s!"{input.label} must be a valid number", "INVALID_NUMBER"⟩]
      | some x => input.checkBounds x

def entryOrDefault (input : Input) (entry : Option Value) : Option Value :=
  (entry.filter Value.isAnswered).or (input.defaultValue.map ofDefault)

end Input

inductive Failure where
  /-- The entry for the input with this label is no number. -/
  | entry (label : String)
  | formula (e : FormulaError)
  | numeric (e : NumericError)
  deriving DecidableEq, Repr

def Failure.message : Failure → String
  | entry label => s!"{label} must be a valid number"
  | formula e => e.message
  | numeric e => e.message

/-- What a visitor is told about a failure; one that has no text is told of in general. -/
def Failure.notice (e : Failure) : String := if e.message == "" then "Failed to calculate" else e.message

def Failure.ofFormula : Formula.Failure → Failure
  | .formula e => formula e
  | .numeric e => numeric e

def Input.number (input : Input) (entry : Option Value) : Except Failure Float :=
  match input.entryOrDefault entry with
  | none => .ok 0
  | some v =>
    match readNumber v with
    | .error e => .error (.numeric e)
    | .ok none => .error (.entry input.label)
    | .ok (some x) => .ok x

def checkEntries (c : Calculator) (values : Entries Value) : Except NumericError Report :=
  (c.inputs.mapM fun (input : Input) => input.checkEntry (values.get? input.name)).map fun defects =>
    ⟨defects.flatten, []⟩

def numbers (c : Calculator) (values : Entries Value) : Except Failure (Entries Float) :=
  c.inputs.foldlM (fun (numbers : Entries Float) input =>
    (input.number (values.get? input.name)).map (numbers.put input.name)) []

end Calculator

end Formwork
