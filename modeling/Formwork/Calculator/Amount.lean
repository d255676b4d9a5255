/-
  Formwork.Calculator.Amount: how amounts are shown.

  An amount is the decimal that a float is written as, rounded to a fixed number of places, a
  half away from zero. Plain and currency amounts are grouped in threes, percentages are
  not. A plain amount or percentage below zero keeps its minus even where it rounds to zero;
  a currency amount does not. The number of places has limits on both sides, which are looked
  at before the amount is.
-/

import Formwork.Calculator.Config
import Formwork.Number.Basic
import Formwork.Number.Places

namespace Formwork

/-- `units` of `10 ^ -places`, negated when `negative`. -/
structure Amount where
  negative : Bool
  units : Nat
  places : Nat
  deriving DecidableEq, Repr

namespace Amount

inductive Style where
  | number
  | currency
  | percentage
  deriving DecidableEq, Repr

def defaultPlaces : Int := 2

/-! ## Limits -/

def exponentLimit : Nat := 999999

def basePrecision : Nat := 28

/-- The digits that a decimal has at most room for. -/
def precisionLimit : Nat := 999999999999999999

def countLimit : Nat := 0x7FFFFFFFFFFFFFFF

def leading (x : Float) : Int :=
  match Binary64.parts x with
  | .finite _ m q => if m == 0 then -1 else (Decimal.shortest m q).leading
  | _ => 0

/-- The decimal that a float is rounded to has room for its digits, and the unit that it is rounded to is a decimal. -/
def checkPlaces (places : Int) (x : Float) : Except NumericError Unit :=
  let digits := leading x + places + 2
  if countLimit < digits then .error .precisionTooLarge
  else if precisionLimit < digits then .error .precisionOutOfRange
  else if places < -(2 * (exponentLimit + basePrecision)) then .error .notDecimal
  else if places < -exponentLimit then .error .unitTooLarge
  else .ok ()

/-! ## Rounding -/

def precision (x : Float) (places : Nat) : Nat := max basePrecision (leading x + places + 2).toNat

/-- A finite float to that many places, which has to fit. -/
def ofFloat? (x : Float) (places : Nat) : Option Amount :=
  match Binary64.parts x with
  | .finite negative m q =>
    let units := (Decimal.shortest m q).units places
    if units < Nat.pow 10 (precision x places) then some ⟨negative, units, places⟩ else none
  | _ => none

def signText (negative : Bool) : List Char := if negative then ['-'] else []

/-- `1,234.50`, `-$12.50` or `12.50%`. What stands behind the currency sign is an absolute value, which is
taken with the digits that there is room for in general. -/
def text (a : Amount) : Style → List Char
  | .number => signText a.negative ++ placesText true a.places a.units
  | .currency =>
    signText (a.negative && a.units != 0) ++ '$' :: placesText true a.places (significant basePrecision a.units)
  | .percentage => signText a.negative ++ placesText false a.places a.units ++ ['%']

/-! ## Texts -/

/-- A float in a style, a percentage being the ratio times 100. Infinities have no text, and a
NaN has no sign to be told for a currency. -/
def format (style : Style) (places : Int) (x : Float) : Except NumericError String := do
  let x := if style == .percentage then x * 100 else x
  checkPlaces places x
  if x.isInf || (x.isNaN && style == .currency) then throw .notDecimal
  if places < 0 then throw .placesUnusable
  if x.isNaN then return if style == .percentage then "NaN%" else "NaN"
  if precisionLimit < places then throw .tooManyPlaces
  match ofFloat? x places.toNat with
  | some a => return String.ofList (a.text style)
  | none => throw .notDecimal

def formatBetween (style : Style) (places : Option Int) (before after : Option String) (x : Float) :
    Except NumericError String :=
  (format style (places.getD defaultPlaces) x).map fun s => before.getD "" ++ s ++ after.getD ""

end Amount

namespace Calculator

/-- A custom output is shown as a number between its texts. -/
def OutputFormat.style : OutputFormat → Amount.Style
  | .currency => .currency
  | .percentage => .percentage
  | .number | .custom => .number

def BreakdownFormat.style : BreakdownFormat → Amount.Style
  | .number => .number
  | .currency => .currency
  | .percentage => .percentage

end Calculator

end Formwork
