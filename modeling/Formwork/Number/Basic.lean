/-
  Formwork.Number.Basic: numbers as documents and answers hold them.

  A number is an integer of any size or a float. Comparison is exact between the two kinds.
  Adding and dividing keep integers exact as long as they can and say why they fail:
  a quotient of integers is rounded once, however large they are.
-/

import Formwork.Number.Binary64

namespace Formwork

inductive NumericError where
  | integerTooLarge
  | quotientTooLarge
  | infinityHasNoInteger
  | nanHasNoInteger
  | divisionByZero
  | floatDivisionByZero
  | outsideDomain
  /-- More digits than a text may hand over as an integer. -/
  | tooManyDigits (count : Nat)
  /-- An integer of more digits than are written. -/
  | integerTooLong
  /-- No decimal stands for the value. -/
  | notDecimal
  /-- A number of places below zero. -/
  | placesUnusable
  /-- A number of places so far below zero that its unit is no decimal. -/
  | unitTooLarge
  /-- More digits than a decimal may have. -/
  | precisionOutOfRange
  /-- More digits than can be counted. -/
  | precisionTooLarge
  /-- More places than a decimal may have digits. -/
  | tooManyPlaces
  /-- The text is no number. -/
  | unreadable (quoted : String)
  deriving DecidableEq, Repr

namespace NumericError

/-- The most digits of an integer that is read from a text or written as one. -/
def digitLimit : Nat := 4300

def message : NumericError → String
  | integerTooLarge => "int too large to convert to float"
  | quotientTooLarge => "integer division result too large for a float"
  | infinityHasNoInteger => "cannot convert float infinity to integer"
  | nanHasNoInteger => "cannot convert float NaN to integer"
  | divisionByZero => "division by zero"
  | floatDivisionByZero => "float division by zero"
  | outsideDomain => "math domain error"
  | tooManyDigits count =>
    s!"Exceeds the limit ({digitLimit} digits) for integer string conversion: value has {count} digits; " ++
      "use sys.set_int_max_str_digits() to increase the limit"
  | integerTooLong =>
    s!"Exceeds the limit ({digitLimit} digits) for integer string conversion; " ++
      "use sys.set_int_max_str_digits() to increase the limit"
  | notDecimal => "[<class 'decimal.InvalidOperation'>]"
  | placesUnusable => "invalid format string"
  | unitTooLarge => "[<class 'decimal.Overflow'>]"
  | precisionOutOfRange => "valid range for prec is [1, MAX_PREC]"
  | precisionTooLarge => "Python int too large to convert to C ssize_t"
  | tooManyPlaces => "format specification exceeds internal limits of _decimal"
  | unreadable quoted => s!"could not convert string to float: {quoted}"

/-- A value of the right type that is not acceptable, as against a result out of range. -/
def isBadValue : NumericError → Bool
  | nanHasNoInteger | outsideDomain | tooManyDigits _ | integerTooLong | placesUnusable | precisionOutOfRange
  | tooManyPlaces | unreadable _ => true
  | integerTooLarge | quotientTooLarge | infinityHasNoInteger | divisionByZero | floatDivisionByZero | notDecimal
  | unitTooLarge | precisionTooLarge => false

end NumericError

inductive Number where
  | int (n : Int)
  | float (x : Float)
  deriving DecidableEq, Repr

namespace Number

/-- The nearest float; integers beyond the range of floats have none. -/
def toFloat : Number → Except NumericError Float
  | int n =>
    match Binary64.ofInt? n with
    | some x => .ok x
    | none => .error .integerTooLarge
  | float x => .ok x

def compare : Number → Number → Option Ordering
  | int a, int b => some (Ord.compare a b)
  | int a, float y => Binary64.compareInt a y
  | float x, int b => (Binary64.compareInt b x).map Ordering.swap
  | float x, float y =>
    if x < y then some .lt else if y < x then some .gt else if x == y then some .eq else none

def same (a b : Number) : Bool := a.compare b == some .eq

def lt (a b : Number) : Bool := a.compare b == some .lt

def le (a b : Number) : Bool := a.compare b == some .lt || a.compare b == some .eq

/-- Integers add up exactly; with a float on either side the other one is converted. -/
def add : Number → Number → Except NumericError Number
  | int a, int b => .ok (int (a + b))
  | a, b => do
    let x ← a.toFloat
    let y ← b.toFloat
    return float (x + y)

def div : Number → Number → Except NumericError Float
  | int a, int b =>
    if b == 0 then .error .divisionByZero
    else match Binary64.divInt? a b with
      | some x => .ok x
      | none => .error .quotientTooLarge
  | a, b => do
    let x ← a.toFloat
    let y ← b.toFloat
    if y == 0 then .error .floatDivisionByZero else return x / y

def sum (xs : List Number) : Except NumericError Number := xs.foldlM add (int 0)

end Number

/-- The whole number nearest to a float, a half counting up; rounding is done on `x + 0.5`. -/
def roundHalfUp (x : Float) : Except NumericError Int :=
  match Binary64.floor? (x + 0.5) with
  | some n => .ok n
  | none => .error (if (x + 0.5).isNaN then .nanHasNoInteger else .infinityHasNoInteger)

def wholeFloat (x : Float) (whole : Option Int) : Except NumericError Float :=
  match whole with
  | some n => (Number.int n).toFloat
  | none => .error (if x.isNaN then .nanHasNoInteger else .infinityHasNoInteger)

def roundedFloat (x : Float) : Except NumericError Float := do
  (Number.int (← roundHalfUp x)).toFloat

def percentage (part whole : Number) : Except NumericError Int := do
  roundHalfUp ((← part.div whole) * 100)

end Formwork
