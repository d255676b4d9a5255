/-
  Formwork.Time.Reading: timestamps written as text or counted in seconds.

  A text is a date, a separator, a time of day and optionally a distance from universal
  time, all with fixed numbers of digits; or a date alone, which means its midnight; or a
  number. A number counts seconds from the start of 1970, or milliseconds beyond
  20,000,000,000 in either direction, and gives universal time. Moments are told from the
  year 0 on, but the calendar begins with the year 1, so those of the year 0 are refused
  for a reason of their own.
-/

import Formwork.Number.Literal
import Formwork.Time.Timestamp

namespace Formwork.Timestamp

inductive ReadError where
  | unreadable
  | yearZero
  deriving DecidableEq, Repr

def inCalendar : Option Timestamp → Except ReadError Timestamp
  | none => .error .unreadable
  | some t => if t.date.year == 0 then .error .yearZero else .ok t

def takeDigits : Nat → List Char → Option (Nat × List Char)
  | n, cs =>
    let ds := cs.take n
    if ds.length == n && ds.all Char.isDigit then
      some (ds.foldl (fun v c => 10 * v + (c.toNat - '0'.toNat)) 0, cs.drop n)
    else none

/-- `YYYY-MM-DD` in the years 0 to 9999, and the rest. -/
def takeDate (cs : List Char) : Option (Date × List Char) := do
  let (year, cs) ← takeDigits 4 cs
  let cs ← (match cs with | '-' :: r => some r | _ => none)
  let (month, cs) ← takeDigits 2 cs
  let cs ← (match cs with | '-' :: r => some r | _ => none)
  let (day, cs) ← takeDigits 2 cs
  if month < 1 || 12 < month || day < 1 || Date.daysIn year month < day then none
  return (⟨year, month, day⟩, cs)

/-- A fraction of a second in microseconds, further digits cut off, and the rest. -/
def takeFraction (cs : List Char) : Option (Nat × List Char) :=
  match cs with
  | c :: rest =>
    if c == '.' || c == ',' then
      let ds := rest.takeWhile Char.isDigit
      if ds.isEmpty then none
      else
        let six := (ds ++ List.replicate 6 '0').take 6
        some (six.foldl (fun v c => 10 * v + (c.toNat - '0'.toNat)) 0, rest.dropWhile Char.isDigit)
    else some (0, cs)
  | [] => some (0, [])

/-- Nothing, `Z`, or a sign with hours and minutes: the distance in seconds, for the whole rest. -/
def readOffset (cs : List Char) : Option (Option Int) :=
  match cs with
  | [] => some none
  | ['Z'] | ['z'] => some (some 0)
  | c :: rest =>
    if c == '+' || c == '-' || c == '\u2212' then do
      let (hours, rest) ← takeDigits 2 rest
      let rest := (match rest with | ':' :: r => r | r => r)
      let (minutes, rest) ← takeDigits 2 rest
      if rest.isEmpty && hours ≤ 23 && minutes ≤ 59 then
        let seconds : Int := hours * 3600 + minutes * 60
        return some (if c == '+' then seconds else -seconds)
      else none
    else none

def readFull (cs : List Char) : Option Timestamp := do
  let (date, cs) ← takeDate cs
  let cs ← (match cs with
    | c :: r => if c == 'T' || c == 't' || c == ' ' || c == '_' then some r else none
    | [] => none)
  let (hour, cs) ← takeDigits 2 cs
  let cs ← (match cs with | ':' :: r => some r | _ => none)
  let (minute, cs) ← takeDigits 2 cs
  let (second, micro, cs) ← (match cs with
    | ':' :: r => do
      let (second, r) ← takeDigits 2 r
      let (micro, r) ← takeFraction r
      return (second, micro, r)
    | r => some (0, 0, r))
  let offset ← readOffset cs
  (check date hour minute second micro offset).toOption

/-! ## Counts -/

/-- The start of the year 0, in seconds. -/
def firstSecond : Int := -62167219200

/-- The last second of the year 9999. -/
def finalSecond : Int := 253402300799

/-- Counts beyond it, in either direction, are of milliseconds. -/
def secondsLimit : Nat := 20000000000

def ofSeconds? (second : Int) (micros : Nat) : Option Timestamp :=
  let second := second + (micros / 1000000 : Nat)
  if second < firstSecond || finalSecond < second then none else some (ofEpoch second (micros % 1000000))

def ofCount? (n : Int) : Option Timestamp :=
  if secondsLimit < n.natAbs then ofSeconds? (n / 1000) ((n % 1000).toNat * 1000) else ofSeconds? n 0

def nearest? (x : Float) : Option Nat := do
  let whole ← Binary64.floor? x
  return (if 0.5 ≤ x - (← Binary64.ofInt? whole) then whole + 1 else whole).toNat

def ofFloat? (x : Float) : Option Timestamp := do
  let whole ← Binary64.floor? x
  let fraction := x - (← Binary64.ofInt? whole)
  if secondsLimit.toFloat < x.abs then
    ofSeconds? (whole / 1000) ((whole % 1000).toNat * 1000 + (← nearest? (fraction * 1000)))
  else ofSeconds? whole (← nearest? (fraction * 1000000))

/-- A count in digits of ASCII: an integer, or a decimal literal with a point before any power of ten. -/
def ofCountText? (cs : List Char) : Option Timestamp :=
  let (negative, digits) := Literal.takeSign cs
  if !digits.isEmpty && digits.all Char.isDigit then
    let n : Int := Text.digitsValue digits
    ofCount? (if negative then -n else n)
  else if digits.all (·.toNat < 128) && (digits.takeWhile (!Literal.isMark ·)).contains '.' then
    match Literal.take digits with
    | some (l, []) => ofFloat? (Binary64.signed negative l.value)
    | _ => none
  else none

/-! ## Texts -/

def ofDateText? (cs : List Char) : Option Timestamp :=
  match takeDate cs with
  | some (d, []) => some (midnight d)
  | _ => none

def read (s : String) : Except ReadError Timestamp :=
  let cs := s.toList
  inCalendar (((readFull cs).or (ofCountText? cs)).or (ofDateText? cs))

end Formwork.Timestamp
