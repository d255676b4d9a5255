/-
  Formwork.Time.Timestamp: a date with a time of day, and with its distance from universal
  time where it is known.
-/

import Formwork.Time.Date

namespace Formwork

structure Timestamp where
  date : Date
  hour : Nat
  minute : Nat
  second : Nat
  micro : Nat
  /-- Seconds ahead of universal time; none for a local time. -/
  offset : Option Int
  deriving DecidableEq, Repr

namespace Timestamp

def midnight (d : Date) : Timestamp := ⟨d, 0, 0, 0, 0, none⟩

def check (d : Date) (hour minute second micro : Nat) (offset : Option Int) : Except CalendarError Timestamp :=
  if 23 < hour then .error .hour
  else if 59 < minute then .error .minute
  else if 59 < second then .error .second
  else match offset with
    | none => .ok ⟨d, hour, minute, second, micro, none⟩
    | some o =>
      if 86400 ≤ o.natAbs then .error (.offset (o / 86400) (o % 86400))
      else .ok ⟨d, hour, minute, second, micro, some o⟩

/-- Microseconds since the start of 1970, by the clock that the timestamp shows. -/
def localMicros (t : Timestamp) : Int :=
  (((t.date.dayNumber * 24 + t.hour) * 60 + t.minute) * 60 + t.second) * 1000000 + t.micro

/-- The same instant, or for two local times the same reading. -/
def same (a b : Timestamp) : Bool :=
  match a.offset, b.offset with
  | none, none => a.localMicros == b.localMicros
  | some x, some y => a.localMicros - x * 1000000 == b.localMicros - y * 1000000
  | _, _ => false

def ofEpoch (seconds : Int) (micro : Nat) : Timestamp :=
  let inDay := (seconds % 86400).toNat
  ⟨Date.ofDayNumber (seconds / 86400), inDay / 3600, inDay / 60 % 60, inDay % 60, micro, some 0⟩

/-- `+02:00`, with seconds only where there are any. -/
def offsetText (o : Int) : String :=
  let n := o.natAbs
  (if o < 0 then "-" else "+") ++ s!"{Date.padded 2 (n / 3600)}:{Date.padded 2 (n / 60 % 60)}" ++
    (if n % 60 == 0 then "" else s!":{Date.padded 2 (n % 60)}")

/-- Time of day and distance: `07:08:09.500000+02:00`. -/
def clockText (t : Timestamp) : String :=
  s!"{Date.padded 2 t.hour}:{Date.padded 2 t.minute}:{Date.padded 2 t.second}" ++
    (if t.micro == 0 then "" else s!".{Date.padded 6 t.micro}") ++
    (match t.offset with
      | none => ""
      | some o => offsetText o)

def text (t : Timestamp) : String := s!"{t.date.text}T{t.clockText}"

def zoneLiteral (o : Int) : String :=
  if o == 0 then "datetime.timezone.utc" else s!"datetime.timezone({durationText (o / 86400) (o % 86400)})"

/-- The timestamp spelled out by its fields, seconds and microseconds only as far as there are any:
`datetime.datetime(2024, 5, 6, 7, 8, tzinfo=datetime.timezone.utc)`. -/
def literal (t : Timestamp) : String :=
  let fields := [t.date.year, t.date.month, t.date.day, t.hour, t.minute] ++
    (if t.second == 0 && t.micro == 0 then [] else [t.second]) ++ (if t.micro == 0 then [] else [t.micro])
  let zone := (match t.offset with
    | none => []
    | some o => [s!"tzinfo={zoneLiteral o}"])
  "datetime.datetime(" ++ ", ".intercalate (fields.map toString ++ zone) ++ ")"

end Timestamp

end Formwork
