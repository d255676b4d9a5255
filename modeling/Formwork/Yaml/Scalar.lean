/-
  Formwork.Yaml.Scalar: what the texts of scalars stand for.

  A plain scalar without a tag is a truth value, a number, a timestamp or nothing if it is
  written like one, and a text otherwise. A tag says what any scalar is, and then its text
  has to make sense as that.
-/

import Formwork.Number.Literal
import Formwork.Text.Lowercase
import Formwork.Value
import Formwork.Yaml.Folding

namespace Formwork.Yaml

inductive Kind where
  | null
  | flag
  | integer
  | float
  | binary
  | timestamp
  | text
  | sequence
  | mapping
  | set
  /-- A sequence of mappings of one entry each. -/
  | pairs
  /-- A key whose value is merged into the mapping. -/
  | merge
  /-- A key whose value stands for the whole mapping. -/
  | default
  | unknown
  deriving DecidableEq, Repr

def Kind.isCollection : Kind → Bool
  | sequence | mapping | set | pairs => true
  | _ => false

def Kind.isScalar : Kind → Bool
  | null | flag | integer | float | binary | timestamp | text => true
  | _ => false

def kinds : List (String × Kind) := [
  ("null", .null), ("bool", .flag), ("int", .integer), ("float", .float), ("binary", .binary),
  ("timestamp", .timestamp), ("omap", .pairs), ("pairs", .pairs), ("set", .set), ("str", .text), ("seq", .sequence),
  ("map", .mapping), ("merge", .merge), ("value", .default)]

def Kind.ofTag (tag : String) : Kind :=
  ((kinds.find? fun k => "tag:yaml.org,2002:" ++ k.1 == tag).map (·.2)).getD .unknown

/-! ## How scalars are written -/

def nullWords : List String := ["~", "null", "Null", "NULL"]

def flagWords : List String := [
  "yes", "Yes", "YES", "no", "No", "NO", "true", "True", "TRUE", "false", "False", "FALSE", "on", "On", "ON", "off",
  "Off", "OFF"]

def dropSign : List Char → List Char
  | '-' :: rest | '+' :: rest => rest
  | cs => cs

def digitOrJoin (ok : Char → Bool) (c : Char) : Bool := ok c || c == '_'

def isRun (cs : List Char) : Bool := cs.head?.any Char.isDigit && cs.all (digitOrJoin Char.isDigit)

def isSixty (part : List Char) : Bool :=
  match part with
  | [c] => c.isDigit
  | [c, d] => '0' ≤ c && c ≤ '5' && d.isDigit
  | _ => false

def splitColons (cs : List Char) : List (List Char) := cs.splitOn ':'

def isInteger (cs : List Char) : Bool :=
  let unsigned := dropSign cs
  match unsigned with
  | '0' :: 'b' :: c :: rest => (c :: rest).all (digitOrJoin fun d => d == '0' || d == '1')
  | '0' :: 'x' :: c :: rest => (c :: rest).all (digitOrJoin Text.isHex)
  | ['0'] => true
  | '0' :: rest => rest.all (digitOrJoin fun d => '0' ≤ d && d ≤ '7')
  | _ =>
    match splitColons unsigned with
    | first :: parts => isRun first && parts.all isSixty
    | [] => false

def isPower (cs : List Char) : Bool :=
  match cs with
  | [] => true
  | e :: sign :: digits =>
    (e == 'e' || e == 'E') && (sign == '-' || sign == '+') && !digits.isEmpty && digits.all Char.isDigit
  | _ => false

def isFloat (cs : List Char) : Bool :=
  let unsigned := dropSign cs
  let whole := unsigned.takeWhile (· != '.')
  match unsigned.dropWhile (· != '.') with
  | [] => false
  | _ :: fraction =>
    let digits := fraction.takeWhile (digitOrJoin Char.isDigit)
    let power := fraction.dropWhile (digitOrJoin Char.isDigit)
    if whole.isEmpty then
      [".inf", ".Inf", ".INF"].contains (String.ofList unsigned) ||
      [".nan", ".NaN", ".NAN"].contains (String.ofList cs) ||
        (unsigned == cs && isRun digits && isPower power)
    else
      match splitColons whole with
      | [whole] => isRun whole && isPower power
      | first :: parts => isRun first && parts.all isSixty && power.isEmpty
      | [] => false

/-! ## Timestamps -/

def takeDigits (least most : Nat) (cs : List Char) : Option (Nat × List Char) :=
  let digits := (cs.take most).takeWhile Char.isDigit
  if digits.length < least then none
  else some (Text.numberIn 10 digits, cs.drop digits.length)

def takeSign (c : Char) (cs : List Char) : Option (List Char) := if cs.head? == some c then some (cs.drop 1) else none

/-- The fields of a timestamp; without a time it is a date. -/
structure Moment where
  year : Nat
  month : Nat
  day : Nat
  /-- Hour, minute, second, microsecond and the distance from universal time in seconds. -/
  clock : Option (Nat × Nat × Nat × Nat × Option Int)

def isGap (c : Char) : Bool := c == ' ' || c == '\t'

/-- Nothing, `Z`, or a sign with hours and possibly minutes, for the whole rest. -/
def takeZone (cs : List Char) : Option (Option Int) :=
  match cs.dropWhile isGap with
  | [] => if cs.isEmpty then some none else none
  | ['Z'] => some (some 0)
  | sign :: rest => do
    if sign != '+' && sign != '-' then none
    let (hours, rest) ← takeDigits 1 2 rest
    let (minutes, rest) ← if rest.isEmpty then some (0, []) else takeDigits 2 2 (← takeSign ':' rest)
    if !rest.isEmpty then none
    let seconds : Int := hours * 3600 + minutes * 60
    return some (if sign == '-' then -seconds else seconds)

def takeClock (cs : List Char) : Option (Nat × Nat × Nat × Nat × Option Int) := do
  let (hour, cs) ← takeDigits 1 2 cs
  let (minute, cs) ← takeDigits 2 2 (← takeSign ':' cs)
  let (second, cs) ← takeDigits 2 2 (← takeSign ':' cs)
  let (fraction, cs) :=
    match cs with
    | '.' :: rest => (rest.takeWhile Char.isDigit, rest.dropWhile Char.isDigit)
    | rest => ([], rest)
  let micro := Text.numberIn 10 ((fraction ++ List.replicate 6 '0').take 6)
  return (hour, minute, second, micro, ← takeZone cs)

def moment? (cs : List Char) : Option Moment := do
  let (year, cs) ← takeDigits 4 4 cs
  let (month, cs) ← takeDigits 1 2 (← takeSign '-' cs)
  let (day, cs) ← takeDigits 1 2 (← takeSign '-' cs)
  match cs with
  | [] => return ⟨year, month, day, none⟩
  | c :: rest =>
    if c == 'T' || c == 't' then return ⟨year, month, day, some (← takeClock rest)⟩
    else if isGap c then return ⟨year, month, day, some (← takeClock (rest.dropWhile isGap))⟩
    else none

def Moment.scalar (m : Moment) : Except CalendarError Scalar :=
  match m.clock with
  | none => (Date.check m.year m.month m.day).map .date
  | some (hour, minute, second, micro, offset) => do
    if let some o := offset then
      if 86400 ≤ o.natAbs then throw (.offset (o / 86400) (o % 86400))
    let date ← Date.check m.year m.month m.day
    return .time (← Timestamp.check date hour minute second micro offset)

/-- Written as a timestamp: a date alone has two digits for month and day. -/
def isTimestamp (cs : List Char) : Bool := (moment? cs).any fun m => m.clock.isSome || cs.length == 10

def signWords : List String := ["!", "&", "*"]

/-- What the text of a scalar says that it is; a line feed at its end does not count. -/
def Kind.ofText (points : Text.Points) : Kind :=
  let text := points.shown
  let cs := dropFinalNewline text.toList
  let word := String.ofList cs
  if text == "" then .null
  else if word == "" then .text
  else if flagWords.contains word then .flag
  else if isFloat cs then .float
  else if isInteger cs then .integer
  else if word == "<<" then .merge
  else if nullWords.contains word then .null
  else if isTimestamp cs then .timestamp
  else if word == "=" then .default
  else if signWords.contains word then .unknown
  else .text

/-! ## Values -/

def flag (text : Text.Points) : Except Error Bool :=
  match text.lower with
  | .text "yes" | .text "true" | .text "on" => .ok true
  | .text "no" | .text "false" | .text "off" => .ok false
  | word => .error (.noFlag word)

def digitIn? (base : Nat) (c : Char) : Option Nat :=
  ((Text.digit? c).or (if Text.isHex c then some (Text.hexDigit c) else none)).filter (· < base)

def baseMark? : Nat → Option Char
  | 2 => some 'b'
  | 8 => some 'o'
  | 16 => some 'x'
  | _ => none

/-- An integer in a base: white space around it, a sign and the mark of the base are allowed. -/
def integerIn (base : Nat) (codes : List Nat) : Except Error Int :=
  let (negative, unsigned) := Literal.takeSign (Text.trimPadding (codes.map Char.ofNat))
  let digits :=
    match unsigned with
    | '0' :: c :: rest => if some c.toLower == baseMark? base && !rest.isEmpty then rest else unsigned
    | _ => unsigned
  if digits.isEmpty || !digits.all (digitIn? base · |>.isSome) then .error (.noInteger base (.ofCodes codes))
  else if base == 10 && NumericError.digitLimit < digits.length then .error (.numeric (.tooManyDigits digits.length))
  else
    let n : Nat := digits.foldl (fun (n : Nat) c => base * n + (digitIn? base c).getD 0) 0
    .ok (if negative then -(n : Int) else n)

/-- The code points of a number without its underscores and its sign; `true` is minus. -/
def unsignedCodes (text : Text.Points) : Except Error (Bool × List Nat) :=
  let codes := text.codes.filter (· != '_'.toNat)
  let negative := codes.head? == some '-'.toNat
  let signed := negative || codes.head? == some '+'.toNat
  if codes.isEmpty then .error .emptyNumber else .ok (negative, if signed then codes.drop 1 else codes)

def integer (text : Text.Points) : Except Error Int := do
  let (negative, codes) ← unsignedCodes text
  let n ←
    match codes.map Char.ofNat with
    | [] => throw .emptyNumber
    | ['0'] => pure 0
    | '0' :: 'b' :: _ => integerIn 2 (codes.drop 2)
    | '0' :: 'x' :: _ => integerIn 16 (codes.drop 2)
    | '0' :: _ => integerIn 8 codes
    | _ =>
      if codes.contains ':'.toNat then
        (codes.splitOn ':'.toNat).foldlM (fun n part => (integerIn 10 part).map (60 * n + ·)) 0
      else integerIn 10 codes
  return if negative then -n else n

def floatOf (codes : List Nat) : Except Error Float :=
  match Literal.float? (String.ofList (codes.map Char.ofNat)) with
  | some x => .ok x
  | none => .error (.numeric (.unreadable (Text.Points.ofCodes codes).quoted))

def sixtyFold (parts : List Float) : Except NumericError Float :=
  parts.reverse.zipIdx.foldlM (fun total p => do return total + p.1 * (← (Number.int (Nat.pow 60 p.2)).toFloat)) 0

/-- Decimal, base 60 or a special value, with underscores anywhere. -/
def float (text : Text.Points) : Except Error Float := do
  let (negative, codes) ← unsignedCodes text
  let word := (Text.Points.ofCodes codes).lower
  let x ←
    match word with
    | .text ".inf" => pure Binary64.infinity
    | .text ".nan" => return Binary64.nan
    | _ =>
      if codes.contains ':'.toNat then
        (sixtyFold (← (word.codes.splitOn ':'.toNat).mapM floatOf)).mapError .numeric
      else floatOf word.codes
  return Binary64.signed negative x

def base64Digit? (c : Char) : Option Nat :=
  if c.isUpper then some (c.toNat - 65)
  else if c.isLower then some (c.toNat - 71)
  else if c.isDigit then some (c.toNat + 4)
  else if c == '+' then some 62
  else if c == '/' then some 63
  else none

/-- Bytes from letters of base 64, other characters passed over: `count` letters of the current
four are held, their value in `held`, and `pads` signs of the padding have come since. -/
def base64 : List Char → (count held pads : Nat) → List UInt8 → Option (List UInt8)
  | [], count, _, _, bytes => if count == 0 then some bytes.reverse else none
  | c :: rest, count, held, pads, bytes =>
    if c == '=' then
      if 2 ≤ count && 4 ≤ count + pads + 1 then some bytes.reverse
      else base64 rest count held (if 2 ≤ count then pads + 1 else pads) bytes
    else match base64Digit? c with
      | none => base64 rest count held pads bytes
      | some d =>
        match count with
        | 0 => base64 rest 1 d 0 bytes
        | 1 => base64 rest 2 (d % 16) 0 (UInt8.ofNat (held * 4 + d / 16) :: bytes)
        | 2 => base64 rest 3 (d % 4) 0 (UInt8.ofNat (held * 16 + d / 4) :: bytes)
        | _ => base64 rest 0 0 0 (UInt8.ofNat (held * 64 + d) :: bytes)

def binary (text : Text.Points) : Except Error (List UInt8) :=
  if text.codes.any (128 ≤ ·) then .error .malformed
  else match base64 (text.codes.map Char.ofNat) 0 0 0 [] with
    | some bytes => .ok bytes
    | none => .error .malformed

def timestamp (text : Text.Points) : Except Error Scalar :=
  match moment? (dropFinalNewline (text.codes.map Char.ofNat)) with
  | some m => m.scalar.mapError .calendar
  | none => .error .noTimestamp

def scalarOf (kind : Kind) (text : Text.Points) : Except Error Scalar :=
  match kind with
  | .null => .ok .null
  | .flag => (flag text).map .bool
  | .integer => (integer text).map .int
  | .float => (float text).map .float
  | .binary => (binary text).map .bytes
  | .timestamp => timestamp text
  | .text => .ok (.ofPoints text)
  | _ => .error .malformed

end Formwork.Yaml
