/-
  Formwork.Document.Coercion: scalars read with some tolerance.

  A text is read from a text only. Truth values, numbers and timestamps are also read from
  texts that write them and from each other where nothing is lost: 1 as true, 3.0 as an
  integer, seconds as a timestamp. What is already of the type asked for stays as it is.
-/

import Formwork.Document.Issue
import Formwork.Number.Literal
import Formwork.Time.Reading
import Formwork.Value

namespace Formwork.Coercion

open Checked

/-- The text of a scalar, or of bytes that encode one; bytes that do not are the issue `garbled`
and other values the issue `absent`. -/
def written (garbled absent : IssueKind) : Value → Checked String
  | .text s => .ok s
  | .scalar (.broken _) => fail .textUndecodable
  | .scalar (.bytes data) =>
    match String.fromUTF8? ⟨data.toArray⟩ with
    | some s => .ok s
    | none => fail garbled
  | _ => fail absent

def toText (v : Value) : Checked String := written .textUndecodable .textExpected v

def flagWord? (s : String) : Option Bool :=
  let w := String.ofList (s.toList.map Char.toLower)
  if ["1", "t", "y", "on", "yes", "true"].contains w then some true
  else if ["0", "f", "n", "no", "off", "false"].contains w then some false
  else none

def flagOfInt (n : Int) : Checked Bool :=
  if n == 0 then .ok false else if n == 1 then .ok true else fail .flagUnreadable

/-- Integers of 64 bits lie below this bound; floats that stand for integers do so in both directions. -/
def wordBound : Nat := 0x8000000000000000

def isWord (n : Int) : Bool := -wordBound ≤ n && n < wordBound

def toFlag (v : Value) : Checked Bool :=
  match v with
  | .bool b => .ok b
  | .int n => if isWord n then flagOfInt n else fail .flagExpected
  | .float x =>
    match Binary64.toInt? x with
    | some n => if n.natAbs < wordBound then flagOfInt n else fail .flagExpected
    | none => fail .flagExpected
  | v => do
    match flagWord? (← written .flagUnreadable .flagExpected v) with
    | some b => .ok b
    | none => fail .flagUnreadable

/-- The text without its underscores, where each stands between two other characters. -/
def dropSingleUnderscores? (cs : List Char) : Option (List Char) :=
  let doubled := (cs.zip (cs.drop 1)).any fun p => p.1 == '_' && p.2 == '_'
  if cs.contains '_' && cs.head? != some '_' && cs.getLast? != some '_' && !doubled then some (cs.filter (· != '_'))
  else none

/-- Leading zeros dropped from digits that begin with one; nothing but zeros keeps the last. -/
def dropLeadingZeros? (cs : List Char) : Option (List Char) :=
  match cs with
  | '0' :: rest =>
    match rest.dropWhile fun c => c == '0' || c == '_' with
    | [] => some (cs.drop (cs.length - 1))
    | c :: more =>
      if c == '.' then some (cs.drop (cs.length - (more.length + 2)))
      else if c.isDigit || c == '-' then some (c :: more)
      else none
  | c :: _ => if c.isDigit || c == '-' then some cs else none
  | [] => none

def dropZeroFraction (cs : List Char) : List Char :=
  match cs.dropWhile (· != '.') with
  | _ :: zeros => if !zeros.isEmpty && zeros.all (· == '0') then cs.takeWhile (· != '.') else cs
  | [] => cs

/-- A minus, dropped, or a plus before a digit, dropped as well; `true` is minus. -/
def takeIntegerSign : List Char → Bool × List Char
  | '-' :: rest => (true, rest)
  | '+' :: c :: rest => (false, if c.isDigit then c :: rest else '+' :: c :: rest)
  | cs => (false, cs)

/-- An integer without leading zeros, negated when `negative`; one minus at most counts. -/
def plainInteger? (negative : Bool) (cs : List Char) : Option Int :=
  let (minus, digits) := (match cs with | '-' :: rest => (true, rest) | rest => (false, rest))
  let leadingZero := digits.head? == some '0' && digits.length != 1
  if digits.isEmpty || !digits.all Char.isDigit || leadingZero || (negative && minus) then none
  else
    let n : Int := Text.digitsValue digits
    some (if negative || minus then -n else n)

/-- An integer written as text: blanks around it, a sign, leading zeros, single underscores
between digits and a fraction of zeros are allowed; a sign may also follow leading zeros. -/
def integerText? (s : String) : Option Int := do
  let (negative, cs) := takeIntegerSign (Text.trimPadding s.toList)
  let cs := dropZeroFraction (← dropLeadingZeros? cs)
  plainInteger? negative ((dropSingleUnderscores? cs).getD cs)

def integerTextLimit : Nat := 4300

def toInteger (v : Value) : Checked Int :=
  match v with
  | .int n => .ok n
  | .bool b => .ok (if b then 1 else 0)
  | .float x =>
    if x.isNaN || x.isInf then fail .finiteExpected
    else match Binary64.toInt? x with
      | none => fail .integerHasFraction
      | some n => if n.natAbs < wordBound then .ok n else fail .integerTooLong
  | v => do
    let s ← written .integerUnreadable .integerExpected v
    if integerTextLimit < s.utf8ByteSize then fail .integerTooLong
    else match integerText? s with
      | some n => .ok n
      | none => fail .integerUnreadable

def floatText? (s : String) : Option Float :=
  let plain (cs : List Char) : Option Float := if cs.all (·.toNat < 128) then Literal.signed? cs else none
  match plain (Text.trimPadding s.toList) with
  | some x => some x
  | none => (dropSingleUnderscores? s.toList).bind plain

def floatOf? : Value → Option Float
  | .float x => some x
  | .int n => Binary64.ofInt? n
  | .bool b => some (if b then 1 else 0)
  | _ => none

def toFloat (v : Value) : Checked Float :=
  match floatOf? v with
  | some x => .ok x
  | none => do
    match floatText? (← written .floatUnreadable .floatExpected v) with
    | some x => .ok x
    | none => fail .floatUnreadable

/-- A number that has to reach `least`, which a NaN does not. -/
def atLeast {α : Type} [LE α] [DecidableLE α] (least : Option α) : Checked α → Checked α
  | .ok a => if least.all (· ≤ a) then .ok a else fail .belowLeast
  | .error e => .error e

def counted (moment : Option Timestamp) : Checked Timestamp :=
  match Timestamp.inCalendar moment with
  | .ok t => .ok t
  | .error _ => fail .timeOutOfRange

def toTimestamp (v : Value) : Checked Timestamp :=
  match v with
  | .scalar (.time t) => .ok t
  | .scalar (.date d) => .ok (.midnight d)
  | .int n => if (Binary64.ofInt? n).isSome then counted (Timestamp.ofCount? n) else fail .timeExpected
  | .float x => counted (Timestamp.ofFloat? x)
  | v => do
    match Timestamp.read (← written .timeUnreadable .timeExpected v) with
    | .ok t => .ok t
    | .error .yearZero => fail .timeOutOfRange
    | .error .unreadable => fail .timeUnreadable

end Formwork.Coercion
