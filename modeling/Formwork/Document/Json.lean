/-
  Formwork.Document.Json: documents written in JSON.

  Numbers with a fraction or an exponent are floats, the others integers of any size. Beyond
  the standard, `NaN`, `Infinity` and `-Infinity` are numbers; a byte order mark is not
  passed over. An escape may leave half a surrogate pair alone. Of entries with one key the
  last counts, in the place of the first.
-/

import Formwork.Number.Literal
import Formwork.Value

namespace Formwork.Json

inductive Error where
  | malformed
  | tooManyDigits (count : Nat)
  deriving DecidableEq, Repr

def isSpace (c : Char) : Bool := c == ' ' || c == '\t' || c == '\n' || c == '\r'

def skipSpace (cs : List Char) : List Char := cs.dropWhile isSpace

def hexDigit? (c : Char) : Option Nat :=
  if c.isDigit then some (c.toNat - '0'.toNat)
  else if 'a' ≤ c && c ≤ 'f' then some (c.toNat - 'a'.toNat + 10)
  else if 'A' ≤ c && c ≤ 'F' then some (c.toNat - 'A'.toNat + 10)
  else none

def takeUnit : List Char → Option (Nat × List Char)
  | a :: b :: c :: d :: rest => do
    return ((((← hexDigit? a) * 16 + (← hexDigit? b)) * 16 + (← hexDigit? c)) * 16 + (← hexDigit? d), rest)
  | _ => none

/-- The code point of a code unit, joined with the low half that may follow; a half on its own stays one. -/
def joinUnits (unit : Nat) (rest : List Char) : Nat × List Char :=
  let isHigh := 0xD800 ≤ unit && unit < 0xDC00
  match rest with
  | '\\' :: 'u' :: more =>
    match takeUnit more with
    | some (low, after) =>
      if isHigh && 0xDC00 ≤ low && low < 0xE000 then (0x10000 + (unit - 0xD800) * 0x400 + (low - 0xDC00), after)
      else (unit, rest)
    | none => (unit, rest)
  | _ => (unit, rest)

def escape? : Char → Option Char
  | '"' => some '"'
  | '\\' => some '\\'
  | '/' => some '/'
  | 'b' => some '\x08'
  | 'f' => some '\x0c'
  | 'n' => some '\n'
  | 'r' => some '\r'
  | 't' => some '\t'
  | _ => none

/-- The text up to the closing quote, its code points so far in reverse; `fuel` bounds its length. -/
def takeText : Nat → List Nat → List Char → Option (Scalar × List Char)
  | 0, _, _ => none
  | _ + 1, _, [] => none
  | fuel + 1, done, c :: rest =>
    if c == '"' then some (.ofPoints (.ofCodes done.reverse), rest)
    else if c == '\\' then
      match rest with
      | 'u' :: more =>
        match takeUnit more with
        | some (unit, after) =>
          let (code, after) := joinUnits unit after
          takeText fuel (code :: done) after
        | none => none
      | e :: more =>
        match escape? e with
        | some ch => takeText fuel (ch.toNat :: done) more
        | none => none
      | [] => none
    else if c.toNat < 0x20 then none
    else takeText fuel (c.toNat :: done) rest

def takeNumber (cs : List Char) : Except Error (Value × List Char) :=
  let (negative, cs) := (match cs with | '-' :: r => (true, r) | r => (false, r))
  let whole := (match cs with | '0' :: _ => ['0'] | r => r.takeWhile Char.isDigit)
  let rest := cs.drop whole.length
  if whole.isEmpty then .error .malformed
  else
    let (fraction, rest) := (match rest with
      | '.' :: r =>
        let ds := r.takeWhile Char.isDigit
        if ds.isEmpty then ([], rest) else (ds, r.drop ds.length)
      | _ => ([], rest))
    let (power, after) := (match rest with
      | c :: r =>
        let (minus, r) := Literal.takeSign r
        let ds := r.takeWhile Char.isDigit
        if Literal.isMark c && !ds.isEmpty then
          let n : Int := Text.digitsValue ds
          (some (if minus then -n else n), r.drop ds.length)
        else (none, rest)
      | [] => (none, rest))
    if fraction.isEmpty && power.isNone then
      if NumericError.digitLimit < whole.length then .error (.tooManyDigits whole.length)
      else
        let n : Int := Text.digitsValue whole
        .ok (.int (if negative then -n else n), after)
    else .ok (.float (Binary64.signed negative (Literal.value ⟨whole, fraction, power.getD 0⟩)), after)

def dropWord? (word cs : List Char) : Option (List Char) :=
  if word.isPrefixOf cs then some (cs.drop word.length) else none

def words : List (String × Value) := [
  ("null", .null), ("true", .bool true), ("false", .bool false), ("NaN", .float Binary64.nan),
  ("Infinity", .float Binary64.infinity), ("-Infinity", .float (-Binary64.infinity))]

def takeWord (cs : List Char) : Option (Value × List Char) :=
  words.findSome? fun w => (dropWord? w.1.toList cs).map fun rest => (w.2, rest)

mutual

/-- A value at the start of `cs`; `fuel` bounds the characters read. -/
def takeValue : Nat → List Char → Except Error (Value × List Char)
  | 0, _ => .error .malformed
  | fuel + 1, cs =>
    match cs with
    | '"' :: rest =>
      match takeText (rest.length + 1) [] rest with
      | some (s, rest) => .ok (.scalar s, rest)
      | none => .error .malformed
    | '[' :: rest =>
      match skipSpace rest with
      | ']' :: rest => .ok (.list [], rest)
      | rest => do
        let (items, rest) ← takeItems fuel rest
        return (.list items, rest)
    | '\x7b' :: rest =>
      match skipSpace rest with
      | '\x7d' :: rest => .ok (.map [], rest)
      | rest => do
        let (entries, rest) ← takeEntries fuel rest
        return (.ofPairs entries, rest)
    | _ =>
      match takeWord cs with
      | some r => .ok r
      | none => takeNumber cs

def takeItems : Nat → List Char → Except Error (List Value × List Char)
  | 0, _ => .error .malformed
  | fuel + 1, cs => do
    let (v, rest) ← takeValue fuel cs
    match skipSpace rest with
    | ',' :: rest =>
      let (items, rest) ← takeItems fuel (skipSpace rest)
      return (v :: items, rest)
    | ']' :: rest => return ([v], rest)
    | _ => .error .malformed

def takeEntries : Nat → List Char → Except Error (List (Scalar × Value) × List Char)
  | 0, _ => .error .malformed
  | fuel + 1, cs =>
    match cs with
    | '"' :: rest =>
      match takeText (rest.length + 1) [] rest with
      | none => .error .malformed
      | some (key, rest) =>
        match skipSpace rest with
        | ':' :: rest => do
          let (v, rest) ← takeValue fuel (skipSpace rest)
          match skipSpace rest with
          | ',' :: rest =>
            let (entries, rest) ← takeEntries fuel (skipSpace rest)
            return ((key, v) :: entries, rest)
          | '\x7d' :: rest => return ([(key, v)], rest)
          | _ => .error .malformed
        | _ => .error .malformed
    | _ => .error .malformed

end

def read (s : String) : Except Error Value := do
  let cs := s.toList
  let (v, rest) ← takeValue (cs.length + 1) (skipSpace cs)
  if (skipSpace rest).isEmpty then return v else .error .malformed

end Formwork.Json
