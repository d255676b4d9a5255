/-
  Formwork.Value: the values that documents and answers are made of.

  A value is a scalar, a list, a map or a set. Maps are ordered, and their keys and the members
  of sets are scalars. A collection that goes on within itself ends in the value `endless`.
  `same` compares by meaning: numbers by value across their kinds, a truth value as 0 or 1,
  maps without regard to order, and texts equal texts only. `display` is the text of a value
  on its own, `literal` the text that it has inside a list or a map; integers of very many
  digits have none.
-/

import Formwork.Entries
import Formwork.Number.Basic
import Formwork.Number.Layout
import Formwork.Text.Points
import Formwork.Time.Timestamp

namespace Formwork

inductive Scalar where
  | null
  | bool (b : Bool)
  | int (n : Int)
  | float (x : Float)
  | text (s : String)
  /-- A text with halves of surrogate pairs in it, by its code points. -/
  | broken (codes : List Nat)
  | bytes (data : List UInt8)
  | date (d : Date)
  | time (t : Timestamp)
  deriving DecidableEq, Repr

namespace Scalar

def ofPoints : Text.Points → Scalar
  | .text s => text s
  | .broken codes => broken codes

/-- The number that a scalar counts as; a truth value counts as 0 or 1. -/
def numeric? : Scalar → Option Number
  | bool b => some (.int (if b then 1 else 0))
  | int n => some (.int n)
  | float x => some (.float x)
  | _ => none

def same : Scalar → Scalar → Bool
  | null, null => true
  | text a, text b => a == b
  | broken a, broken b => a == b
  | bytes a, bytes b => a == b
  | date a, date b => a == b
  | time a, time b => a.same b
  | a, b =>
    match a.numeric?, b.numeric? with
    | some x, some y => x.same y
    | _, _ => false

/-- A byte in the quoted form: printable ASCII as it is, the rest escaped. -/
def quoteByte (q : Char) (b : UInt8) : List Char :=
  if b < 0x7F then Text.quoteChar q (Char.ofNat b.toNat) else ['\\', 'x'] ++ Text.hex 2 b.toNat

def bytesText (data : List UInt8) : String :=
  let q := Text.quoteFor (data.map fun b => Char.ofNat b.toNat)
  String.ofList (['b', q] ++ data.flatMap (quoteByte q) ++ [q])

def display : Scalar → Except NumericError String
  | null => .ok "None"
  | bool b => .ok (if b then "True" else "False")
  | int n => if Nat.pow 10 NumericError.digitLimit ≤ n.natAbs then .error .integerTooLong else .ok (toString n)
  | float x => .ok (naturalText x)
  | text s => .ok s
  | broken codes => .ok (Text.Points.broken codes).shown
  | bytes data => .ok (bytesText data)
  | date d => .ok d.text
  | time t => .ok s!"{t.date.text} {t.clockText}"

/-- The text of a scalar inside a list or a map. -/
def literal : Scalar → Except NumericError String
  | text s => .ok (Text.quoted s)
  | broken codes => .ok (Text.Points.broken codes).quoted
  | date d => .ok d.literal
  | time t => .ok t.literal
  | s => s.display

/-- Writes an entry, in place of the value of one whose key is the same. -/
def put {α : Type} (entries : List (Scalar × α)) (key : Scalar) (value : α) : List (Scalar × α) :=
  if entries.any (·.1.same key) then entries.map fun e => if e.1.same key then (e.1, value) else e
  else entries ++ [(key, value)]

/-- Entries of distinct keys: a key that comes twice keeps its first place and its last value. -/
def distinct {α : Type} (pairs : List (Scalar × α)) : List (Scalar × α) :=
  pairs.foldl (fun entries p => put entries p.1 p.2) []

end Scalar

inductive Value where
  | scalar (s : Scalar)
  | list (items : List Value)
  | map (entries : List (Scalar × Value))
  | set (members : List Scalar)
  /-- Deep within a collection, that collection once more. -/
  | endless
  deriving Repr

namespace Value

instance : Inhabited Value := ⟨.scalar .null⟩

@[match_pattern] abbrev null : Value := .scalar .null
@[match_pattern] abbrev bool (b : Bool) : Value := .scalar (.bool b)
@[match_pattern] abbrev int (n : Int) : Value := .scalar (.int n)
@[match_pattern] abbrev float (x : Float) : Value := .scalar (.float x)
@[match_pattern] abbrev text (s : String) : Value := .scalar (.text s)

def ofEntries (entries : Entries Value) : Value := .map (entries.map fun e => (.text e.1, e.2))

def field? (entries : List (Scalar × Value)) (name : String) : Option Value :=
  (entries.find? fun e => e.1 == .text name).map (·.2)

def textEntries (entries : List (Scalar × Value)) : Entries Value :=
  entries.filterMap fun e =>
    match e.1 with
    | .text s => some (s, e.2)
    | _ => none

def ofPairs (pairs : List (Scalar × Value)) : Value := .map (Scalar.distinct pairs)

mutual

def same : Value → Value → Bool
  | scalar a, scalar b => a.same b
  | list xs, list ys => sameItems xs ys
  | map a, map b => a.length == b.length && sameEntries a b
  | set a, set b => a.length == b.length && a.all fun x => b.any x.same
  | _, _ => false

def sameItems : List Value → List Value → Bool
  | [], [] => true
  | x :: xs, y :: ys => x.same y && sameItems xs ys
  | _, _ => false

/-- Every entry of the first list has its equal in the second. -/
def sameEntries : List (Scalar × Value) → List (Scalar × Value) → Bool
  | [], _ => true
  | (k, v) :: rest, other =>
    (match other.find? fun e => e.1.same k with
      | some e => v.same e.2
      | none => false) && sameEntries rest other

end

mutual

def literal : Value → Except NumericError String
  | scalar s => s.literal
  | list items => do return "[" ++ ", ".intercalate (← literalItems items) ++ "]"
  | map entries => do return "\x7b" ++ ", ".intercalate (← literalEntries entries) ++ "\x7d"
  | set [] => .ok "set()"
  | set members => do return "\x7b" ++ ", ".intercalate (← members.mapM Scalar.literal) ++ "\x7d"
  | endless => .ok "..."

def literalItems : List Value → Except NumericError (List String)
  | [] => .ok []
  | v :: rest => do return (← v.literal) :: (← literalItems rest)

def literalEntries : List (Scalar × Value) → Except NumericError (List String)
  | [] => .ok []
  | (k, v) :: rest => do return ((← k.literal) ++ ": " ++ (← v.literal)) :: (← literalEntries rest)

end

def display : Value → Except NumericError String
  | scalar s => s.display
  | v => v.literal

mutual

/-- Some collection goes on within itself. -/
def isEndless : Value → Bool
  | endless => true
  | list items => endlessItems items
  | map entries => endlessEntries entries
  | _ => false

def endlessItems : List Value → Bool
  | [] => false
  | v :: rest => v.isEndless || endlessItems rest

def endlessEntries : List (Scalar × Value) → Bool
  | [] => false
  | (_, v) :: rest => v.isEndless || endlessEntries rest

end

/-- An integer or a float, truth values excepted. -/
def number? : Value → Option Number
  | int n => some (.int n)
  | float x => some (.float x)
  | _ => none

/-- The items of a list; another value is one of its own. -/
def asList : Value → List Value
  | list items => items
  | v => [v]

def items? : Value → Option (List Value)
  | list items => some items
  | set members => some (members.map scalar)
  | _ => none

/-- Neither nothing, nor the empty text, nor the empty list. -/
def isAnswered : Value → Bool
  | null => false
  | text s => s != ""
  | list items => !items.isEmpty
  | _ => true

end Value

inductive WriteError where
  | endless
  deriving DecidableEq, Repr

def WriteError.message : WriteError → String
  | endless => "Circular reference detected (id repeated)"

def Value.written (v : Value) : Except WriteError Value := if v.isEndless then .error .endless else .ok v

def isAnswered (v : Option Value) : Bool := v.any Value.isAnswered

end Formwork
