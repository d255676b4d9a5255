/-
  Formwork.Pattern.Node: what a pattern consists of.

  A pattern is a tree of tests for single characters, tests for places, sequences,
  alternatives, groups, repetitions, looks around and references back. Options such as
  ignoring case are already worked into the leaves. What alternatives have in common at
  their start is written once, and alternatives of one character are a set
  (`Node.ofAlternatives`).
-/

import Formwork.Pattern.CharSet

namespace Formwork

namespace Pattern

inductive Place where
  | textStart
  /-- The start, or that of any line. -/
  | lineStart (every : Bool)
  | textEnd
  /-- The end, also before a line feed at the end, or that of any line. -/
  | lineEnd (every : Bool)
  /-- Between a word character and another, or not. -/
  | wordEdge (negated narrow : Bool)
  deriving DecidableEq, Repr

inductive Effort where
  | greedy
  | lazy
  /-- As much as possible, with nothing given back. -/
  | possessive
  deriving DecidableEq, Repr

inductive Node where
  | empty
  | one (s : CharSet)
  /-- Any character, or any but a line feed. -/
  | any (lineFeed : Bool)
  | place (p : Place)
  | seq (a b : Node)
  | either (a b : Node)
  /-- Remembered under its number, if it has one. -/
  | group (number : Option Nat) (body : Node)
  /-- Has options of its own. -/
  | scope (body : Node)
  /-- Matched once, with nothing given back. -/
  | atomic (body : Node)
  | repeated (effort : Effort) (least : Nat) (most : Option Nat) (body : Node)
  /-- Something that follows, or that precedes by a fixed number of characters. -/
  | look (back : Option Nat) (negated : Bool) (body : Node)
  | backref (group : Nat) (folding : Folding)
  /-- Depends on whether a group was matched. -/
  | choice (group : Nat) (yes no : Node)
  deriving DecidableEq, Repr

abbrev Width := Nat × Option Nat

namespace Width

def add (a b : Width) : Width := (a.1 + b.1, do return (← a.2) + (← b.2))

def either (a b : Width) : Width := (min a.1 b.1, do return max (← a.2) (← b.2))

def times (w : Width) (least : Nat) (most : Option Nat) : Width :=
  (w.1 * least, if w.2 == some 0 || most == some 0 then some 0 else do return (← w.2) * (← most))

end Width

/-- The width of a node; `groups` has those of the groups closed so far. -/
def Node.width (groups : List (Option Width)) : Node → Width
  | empty | place _ | look .. => (0, some 0)
  | one _ | any _ => (1, some 1)
  | seq a b => (a.width groups).add (b.width groups)
  | either a b => (a.width groups).either (b.width groups)
  | group _ body | scope body | atomic body => body.width groups
  | repeated _ least most body => (body.width groups).times least most
  | backref g _ => ((groups[g]?).getD none).getD (0, some 0)
  | choice _ yes no => (yes.width groups).either (no.width groups)

/-! ## Sequences and alternatives -/

namespace Node

def ofList : List Node → Node
  | [] => .empty
  | n :: rest => .seq n (ofList rest)

def parts : Node → List Node
  | empty => []
  | seq a b => a.parts ++ b.parts
  | group none body => body.parts
  | n => [n]

/-- A test that looks into no other node. -/
def isSimple : Node → Bool
  | one _ | any _ | place _ | backref .. => true
  | _ => false

/-- The simple nodes that a sequence and all others begin with, and what remains of each. -/
def commonStart : List Node → List (List Node) → List Node × List (List Node)
  | n :: rest, others =>
    if n.isSimple && others.all (·.head? == some n) then
      let (shared, rests) := commonStart rest (others.map List.tail)
      (n :: shared, rests)
    else ([], (n :: rest) :: others)
  | [], others => ([], [] :: others)

def setItems? : List Node → Option (List SetItem)
  | [.one s] => if s.negated then none else some s.items
  | _ => none

def oneOf : List (List Node) → Node
  | [] => .empty
  | [a] => ofList a
  | a :: rest => .either (ofList a) (oneOf rest)

def ofAlternatives (folding : Folding) : List (List Node) → Node
  | [] => .empty
  | [a] => ofList a
  | a :: others =>
    let (shared, rests) := commonStart a others
    match rests.mapM setItems? with
    | some items => ofList (shared ++ [.one (.of folding false items.flatten)])
    | none => ofList (shared ++ [oneOf rests])

end Node

end Pattern

end Formwork
