/-
  Formwork.Pattern.Matching: where a pattern occurs in a text.

  Alternatives are tried in order and repetitions as their effort says; what comes after a
  node is tried from every way in which the node matches until one succeeds. A repetition
  beyond its least number has to move on, so it ends.
-/

import Formwork.Pattern.Node

namespace Formwork.Pattern

/-- How far a match has come, and where its groups lie, the latest first. -/
structure Spot where
  position : Nat
  groups : List (Nat × Nat × Nat) := []
  deriving DecidableEq, Repr

abbrev Continuation := Spot → Option Spot

abbrev Matcher := Spot → Continuation → Option Spot

def Spot.group? (s : Spot) (number : Nat) : Option (Nat × Nat) := (s.groups.find? (·.1 == number)).map (·.2)

namespace Place

def isWordAt (text : Array Char) (narrow : Bool) (i : Nat) : Bool := (text[i]?).any (CharClass.has narrow · .word)

def holds (text : Array Char) (i : Nat) : Place → Bool
  | textStart => i == 0
  | lineStart every => i == 0 || (every && text[i - 1]? == some '\n')
  | textEnd => i == text.size
  | lineEnd every => i == text.size || ((every || i + 1 == text.size) && text[i]? == some '\n')
  | wordEdge negated narrow =>
    let before := 0 < i && isWordAt text narrow (i - 1)
    text.size != 0 && negated != (before != isWordAt text narrow i)

end Place

/-- Repetitions of a body, `count` of them done and the last optional one begun at `last`. -/
def iterate (body : Matcher) (eager : Bool) (least : Nat) (most : Option Nat) :
    (fuel count : Nat) → (last : Option Nat) → Matcher
  | 0, _, _, _, _ => none
  | fuel + 1, count, last, s, k =>
    if count < least then
      body s fun t => iterate body eager least most fuel (count + 1) last t k
    else
      let again : Unit → Option Spot := fun _ =>
        if most.any (· ≤ count) || last == some s.position then none
        else body s fun t => iterate body eager least most fuel (count + 1) (some s.position) t k
      if eager then (again ()).orElse fun _ => k s else (k s).orElse again

/-- The first way of a matcher, and no other. -/
def once (m : Matcher) : Matcher := fun s k => (m s some).bind k

def repeatsAt (text : Array Char) (folding : Folding) (start stop i : Nat) : Bool :=
  i + (stop - start) ≤ text.size &&
    (List.range (stop - start)).all fun j => (text[start + j]?).map folding.lower == (text[i + j]?).map folding.lower

def Node.run (text : Array Char) : Node → Matcher
  | empty, s, k => k s
  | one set, s, k => if (text[s.position]?).any set.has then k { s with position := s.position + 1 } else none
  | any lineFeed, s, k =>
    if (text[s.position]?).any fun c => lineFeed || c != '\n' then k { s with position := s.position + 1 } else none
  | place p, s, k => if p.holds text s.position then k s else none
  | seq a b, s, k => a.run text s fun t => b.run text t k
  | either a b, s, k => (a.run text s k).orElse fun _ => b.run text s k
  | group none body, s, k | scope body, s, k => body.run text s k
  | group (some n) body, s, k =>
    body.run text s fun t => k { t with groups := (n, s.position, t.position) :: t.groups }
  | atomic body, s, k => once (body.run text) s k
  | repeated effort least most body, s, k =>
    let fuel := least + (text.size - s.position) + 2
    match effort with
    | .greedy => iterate (body.run text) true least most fuel 0 none s k
    | .lazy => iterate (body.run text) false least most fuel 0 none s k
    | .possessive => once (iterate (once (body.run text)) true least most fuel 0 none) s k
  | look back negated body, s, k =>
    let found :=
      if back.any (s.position < ·) then none
      else body.run text { s with position := s.position - back.getD 0 } some
    match found, negated with
    | some t, false => k { t with position := s.position }
    | none, true => k s
    | _, _ => none
  | backref n folding, s, k =>
    match s.group? n with
    | some (start, stop) =>
      if repeatsAt text folding start stop s.position then k { s with position := s.position + (stop - start) }
      else none
    | none => none
  | choice n yes no, s, k => if (s.group? n).isSome then yes.run text s k else no.run text s k

def Node.startsIn (node : Node) (text : String) : Bool := (node.run text.toList.toArray ⟨0, []⟩ some).isSome

def Node.occursIn (node : Node) (text : String) : Bool :=
  let chars := text.toList.toArray
  (List.range (chars.size + 1)).any fun i => (node.run chars ⟨i, []⟩ some).isSome

end Formwork.Pattern
