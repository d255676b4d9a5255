/-
  Formwork.Pattern.CharSet: tests for one character.

  A set has single characters, ranges and classes as members, and may be negated. Where
  case is ignored, a character is tested by its lower-case letter: it belongs to a set that
  has any letter like it. Beyond U+FFFF that holds for ranges, but a single character there
  is found by its lower-case letter only, unless it is the only member. A set without
  letters of two cases does not ignore case.
-/

import Formwork.Text.Blank
import Formwork.Text.CaseVariants
import Formwork.Text.Digit
import Formwork.Text.Word

namespace Formwork.Pattern

/-- Which characters count as one when case is ignored. -/
inductive Folding where
  | exact
  | latin
  | full
  deriving DecidableEq, Repr

namespace Folding

def variants (c : Char) : Folding → List Nat
  | exact => [c.toNat]
  | latin => Text.latinVariants c
  | full => Text.caseVariants c

def lower (c : Char) : Folding → Char
  | exact => c
  | latin => c.toLower
  | full => Text.lowerLetter c

def hasCase (n : Nat) : Folding → Bool
  | exact => false
  | latin => (Char.ofNat n).isAlpha
  | full => Text.hasCase (Char.ofNat n)

end Folding

inductive CharClass where
  | digit
  | blank
  | word
  deriving DecidableEq, Repr

/-- Membership; a narrow class has characters below 128 only. -/
def CharClass.has (narrow : Bool) (c : Char) (k : CharClass) : Bool :=
  (!narrow || c.toNat < 128) &&
    match k with
    | digit => Text.isDigit c
    | blank => if narrow then (9 ≤ c.toNat && c.toNat ≤ 13) || c == ' ' else Text.isBlank c
    | word => Text.isWord c

/-- The code points up to this one are looked up with all their variants. -/
def planeEnd : Nat := 0xFFFF

inductive SetItem where
  | single (n : Nat)
  | range (low high : Nat)
  | ofClass (k : CharClass) (negated narrow : Bool)
  deriving DecidableEq, Repr

namespace SetItem

def spans (low high n : Nat) : Bool := low ≤ n && n ≤ high

/-- The member covers a character in lower case; `variants` has the code points that count as it. -/
def covers (folding : Folding) (c : Char) (variants : List Nat) : SetItem → Bool
  | single n => if n ≤ planeEnd then variants.contains n else n == c.toNat
  | range low high =>
    variants.any (spans low (min high planeEnd)) ||
      (planeEnd < high &&
        (spans low high c.toNat || (folding != .exact && spans low high (Text.capitalOf c.toNat))))
  | ofClass k negated narrow => negated != k.has narrow c

def hasCase (folding : Folding) : SetItem → Bool
  | single n => planeEnd < n || folding.hasCase n
  | range low high => planeEnd < high || (List.range (high + 1 - low)).any fun i => folding.hasCase (low + i)
  | ofClass .. => false

end SetItem

structure CharSet where
  negated : Bool
  items : List SetItem
  folding : Folding
  deriving DecidableEq, Repr

namespace CharSet

def of (folding : Folding) (negated : Bool) (items : List SetItem) : CharSet :=
  let items := items.eraseDups
  ⟨negated, items, if folding != .exact && items.any (·.hasCase folding) then folding else .exact⟩

def has (s : CharSet) (c : Char) : Bool :=
  let lower := s.folding.lower c
  let variants := s.folding.variants lower
  s.negated !=
    match s.items with
    | [.single n] => variants.contains n
    | items => items.any (·.covers s.folding lower variants)

end CharSet

end Formwork.Pattern
