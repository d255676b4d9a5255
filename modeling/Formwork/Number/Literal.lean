/-
  Formwork.Number.Literal: decimal literals in texts.

  A literal is a run of digits with at most one point in or around it (`12`, `12.`, `.5`)
  and optionally a power of ten (`e`, an optional sign, digits). Digits may come from any
  script. The readers take the longest literal at the start of a text: a point, a mark or a
  sign that digits do not complete is left alone.
-/

import Formwork.Number.Binary64
import Formwork.Text.Blank
import Formwork.Text.Digit

namespace Formwork

structure Literal where
  whole : List Char
  fraction : List Char
  power : Int
  deriving DecidableEq, Repr

namespace Literal

open Text

def value (l : Literal) : Float :=
  Binary64.ofDecimal (digitsValue (l.whole ++ l.fraction)) (l.power - l.fraction.length)

/-- An optional sign; `true` is minus. -/
def takeSign : List Char → Bool × List Char
  | '-' :: rest => (true, rest)
  | '+' :: rest => (false, rest)
  | cs => (false, cs)

def takeMantissa (cs : List Char) : Option (List Char × List Char × List Char) :=
  let whole := cs.takeWhile isDigit
  match cs.dropWhile isDigit with
  | '.' :: rest =>
    let fraction := rest.takeWhile isDigit
    if whole.isEmpty && fraction.isEmpty then none else some (whole, fraction, rest.dropWhile isDigit)
  | rest => if whole.isEmpty then none else some (whole, [], rest)

def isMark (c : Char) : Bool := c == 'e' || c == 'E'

def takePower (cs : List Char) : Int × List Char :=
  match cs with
  | c :: rest =>
    let (negative, digits) := takeSign rest
    let power : Int := digitsValue (digits.takeWhile isDigit)
    if isMark c && (digits.takeWhile isDigit).length != 0 then
      (if negative then -power else power, digits.dropWhile isDigit)
    else (0, cs)
  | [] => (0, [])

def take (cs : List Char) : Option (Literal × List Char) :=
  (takeMantissa cs).map fun (whole, fraction, rest) =>
    let (power, rest) := takePower rest
    (⟨whole, fraction, power⟩, rest)

def isWhole (cs : List Char) : Bool :=
  match take cs with
  | some (_, []) => true
  | _ => false

/-- Digits, a point or both, and an exponent mark at the very end. -/
def isOpen (cs : List Char) : Bool :=
  match takeMantissa cs with
  | some (_, _, [c]) => isMark c
  | _ => false

/-- The number at the start of a text, blanks and one sign allowed before it. -/
def leading? (cs : List Char) : Option Float :=
  let (negative, rest) := takeSign (trimLeft cs)
  (take rest).map fun (l, _) => Binary64.signed negative l.value

/-- The integer at the start of a text, blanks and one sign allowed before it: minus or not, and the digits. -/
def leadingDigits? (cs : List Char) : Option (Bool × List Char) :=
  let (negative, rest) := takeSign (trimLeft cs)
  let digits := rest.takeWhile isDigit
  if digits.isEmpty then none else some (negative, digits)

end Literal

def dropFinalNewline (cs : List Char) : List Char := if cs.getLast? == some '\n' then cs.dropLast else cs

def isNumberLiteral (s : String) : Bool :=
  Literal.isWhole s.toList || Literal.isWhole (dropFinalNewline s.toList)

namespace Literal

/-- Underscores that stand between digits, removed. -/
def dropSeparators : List Char → List Char
  | a :: '_' :: b :: rest =>
    if Text.isDigit a && Text.isDigit b then a :: dropSeparators (b :: rest) else a :: '_' :: dropSeparators (b :: rest)
  | c :: rest => c :: dropSeparators rest
  | [] => []

def special? (cs : List Char) : Option Float :=
  match String.ofList (cs.map Char.toLower) with
  | "inf" | "infinity" => some Binary64.infinity
  | "nan" => some Binary64.nan
  | _ => none

def signed? (cs : List Char) : Option Float :=
  let (negative, rest) := takeSign cs
  match take rest with
  | some (l, []) => some (Binary64.signed negative l.value)
  | _ => (special? rest).map (Binary64.signed negative)

/-- A whole text as a number: white space around it and single underscores between digits are allowed. -/
def float? (s : String) : Option Float := signed? (dropSeparators (Text.trimPadding s.toList))

end Literal

end Formwork
