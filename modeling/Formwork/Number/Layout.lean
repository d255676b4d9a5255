/-
  Formwork.Number.Layout: how a float becomes text.

  Two forms are in use. The natural form shows the shortest digits that read back and keeps
  a point in every number (`3.0`, `1e-05`, `1e+16`). The brief form rounds the exact value to
  six digits, halves to even, and drops the zeros at the end (`3`, `1e-05`, `1e+06`). What they
  decide differently is one `Layout` record.
-/

import Formwork.Number.Shortest

namespace Formwork

/-- Where positional writing ends, and whether a whole number keeps `.0`. -/
structure Layout where
  plainFrom : Int
  plainBelow : Int
  pointZero : Bool

namespace Layout

/-- Positional from 0.0001 up to below 10 ^ 16, always with a point. -/
def natural : Layout := ⟨-4, 16, true⟩

/-- Positional from 0.0001 up to below 10 ^ 6, a point only before a fraction. -/
def brief : Layout := ⟨-4, 6, false⟩

/-- The power of ten after the mark: a sign and at least two digits. -/
def power (e : Int) : List Char :=
  let digits := Nat.toDigits 10 e.natAbs
  (if e < 0 then '-' else '+') :: (if digits.length < 2 then '0' :: digits else digits)

def write (l : Layout) (d : Decimal) : List Char :=
  let ds := Nat.toDigits 10 d.digits
  let e := d.leading
  if d.digits == 0 then (if l.pointZero then ['0', '.', '0'] else ['0'])
  else if l.plainFrom ≤ e && e < l.plainBelow then
    if 0 ≤ d.exponent then
      ds ++ List.replicate d.exponent.toNat '0' ++ (if l.pointZero then ['.', '0'] else [])
    else if 0 ≤ e then
      ds.take (e.toNat + 1) ++ '.' :: ds.drop (e.toNat + 1)
    else
      '0' :: '.' :: List.replicate (-e - 1).toNat '0' ++ ds
  else
    ds.take 1 ++ (if ds.length == 1 then [] else '.' :: ds.drop 1) ++ 'e' :: power e

/-- Sign, digits and special values; `round` chooses the decimal for a significand and a power of two. -/
def print (l : Layout) (round : Nat → Int → Decimal) (x : Float) : String :=
  match Binary64.parts x with
  | .nan => "nan"
  | .infinite negative => if negative then "-inf" else "inf"
  | .finite negative m q => String.ofList ((if negative then ['-'] else []) ++ l.write (round m q))

end Layout

namespace Decimal

/-- `m * 2 ^ q` rounded to `n` significant digits, halves to even, without zeros at the end. -/
def rounded (n : Nat) (m : Nat) (q : Int) : Decimal :=
  if m == 0 then ⟨0, 0⟩ else
    let g := scale m q - n
    let d :=
      Binary64.roundEven (m * Nat.pow 2 q.toNat * Nat.pow 10 (-g).toNat) (Nat.pow 2 (-q).toNat * Nat.pow 10 g.toNat)
    stripZeros (n + 1) ⟨d, g⟩

end Decimal

/-- The natural form: the shortest digits that read back. -/
def naturalText (x : Float) : String := Layout.natural.print Decimal.shortest x

def briefText (x : Float) : String := Layout.brief.print (Decimal.rounded 6) x

end Formwork
