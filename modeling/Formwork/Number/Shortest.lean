/-
  Formwork.Number.Shortest: the shortest decimal that reads back as a given float.

  The reals that round to `m * 2 ^ q` form an interval, its ends included when `m` is even.
  For one digit, two digits and so on the two neighbours of the value on that decimal grid
  are tried; the first grid with a neighbour inside the interval gives the digits, the
  nearer neighbour if both are inside, the even one at equal distance.
-/

import Formwork.Number.Binary64

namespace Formwork

/-- The non-negative number `digits * 10 ^ exponent`. -/
structure Decimal where
  digits : Nat
  exponent : Int
  deriving DecidableEq, Repr

namespace Decimal

/-- `a * 10 ^ i` against `n * 2 ^ j`, exactly. -/
def compareBinary (a : Nat) (i : Int) (n : Nat) (j : Int) : Ordering :=
  compare (a * Nat.pow 10 i.toNat * Nat.pow 2 (-j).toNat) (n * Nat.pow 2 j.toNat * Nat.pow 10 (-i).toNat)

/-- The decimal lies among the reals that round to the float `m * 2 ^ q`. -/
def readsBack (m : Nat) (q : Int) (d : Decimal) : Bool :=
  let low := if m == Binary64.hiddenBit && -1074 < q then 4 * m - 1 else 4 * m - 2
  let ends := m % 2 == 0
  let above := compareBinary d.digits d.exponent low (q - 2)
  let below := compareBinary d.digits d.exponent (4 * m + 2) (q - 2)
  (above == .gt || (ends && above == .eq)) && (below == .lt || (ends && below == .eq))

/-- The least `k` with `m * 2 ^ q < 10 ^ k`, for `0 < m`: an estimate from the binary logarithm, then corrected. -/
def scale (m : Nat) (q : Int) : Int :=
  let k := ((m.log2 : Int) + q) * 30103 / 100000
  if compareBinary 1 k m q == .gt then k
  else if compareBinary 1 (k + 1) m q == .gt then k + 1
  else k + 2

/-- The whole part of `m * 2 ^ q / 10 ^ g`. -/
def below (m : Nat) (q g : Int) : Nat :=
  m * Nat.pow 2 q.toNat * Nat.pow 10 (-g).toNat / (Nat.pow 2 (-q).toNat * Nat.pow 10 g.toNat)

/-- The neighbour of `m * 2 ^ q` on the grid `10 ^ g` that reads back, if one does. -/
def onGrid (m : Nat) (q g : Int) : Option Decimal :=
  let d := below m q g
  let lower := readsBack m q ⟨d, g⟩
  let upper := readsBack m q ⟨d + 1, g⟩
  if lower && upper then
    match compareBinary (2 * d + 1) g (2 * m) q with
    | .gt => some ⟨d, g⟩
    | .lt => some ⟨d + 1, g⟩
    | .eq => some (if d % 2 == 0 then ⟨d, g⟩ else ⟨d + 1, g⟩)
  else if lower then some ⟨d, g⟩
  else if upper then some ⟨d + 1, g⟩
  else none

/-- Moves up to `fuel` zeros from the end of the digits into the exponent. -/
def stripZeros : Nat → Decimal → Decimal
  | 0, d => d
  | fuel + 1, d =>
    if d.digits != 0 && d.digits % 10 == 0 then stripZeros fuel ⟨d.digits / 10, d.exponent + 1⟩ else d

def exact (m : Nat) (q : Int) : Decimal := ⟨m * Nat.pow 2 q.toNat * Nat.pow 5 (-q).toNat, min q 0⟩

/-- The shortest decimal that reads back as `m * 2 ^ q`, the nearest of them; zero for zero. -/
def shortest (m : Nat) (q : Int) : Decimal :=
  if m == 0 then ⟨0, 0⟩ else
    let k := scale m q
    let found := ((List.range 17).findSome? fun n : Nat => onGrid m q (k - (n + 1))).getD (exact m q)
    stripZeros (Binary64.decimalWidth found.digits) found

def leading (d : Decimal) : Int := d.exponent + Binary64.decimalWidth d.digits - 1

end Decimal

end Formwork
