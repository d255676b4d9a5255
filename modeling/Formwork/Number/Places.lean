/-
  Formwork.Number.Places: decimals with a fixed number of places.

  A decimal is rounded to the nearest multiple of the last place, a half away from zero,
  and written with all its places; whole digits may be grouped in threes by commas. Where
  there is room for some digits only, the rest of them are rounded away, halves to even.
-/

import Formwork.Number.Shortest

namespace Formwork

namespace Decimal

/-- The number of units of `10 ^ -places` nearest to `d`, a half counting up. -/
def units (d : Decimal) (places : Nat) : Nat :=
  let e := d.exponent + places
  if 0 ≤ e then d.digits * Nat.pow 10 e.toNat
  else
    let den := Nat.pow 10 (-e).toNat
    (2 * d.digits + den) / (2 * den)

end Decimal

/-- `n` to that many significant digits, halves to even. -/
def significant (digits n : Nat) : Nat :=
  if n < Nat.pow 10 digits then n else
    let unit := Nat.pow 10 (Binary64.decimalWidth n - digits)
    Binary64.roundEven n unit * unit

def groupThrees (digits : List Char) : List Char :=
  match digits with
  | c :: rest => if rest.length % 3 == 0 && !rest.isEmpty then c :: ',' :: groupThrees rest else c :: groupThrees rest
  | [] => []

def placesText (grouped : Bool) (places units : Nat) : List Char :=
  let whole := Nat.toDigits 10 (units / Nat.pow 10 places)
  let fraction := Nat.toDigits 10 (units % Nat.pow 10 places)
  (if grouped then groupThrees whole else whole) ++
    if places == 0 then [] else '.' :: List.replicate (places - fraction.length) '0' ++ fraction

end Formwork
