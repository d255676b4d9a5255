/-
  Formwork.Number.Binary64: the exact value of a binary64 number, and the number nearest
  to an exact value.

  `parts` decodes a float into sign, whole significand and power of two. `ofRatio` goes
  back: the float nearest to a ratio of naturals, halves to the even significand, infinite
  from half a step above the greatest finite float. Reading decimals, converting and
  dividing integers and the remainder all go through `ofRatio`, so each is one exact
  computation rounded once. The basic operations `+ - * /` and the square root are core's.
-/

namespace Formwork.Binary64

/-- What a binary64 number stands for; `finite s m q` is `m * 2 ^ q`, negated when `s`. -/
inductive Parts where
  | nan
  | infinite (negative : Bool)
  | finite (negative : Bool) (m : Nat) (q : Int)
  deriving DecidableEq, Repr

/-- The leading one of a significand in full, which its encoding leaves out: `2 ^ 52`. -/
def hiddenBit : Nat := 0x10000000000000

def parts (x : Float) : Parts :=
  let bits := x.toBits.toNat
  let negative := decide (0x8000000000000000 ≤ bits)
  let e : Nat := bits / hiddenBit % 2048
  let f : Nat := bits % hiddenBit
  if e == 2047 then (if f == 0 then .infinite negative else .nan)
  else if e == 0 then .finite negative f (-1074)
  else .finite negative (hiddenBit + f) ((e : Int) - 1075)

def nan : Float := Float.ofBits 0x7FF8000000000000

def infinity : Float := Float.ofBits 0x7FF0000000000000

def signed (negative : Bool) (x : Float) : Float := if negative then -x else x

def roundEven (num den : Nat) : Nat :=
  let d := num / den
  let r := num % den
  if 2 * r < den then d else if den < 2 * r then d + 1 else if d % 2 == 0 then d else d + 1

/-- The power of two of the last place of the float nearest to `num / den`, the least possible one being -1074. -/
def lastPlace (num den : Nat) : Int :=
  let k := (num.log2 : Int) - den.log2 - 52
  let k := if num * Nat.pow 2 (-k).toNat < hiddenBit * den * Nat.pow 2 k.toNat then k - 1 else k
  max k (-1074)

/-- The float nearest to `num / den`, for `0 < den`. -/
def ofRatio (num den : Nat) : Float :=
  if num == 0 then 0 else
    let q := lastPlace num den
    let m := roundEven (num * Nat.pow 2 (-q).toNat) (den * Nat.pow 2 q.toNat)
    Float.ofBits (UInt64.ofNat (min 0x7FF0000000000000 ((q + 1074).toNat * hiddenBit + m)))

def decimalWidth (n : Nat) : Nat := (Nat.toDigits 10 n).length

/-- The float nearest to `n * 10 ^ e`. Powers that leave the range of floats on either side are not computed. -/
def ofDecimal (n : Nat) (e : Int) : Float :=
  let magnitude := e + decimalWidth n
  if n == 0 || magnitude < -330 then 0
  else if 320 < magnitude then infinity
  else ofRatio (n * Nat.pow 10 e.toNat) (Nat.pow 10 (-e).toNat)

def ofInt? (n : Int) : Option Float :=
  let x := ofRatio n.natAbs 1
  if x.isInf then none else some (signed (decide (n < 0)) x)

/-- The exact quotient of two integers rounded once, unless out of range; `b` is not zero. -/
def divInt? (a b : Int) : Option Float :=
  let x := ofRatio a.natAbs b.natAbs
  if x.isInf then none else some (signed (decide (a < 0) != decide (b < 0)) x)

def floor? (x : Float) : Option Int :=
  match parts x with
  | .finite negative m q =>
    let n : Int := if negative then -(m : Int) else m
    some (n * Nat.pow 2 q.toNat / Nat.pow 2 (-q).toNat)
  | _ => none

def ceil? (x : Float) : Option Int := (floor? (-x)).map (- ·)

def toInt? (x : Float) : Option Int :=
  match floor? x, ceil? x with
  | some a, some b => if a == b then some a else none
  | _, _ => none

/-- The remainder of finite `x` by finite non-zero `y`, with the sign of `x`; exact. -/
def remainder (x y : Float) : Float :=
  match parts x, parts y with
  | .finite s m q, .finite _ n r =>
    let e := min q r
    let rest := (m * Nat.pow 2 (q - e).toNat) % (n * Nat.pow 2 (r - e).toNat)
    signed s (ofRatio (rest * Nat.pow 2 e.toNat) (Nat.pow 2 (-e).toNat))
  | _, _ => nan

/-- An integer against a float, exactly; a NaN compares with nothing. -/
def compareInt (n : Int) (x : Float) : Option Ordering :=
  match parts x with
  | .nan => none
  | .infinite negative => some (if negative then .gt else .lt)
  | .finite negative m q =>
    let v : Int := if negative then -(m : Int) else m
    some (compare (n * Nat.pow 2 (-q).toNat) (v * Nat.pow 2 q.toNat))

end Formwork.Binary64
