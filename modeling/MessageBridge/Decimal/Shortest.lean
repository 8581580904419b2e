import MessageBridge.Number.Binary64

/-!
# Shortest decimals

The decimal text of a double: the fewest digits that read back as the same number, the nearest of
those to it, written without an exponent.

## Main definitions

* `Decimal.Rounding` : the reals that round to a double, as an interval of fractions.
* `Decimal.shortest` : the fewest digits inside the interval, with their decimal exponent.
* `Decimal.positional` : digits and exponent written out.
* `Binary64.toDecimal` : the text of a double.
-/

namespace MessageBridge.Decimal

/-- The magnitude `4 * mid / (4 * den)` of a double and the reals that round to it, over the common
denominator `4 * den`: those between `low` and `high`, ends included when `closed`. -/
structure Rounding where
  low : Nat
  mid : Nat
  high : Nat
  den : Nat
  closed : Bool

/-- The reals that round to a finite positive double. Half the gap to each neighbour belongs to it;
below a power of two the gap is half as wide. -/
def Rounding.ofBinary64 (x : Binary64) : Rounding :=
  let m := x.significand
  let q := x.exponent
  let scale := 1 <<< q.toNat
  let den := 1 <<< (-q).toNat
  let narrow := m == FloatFormat.double.exponentUnit && FloatFormat.double.exponentField x.bits.toNat > 1
  { low := (4 * m - if narrow then 1 else 2) * scale
    mid := 4 * m * scale
    high := (4 * m + 2) * scale
    den := 4 * den
    closed := m % 2 == 0 }

/-- Whether the fraction `n / d` rounds to the double. -/
def Rounding.contains (r : Rounding) (n d : Nat) : Bool :=
  if r.closed then r.low * d ≤ n * r.den && n * r.den ≤ r.high * d
  else r.low * d < n * r.den && n * r.den < r.high * d

/-- The exponent of the leading decimal digit of the double. -/
def Rounding.leading (r : Rounding) : Int :=
  if r.den ≤ r.mid then (Nat.toDigits 10 (r.mid / r.den)).length - 1
  else
    match (List.range 400).find? (fun j => r.den ≤ r.mid * Nat.pow 10 j) with
    | some j => -j
    | none => -400

/-- The point of the decimal grid of step `10 ^ k` that is nearest to the double among its two
neighbours there that round to it, if one does. -/
def Rounding.nearest? (r : Rounding) (k : Int) : Option Nat :=
  let up := Nat.pow 10 k.toNat
  let down := Nat.pow 10 (-k).toNat
  let below := r.mid * down / (r.den * up)
  let above := below + 1
  match r.contains (below * up) down, r.contains (above * up) down with
  | true, true =>
    if 2 * (r.mid * down) ≤ (below + above) * (r.den * up) then some below else some above
  | true, false => some below
  | false, true => some above
  | false, false => none

/-- The fewest digits that round to the double, as a number and a power of ten. Seventeen always
do. -/
def shortest (r : Rounding) : Nat × Int :=
  let grids := (List.range 17).map (fun n : Nat => r.leading - (n : Int))
  match grids.findSome? (fun k => (r.nearest? k).map (fun n => (n, k))) with
  | some found => found
  | none => (0, 0)

/-- The number `n * 10 ^ k` written without an exponent and without trailing zeros after the
point. -/
def positional (n : Nat) (k : Int) : List Char :=
  let digits := Nat.toDigits 10 n
  match k with
  | .ofNat zeros => digits ++ List.replicate zeros '0'
  | .negSucc places' =>
    let places := places' + 1
    if places < digits.length then
      let whole := digits.take (digits.length - places)
      whole ++ trim (digits.drop (digits.length - places))
    else ['0'] ++ trim (List.replicate (places - digits.length) '0' ++ digits)
where
  /-- The digits after the point with the point, trailing zeros left out. -/
  trim (fraction : List Char) : List Char :=
    let kept := (fraction.reverse.dropWhile (· == '0')).reverse
    if kept.isEmpty then [] else '.' :: kept

end MessageBridge.Decimal

namespace MessageBridge

/-- The text of a double: the shortest decimal that reads back, written out, with the sign of a
negative zero. -/
def Binary64.toDecimal (x : Binary64) : String :=
  if x.isNaN then "NaN"
  else
    let sign := if x.isNegative then "-" else ""
    if x.isInfinite then sign ++ "inf"
    else if x.significand = 0 then sign ++ "0"
    else
      let (n, k) := Decimal.shortest (Decimal.Rounding.ofBinary64 x)
      sign ++ String.ofList (Decimal.positional n k)

end MessageBridge
