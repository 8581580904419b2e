/-!
# Binary floating-point numbers

Floating-point numbers as the bit patterns of the two standard formats, with exact arithmetic on the
numbers that the patterns denote. Every result is the exact one rounded once, to the nearest number
of the format, a tie going to the even pattern.

## Main definitions

* `FloatFormat` : a format by the widths of its fields; `double` and `single`.
* `FloatFormat.round` : the pattern nearest to `m * 2 ^ q`.
* `Binary64` : a double by its bits, with conversions from integers and to and from `single`, and
  addition.
-/

namespace MessageBridge

/-- The widths of the fraction and exponent fields of a binary format. -/
structure FloatFormat where
  fractionBits : Nat
  exponentBits : Nat

namespace FloatFormat

/-- The format of eight bytes. -/
def double : FloatFormat := ⟨52, 11⟩

/-- The format of four bytes. -/
def single : FloatFormat := ⟨23, 8⟩

/-- The exponent of the least positive number. -/
def minExponent (F : FloatFormat) : Int :=
  2 - ((1 <<< (F.exponentBits - 1) + F.fractionBits : Nat) : Int)

/-- The weight of the lowest exponent bit. -/
def exponentUnit (F : FloatFormat) : Nat := 1 <<< F.fractionBits

/-- The exponent field of infinities and NaNs: all its bits are set. -/
def maxExponentField (F : FloatFormat) : Nat := 1 <<< F.exponentBits - 1

/-- The pattern of positive infinity. -/
def infinity (F : FloatFormat) : Nat := F.maxExponentField * F.exponentUnit

/-- The weight of the sign bit. -/
def signBit (F : FloatFormat) : Nat := 1 <<< (F.exponentBits + F.fractionBits)

/-- The bit of the fraction that tells a quiet NaN. -/
def quietBit (F : FloatFormat) : Nat := 1 <<< (F.fractionBits - 1)

/-- The fraction of a pattern. -/
def fraction (F : FloatFormat) (bits : Nat) : Nat := bits % F.exponentUnit

/-- The exponent field of a pattern. -/
def exponentField (F : FloatFormat) (bits : Nat) : Nat :=
  bits / F.exponentUnit % (F.maxExponentField + 1)

/-- Whether the sign bit is set. -/
def isNegative (F : FloatFormat) (bits : Nat) : Bool := bits / F.signBit % 2 == 1

/-- Whether the pattern denotes no number. -/
def isNaN (F : FloatFormat) (bits : Nat) : Bool :=
  F.exponentField bits == F.maxExponentField && F.fraction bits != 0

/-- Whether the pattern denotes an infinity. -/
def isInfinite (F : FloatFormat) (bits : Nat) : Bool :=
  F.exponentField bits == F.maxExponentField && F.fraction bits == 0

/-- The integer `m` of the magnitude `m * 2 ^ q` that a finite pattern denotes. -/
def significand (F : FloatFormat) (bits : Nat) : Nat :=
  if F.exponentField bits = 0 then F.fraction bits else F.exponentUnit + F.fraction bits

/-- The exponent `q` of the magnitude `m * 2 ^ q` that a finite pattern denotes. -/
def exponent (F : FloatFormat) (bits : Nat) : Int :=
  F.minExponent + ((max (F.exponentField bits) 1 : Nat) - 1 : Int)

/-- The quotient rounded to the nearest integer, a tie going to the even one. -/
def divRound (m d : Nat) : Nat :=
  let q := m / d
  let r := m % d
  if 2 * r < d then q else if d < 2 * r then q + 1 else q + q % 2

/-- The magnitude pattern nearest to `m * 2 ^ q`, infinity beyond the largest number. -/
def round (F : FloatFormat) (m : Nat) (q : Int) : Nat :=
  if m = 0 then 0
  else
    -- the number of low bits that do not fit, negative if there is room to spare
    let drop : Int := max ((Nat.log2 m : Int) - F.fractionBits) (F.minExponent - q)
    let n := if drop ≤ 0 then m <<< (-drop).toNat else divRound m (1 <<< drop.toNat)
    -- a carry out of the significand moves into the exponent field
    let bits := (q + drop - F.minExponent).toNat * F.exponentUnit + n
    min bits F.infinity

end FloatFormat

/-- A double-precision number by its bit pattern. -/
structure Binary64 where
  bits : UInt64
deriving DecidableEq, Repr

namespace Binary64

open FloatFormat (double single)

/-- The number with the given sign and magnitude pattern. -/
def ofMagnitude (negative : Bool) (magnitude : Nat) : Binary64 :=
  ⟨UInt64.ofNat (if negative then double.signBit + magnitude else magnitude)⟩

/-- The integer as a double, rounded. -/
def ofInt (i : Int) : Binary64 := ofMagnitude (i < 0) (double.round i.natAbs 0)

/-- Whether the pattern denotes no number. -/
def isNaN (x : Binary64) : Bool := double.isNaN x.bits.toNat

/-- Whether the number is an infinity. -/
def isInfinite (x : Binary64) : Bool := double.isInfinite x.bits.toNat

/-- Whether the sign bit is set. -/
def isNegative (x : Binary64) : Bool := double.isNegative x.bits.toNat

/-- The integer `m` of the magnitude `m * 2 ^ q` of a finite number. -/
def significand (x : Binary64) : Nat := double.significand x.bits.toNat

/-- The exponent `q` of the magnitude `m * 2 ^ q` of a finite number. -/
def exponent (x : Binary64) : Int := double.exponent x.bits.toNat

/-- The significand with its sign. -/
def signed (x : Binary64) : Int := if x.isNegative then -x.significand else x.significand

/-- Sets the bit that marks a quiet NaN. -/
def quieten (x : Binary64) : Binary64 := ⟨x.bits ||| 0x0008000000000000⟩

/-- Equality of numbers: a NaN equals nothing, and the two zeros are equal. -/
def numEq (x y : Binary64) : Bool :=
  !x.isNaN && !y.isNaN && (x.bits == y.bits || (x.bits ||| y.bits) <<< 1 == 0)

/-- The pattern of the nearest single-precision number. A NaN keeps its sign and the high part of
its payload and becomes quiet. -/
def toSingle (x : Binary64) : UInt32 :=
  let sign := if x.isNegative then single.signBit else 0
  let magnitude :=
    if x.isNaN then
      single.infinity + (double.fraction x.bits.toNat >>> 29 ||| single.quietBit)
    else if x.isInfinite then single.infinity
    else single.round x.significand x.exponent
  UInt32.ofNat (sign + magnitude)

/-- The double equal to a single-precision number. A NaN keeps its sign and payload and becomes
quiet. -/
def ofSingle (bits : UInt32) : Binary64 :=
  let n := bits.toNat
  let magnitude :=
    if single.isNaN n then double.infinity + (single.fraction n ||| single.quietBit) <<< 29
    else if single.isInfinite n then double.infinity
    else double.round (single.significand n) (single.exponent n)
  ofMagnitude (single.isNegative n) magnitude

/-- The sum, rounded once. A NaN operand is passed on, the left one first, and infinities of opposite
sign have no sum. -/
def add (x y : Binary64) : Binary64 :=
  if x.isNaN then x.quieten
  else if y.isNaN then y.quieten
  else if x.isInfinite then
    if y.isInfinite && x.isNegative != y.isNegative then ⟨0xfff8000000000000⟩ else x
  else if y.isInfinite then y
  else
    let q := min x.exponent y.exponent
    let scaled (z : Binary64) : Int := z.signed * (1 <<< (z.exponent - q).toNat : Nat)
    let sum := scaled x + scaled y
    if sum = 0 then ofMagnitude (x.isNegative && y.isNegative) 0
    else ofMagnitude (sum < 0) (double.round sum.natAbs q)

end Binary64

end MessageBridge
