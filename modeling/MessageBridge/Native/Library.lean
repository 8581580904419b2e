import MessageBridge.Number.Binary64
import MessageBridge.Native.Registers
import MessageBridge.Space.Implementation

/-!
# Library functions

What the functions of the C library compute, from the registers at their entry.

## Main definitions

* `LibraryFunction.decimalPrefix` : the number that a text begins with.
* `LibraryFunction.run?` : the result of a call.
-/

namespace MessageBridge.LibraryFunction

/-- The low half of a word as a signed number. -/
def low (w : UInt64) : Int32 := w.toUInt32.toInt32

/-- A word whose low half is the number and whose high half is zero. -/
def ofLow (i : Int32) : UInt64 := i.toUInt32.toUInt64

/-- Whether a byte is a blank before a number. -/
def isBlankByte (b : UInt8) : Bool := b == 32 || (9 ≤ b && b ≤ 13)

/-- Whether a byte is a decimal digit. -/
def isDigitByte (b : UInt8) : Bool := 48 ≤ b && b ≤ 57

/-- The number that a text begins with, after blanks and one sign. A text that begins with none
counts as zero, and a number out of range as the nearest in range. -/
def decimalPrefix (bytes : List UInt8) : Int64 :=
  let rest := bytes.dropWhile isBlankByte
  let digits (ds : List UInt8) : Int :=
    (ds.takeWhile isDigitByte).foldl (fun n d => n * 10 + (d.toNat - 48 : Int)) 0
  let n := match rest with
    | 43 :: ds => digits ds
    | 45 :: ds => -digits ds
    | ds => digits ds
  Int64.ofInt (max Int64.minValue.toInt (min n Int64.maxValue.toInt))

/-- The letter in upper case, for the letters without accents. -/
def upper (c : Int32) : Int32 := if 97 ≤ c && c ≤ 122 then c - 32 else c

/-- The sign bit of a double. -/
def signMask : UInt64 := 0x8000000000000000

/-- The result of a call, where every argument was passed and, for a division, the quotient exists.
`textAt` reads a C string. -/
def run? (f : LibraryFunction) (textAt : UInt64 → Option (List UInt8)) (r : Registers) :
    Option Returned :=
  match f with
  | strlen => do
    let text ← textAt (← r.word? 0)
    return .word (UInt64.ofNat text.length)
  | abs => do
    let i := low (← r.word? 0)
    return .word (ofLow (if i < 0 then -i else i))
  | labs => do
    let i := (← r.word? 0).toInt64
    return .word (if i < 0 then -i else i).toUInt64
  | toupper => do return .word (ofLow (upper (low (← r.word? 0))))
  | atoi => do return .word (decimalPrefix (← textAt (← r.word? 0))).toUInt64
  | div => do
    let a := low (← r.word? 0)
    let b := low (← r.word? 1)
    if b = 0 || (a = Int32.minValue && b = -1) then none
    else return .word (ofLow (a / b) ||| (ofLow (a % b) <<< 32))
  | ldiv => do
    let a := (← r.word? 0).toInt64
    let b := (← r.word? 1).toInt64
    if b = 0 || (a = Int64.minValue && b = -1) then none
    else return { general := [(a / b).toUInt64, (a % b).toUInt64] }
  | copysign => do
    let x ← r.vector[0]?.join
    let y ← r.vector[1]?.join
    return { vector := [(x &&& ~~~signMask) ||| (y &&& signMask)] }

end MessageBridge.LibraryFunction
