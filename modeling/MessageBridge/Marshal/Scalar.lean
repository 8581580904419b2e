import MessageBridge.Encoding.Primitive
import MessageBridge.Value.Basic

/-!
# Scalars as bytes

The native bytes of scalar values. Integers are cut to the width of their type, numbers given for a
floating-point type are rounded to it, and truth values take one byte.

## Main definitions

* `Primitive.encode?` : the bytes of a value as a scalar type.
* `Primitive.decode` : the value that bytes hold as a scalar type.
* `Primitive.widen`, `Primitive.narrow` : results narrower than a register.
-/

namespace MessageBridge.Primitive

/-- The bytes of a value as a scalar type, if it is a value for that type. -/
def encode? (p : Primitive) (v : Value) : Option (List UInt8) :=
  match p with
  | void => none
  | bool => v.toBool?.map (fun b => [if b then 1 else 0])
  | float => v.toFloat?.map (fun x => leBytes 4 x.toSingle.toNat)
  | double => v.toFloat?.map (fun x => leBytes 8 x.bits.toNat)
  | _ => v.toBits?.map (fun w => leBytes p.size w.toNat)

/-- The value that bytes hold as a scalar type. -/
def decode (p : Primitive) (bytes : List UInt8) : Value :=
  match p with
  | void => .nil
  | bool => .bool (ofLeBytes (bytes.take 1) != 0)
  | float => .float (.ofSingle (UInt32.ofNat (ofLeBytes (bytes.take 4))))
  | double => .float ⟨ofWordBytes bytes⟩
  | _ =>
    if p.isSigned then .int (Int64.ofInt (ofLeBytesSigned (bytes.take p.size)))
    else .uint (UInt64.ofNat (ofLeBytes (bytes.take p.size)))

/-- The word in which a narrow result fills a register. -/
def widen (p : Primitive) (bytes : List UInt8) : UInt64 :=
  match p.decode bytes with
  | .int i => i.toUInt64
  | .uint u => u
  | .bool b => if b then 1 else 0
  | _ => 0

/-- The bytes of a narrow result that fills a register. -/
def narrow (p : Primitive) (w : UInt64) : List UInt8 := (wordBytes w).take p.size

end MessageBridge.Primitive
