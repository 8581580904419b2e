import MessageBridge.Number.Word

/-!
# Object references

The host refers to a native object through a reference, and a context keeps one reference per live
object. Two references are the same exactly when they carry the same serial number, which is never
given out twice.

## Main definitions

* `ObjectRef` : a reference to an instance or to a class.
* `ObjectRef.describe` : its text, with the address in hexadecimal.
-/

namespace MessageBridge

/-- A host-side reference to a native object. -/
structure ObjectRef where
  serial : Nat
  address : Address
  isClass : Bool
deriving DecidableEq, Repr

/-- The number in hexadecimal after `0x`, lower case. -/
def hexAddress (a : Address) : String :=
  String.ofList ('0' :: 'x' :: Nat.toDigits 16 a.toNat)

namespace ObjectRef

/-- The name of the kind of object that is referred to. -/
def kindName (r : ObjectRef) : String := if r.isClass then "Class" else "Instance"

/-- The reference as text: address and kind. -/
def describe (r : ObjectRef) : String := "Id(" ++ hexAddress r.address ++ ", " ++ r.kindName ++ ")"

end ObjectRef

end MessageBridge
