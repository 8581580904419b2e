import MessageBridge.Encoding.Descriptor
import MessageBridge.Error

/-!
# Call signatures

A signature is the shape of a call: the return type and every argument, for a method the receiver
and the selector included.

## Main definitions

* `Signature` : a return type and arguments; `Signature.IsMethod` says that the receiver and the
  selector come first.
* `Signature.assumed` : the signature of a message to a method that nobody declared.
* `Signature.encoding` : the type string.
-/

namespace MessageBridge

/-- The shape of a call. -/
structure Signature where
  ret : Descriptor
  args : List Descriptor
deriving DecidableEq

namespace Signature

/-- Whether the descriptor is an object reference. -/
def isObject (d : Descriptor) : Bool :=
  match d.shape with
  | .object _ => true
  | _ => false

/-- Whether the descriptor is a selector. -/
def isSelector (d : Descriptor) : Bool :=
  match d.shape with
  | .selector => true
  | _ => false

/-- Whether an object and a selector are the first two arguments. -/
def isMethod (s : Signature) : Bool :=
  match s.args with
  | receiver :: selector :: _ => isObject receiver && isSelector selector
  | _ => false

/-- The arguments that a caller supplies: those after the receiver and the selector of a method, and
all arguments of anything else. -/
def declared (s : Signature) : List Descriptor :=
  if s.isMethod then s.args.drop 2 else s.args

/-- The type string: the encodings one after another, the return type first. -/
def encoding (s : Signature) : String :=
  String.join (s.ret.encoding :: s.args.map Descriptor.encoding)

/-- The signature with the given parts, which must begin with a receiver and a selector. -/
def method (ret : Descriptor) (args : List Descriptor) : Except Error Signature :=
  let s : Signature := ⟨ret, args⟩
  if s.isMethod then .ok s else .error (.invalidSignature s.encoding)

/-- The signature assumed for a message that no method declares: objects in and out. -/
def assumed (argc : Nat) : Signature :=
  ⟨.object, .object :: .selector :: List.replicate argc .object⟩

end Signature

end MessageBridge
