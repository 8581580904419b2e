import MessageBridge.Bridge.Basic
import MessageBridge.Message
import MessageBridge.Native.Registers

/-!
# Calls and re-entry

Native code is called with the bytes of its arguments, and may itself call back into the bridge: a
routine sends messages, and a host body runs arbitrary actions. How calls are made from inside a call
is a parameter of everything that needs it, so that the nesting can be bounded at the outside.

## Main definitions

* `Call` : the arguments of a call, as the caller sees them.
* `Reentry` : calls from inside a call.
-/

namespace MessageBridge

/-- A call as the caller makes it: the signature it goes by, and the bytes of each argument. -/
structure Call where
  signature : Signature
  slots : List (List UInt8)

namespace Call

/-- The registers at the entry of the call. -/
def registers (c : Call) : Registers := .place c.signature.ret (c.signature.args.zip c.slots)

/-- A call whose arguments are words. -/
def ofWords (signature : Signature) (words : List UInt64) : Call :=
  ⟨signature, words.map wordBytes⟩

/-- The bytes of each argument, as code with the given signature sees them. If caller and callee go
by the same signature they are what the caller passed. -/
def arguments (c : Call) (s : Signature) : List (Option (List UInt8)) :=
  if c.signature = s then c.slots.map some else c.registers.fetch s

/-- The bytes of a result, as the caller sees them. -/
def result (c : Call) (ret : Descriptor) (bytes : List UInt8) : Option (List UInt8) :=
  if c.signature.ret = ret then some bytes
  else (Returned.ofBytes ret bytes).toBytes? c.signature.ret

end Call

/-- Calls from inside a call. -/
structure Reentry where
  /-- Runs code, and answers the bytes of its result if there is one. -/
  invoke : Implementation → Call → Act (Option (List UInt8))
  /-- Sends a message without arguments to an object. -/
  ask : ContextId → ObjectRef → String → Act Value

namespace Reentry

/-- No calls at all. -/
def exhausted : Reentry where
  invoke _ _ := Act.fault .depthExceeded
  ask _ _ _ := Act.fault .depthExceeded

end Reentry

end MessageBridge
