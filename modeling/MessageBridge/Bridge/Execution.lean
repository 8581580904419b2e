import MessageBridge.Bridge.Evaluate
import MessageBridge.Native.Library

/-!
# Running code

What happens when code is called: a routine of the root classes, a host body or a library function.
Calls from inside a call are bounded in depth.

## Main definitions

* `Act.runRoutine`, `Act.runHosted` : the kinds of code.
* `Act.invokeVia` : running any code.
* `Reentry.within` : calls that are nested at most so many times.
-/

namespace MessageBridge.Act

/-! ## Routines -/

/-- The class at an address, none at the null address. -/
def classAt (a : Address) : Act (Option ClassId) := do
  if a = 0 then return none else return some (← readSpace (·.classes.ofAddress? a))

/-- The class of the object at an address, none at the null address. -/
def isaAt (a : Address) : Act (Option ClassId) := do
  if a = 0 then return none else return some (← readSpace (·.isa? a))

/-- The address of a class, null for none. -/
def classAddress (c : Option ClassId) : Address := (c.map ClassId.address).getD 0

/-- The superclass of a class. -/
def superOf (c : Option ClassId) : Act (Option ClassId) :=
  fromSpace (fun s => c.bind (fun c => (s.classes.get c).superclass?))

/-- Whether a class has a method for the selector at an address. -/
def hasMethod (c : Option ClassId) (sel : Address) : Act Bool :=
  fromSpace (fun s => c.any (fun c =>
    (s.selectors.ofAddress? sel).any (fun sel => (s.classes.findMethod? c sel).isSome)))

/-- The selector at an address, none at the null address. -/
def selectorAt (a : Address) : Act (Option Selector) := do
  if a = 0 then return none else return some (← readSpace (·.selectors.ofAddress? a))

/-- Sends a message without arguments to the object at an address. -/
def sendAt (re : Reentry) (receiver sel : Address) : Act Returned := do
  let code ← lookupImplementation re receiver (← selectorAt sel)
  match ← re.invoke code (askCall receiver sel) with
  | some bytes => return .word (ofWordBytes bytes)
  | none => return .nothing

/-- The text at an address, if there is one and it is valid. -/
def textAt (a : Address) : Act (Option (List UInt8)) := do
  if a = 0 then return none
  let bytes ← readSpace (·.readString? a)
  return if (Text.ofUtf8? bytes).isSome then some bytes else none

/-- Creates an instance of the class at an address; null for the null address. -/
def instantiate (a : Address) : Act Address := do
  match ← classAt a with
  | some c => onSpace (·.createInstance c 0)
  | none => return 0

/-- Runs a routine of the root classes on the words in the registers. -/
def runRoutine (re : Reentry) (routine : Routine) (r : Registers) : Act Returned := do
  let word (i : Nat) : Act UInt64 := require .unwrittenWord (r.word? i)
  let receiver ← word 0
  match routine with
  | .itself => return .word receiver
  | .classOf => return .word (classAddress (← isaAt receiver))
  | .superclassOf => return .word (classAddress (← superOf (← isaAt receiver)))
  | .isIdentical => return .bool (receiver == (← word 2))
  | .hash => return .word receiver
  | .respondsTo => return .bool (← hasMethod (← isaAt receiver) (← word 2))
  | .isKindOf => do
    let c ← readSpace (·.isa? receiver)
    let chain ← fromSpace (·.classes.chain c)
    return .bool ((chain.map ClassId.address).contains (← word 2))
  | .isMemberOf => return .bool (classAddress (← isaAt receiver) == (← word 2))
  | .perform => sendAt re receiver (← word 2)
  | .dispose => do
    if receiver ≠ 0 then changeSpace (·.dispose? receiver)
    return .nothing
  | .newInstance => return .word (← instantiate receiver)
  | .newInitialized => do
    let a ← instantiate receiver
    let sel ← intern "init"
    sendAt re a sel.address
  | .superclassOfClass => return .word (classAddress (← superOf (← classAt receiver)))
  | .version => do
    let version ← match ← classAt receiver with
      | some c => fromSpace (fun s => (s.classes.get c).version)
      | none => pure 0
    return .word version.toUInt32.toUInt64
  | .instancesRespondTo => return .bool (← hasMethod (← classAt receiver) (← word 2))
  | .resolveNothing => return .bool false
  | .newException => do
    let name ← word 2
    let reason ← word 3
    match ← classAt receiver with
    | none => return .word 0
    | some c =>
      let texts := [← textAt name, ← textAt reason]
      return .word (← tryOnSpace (·.newException? c texts))
  | .exceptionName => return .word (← readSpace (·.text? receiver "name"))
  | .exceptionReason => return .word (← readSpace (·.text? receiver "reason"))
  | .raise => do
    changeSpace (fun s => some (s.throw receiver))
    return .nothing
  | .disposeException => do
    changeSpace (·.disposeException? receiver)
    return .nothing

/-! ## Host bodies -/

/-- Decodes arguments, each of which must have been passed. -/
def decodeArguments (ctx : ContextId) : List (Descriptor × Option (List UInt8)) → Act (List Value)
  | [] => pure []
  | (d, bytes) :: rest => do
    let v ← decode ctx d (← require .unwrittenWord bytes)
    let vs ← decodeArguments ctx rest
    return v :: vs

/-- Encodes the result of a host body. A narrow integer fills a whole word. -/
def encodeResult (ctx : ContextId) (ret : Descriptor) (v : Value) : Act (List UInt8) := do
  if ret.isVoid then return []
  match ret.scalar?.filter Primitive.isWidened with
  | some p =>
    match p.encode? v with
    | some bytes => return wordBytes (p.widen bytes)
    | none => fail (.argumentTypeMismatch 0 ret.encoding v.kindName)
  | none =>
    let (bytes, blocks) ← encode ctx 0 ret (List.replicate ret.size 0) v
    retain ctx blocks
    return bytes

/-- Calls a host body: decodes what was passed, evaluates the body and encodes its value. -/
def respond (re : Reentry) (h : Hosted) (slots : List (Option (List UInt8))) :
    Act (List UInt8) := do
  let address ← require .unwrittenWord (slots.head?.join)
  match ← wrap h.context (ofWordBytes address) with
  | none => fail (.callback h.selector "nil receiver")
  | some receiver =>
    let args ← decodeArguments h.context (h.signature.declared.zip (slots.drop 2))
    let v ← h.body.eval ⟨re, h.context, receiver, args⟩
    encodeResult h.context h.signature.ret v

/-- Runs a host body. If it fails or breaks off, the context that registered it keeps the failure and
the result is zero. Without that context nothing is run and the result is zero. -/
def runHosted (re : Reentry) (h : Hosted) (c : Call) : Act (Option (List UInt8)) := do
  let width := max h.signature.ret.size wordSize
  let zero := List.replicate width (0 : UInt8)
  if !(← context h.context).live then return c.result h.signature.ret zero
  let failed (e : Error) : Act (List UInt8) := do
    modifyContext h.context (·.recordFailure e)
    return zero
  let bytes ← tryCatch (respond re h (c.arguments h.signature)) (fun
    | .error e => failed e
    | .panic text => failed (.callback h.selector text)
    | stop => throw stop)
  return c.result h.signature.ret (padBytes bytes width)

/-! ## All code -/

/-- Runs code, when calls from inside it are given. -/
def invokeVia (re : Reentry) (code : Implementation) (c : Call) : Act (Option (List UInt8)) := do
  let answer (r : Returned) : Act (Option (List UInt8)) := pure (r.toBytes? c.signature.ret)
  match code with
  | .nilMethod => answer (.word 0)
  | .forwarding => do
    let receiver ← require .unwrittenWord (c.registers.word? 0)
    let sel ← require .unwrittenWord (c.registers.word? 1)
    raiseUnrecognized receiver (← selectorAt sel)
    answer (.word 0)
  | .routine routine => answer (← runRoutine re routine c.registers)
  | .constant value => answer (.word value.toUInt64)
  | .receiver => answer (.word (← require .unwrittenWord (c.registers.word? 0)))
  | .successor => answer (.word ((← require .unwrittenWord (c.registers.word? 2)) + 1))
  | .hosted index =>
    match (← get).hosted[index]? with
    | some h => runHosted re h c
    | none => fault .badAccess
  | .library f =>
    let s := (← get).space
    answer (← require .badAccess (f.run? s.readString? c.registers))
  | .variable => fault .badAccess

end MessageBridge.Act

namespace MessageBridge

/-- Calls that are nested at most `depth` times. -/
def Reentry.within : Nat → Reentry
  | 0 => .exhausted
  | depth + 1 => {
      invoke := fun code c => Act.invokeVia (Reentry.within depth) code c
      ask := fun ctx r name => Act.sendVia (Reentry.within depth) ctx r { selector := name } }

/-- How deep calls can be nested. -/
def nestingLimit : Nat := 10000

namespace Act

/-- Sends a message to an object. -/
def send (ctx : ContextId) (receiver : ObjectRef) (m : Message) : Act Value :=
  sendVia (.within nestingLimit) ctx receiver m

/-- Sends a message to an object, starting above its class. -/
def sendSuper (ctx : ContextId) (receiver : ObjectRef) (m : Message) : Act Value :=
  sendSuperVia (.within nestingLimit) ctx receiver m

/-- Sends a message to an object, starting above the given class. -/
def sendSuperOf (ctx : ContextId) (receiver c : ObjectRef) (m : Message) : Act Value :=
  sendSuperOfVia (.within nestingLimit) ctx receiver c m

/-- Calls a function. -/
def callFunction (ctx : ContextId) (f : Function) (args : List Value) : Act Value :=
  callFunctionVia (.within nestingLimit) ctx f args

end Act

end MessageBridge
