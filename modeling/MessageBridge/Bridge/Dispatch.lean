import MessageBridge.Bridge.Lookup
import MessageBridge.Bridge.Objects

/-!
# Sending messages

A message is sent in three steps: the method that is found says with which signature to call, the
lookup says which code to call, and what the call left behind says how it ended. A failure of a host
body comes before a raised exception, and both come before the result.

## Main definitions

* `Act.frame` : signatures that were built once are kept under a key.
* `Act.callCode` : one call, with the arguments encoded as the signature demands.
* `Act.complete` : how a call ended.
* `Act.Plan`, `Act.carryOut` : a call that is ready to be made, and making it.
* `Act.Target`, `Act.planMessage` : what a message calls.
* `Act.Dispatch`, `Act.dispatch` : the ways to make a call, when calls from inside it are given.
-/

namespace MessageBridge.Act

/-! ## Signatures -/

/-- The signature under a key, built and kept if there is none yet. -/
def frame (ctx : ContextId) (key : String) (build : Act Signature) : Act Signature := do
  match (← context ctx).frames.lookup key with
  | some s => return s
  | none =>
    let s ← build
    modifyContext ctx (fun c => { c with frames := (key, s) :: c.frames })
    return s

/-- The number of signatures that are kept. -/
def frameCount (ctx : ContextId) : Act Nat := return (← context ctx).frames.length

/-- The signature of a method, under its type string, or under its encoding where the context cannot
read the type string. -/
def methodFrame (ctx : ContextId) (m : MethodRef) : Act Signature := do
  match ← typeString ctx m with
  | some key => frame ctx key (methodTypes ctx m)
  | none =>
    let s ← methodTypes ctx m
    frame ctx s.encoding (pure s)

/-- The signature of a message for which there is no method, if the context may assume one. -/
def assumedFrame (ctx : ContextId) (m : Message) : Act Signature := do
  if (← context ctx).config.fallback = .deny then fail (.unrecognizedSelector m.selector)
  else
    let s := Signature.assumed m.args.length
    frame ctx s.encoding (pure s)

/-! ## Calls -/

/-- Encodes arguments, each into a buffer of its own. -/
def encodeArguments (ctx : ContextId) (index : Nat) :
    List (Descriptor × Value) → Act (List (List UInt8) × List Address)
  | [] => pure ([], [])
  | (d, v) :: rest => do
    let (bytes, blocks) ← encode ctx index d (slot d.size) v
    let (slots, more) ← encodeArguments ctx (index + 1) rest
    return (bytes :: slots, blocks ++ more)

/-- Calls code with a signature. The first arguments are given as words, and the others as values,
whose blocks are kept after the call. -/
def callCode (re : Reentry) (ctx : ContextId) (s : Signature) (code : Implementation)
    (words : List UInt64) (args : List Value) : Act (Option (List UInt8)) := do
  let (slots, blocks) ← encodeArguments ctx 0 ((s.args.drop words.length).zip args)
  let result ← re.invoke code ⟨s, words.map wordBytes ++ slots⟩
  retain ctx blocks
  return result

/-- The failure that a host body left for the context. -/
def takePendingError (ctx : ContextId) : Act (Option Error) := do
  let pending := (← context ctx).pendingError
  modifyContext ctx (fun c => { c with pendingError := none })
  return pending

/-- The raised exception, if the context can take it. -/
def takeException (ctx : ContextId) : Act (Option ObjectRef) := do
  if (← context ctx).capabilities.exceptions then wrap ctx (← onSpace (·.takeRaised))
  else return none

/-- The value, or nothing if there is an error. -/
def orNone {α : Type} (x : Act α) : Act (Option α) :=
  recover (some <$> x) (fun _ => pure none)

/-- A text that an exception answers to a message: a string, or an object that answers one in
turn. -/
def exceptionText (re : Reentry) (ctx : ContextId) (exception : ObjectRef) (name : String) :
    Act (Option String) := do
  if ← respondsTo ctx exception name then
    match ← orNone (re.ask ctx exception name) with
    | some (.str s) => return some s
    | some (.object r) => return (← orNone (re.ask ctx r "UTF8String")).bind Value.toText?
    | _ => return none
  else return none

/-- Ends a call: with the failure of a host body, with a raised exception, or with its result. -/
def complete (re : Reentry) (ctx : ContextId) (ret : Descriptor) (result : Option (List UInt8)) :
    Act Value := do
  match ← takePendingError ctx with
  | some e =>
    let _ ← takeException ctx
    fail e
  | none =>
    match ← takeException ctx with
    | some exception =>
      let name ← exceptionText re ctx exception "name"
      let reason ← exceptionText re ctx exception "reason"
      fail (.exception exception name reason)
    | none =>
      if ret.isVoid then return .nil
      else decodeResult ctx ret (← require .unwrittenWord result)

/-- A call that is ready to be made: the code, the signature to call it with, and the arguments, of
which the first are given as words. -/
structure Plan where
  signature : Signature
  code : Implementation
  words : List UInt64
  args : List Value

/-- Makes a call and ends it. -/
def carryOut (re : Reentry) (ctx : ContextId) (p : Plan) : Act Value := do
  let result ← callCode re ctx p.signature p.code p.words p.args
  complete re ctx p.signature.ret result

/-! ## Messages -/

/-- Where the search for the method of a message starts. -/
inductive Route where
  /-- At the class of the receiver. -/
  | direct
  /-- Above the class of the receiver. -/
  | super
  /-- Above the given class. -/
  | superOf (c : ObjectRef)

/-- A receiver and a selector, with the class at which the search for the method starts. -/
structure Target where
  receiver : ObjectRef
  sel : Selector
  start : ClassId
  /-- The search starts at the class whatever the receiver is. -/
  isSuper : Bool

/-- The class above which the search starts. For a receiver that is a class this is the metaclass of
the given class. -/
def superOrigin (ctx : ContextId) (receiver c : ObjectRef) : Act (Option ClassId) := do
  if receiver.isClass then
    match ← classOf ctx c with
    | some k => return some (← classOfRef k)
    | none => return none
  else return some (← classOfRef c)

/-- The class of a receiver that the search starts at. -/
def receiverClass (receiver : ObjectRef) : Act ClassId := do
  if receiver.isClass then
    let c ← classOfRef receiver
    fromSpace (·.classes.metaclass c)
  else isa receiver

/-- The target of a message that starts above a class. -/
def targetAbove (ctx : ContextId) (receiver : ObjectRef) (origin : Option ClassId)
    (selector : String) : Act Target := do
  let sel ← Act.selector ctx selector
  match ← fromSpace (fun s => origin.bind (fun c => (s.classes.get c).superclass?)) with
  | none => fail (.unrecognizedSelector selector)
  | some start => return ⟨receiver, sel, start, true⟩

/-- The target of a message. -/
def target (ctx : ContextId) (receiver : ObjectRef) (route : Route) (selector : String) :
    Act Target := do
  match route with
  | .direct =>
    let sel ← Act.selector ctx selector
    return ⟨receiver, sel, ← receiverClass receiver, false⟩
  | .super => targetAbove ctx receiver (some (← isa receiver)) selector
  | .superOf c => targetAbove ctx receiver (← superOrigin ctx receiver c) selector

/-- The signature of a message for which a method was found, or none. -/
def messageFrame (ctx : ContextId) (method : Option MethodRef) (m : Message) : Act Signature :=
  match method with
  | some method => methodFrame ctx method
  | none => assumedFrame ctx m

/-- The code for a message, unless the context cannot look it up. -/
def findCode (re : Reentry) (ctx : ContextId) (t : Target) : Act (Option Implementation) := do
  if t.isSuper then return some (← lookupAbove t.receiver.address (some t.start) (some t.sel))
  else if (← context ctx).capabilities.lookup then
    return some (← lookupImplementation re t.receiver.address (some t.sel))
  else return none

/-- Plans the call for a message. The signature is settled before the code is looked up. -/
def planMessage (re : Reentry) (ctx : ContextId) (t : Target) (m : Message) : Act Plan := do
  let method ← fromSpace (·.classes.findMethod? t.start t.sel)
  let s ← messageFrame ctx method m
  if s.declared.length ≠ m.args.length then
    fail (.argumentCountMismatch m.selector s.declared.length m.args.length)
  else
    match ← findCode re ctx t with
    | none => fail (.unrecognizedSelector m.selector)
    | some code => return ⟨s, code, [t.receiver.address, t.sel.address], m.args⟩

/-! ## The ways to make a call -/

/-- A call that a host asks for. -/
inductive Dispatch where
  /-- A message to an object. -/
  | message (route : Route) (receiver : ObjectRef) (m : Message)
  /-- A call of a function. -/
  | function (f : Function) (args : List Value)

/-- Plans a call. -/
def plan (re : Reentry) (ctx : ContextId) : Dispatch → Act Plan
  | .message route receiver m => do planMessage re ctx (← target ctx receiver route m.selector) m
  | .function f args => do
    if f.signature.args.length ≠ args.length then
      fail (.argumentCountMismatch f.name f.signature.args.length args.length)
    else
      let s ← frame ctx ("fn " ++ f.signature.encoding) (pure f.signature)
      return ⟨s, f.code, [], args⟩

/-- Plans a call, makes it and ends it. -/
def dispatch (re : Reentry) (ctx : ContextId) (d : Dispatch) : Act Value := do
  carryOut re ctx (← plan re ctx d)

/-- Sends a message to an object. -/
def sendVia (re : Reentry) (ctx : ContextId) (receiver : ObjectRef) (m : Message) : Act Value :=
  dispatch re ctx (.message .direct receiver m)

/-- Sends a message to an object, starting above its class. -/
def sendSuperVia (re : Reentry) (ctx : ContextId) (receiver : ObjectRef) (m : Message) :
    Act Value :=
  dispatch re ctx (.message .super receiver m)

/-- Sends a message to an object, starting above the given class. -/
def sendSuperOfVia (re : Reentry) (ctx : ContextId) (receiver c : ObjectRef) (m : Message) :
    Act Value :=
  dispatch re ctx (.message (.superOf c) receiver m)

/-- Calls a function. -/
def callFunctionVia (re : Reentry) (ctx : ContextId) (f : Function) (args : List Value) :
    Act Value :=
  dispatch re ctx (.function f args)

end MessageBridge.Act
