import MessageBridge.Bridge.Objects

/-!
# Resolving names

What a name stands for: a class, a constant, an enumerator or a function, in this order. Within a
kind the earliest metadata counts. What was resolved once is remembered.

## Main definitions

* `Act.addMetadata`, `Act.loadLibrary`, `Act.addProcess` : where names come from.
* `Act.resolve` : what a name stands for.
-/

namespace MessageBridge.Act

/-! ## Sources -/

/-- Adds metadata after that which is there. -/
def addMetadata (ctx : ContextId) (m : Metadata) : Act Unit :=
  modifyContext ctx (fun c => { c with sources := c.sources ++ [m] })

/-- Adds a library, which is searched before the others. -/
def addLibrary (ctx : ContextId) (l : NativeLibrary) : Act Unit :=
  modifyContext ctx (fun c => { c with libraries := l :: c.libraries })

/-- Opens a library and adds it. -/
def loadLibrary (ctx : ContextId) (path : String) : Act NativeLibrary := do
  let l ← ofExcept (NativeLibrary.openFile path)
  addLibrary ctx l
  return l

/-- Opens a library as an object runtime. None of the libraries is one. -/
def openRuntime (path : String) : Act Unit := do
  let _ ← ofExcept (NativeLibrary.openFile path)
  fail (.symbolNotFound NativeLibrary.runtimeEntry)

/-- What the libraries of a context export under a name. -/
def symbol? (ctx : ContextId) (name : String) : Act (Option Symbol) := do
  return (← context ctx).symbol? name

/-! ## Names -/

/-- The bytes of a constant in a buffer of whole words. Given bytes are cut or filled up with
zeros. -/
def constantBytes (ctx : ContextId) (name : String) (d : Descriptor) (c : Constant) :
    Act (List UInt8) := do
  match c.bytes? with
  | some bytes => return padBytes (bytes.take (slotSize d.size)) (slotSize d.size)
  | none =>
    match ← symbol? ctx name with
    | none => fail (.symbolNotFound name)
    | some (.function _) => fault .badAccess
    | some .variable =>
      if d.size ≤ wordSize then
        return padBytes ((wordBytes foreignAddress).take d.size) (slotSize d.size)
      else fault .badAccess

/-- The value of a constant. -/
def constantValue (ctx : ContextId) (name : String) (c : Constant) : Act Value := do
  let d ← translate ctx c.encoding
  decode ctx d (← constantBytes ctx name d c)

/-- The function of a name. -/
def functionNamed (ctx : ContextId) (name : String) (type : FunctionType) : Act Function := do
  let signature ← functionSignature ctx type.ret type.args
  match ← symbol? ctx name with
  | some (.function f) => return ⟨name, .library f, signature⟩
  | some .variable => return ⟨name, .variable, signature⟩
  | none => fail (.symbolNotFound name)

/-- What a name stands for at the moment. -/
def resolveNow (ctx : ContextId) (name : String) : Act Resolved := do
  if let some r ← classNamed? ctx name then return .classRef r
  let sources := (← context ctx).sources
  if let some c := sources.findSome? (·.constant? name) then
    return .constant (← constantValue ctx name c)
  if let some value := sources.findSome? (·.enumerator? name) then return .enumerator value
  if let some type := sources.findSome? (·.function? name) then
    return .function (← functionNamed ctx name type)
  fail (.unresolvedName name)

/-- What a name stands for, as it was resolved first. -/
def resolve (ctx : ContextId) (name : String) : Act Resolved := do
  match (← context ctx).resolved.lookup name with
  | some r => return r
  | none =>
    let r ← resolveNow ctx name
    modifyContext ctx (fun c => { c with resolved := (name, r) :: c.resolved })
    return r

end MessageBridge.Act
