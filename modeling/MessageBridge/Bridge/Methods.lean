import MessageBridge.Bridge.Objects

/-!
# Host methods

Giving classes methods that run host bodies.

## Main definitions

* `Act.makeImplementation` : code that runs a host body.
* `Act.addMethodTo` : adds a method to a class.
* `Act.implementationOf`, `Act.setImplementation` : the code of a method.
-/

namespace MessageBridge.Act

/-- Code that runs a host body under a signature, which must be that of a method. -/
def makeImplementation (ctx : ContextId) (selector : String) (signature : Signature) (body : Body) :
    Act Implementation := do
  if signature.isMethod then
    let index := (← get).hosted.size
    modify (fun b => { b with hosted := b.hosted.push ⟨ctx, selector, signature, body⟩ })
    return .hosted index
  else fail (.invalidSignature signature.encoding)

/-- Adds a method to a class. The type string that is stored is that of the signature. Errors name
the class as `className`. -/
def addMethodTo (ctx : ContextId) (target : ObjectRef) (className name types : String)
    (body : Body) : Act Unit := do
  let signature ← parseSignature ctx types
  let sel ← selector ctx name
  checkName signature.encoding
  let imp ← makeImplementation ctx name signature body
  let c ← classOfRef target
  match ← fromSpace (·.classes.addMethod? c sel imp signature.encoding) with
  | some classes => changeSpace (fun s => some (s.withClasses classes))
  | none => fail (.methodRegistration className name)

/-- Adds a method to a class, registered or not. -/
def addMethod (ctx : ContextId) (target : ObjectRef) (name types : String) (body : Body) :
    Act Unit := do
  addMethodTo ctx target (← className target) name types body

/-- The code as a function with the name and the signature of the method. -/
def functionFor (ctx : ContextId) (m : MethodRef) (code : Option Implementation) :
    Act (Option Function) := do
  match code with
  | some code =>
    let signature ← methodTypes ctx m
    return some ⟨← methodName m, code, signature⟩
  | none => return none

/-- The code of a method. -/
def implementationOf (ctx : ContextId) (m : MethodRef) : Act (Option Function) := do
  functionFor ctx m ((← methodOf m).bind Method.implementation?)

/-- Makes a method run a host body and answers the code so far. -/
def setImplementation (ctx : ContextId) (m : MethodRef) (body : Body) : Act (Option Function) := do
  let signature ← methodTypes ctx m
  let imp ← makeImplementation ctx (← methodName m) signature body
  let previous ← onSpace (fun s =>
    let (previous, classes) := s.classes.swapImplementation m (some imp)
    (previous, s.withClasses classes))
  functionFor ctx m previous

/-- Exchanges the code of two methods. -/
def exchangeImplementations (m n : MethodRef) : Act Unit :=
  changeSpace (fun s => some (s.withClasses (s.classes.exchange m n)))

end MessageBridge.Act
