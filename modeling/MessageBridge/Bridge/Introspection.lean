import MessageBridge.Bridge.Objects

/-!
# Looking around

What the object space holds, as a context sees it: classes, their methods and instance variables, and
protocols.

## Main definitions

* `Act.classes`, `Act.classList`, `Act.protocols` : all that is registered.
* `Act.instanceMethod?`, `Act.classMethod?`, `Act.instanceVariable?`, `Act.classVariable?` : what is
  found on the chain of a class.
* `Act.instanceMethods`, `Act.classSideMethods`, `Act.instanceVariables`, `Act.classSideVariables` :
  what a class itself declares.
-/

namespace MessageBridge.Act

/-! ## Everything -/

/-- The registered classes, from a copied list. -/
def classes (ctx : ContextId) : Act (List ObjectRef) := do
  borrowList (← fromSpace (·.classes.registeredClasses)) (wrapClassId ctx)

/-- The registered classes, from a buffer of the caller. -/
def classList (ctx : ContextId) : Act (List ObjectRef) := do
  return (← (← fromSpace (·.classes.registeredClasses)).mapM (wrapClassId ctx)).filterMap id

/-- The registered protocols. -/
def protocols : Act (List ProtocolId) := do
  borrowList (← fromSpace (·.protocols.registeredProtocols)) (fun p => return some p)

/-! ## Classes -/

/-- The record of a class. -/
def classRecord (r : ObjectRef) : Act ClassRecord := do
  let c ← classOfRef r
  fromSpace (·.classes.get c)

/-- Changes the class table. -/
def changeClasses (f : ClassTable → ClassTable) : Act Unit :=
  changeSpace (fun s => some (s.withClasses (f s.classes)))

/-- The first method for a selector on the chain of a class. -/
def instanceMethod? (ctx : ContextId) (r : ObjectRef) (name : String) :
    Act (Option MethodRef) := do
  let sel ← selector ctx name
  let c ← classOfRef r
  fromSpace (·.classes.findMethod? c sel)

/-- The first method for a selector on the chain of a metaclass. -/
def classMethod? (ctx : ContextId) (r : ObjectRef) (name : String) : Act (Option MethodRef) := do
  let sel ← selector ctx name
  let c ← classOfRef r
  fromSpace (fun s => s.classes.findMethod? (s.classes.metaclass c) sel)

/-- The first instance variable of a name on the chain of a class. -/
def instanceVariable? (r : ObjectRef) (name : String) : Act (Option IvarRef) := do
  checkName name
  let c ← classOfRef r
  fromSpace (·.classes.findIvar? c name)

/-- The first instance variable of a name on the chain of a metaclass. -/
def classVariable? (r : ObjectRef) (name : String) : Act (Option IvarRef) := do
  checkName name
  let c ← classOfRef r
  fromSpace (fun s => s.classes.findIvar? (s.classes.metaclass c) name)

/-- The methods that a class itself declares for its instances. -/
def instanceMethods (r : ObjectRef) : Act (List MethodRef) := do
  classMethods (← classOfRef r)

/-- The methods that a class itself declares for itself. -/
def classSideMethods (ctx : ContextId) (r : ObjectRef) : Act (List MethodRef) := do
  match ← classOf ctx r with
  | some k => instanceMethods k
  | none => return []

/-- The instance variables that a class itself declares. -/
def instanceVariables (r : ObjectRef) : Act (List IvarRef) := do
  classIvars (← classOfRef r)

/-- The instance variables that the metaclass of a class declares. -/
def classSideVariables (ctx : ContextId) (r : ObjectRef) : Act (List IvarRef) := do
  match ← classOf ctx r with
  | some k => instanceVariables k
  | none => return []

/-- Whether the instances of a class have a method for a selector. -/
def instancesRespondTo (ctx : ContextId) (r : ObjectRef) (name : String) : Act Bool := do
  return (← instanceMethod? ctx r name).isSome

/-- Moves a class below another one and answers the superclass so far. -/
def setSuperclass (ctx : ContextId) (r parent : ObjectRef) : Act (Option ObjectRef) := do
  let c ← classOfRef r
  let parent ← classOfRef parent
  match ← onSpace (fun s =>
    let (previous, classes) := s.classes.setSuperclass c parent
    (previous, s.withClasses classes)) with
  | some previous => wrapClassId ctx previous
  | none => return none

/-- Sets the version of a class. -/
def setVersion (r : ObjectRef) (version : Int32) : Act Unit := do
  let c ← classOfRef r
  changeClasses (·.modify c (fun k => { k with version }))

/-- Sets a layout string of a class. It cannot hold a zero byte. -/
def setLayout (r : ObjectRef) (weak : Bool) (layout : List UInt8) : Act Unit := do
  if layout.contains 0 then fail (.invalidName (Text.ofUtf8Lossy layout))
  let c ← classOfRef r
  changeClasses (·.setLayout c weak (some layout))

/-- Creates an instance of a class with extra bytes. -/
def createInstance (ctx : ContextId) (r : ObjectRef) (extra : UInt64) :
    Act (Option ObjectRef) := do
  let c ← classOfRef r
  wrap ctx (← onSpace (·.createInstance c extra))

/-! ## Protocols -/

/-- The protocols that a class itself adopts. -/
def protocolsOf (r : ObjectRef) : Act (List ProtocolId) := do
  borrowList (← classRecord r).protocols (fun p => return some p)

/-- The name of a protocol. -/
def protocolName (p : ProtocolId) : Act String := fromSpace (fun s => (s.protocols.get p).name)

/-- The methods of one kind that a protocol declares, with their type strings. -/
def protocolMethods (p : ProtocolId) (required instanceSide : Bool) :
    Act (List (String × String)) := do
  borrowList (← fromSpace (·.protocols.declarations p required instanceSide))
    (fun d => return some (← fromSpace (·.selectors.name d.selector), d.types))

/-- Whether a protocol reaches another one by adoption. -/
def protocolConforms (p q : ProtocolId) : Act Bool := do
  require .endlessSearch (← fromSpace (·.protocols.conforms? p q))

/-- Whether a class conforms to a protocol. -/
def conformsTo (r : ObjectRef) (p : ProtocolId) : Act Bool := do
  let c ← classOfRef r
  require .endlessSearch (← fromSpace (·.conforms? c p))

end MessageBridge.Act
