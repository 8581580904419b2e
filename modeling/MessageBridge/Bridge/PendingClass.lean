import MessageBridge.Bridge.Methods

/-!
# Building classes

A class is built in steps, from its allocation to its registration. Until it is registered it is
pending: it is filled, and nobody finds it by its name.

## Main definitions

* `PendingClass` : a class that is being built.
* `Act.extend` : allocates a class.
* `PendingClass.addMethod`, `PendingClass.addClassMethod`, `PendingClass.addIvar`,
  `PendingClass.addProtocol` : filling it.
* `PendingClass.register` : ends the building.
-/

namespace MessageBridge

/-- A class that is being built in a context. -/
structure PendingClass where
  context : ContextId
  classRef : ObjectRef
  name : String
  registered : Bool := false

namespace Act

/-- Allocates a class below another one, or as a new root, with extra bytes for the class object. -/
def extend (ctx : ContextId) (parent : Option ObjectRef) (name : String) (extra : UInt64) :
    Act PendingClass := do
  checkName name
  let parent ← match parent with
    | some r => some <$> classOfRef r
    | none => pure none
  match ← onSpace (·.allocatePair parent name extra) with
  | some c =>
    match ← wrapClassId ctx c with
    | some r => return ⟨ctx, r, name, false⟩
    | none => fail (.classAllocation name)
  | none => fail (.classAllocation name)

/-- The registered protocol of a name. -/
def protocolNamed? (name : String) : Act (Option ProtocolId) := do
  checkName name
  fromSpace (·.protocols.lookup? name)

end Act

namespace PendingClass

open Act

/-- Refuses an operation on a class that is registered already. -/
def ensurePending (p : PendingClass) (operation : String) : Act Unit :=
  if p.registered then fail (.invalidState p.name operation) else pure ()

/-- Adds a method for instances. -/
def addMethod (p : PendingClass) (selector types : String) (body : Body) : Act Unit := do
  p.ensurePending "add a method"
  addMethodTo p.context p.classRef p.name selector types body

/-- Adds a method for the class itself. -/
def addClassMethod (p : PendingClass) (selector types : String) (body : Body) : Act Unit := do
  p.ensurePending "add a class method"
  match ← classOf p.context p.classRef with
  | some k => addMethodTo p.context k p.name selector types body
  | none => fail (.methodRegistration p.name selector)

/-- The exponent of the alignment that an instance variable has by default: that of its size if this
is a power of two, or else that of its type. -/
def defaultExponent (size : UInt64) (d : Descriptor) : UInt8 :=
  let n := size.toNat
  UInt8.ofNat (Nat.log2 (if n ≠ 0 ∧ 1 <<< Nat.log2 n = n then n else d.alignment))

/-- Adds an instance variable. Size and alignment are by default those of its type. -/
def addIvar (p : PendingClass) (name encoding : String) (size : Option UInt64)
    (exponent : Option UInt8) : Act Unit := do
  p.ensurePending "add an ivar"
  let d ← translate p.context encoding
  let size := size.getD (UInt64.ofNat d.size)
  let exponent := exponent.getD (defaultExponent size d)
  if size = 0 then fail (.ivarRegistration p.name name)
  checkName name
  checkName d.encoding
  let c ← classOfRef p.classRef
  match ← fromSpace (·.classes.addIvar? c name size exponent d.encoding) with
  | some classes => changeSpace (fun s => some (s.withClasses classes))
  | none => fail (.ivarRegistration p.name name)

/-- Adopts a protocol. One that is adopted already stays so. -/
def addProtocol (p : PendingClass) (protocol : String) : Act Unit := do
  p.ensurePending "add a protocol"
  match ← protocolNamed? protocol with
  | some q =>
    let c ← classOfRef p.classRef
    changeSpace (fun s => some (s.withClasses ((s.classes.adopt? c q).getD s.classes)))
  | none => fail (.unresolvedName protocol)

/-- Registers the class. From then on its context finds it by its name, and so do the others. -/
def register (p : PendingClass) : Act PendingClass := do
  p.ensurePending "register"
  let c ← classOfRef p.classRef
  changeSpace (fun s => some (s.withClasses (s.classes.register c)))
  modifyContext p.context (fun x => { x with
    published := (p.name, p.classRef) :: x.published.filter (fun e => e.1 != p.name) })
  return { p with registered := true }

end PendingClass

end MessageBridge
