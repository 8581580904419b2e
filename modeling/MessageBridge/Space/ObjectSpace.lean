import MessageBridge.Space.Association
import MessageBridge.Space.ClassTable
import MessageBridge.Space.Memory
import MessageBridge.Space.Protocol
import MessageBridge.Text.Utf8

/-!
# The object space

Classes, protocols, selectors, associations and the memory of instances, with the slot for a raised
exception. An object is an address whose first word is the address of its class; this holds of
instances and of classes alike.

Functions with a result in `Option` answer `none` for an access that no object of the space allows,
except where their description says otherwise.

## Main definitions

* `ObjectSpace` : the state.
* `ObjectSpace.read?`, `ObjectSpace.write?` : memory access, to instances and to the head of classes.
* `ObjectSpace.isa?` : the class of an object.
* `ObjectSpace.createInstance`, `ObjectSpace.dispose?` : instances.
* `ObjectSpace.allocatePair` : classes with extra bytes.
-/

namespace MessageBridge

/-- The state of the object space. -/
structure ObjectSpace where
  selectors : SelectorTable := {}
  classes : ClassTable := {}
  protocols : ProtocolTable := {}
  associations : AssociationTable := {}
  memory : Memory := {}
  /-- The exception that was raised last and not taken yet, null if there is none. -/
  raised : Address := 0

namespace ObjectSpace

/-- The selector of a name. -/
def intern (s : ObjectSpace) (name : String) : Selector × ObjectSpace :=
  let (sel, selectors) := s.selectors.intern name
  (sel, { s with selectors })

/-- Changes the class table. -/
def withClasses (s : ObjectSpace) (classes : ClassTable) : ObjectSpace := { s with classes }

/-- Changes the protocol table. -/
def withProtocols (s : ObjectSpace) (protocols : ProtocolTable) : ObjectSpace :=
  { s with protocols }

/-! ## Memory -/

/-- The class in whose memory an address lies, and the offset in it. -/
def classAround? (s : ObjectSpace) (a : Address) : Option (ClassId × Nat) :=
  let offset := (a.toNat - ClassId.base) % ClassId.stride
  (s.classes.ofAddress? (a - UInt64.ofNat offset)).map (·, offset)

/-- The visible head of a class in memory: its class and its superclass. -/
def classHead (s : ObjectSpace) (c : ClassId) : List UInt8 :=
  let r := s.classes.get c
  wordBytes r.isa.address ++ wordBytes ((r.superclass?.map ClassId.address).getD 0)

/-- The bytes at an address, in the memory of a class or in a block. -/
def readIn? (s : ObjectSpace) (a : Address) (count : Nat) :
    Option (ClassId × Nat) → Option (List UInt8)
  | some (c, offset) =>
    if offset + count ≤ (s.classHead c).length then some (sliceBytes (s.classHead c) offset count)
    else none
  | none => s.memory.read? a count

/-- The bytes at an address. -/
def read? (s : ObjectSpace) (a : Address) (count : Nat) : Option (List UInt8) :=
  s.readIn? a count (s.classAround? a)

/-- The space in which the head of a class holds the given bytes. They must name classes. -/
def setClassHead? (s : ObjectSpace) (c : ClassId) (head : List UInt8) : Option ObjectSpace := do
  let isa ← s.classes.ofAddress? (ofWordBytes head)
  let parent := ofWordBytes (head.drop 8)
  let superclass? ← if parent = 0 then some none else (s.classes.ofAddress? parent).map some
  return s.withClasses (s.classes.modify c (fun r => { r with isa, superclass? }))

/-- The space with new bytes at an address, in the memory of a class or in a block. -/
def writeIn? (s : ObjectSpace) (a : Address) (bytes : List UInt8) :
    Option (ClassId × Nat) → Option ObjectSpace
  | some (c, offset) =>
    if offset + bytes.length ≤ (s.classHead c).length then
      s.setClassHead? c (overwriteBytes (s.classHead c) offset bytes)
    else none
  | none => (s.memory.write? a bytes).map (fun memory => { s with memory })

/-- The space with new bytes at an address. -/
def write? (s : ObjectSpace) (a : Address) (bytes : List UInt8) : Option ObjectSpace :=
  s.writeIn? a bytes (s.classAround? a)

/-- The address that is stored at an address. -/
def readWord? (s : ObjectSpace) (a : Address) : Option Address := (s.read? a 8).map ofWordBytes

/-- The C string at an address. -/
def readString? (s : ObjectSpace) (a : Address) : Option (List UInt8) := s.memory.readString? a

/-- Stores a text as a C string and answers its address, null if it is too large. -/
def copyString (s : ObjectSpace) (bytes : List UInt8) : Address × ObjectSpace :=
  match s.memory.allocate (bytes.length + 1) bytes with
  | some (a, memory) => (a, { s with memory })
  | none => (0, s)

/-- Takes back the block at an address. -/
def free? (s : ObjectSpace) (a : Address) : Option ObjectSpace :=
  (s.memory.free? a).map (fun memory => { s with memory })

/-! ## Objects -/

/-- The class of the object at an address. -/
def isa? (s : ObjectSpace) (a : Address) : Option ClassId :=
  (s.readWord? a).bind s.classes.ofAddress?

/-- Whether the object at an address is a class or a metaclass. -/
def isClass? (s : ObjectSpace) (a : Address) : Option Bool :=
  (s.isa? a).map (fun c => (s.classes.get c).isMeta)

/-- Gives the object at an address another class and answers the one so far. -/
def setIsa? (s : ObjectSpace) (a : Address) (c : ClassId) : Option (ClassId × ObjectSpace) := do
  let previous ← s.isa? a
  let s ← s.write? a (wordBytes c.address)
  return (previous, s)

/-- The size of an instance: room for the class at least, and the extra bytes, in wrapping
arithmetic. -/
def allocationSize (instanceSize extra : UInt64) : UInt64 :=
  (if instanceSize < 8 then 8 else instanceSize) + extra

/-- Creates an instance, zero except for its class. Metaclasses have no instances, and a request may
be too large; both answer the null address. -/
def createInstance (s : ObjectSpace) (c : ClassId) (extra : UInt64) : Address × ObjectSpace :=
  let r := s.classes.get c
  if r.isMeta then (0, s)
  else
    match s.memory.allocate (allocationSize r.instanceSize extra).toNat (wordBytes c.address) with
    | some (a, memory) => (a, { s with memory })
    | none => (0, s)

/-- Drops the associations of an instance and takes back its memory. -/
def dispose? (s : ObjectSpace) (a : Address) : Option ObjectSpace :=
  ({ s with associations := s.associations.clear a } : ObjectSpace).free? a

/-- The storage behind the instance variables of an object, null for a class without extra bytes. -/
def indexedStorage? (s : ObjectSpace) (a : Address) : Option Address := do
  let c ← s.isa? a
  if (s.classes.get c).isMeta then
    let k ← s.classes.ofAddress? a
    return ((s.classes.get k).storage?).getD 0
  else
    return a + allocationSize (s.classes.get c).instanceSize 0

/-! ## Classes -/

/-- Extra bytes for a class object, none if there are none or too many. -/
def allocateStorage (s : ObjectSpace) (extra : UInt64) : Option Address × ObjectSpace :=
  if extra = 0 then (none, s)
  else
    match s.memory.allocate extra.toNat [] with
    | some (a, memory) => (some a, { s with memory })
    | none => (none, s)

/-- Allocates a class and its metaclass, each with extra bytes. Answers `none` and leaves everything
as it is if the class table refuses. -/
def allocatePair (s : ObjectSpace) (parent : Option ClassId) (name : String) (extra : UInt64) :
    Option ClassId × ObjectSpace :=
  let (metaStorage, s₁) := s.allocateStorage extra
  let (classStorage, s₂) := s₁.allocateStorage extra
  match s.classes.allocatePair? parent name metaStorage classStorage with
  | some (c, classes) => (some c, s₂.withClasses classes)
  | none => (none, s)

/-- Whether some class on the chain adopts a protocol that reaches `p`. -/
def conforms? (s : ObjectSpace) (c : ClassId) (p : ProtocolId) : Option Bool :=
  ProtocolTable.anyEnding (fun q => s.protocols.conforms? q p)
    ((s.classes.chain c).flatMap (fun k => (s.classes.get k).protocols))

/-! ## The raised exception -/

/-- Raises an exception, in place of one that was not taken. -/
def throw (s : ObjectSpace) (exception : Address) : ObjectSpace := { s with raised := exception }

/-- Takes the raised exception, null if there is none. -/
def takeRaised (s : ObjectSpace) : Address × ObjectSpace := (s.raised, { s with raised := 0 })

end ObjectSpace

end MessageBridge
