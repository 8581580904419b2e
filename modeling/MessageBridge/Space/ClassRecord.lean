import MessageBridge.Space.Implementation
import MessageBridge.Space.Selector

/-!
# Class records

What is kept about a class. A class and its metaclass are two records: the metaclass holds the
methods that the class itself answers, and it is the class of the class.

## Main definitions

* `ClassId`, `ProtocolId`, `MethodRef`, `IvarRef` : names for classes, protocols, methods and
  instance variables.
* `Method`, `Ivar`, `ImpCache`, `ClassRecord` : the data.
-/

namespace MessageBridge

/-- A class or a metaclass, as its number in the class table. -/
structure ClassId where
  index : Nat
deriving DecidableEq, Repr, Inhabited

namespace ClassId

/-- Where the classes lie in memory. -/
def base : Nat := 0x10000000000

/-- The distance between two classes in memory. -/
def stride : Nat := 4096

/-- The address of a class. -/
def address (c : ClassId) : Address := UInt64.ofNat (base + stride * c.index)

end ClassId

/-- A protocol, as its number in the protocol table. -/
structure ProtocolId where
  index : Nat
deriving DecidableEq, Repr, Inhabited

/-- The method of a class for a selector. Methods are never removed, so the reference stays good. -/
structure MethodRef where
  owner : ClassId
  selector : Selector
deriving DecidableEq, Repr

/-- The instance variable that a class declares under a name. -/
structure IvarRef where
  owner : ClassId
  name : String
deriving DecidableEq, Repr

/-- A method. Its type string is kept as it was given. -/
structure Method where
  selector : Selector
  types : String
  implementation? : Option Implementation
deriving DecidableEq, Repr

/-- An instance variable, with its byte offset in an instance. -/
structure Ivar where
  name : String
  types : String
  offset : UInt64
  size : UInt64
deriving DecidableEq, Repr

/-- Looked-up implementations, good as long as the epoch of the class table is the one they were
found in. -/
structure ImpCache where
  epoch : UInt64 := -1
  entries : List (Selector × Option Implementation) := []
deriving Repr

namespace ImpCache

/-- The implementation that was found for the selector in this epoch. -/
def find? (cache : ImpCache) (epoch : UInt64) (sel : Selector) :
    Option (Option Implementation) :=
  if cache.epoch = epoch then cache.entries.lookup sel else none

/-- The cache with one more implementation. Those of another epoch are dropped. -/
def insert (cache : ImpCache) (epoch : UInt64) (sel : Selector) (imp : Option Implementation) :
    ImpCache :=
  ⟨epoch, (sel, imp) :: if cache.epoch = epoch then cache.entries else []⟩

end ImpCache

/-- A class or a metaclass. -/
structure ClassRecord where
  name : String
  isMeta : Bool
  /-- The class of the class. -/
  isa : ClassId
  superclass? : Option ClassId
  registered : Bool := false
  instanceSize : UInt64 := 0
  version : Int32 := 0
  methods : List Method := []
  ivars : List Ivar := []
  protocols : List ProtocolId := []
  layout? : Option (List UInt8) := none
  weakLayout? : Option (List UInt8) := none
  /-- The extra bytes of the class object. -/
  storage? : Option Address := none
  cache : ImpCache := {}
deriving Repr

namespace ClassRecord

instance : Inhabited ClassRecord := ⟨⟨"", false, ⟨0⟩, none, false, 0, 0, [], [], [], none, none, none, {}⟩⟩

/-- The method that the class itself declares for the selector. -/
def method? (r : ClassRecord) (sel : Selector) : Option Method :=
  r.methods.find? (·.selector == sel)

/-- The instance variable that the class itself declares under the name. -/
def ivar? (r : ClassRecord) (name : String) : Option Ivar :=
  r.ivars.find? (·.name == name)

/-- The record with another implementation for the selector. -/
def setImplementation (r : ClassRecord) (sel : Selector) (imp : Option Implementation) :
    ClassRecord :=
  { r with methods := r.methods.map (fun m =>
      if m.selector = sel then { m with implementation? := imp } else m) }

end ClassRecord

end MessageBridge
