import MessageBridge.Space.ClassRecord

/-!
# The class table

Classes with their superclasses, methods and instance variables. Looking up an implementation walks
the superclass chain and remembers what it found. Everything that can change the outcome of a walk
moves the table to a new epoch, in which nothing is remembered yet.

## Main definitions

* `ClassTable` : the records and the epoch.
* `ClassTable.chain` : a class and its superclasses.
* `ClassTable.findMethod?`, `ClassTable.findIvar?` : the first on the chain.
* `ClassTable.lookup` : the implementation for a selector, through the cache.
* `ClassTable.allocatePair?`, `ClassTable.register`, `ClassTable.setSuperclass` : classes.
* `ClassTable.addMethod?`, `ClassTable.replaceMethod`, `ClassTable.setImplementation?`,
  `ClassTable.exchange` : methods.
* `ClassTable.addIvar?` : instance variables.
-/

namespace MessageBridge

/-- The classes and metaclasses. -/
structure ClassTable where
  records : Array ClassRecord := #[]
  epoch : UInt64 := 0

namespace ClassTable

/-! ## Records -/

/-- The record of a class. -/
def get (t : ClassTable) (c : ClassId) : ClassRecord := t.records[c.index]?.getD default

/-- Changes the record of a class. -/
def modify (t : ClassTable) (c : ClassId) (f : ClassRecord → ClassRecord) : ClassTable :=
  { t with records := t.records.modify c.index f }

/-- Forgets all looked-up implementations. -/
def invalidate (t : ClassTable) : ClassTable := { t with epoch := t.epoch + 1 }

/-- The class at an address. -/
def ofAddress? (t : ClassTable) (a : Address) : Option ClassId :=
  let offset := a.toNat - ClassId.base
  if ClassId.base ≤ a.toNat ∧ offset % ClassId.stride = 0 ∧
      offset / ClassId.stride < t.records.size then
    some ⟨offset / ClassId.stride⟩
  else none

/-- The class that was allocated under a name, registered or not. -/
def find? (t : ClassTable) (name : String) : Option ClassId :=
  (t.records.findIdx? (fun r => !r.isMeta && r.name == name)).map ClassId.mk

/-- The registered class of a name. -/
def lookupClass? (t : ClassTable) (name : String) : Option ClassId :=
  (t.find? name).filter (fun c => (t.get c).registered)

/-- The registered classes, in the order of their allocation. -/
def registeredClasses (t : ClassTable) : List ClassId :=
  ((List.range t.records.size).map ClassId.mk).filter (fun c =>
    !(t.get c).isMeta && (t.get c).registered)

/-- The metaclass of a class. -/
def metaclass (t : ClassTable) (c : ClassId) : ClassId := (t.get c).isa

/-! ## Lookup -/

/-- A class and its superclasses, at most `count` classes in all. -/
def chainUpTo (t : ClassTable) : Nat → ClassId → List ClassId
  | 0, _ => []
  | count + 1, c =>
    c :: match (t.get c).superclass? with
      | some parent => t.chainUpTo count parent
      | none => []

/-- A class and its superclasses. No class is its own superclass, so the chain cannot be longer
than the table. -/
def chain (t : ClassTable) (c : ClassId) : List ClassId := t.chainUpTo t.records.size c

/-- The method of a reference. -/
def method? (t : ClassTable) (m : MethodRef) : Option Method := (t.get m.owner).method? m.selector

/-- The instance variable of a reference. -/
def ivar? (t : ClassTable) (i : IvarRef) : Option Ivar := (t.get i.owner).ivar? i.name

/-- The first method for the selector on the chain of a class. -/
def findMethod? (t : ClassTable) (c : ClassId) (sel : Selector) : Option MethodRef :=
  ((t.chain c).find? (fun k => ((t.get k).method? sel).isSome)).map (⟨·, sel⟩)

/-- The first instance variable of the name on the chain of a class. -/
def findIvar? (t : ClassTable) (c : ClassId) (name : String) : Option IvarRef :=
  ((t.chain c).find? (fun k => ((t.get k).ivar? name).isSome)).map (⟨·, name⟩)

/-- The implementation of the first method for the selector on the chain of a class. -/
def walk (t : ClassTable) (c : ClassId) (sel : Selector) : Option Implementation :=
  ((t.findMethod? c sel).bind t.method?).bind Method.implementation?

/-- The implementation for the selector, from the cache of the class if it is there. A method
without an implementation is remembered like any other, a missing method is not. -/
def lookup (t : ClassTable) (c : ClassId) (sel : Selector) :
    Option Implementation × ClassTable :=
  match (t.get c).cache.find? t.epoch sel with
  | some imp => (imp, t)
  | none =>
    match (t.findMethod? c sel).bind t.method? with
    | some m =>
      (m.implementation?, t.modify c (fun r =>
        { r with cache := r.cache.insert t.epoch sel m.implementation? }))
    | none => (none, t)

/-! ## Classes -/

/-- Allocates a class and its metaclass, which take the next two numbers. A metaclass has no
subclasses of its own, and a name is given once. The instances are at first as large as those of the
superclass. The metaclass of a root class is its own class, and the root class is its superclass. -/
def allocatePair? (t : ClassTable) (parent : Option ClassId) (name : String)
    (metaStorage classStorage : Option Address) : Option (ClassId × ClassTable) :=
  if parent.any (fun p => (t.get p).isMeta) || (t.find? name).isSome then none
  else
    let metaId : ClassId := ⟨t.records.size⟩
    let classId : ClassId := ⟨t.records.size + 1⟩
    let metaRecord : ClassRecord := {
      name, isMeta := true, storage? := metaStorage,
      isa := (parent.map (fun p => t.metaclass (t.metaclass p))).getD metaId,
      superclass? := (parent.map t.metaclass).getD classId }
    let classRecord : ClassRecord := {
      name, isMeta := false, storage? := classStorage,
      isa := metaId,
      superclass? := parent,
      instanceSize := (parent.map (fun p => (t.get p).instanceSize)).getD 0 }
    some (classId, { t with records := (t.records.push metaRecord).push classRecord })

/-- Registers a class and its metaclass. A metaclass is not registered on its own. -/
def register (t : ClassTable) (c : ClassId) : ClassTable :=
  if (t.get c).isMeta then t
  else
    (t.modify (t.metaclass c) (fun r => { r with registered := true })).modify c
      (fun r => { r with registered := true })

/-- Whether the class may become a subclass of `parent`: no metaclass is moved or inherited from,
and no class comes below itself. -/
def canInherit (t : ClassTable) (c parent : ClassId) : Bool :=
  !(t.get c).isMeta && !(t.get parent).isMeta && !(t.chain parent).contains c

/-- Moves a class below another one, and its metaclass below that of the other. Answers the
superclass so far. -/
def setSuperclass (t : ClassTable) (c parent : ClassId) : Option ClassId × ClassTable :=
  if t.canInherit c parent then
    ((t.get c).superclass?,
      ((t.modify c (fun r => { r with superclass? := some parent })).modify (t.metaclass c)
        (fun r => { r with superclass? := some (t.metaclass parent) })).invalidate)
  else (none, t)

/-- Sets one of the two layout strings, which a registered class keeps as they are. -/
def setLayout (t : ClassTable) (c : ClassId) (weak : Bool) (layout : Option (List UInt8)) :
    ClassTable :=
  if (t.get c).registered then t
  else t.modify c (fun r =>
    if weak then { r with weakLayout? := layout } else { r with layout? := layout })

/-! ## Methods -/

/-- Adds a method to a class that has none for the selector yet. -/
def addMethod? (t : ClassTable) (c : ClassId) (sel : Selector) (imp : Implementation)
    (types : String) : Option ClassTable :=
  if ((t.get c).method? sel).isSome then none
  else some (t.modify c (fun r =>
    { r with methods := r.methods ++ [⟨sel, types, some imp⟩] })).invalidate

/-- Gives the method that the class itself has for the selector another implementation and answers
the one so far. The type string stays. -/
def swapImplementation (t : ClassTable) (m : MethodRef) (imp : Option Implementation) :
    Option Implementation × ClassTable :=
  ((t.method? m).bind Method.implementation?,
    (t.modify m.owner (fun r => r.setImplementation m.selector imp)).invalidate)

/-- Replaces the implementation for the selector, or adds a method if the class itself has none. A
method is added only with an implementation. -/
def replaceMethod (t : ClassTable) (c : ClassId) (sel : Selector) (imp : Option Implementation)
    (types : String) : Option Implementation × ClassTable :=
  if ((t.get c).method? sel).isSome then t.swapImplementation ⟨c, sel⟩ imp
  else (none, (imp.bind (fun i => t.addMethod? c sel i types)).getD t)

/-- Exchanges the implementations of two methods. -/
def exchange (t : ClassTable) (m n : MethodRef) : ClassTable :=
  let left := (t.method? m).bind Method.implementation?
  let right := (t.method? n).bind Method.implementation?
  ((t.modify n.owner (fun r => r.setImplementation n.selector left)).modify m.owner
    (fun r => r.setImplementation m.selector right)).invalidate

/-! ## Instance variables -/

/-- The least multiple of a positive `alignment` from `n` on, in wrapping arithmetic. -/
def nextMultiple (n alignment : UInt64) : UInt64 :=
  let r := n % alignment
  if r = 0 then n else n + (alignment - r)

/-- Adds an instance variable at the next offset that is a multiple of `2 ^ exponent`, behind all
that instances of the class hold so far. Only a class that is not registered yet takes instance
variables, each under a name of its own. -/
def addIvar? (t : ClassTable) (c : ClassId) (name : String) (size : UInt64) (exponent : UInt8)
    (types : String) : Option ClassTable :=
  let r := t.get c
  if r.isMeta || r.registered || size = 0 || 16 ≤ exponent || (r.ivar? name).isSome then none
  else
    let offset := nextMultiple r.instanceSize (1 <<< exponent.toUInt64)
    if 0x8000000000000000 ≤ offset then none
    else some (t.modify c (fun r =>
      { r with instanceSize := offset + size, ivars := r.ivars ++ [⟨name, types, offset, size⟩] }))

/-! ## Adoption -/

/-- Adopts a protocol that the class itself has not adopted yet. -/
def adopt? (t : ClassTable) (c : ClassId) (p : ProtocolId) : Option ClassTable :=
  if (t.get c).protocols.contains p then none
  else some (t.modify c (fun r => { r with protocols := r.protocols ++ [p] }))

end ClassTable

end MessageBridge
