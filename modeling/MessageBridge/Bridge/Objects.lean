import MessageBridge.Bridge.MethodInfo
import MessageBridge.Marshal.Basic

/-!
# Objects

What a reference to an object allows: its class and the classes above, its instance variables and the
selectors that it responds to.

## Main definitions

* `Act.classNamed?` : the class of a name.
* `Act.ivar`, `Act.setIvar` : instance variables.
* `Act.respondsTo` : whether an object has a method.
* `Act.ancestors`, `Act.ivarsOf`, `Act.methodsOf` : what is declared on the chain of an object.
-/

namespace MessageBridge.Act

/-! ## Classes -/

/-- The class of a name: one that was registered through the context, or any that is registered. -/
def classNamed? (ctx : ContextId) (name : String) : Act (Option ObjectRef) := do
  match (← context ctx).published.lookup name with
  | some r => return some r
  | none =>
    checkName name
    match ← fromSpace (·.classes.lookupClass? name) with
    | some c => wrapClassId ctx c
    | none => return none

/-- The class of an object. For a class this is its metaclass. -/
def classOf (ctx : ContextId) (r : ObjectRef) : Act (Option ObjectRef) := do
  wrapClassId ctx (← isa r)

/-- The name of the class of an object. -/
def classNameOf (r : ObjectRef) : Act String := do
  let c ← isa r
  fromSpace (fun s => (s.classes.get c).name)

/-- The name of a class. -/
def className (r : ObjectRef) : Act String := do
  let c ← classOfRef r
  fromSpace (fun s => (s.classes.get c).name)

/-- The superclass of a class. -/
def superclassOf (ctx : ContextId) (r : ObjectRef) : Act (Option ObjectRef) := do
  let c ← classOfRef r
  match ← fromSpace (fun s => (s.classes.get c).superclass?) with
  | some parent => wrapClassId ctx parent
  | none => return none

/-- Gives an object another class and answers the one so far. -/
def setClass (ctx : ContextId) (r c : ObjectRef) : Act (Option ObjectRef) := do
  let c ← classOfRef c
  wrapClassId ctx (← tryOnSpace (·.setIsa? r.address c))

/-- The references for classes, up to the first one that the context does not take for a class. -/
def wrapWhileClass (ctx : ContextId) : List ClassId → Act (List ObjectRef)
  | [] => pure []
  | c :: cs => do
    match ← wrapClassId ctx c with
    | some r => return r :: (← wrapWhileClass ctx cs)
    | none => return []

/-- The class of an object and the classes above. -/
def ancestors (ctx : ContextId) (r : ObjectRef) : Act (List ObjectRef) := do
  let c ← isa r
  wrapWhileClass ctx (← fromSpace (·.classes.chain c))

/-- Whether an object has a method for the selector. -/
def respondsTo (ctx : ContextId) (r : ObjectRef) (name : String) : Act Bool := do
  let sel ← selector ctx name
  let c ← isa r
  fromSpace (fun s => (s.classes.findMethod? c sel).isSome)

/-! ## Instance variables -/

/-- The instance variable that an object has under a name. -/
def findIvar (r : ObjectRef) (name : String) : Act Ivar := do
  checkName name
  let c ← isa r
  match ← fromSpace (fun s => (s.classes.findIvar? c name).bind s.classes.ivar?) with
  | some i => return i
  | none => fail (.ivarNotFound name)

/-- The bytes of an instance variable, as many as its type takes. -/
def ivarBytes (ctx : ContextId) (r : ObjectRef) (name : String) :
    Act (Descriptor × List UInt8) := do
  let i ← findIvar r name
  let d ← translate ctx i.types
  return (d, ← readSpace (·.read? (r.address + i.offset) d.size))

/-- The value of an instance variable. -/
def ivar (ctx : ContextId) (r : ObjectRef) (name : String) : Act Value := do
  let (d, bytes) ← ivarBytes ctx r name
  decode ctx d bytes

/-- Sets an instance variable. -/
def setIvar (ctx : ContextId) (r : ObjectRef) (name : String) (v : Value) : Act Unit := do
  let i ← findIvar r name
  let d ← translate ctx i.types
  let (bytes, blocks) ← encode ctx 0 d (slot d.size) v
  changeSpace (·.write? (r.address + i.offset) (bytes.take d.size))
  retain ctx blocks

/-! ## Declarations -/

/-- The instance variables that a class itself declares. -/
def classIvars (c : ClassId) : Act (List IvarRef) := do
  borrowList (← fromSpace (fun s => (s.classes.get c).ivars)) (fun i => return some ⟨c, i.name⟩)

/-- The methods that a class itself declares. -/
def classMethods (c : ClassId) : Act (List MethodRef) := do
  borrowList (← fromSpace (fun s => (s.classes.get c).methods))
    (fun m => return some ⟨c, m.selector⟩)

/-- The entries in the order of their names, those of one name in their order. -/
def sortByName {α : Type} (entries : List (String × α)) : List (String × α) :=
  entries.mergeSort (fun a b => decide (a.1 ≤ b.1))

/-- What the first classes on the chain of an object declare, as far as `depth` goes. -/
def declared {α : Type} (ctx : ContextId) (r : ObjectRef) (depth : Option Nat)
    (list : ClassId → Act (List α)) : Act (List α) := do
  let classes ← ancestors ctx r
  let classes := match depth with
    | some depth => classes.take depth
    | none => classes
  return (← classes.mapM (fun c => do list (← classOfRef c))).flatten

/-- The instance variables on the chain of an object. -/
def ivarsOf (ctx : ContextId) (r : ObjectRef) (depth : Option Nat) (sort : Bool) :
    Act (List IvarRef) := do
  let ivars ← declared ctx r depth classIvars
  if sort then return (sortByName (ivars.map (fun i => (i.name, i)))).map Prod.snd
  else return ivars

/-- The methods on the chain of an object. -/
def methodsOf (ctx : ContextId) (r : ObjectRef) (depth : Option Nat) (sort : Bool) :
    Act (List MethodRef) := do
  let methods ← declared ctx r depth classMethods
  if sort then
    let named ← methods.mapM (fun m => return (← methodName m, m))
    return (sortByName named).map Prod.snd
  else return methods

end MessageBridge.Act
