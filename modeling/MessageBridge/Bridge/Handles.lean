import MessageBridge.Bridge.Basic

/-!
# Handles

What a context makes of the handles of the object space: selectors by their names, and one reference
for each live object.

A reference is good as long as the object space still associates its serial number with the object.
Disposing of an object drops the association, so that an object at the same address gets another
reference.

## Main definitions

* `Act.intern`, `Act.selector` : the selector of a name.
* `Act.wrap`, `Act.wrapClass` : the reference for an address.
-/

namespace MessageBridge.Act

/-- Refuses a name that cannot be passed as a C string. -/
def checkName (name : String) : Act Unit :=
  if Text.hasNul name then fail (.invalidName name) else pure ()

/-- The selector of a name in the object space, as long as there is room for selectors. -/
def intern (name : String) : Act Selector := do
  let sel ← onSpace (·.intern name)
  if sel.index < Selector.maxCount then return sel else fault .badAccess

/-- The selector of a name, which the context remembers. -/
def selector (ctx : ContextId) (name : String) : Act Selector := do
  match (← context ctx).selectors.lookup name with
  | some sel => return sel
  | none =>
    checkName name
    let sel ← intern name
    modifyContext ctx (fun c => { c with selectors := (name, sel) :: c.selectors })
    return sel

/-- The number of selectors that the context asked for. -/
def selectorCount (ctx : ContextId) : Act Nat := return (← context ctx).selectors.length

/-- The reference that the context gave out for the object and that is still good. -/
def cached? (ctx : ContextId) (a : Address) : Act (Option ObjectRef) := do
  let stored ← fromSpace (·.associations.get? a (.context ctx))
  return ((← context ctx).tracked.lookup a).filter (fun r => stored == some r.serial)

/-- Gives out a new reference for an object. -/
def newRef (ctx : ContextId) (a : Address) (isClass : Bool) : Act ObjectRef := do
  let r : ObjectRef := ⟨(← get).nextSerial, a, isClass⟩
  modify (fun b => { b with
    nextSerial := b.nextSerial + 1
    space := { b.space with
      associations := b.space.associations.set a (.context ctx) r.serial } })
  modifyContext ctx (·.track r)
  return r

/-- The reference for the object at an address, none for the null address. -/
def wrap (ctx : ContextId) (a : Address) : Act (Option ObjectRef) := do
  if a = 0 then return none
  match ← cached? ctx a with
  | some r => return some r
  | none =>
    let isClass ← readSpace (·.isClass? a)
    return some (← newRef ctx a isClass)

/-- The reference for the class at an address, none for anything else. -/
def wrapClass (ctx : ContextId) (a : Address) : Act (Option ObjectRef) :=
  return (← wrap ctx a).filter (·.isClass)

/-- The reference for a class. -/
def wrapClassId (ctx : ContextId) (c : ClassId) : Act (Option ObjectRef) := wrapClass ctx c.address

/-- The number of addresses that the context gave references for. -/
def wrapperCount (ctx : ContextId) : Act Nat := return (← context ctx).tracked.length

/-- The class that a reference to a class refers to. -/
def classOfRef (r : ObjectRef) : Act ClassId := readSpace (·.classes.ofAddress? r.address)

/-- The class of the object that a reference refers to. -/
def isa (r : ObjectRef) : Act ClassId := readSpace (·.isa? r.address)

end MessageBridge.Act
