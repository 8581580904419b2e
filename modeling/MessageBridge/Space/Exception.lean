import MessageBridge.Space.ObjectSpace

/-!
# Exceptions

An exception is an instance with two texts, its name and its reason. They are C strings whose
addresses are in the instance variables of these names, as the class of the exception declares them.

## Main definitions

* `ObjectSpace.textSlot?` : where an exception keeps one of its texts.
* `ObjectSpace.newException?`, `ObjectSpace.disposeException?` : making and disposing of exceptions.
* `ObjectSpace.raise?` : raises a new exception.
-/

namespace MessageBridge.ObjectSpace

/-- The instance variables that hold the texts. -/
def textVariables : List String := ["name", "reason"]

/-- Where the object keeps the text of this name. The inner `none` stands for a class without such a
variable. -/
def textSlot? (s : ObjectSpace) (a : Address) (name : String) : Option (Option Address) := do
  let c ← s.isa? a
  return ((s.classes.findIvar? c name).bind s.classes.ivar?).map (fun i => a + i.offset)

/-- The address of a text of the object, null if it has none. -/
def text? (s : ObjectSpace) (a : Address) (name : String) : Option Address := do
  match ← s.textSlot? a name with
  | some slot => s.readWord? slot
  | none => return 0

/-- Stores a copy of a text in the object, if its class has the variable. -/
def setText? (s : ObjectSpace) (a : Address) (name : String) (bytes : List UInt8) :
    Option ObjectSpace := do
  match ← s.textSlot? a name with
  | some slot =>
    let (copy, s) := s.copyString bytes
    s.write? slot (wordBytes copy)
  | none => return s

/-- Creates an exception with copies of the given texts, of which each may be missing. The answer is
the null address if no instance can be created. -/
def newException? (s : ObjectSpace) (c : ClassId) (texts : List (Option (List UInt8))) :
    Option (Address × ObjectSpace) := do
  let (a, s) := s.createInstance c 0
  if a = 0 then return (a, s)
  else
    let s ← (textVariables.zip texts).foldlM (fun s (name, bytes) =>
      match bytes with
      | some bytes => s.setText? a name bytes
      | none => some s) s
    return (a, s)

/-- Raises a new exception with the given name and reason. Without the class of exceptions, or
without room for an instance, nothing is raised. -/
def raise? (s : ObjectSpace) (name reason : String) : Option ObjectSpace :=
  match s.classes.lookupClass? "Exception" with
  | some c => do
    let (a, s) ← s.newException? c [some (Text.toUtf8 name), some (Text.toUtf8 reason)]
    return if a = 0 then s else s.throw a
  | none => some s

/-- Releases the texts of an exception and disposes of it. -/
def disposeException? (s : ObjectSpace) (a : Address) : Option ObjectSpace := do
  let s ← textVariables.foldlM (fun s name => do s.free? (← s.text? a name)) s
  s.dispose? a

end MessageBridge.ObjectSpace
