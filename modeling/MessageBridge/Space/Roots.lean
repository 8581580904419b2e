import MessageBridge.Space.ObjectSpace

/-!
# The root classes

A fresh object space holds two registered classes: `Object`, the root of all, and `Exception` below
it.

## Main definitions

* `ObjectSpace.initial` : the space that holds the root classes and nothing else.
-/

namespace MessageBridge.ObjectSpace

/-- A method of a root class: its name, what it runs and its type string. -/
structure RootMethod where
  name : String
  routine : Routine
  types : String

/-- The methods of instances. -/
def objectMethods : List RootMethod :=
  [⟨"init", .itself, "@@:"⟩,
    ⟨"self", .itself, "@@:"⟩,
    ⟨"class", .classOf, "#@:"⟩,
    ⟨"superclass", .superclassOf, "#@:"⟩,
    ⟨"isEqual:", .isIdentical, "B@:@"⟩,
    ⟨"hash", .hash, "Q@:"⟩,
    ⟨"respondsToSelector:", .respondsTo, "B@::"⟩,
    ⟨"isKindOfClass:", .isKindOf, "B@:#"⟩,
    ⟨"isMemberOfClass:", .isMemberOf, "B@:#"⟩,
    ⟨"performSelector:", .perform, "@@::"⟩,
    ⟨"dealloc", .dispose, "v@:"⟩]

/-- The methods of classes. -/
def objectClassMethods : List RootMethod :=
  [⟨"alloc", .newInstance, "@@:"⟩,
    ⟨"new", .newInitialized, "@@:"⟩,
    ⟨"class", .itself, "#@:"⟩,
    ⟨"superclass", .superclassOfClass, "#@:"⟩,
    ⟨"version", .version, "i@:"⟩,
    ⟨"instancesRespondToSelector:", .instancesRespondTo, "B@::"⟩,
    ⟨"resolveInstanceMethod:", .resolveNothing, "B@::"⟩,
    ⟨"resolveClassMethod:", .resolveNothing, "B@::"⟩]

/-- The methods of exceptions. -/
def exceptionMethods : List RootMethod :=
  [⟨"name", .exceptionName, "*@:"⟩,
    ⟨"reason", .exceptionReason, "*@:"⟩,
    ⟨"raise", .raise, "v@:"⟩,
    ⟨"dealloc", .disposeException, "v@:"⟩]

/-- The methods of the class of exceptions. -/
def exceptionClassMethods : List RootMethod :=
  [⟨"exceptionWithName:reason:", .newException, "@@:**"⟩]

/-- Adds methods to a class. -/
def install (s : ObjectSpace) (c : ClassId) (methods : List RootMethod) : ObjectSpace :=
  methods.foldl (fun s m =>
    let (sel, s) := s.intern m.name
    s.withClasses ((s.classes.addMethod? c sel (.routine m.routine) m.types).getD s.classes)) s

/-- Adds instance variables of one word each to a class. -/
def declareWords (s : ObjectSpace) (c : ClassId) (fields : List (String × String)) :
    ObjectSpace :=
  fields.foldl (fun s v =>
    s.withClasses ((s.classes.addIvar? c v.1 8 3 v.2).getD s.classes)) s

/-- Allocates a class, fills it and its metaclass, and registers it. -/
def addRoot (s : ObjectSpace) (parent : Option ClassId) (name : String)
    (fields : List (String × String)) (methods classMethods : List RootMethod) : ObjectSpace :=
  match s.allocatePair parent name 0 with
  | (some c, s) =>
    let s := s.declareWords c fields
    let s := (s.install c methods).install (s.classes.metaclass c) classMethods
    s.withClasses (s.classes.register c)
  | (none, s) => s

/-- The space that holds the root classes and nothing else. -/
def initial : ObjectSpace :=
  let s : ObjectSpace := {}
  let s := s.addRoot none "Object" [("isa", "#")] objectMethods objectClassMethods
  s.addRoot (s.classes.find? "Object") "Exception" [("name", "*"), ("reason", "*")]
    exceptionMethods exceptionClassMethods

end MessageBridge.ObjectSpace
