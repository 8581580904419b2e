import MessageBridge.Bridge.Handles
import MessageBridge.Bridge.Reentry
import MessageBridge.Space.Exception

/-!
# Looking up implementations

Which code runs for a receiver and a selector. If the class of the receiver has none, the class is
asked to install one, and the code that raises an exception stands in for what is still missing.

## Main definitions

* `Act.resolverCall`, `Act.resolveMissing` : asks a class to install a method.
* `Act.lookupImplementation`, `Act.lookupAbove` : the code for a receiver, and for a class to start
  at.
* `Act.raiseUnrecognized` : what the stand-in does.
-/

namespace MessageBridge.Act

/-- A call with the receiver and the selector alone, which answers an object. -/
def askCall (receiver : Address) (sel : Address) : Call :=
  .ofWords (Signature.assumed 0) [receiver, sel]

/-- The signature under which a class is asked to install a method. -/
def resolverSignature : Signature :=
  ⟨.scalar .bool, [.object, .selector, .selector]⟩

/-- The code for the selector on the chain of a class, from the cache of the class if it is there. -/
def lookupImp (c : ClassId) (sel : Selector) : Act (Option Implementation) :=
  onSpace (fun s =>
    let (imp, classes) := s.classes.lookup c sel
    (imp, s.withClasses classes))

/-- The question for a method that is missing on the chain of the receiver's class: the code and the
call that ask the class itself if the receiver is an instance, and the receiver if it is a class. The
question is not asked about the question itself. -/
def resolverCall (c : ClassId) (receiver : Address) (sel : Selector) :
    Act (Option (Implementation × Call)) := do
  let isMeta := (← fromSpace (·.classes.get c)).isMeta
  let asked := if isMeta then receiver else c.address
  let question ← intern
    (if isMeta then "resolveClassMethod:" else "resolveInstanceMethod:")
  if sel = question then return none
  let k ← readSpace (·.isa? asked)
  return (← fromSpace (·.classes.walk k question)).map (fun imp =>
    (imp, .ofWords resolverSignature [asked, question.address, sel.address]))

/-- Asks for a method that is missing, and answers whether it is said to be there now. -/
def resolveMissing (re : Reentry) (c : ClassId) (receiver : Address) (sel : Selector) :
    Act Bool := do
  match ← resolverCall c receiver sel with
  | none => return false
  | some (imp, call) =>
    let reply ← re.invoke imp call
    return ofWordBytes ((← require .unwrittenWord reply).take 1) != 0

/-- The code that runs for a receiver and a selector. A null receiver or selector has code that
answers nothing. -/
def lookupImplementation (re : Reentry) (receiver : Address) (sel : Option Selector) :
    Act Implementation := do
  match sel with
  | none => return .nilMethod
  | some sel =>
    if receiver = 0 then return .nilMethod
    let c ← readSpace (·.isa? receiver)
    match ← lookupImp c sel with
    | some imp => return imp
    | none =>
      if ← resolveMissing re c receiver sel then
        return (← lookupImp c sel).getD .forwarding
      else return .forwarding

/-- The code that runs for a receiver and a selector when the search starts at a class. Nothing is
asked to install a method. -/
def lookupAbove (receiver : Address) (start : Option ClassId) (sel : Option Selector) :
    Act Implementation := do
  match start, sel with
  | some start, some sel =>
    if receiver = 0 then return .nilMethod
    return (← lookupImp start sel).getD .forwarding
  | _, _ => return .nilMethod

/-- The text about a selector for which the receiver has no method. -/
def unrecognizedReason (isMeta : Bool) (className sel : String) (receiver : Address) : String :=
  (if isMeta then "+" else "-") ++ "[" ++ className ++ " " ++ sel ++
    "]: unrecognized selector sent to instance " ++ hexAddress receiver

/-- Raises an exception about a selector for which the receiver has no method. -/
def raiseUnrecognized (receiver : Address) (sel : Option Selector) : Act Unit := do
  let r := (← get).space.classes.get (← readSpace (·.isa? receiver))
  let name := (sel.map (← get).space.selectors.name).getD "?"
  changeSpace (·.raise? "InvalidArgumentException"
    (unrecognizedReason r.isMeta r.name name receiver))

end MessageBridge.Act
