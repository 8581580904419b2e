import MessageBridge.Bridge.Body
import MessageBridge.Bridge.Context
import MessageBridge.Log.Logger
import MessageBridge.Space.Roots

/-!
# The bridge

The state that hosts share: the object space, the contexts over it, the host bodies that native code
can call and the names that the host gave to objects. Actions on it either give a result or stop. The
state that a stopped action leaves behind is kept.

## Main definitions

* `Bridge` : the state.
* `Fault`, `Stop` : why an action stops.
* `Act` : actions; `Act.fail`, `Act.recover` and access to the parts of the state.
-/

namespace MessageBridge

/-- Buffers that the object space handed out for lists and texts: how many there were, and the
numbers of those that were given back. -/
structure Loans where
  lent : Nat := 0
  returned : List Nat := []
deriving DecidableEq, Repr

namespace Loans

/-- Hands out one more buffer. -/
def lend (l : Loans) : Nat × Loans := (l.lent, { l with lent := l.lent + 1 })

/-- Takes a buffer back. -/
def takeBack (l : Loans) (buffer : Nat) : Loans :=
  { l with returned := buffer :: l.returned }

end Loans

/-- The state that hosts share. -/
structure Bridge where
  space : ObjectSpace := .initial
  contexts : Array Context := #[]
  /-- The host bodies, by the number in their implementation. -/
  hosted : Array Hosted := #[]
  /-- The serial number of the next reference. -/
  nextSerial : Nat := 1
  loans : Loans := {}
  /-- What host bodies wrote, the latest first. -/
  trace : List Value := []
  /-- The names that the host gave to objects, the latest first. -/
  names : List (String × ObjectRef) := []
  logger : Log.Logger := {}

instance : Inhabited Bridge := ⟨{}⟩

/-- A condition in which the object space gives no guarantee about what happens. -/
inductive Fault where
  /-- An address is used where no readable object lies. -/
  | badAccess
  /-- Calls are nested too deeply. -/
  | depthExceeded
  /-- A search does not end. -/
  | endlessSearch
  /-- A word is used that nobody wrote. -/
  | unwrittenWord
  /-- A type string is cut inside a character. -/
  | insideCharacter
deriving DecidableEq, Repr

/-- Why an action stops. -/
inductive Stop where
  /-- The action fails with an error. -/
  | error (e : Error)
  /-- A host body breaks off with a text. -/
  | panic (text : String)
  /-- Nothing is known about what follows. -/
  | fault (f : Fault)

/-- An action on the bridge. -/
abbrev Act (α : Type) : Type := EStateM Stop Bridge α

namespace Act

/-- Fails with an error. -/
def fail {α : Type} (e : Error) : Act α := throw (.error e)

/-- Stops at a fault. -/
def fault {α : Type} (f : Fault) : Act α := throw (.fault f)

/-- Breaks off with a text. -/
def panic {α : Type} (text : String) : Act α := throw (.panic text)

/-- Handles an error. A panic or a fault still stops the action. -/
def recover {α : Type} (x : Act α) (handle : Error → Act α) : Act α :=
  tryCatch x (fun
    | .error e => handle e
    | stop => throw stop)

/-- The result, or a fault where there is none. -/
def require {α : Type} (f : Fault) : Option α → Act α
  | some a => pure a
  | none => fault f

/-- The result, or the error. -/
def ofExcept {α : Type} : Except Error α → Act α
  | .ok a => pure a
  | .error e => fail e

/-- A part of the object space. -/
def fromSpace {α : Type} (f : ObjectSpace → α) : Act α := return f (← get).space

/-- Replaces the object space. -/
def setSpace (space : ObjectSpace) : Act Unit := modify (fun b => { b with space })

/-- A part of the object space that must be there. -/
def readSpace {α : Type} (f : ObjectSpace → Option α) : Act α := do
  require .badAccess (f (← get).space)

/-- Runs an operation of the object space that has a result. -/
def onSpace {α : Type} (f : ObjectSpace → α × ObjectSpace) : Act α := do
  let (a, space) := f (← get).space
  setSpace space
  return a

/-- Runs an operation of the object space that has a result, and may be impossible. -/
def tryOnSpace {α : Type} (f : ObjectSpace → Option (α × ObjectSpace)) : Act α := do
  let (a, space) ← readSpace f
  setSpace space
  return a

/-- Changes the object space, where that is possible. -/
def changeSpace (f : ObjectSpace → Option ObjectSpace) : Act Unit := do
  setSpace (← readSpace f)

/-- The state of a context. -/
def context (ctx : ContextId) : Act Context := return (← get).contexts[ctx]?.getD default

/-- Changes the state of a context. -/
def modifyContext (ctx : ContextId) (f : Context → Context) : Act Unit :=
  modify (fun b => { b with contexts := b.contexts.modify ctx f })

end Act

namespace Bridge

/-- Opens a context. Its log directives take effect unless they cannot be understood. -/
def openContext (b : Bridge) (config : Config) (capabilities : Capabilities) :
    ContextId × Bridge :=
  let logger := (config.log.bind (fun spec => (b.logger.apply spec).toOption)).getD b.logger
  (b.contexts.size, { b with contexts := b.contexts.push { config, capabilities }, logger })

/-- Drops a context. The blocks that it kept for calls are taken back. -/
def dropContext (b : Bridge) (ctx : ContextId) : Bridge :=
  let retained := (b.contexts[ctx]?.getD default).retained
  { b with
    contexts := b.contexts.modify ctx (fun c => { c with live := false, retained := [] })
    space := retained.foldl (fun s a => (s.free? a).getD s) b.space }

end Bridge

end MessageBridge
