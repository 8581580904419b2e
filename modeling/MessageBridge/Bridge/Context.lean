import MessageBridge.Bridge.Library
import MessageBridge.Bridge.Metadata
import MessageBridge.Config
import MessageBridge.Encoding.Translator
import MessageBridge.Space.Selector
import MessageBridge.Value.Basic

/-!
# Contexts

A context is one view of the object space. It remembers the selectors that it asked for, the
references that it gave out, the struct layouts that it knows, the signatures that it called with and
the names that it resolved.

## Main definitions

* `Capabilities` : which services of the object space the context may use.
* `Function`, `Resolved` : what a name can stand for.
* `Context` : the state of a context.
-/

namespace MessageBridge

/-- Services of the object space that a context may have to do without. -/
structure Capabilities where
  /-- The type string of a method can be read as a whole. -/
  typed : Bool := true
  /-- Raised exceptions can be taken. -/
  exceptions : Bool := true
  /-- Looking up an implementation for a receiver finds one. -/
  lookup : Bool := true
deriving DecidableEq, Repr

/-- Native code with the name and the signature under which it is called. -/
structure Function where
  name : String
  code : Implementation
  signature : Signature
deriving DecidableEq

/-- What a name stands for. -/
inductive Resolved where
  | classRef (r : ObjectRef)
  | constant (v : Value)
  | enumerator (value : Int64)
  | function (f : Function)

/-- The state of a context. -/
structure Context where
  config : Config := {}
  capabilities : Capabilities := {}
  /-- A context that was dropped answers nothing any more. -/
  live : Bool := true
  /-- The selectors that were asked for, by name. -/
  selectors : List (String × Selector) := []
  /-- The latest reference given out for each address. -/
  tracked : List (Address × ObjectRef) := []
  translator : Translator := {}
  /-- The signatures that calls were made with, under their keys. -/
  frames : List (String × Signature) := []
  /-- The names that were resolved. -/
  resolved : List (String × Resolved) := []
  /-- The metadata, the earliest first. -/
  sources : List Metadata := []
  /-- The libraries, the latest first. -/
  libraries : List NativeLibrary := []
  /-- The classes that were registered through the context, by name. -/
  published : List (String × ObjectRef) := []
  /-- The first failure of a host body that no call has reported yet. -/
  pendingError : Option Error := none
  /-- The blocks that texts and structs were passed in. -/
  retained : List Address := []

instance : Inhabited Context := ⟨{}⟩

namespace Context

/-- Remembers a reference as the latest one for its address. -/
def track (c : Context) (r : ObjectRef) : Context :=
  { c with tracked := (r.address, r) :: c.tracked.filter (fun e => e.1 != r.address) }

/-- What the libraries export under a name, the latest library first. -/
def symbol? (c : Context) (name : String) : Option Symbol :=
  c.libraries.findSome? (·.symbol? name)

/-- Records a failure, unless one is recorded already. -/
def recordFailure (c : Context) (e : Error) : Context :=
  { c with pendingError := c.pendingError.or (some e) }

end Context

end MessageBridge
