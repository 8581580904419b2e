import MessageBridge.Space.ClassRecord

/-!
# Protocols

A protocol declares methods and adopts other protocols until it is registered.

## Main definitions

* `Protocol`, `ProtocolTable` : the data.
* `ProtocolTable.allocate?`, `ProtocolTable.declare`, `ProtocolTable.adopt`,
  `ProtocolTable.register` : building protocols.
* `ProtocolTable.conforms?` : whether one protocol reaches another by adoption.
-/

namespace MessageBridge

/-- The declaration of a method in a protocol. -/
structure Declaration where
  selector : Selector
  types : String
  required : Bool
  instanceSide : Bool
deriving DecidableEq, Repr

/-- A protocol. -/
structure Protocol where
  name : String
  registered : Bool := false
  methods : List Declaration := []
  adopted : List ProtocolId := []
deriving Repr

instance : Inhabited Protocol := ⟨⟨"", false, [], []⟩⟩

/-- The protocols. -/
structure ProtocolTable where
  protocols : Array Protocol := #[]

namespace ProtocolTable

/-- The data of a protocol. -/
def get (t : ProtocolTable) (p : ProtocolId) : Protocol := t.protocols[p.index]?.getD default

/-- Changes a protocol that is not registered yet. -/
def modifyPending (t : ProtocolTable) (p : ProtocolId) (f : Protocol → Protocol) :
    ProtocolTable :=
  { t with protocols := t.protocols.modify p.index (fun q => if q.registered then q else f q) }

/-- The protocol of a name, registered or not. -/
def find? (t : ProtocolTable) (name : String) : Option ProtocolId :=
  (t.protocols.findIdx? (·.name == name)).map ProtocolId.mk

/-- The registered protocol of a name. -/
def lookup? (t : ProtocolTable) (name : String) : Option ProtocolId :=
  (t.find? name).filter (fun p => (t.get p).registered)

/-- The registered protocols, in the order of their allocation. -/
def registeredProtocols (t : ProtocolTable) : List ProtocolId :=
  ((List.range t.protocols.size).map ProtocolId.mk).filter (fun p => (t.get p).registered)

/-- Allocates a protocol under a name that no other protocol has. -/
def allocate? (t : ProtocolTable) (name : String) : Option (ProtocolId × ProtocolTable) :=
  if (t.find? name).isSome then none
  else some (⟨t.protocols.size⟩, ⟨t.protocols.push { name }⟩)

/-- Registers a protocol. -/
def register (t : ProtocolTable) (p : ProtocolId) : ProtocolTable :=
  t.modifyPending p (fun q => { q with registered := true })

/-- Declares a method, unless the protocol is registered. -/
def declare (t : ProtocolTable) (p : ProtocolId) (d : Declaration) : ProtocolTable :=
  t.modifyPending p (fun q => { q with methods := q.methods ++ [d] })

/-- Adopts a protocol, unless the adopting one is registered. -/
def adopt (t : ProtocolTable) (p addition : ProtocolId) : ProtocolTable :=
  t.modifyPending p (fun q => { q with adopted := q.adopted ++ [addition] })

/-- The declarations of one kind, in order. -/
def declarations (t : ProtocolTable) (p : ProtocolId) (required instanceSide : Bool) :
    List Declaration :=
  (t.get p).methods.filter (fun d => d.required == required && d.instanceSide == instanceSide)

/-- The first answer that settles a search over a list: a hit, or a search that does not end. -/
def anyEnding (search : ProtocolId → Option Bool) : List ProtocolId → Option Bool
  | [] => some false
  | p :: ps => do if ← search p then some true else anyEnding search ps

/-- Searches for `goal` from `p` on through adopted protocols, at most `depth` steps deep. -/
def conformsWithin (t : ProtocolTable) (goal : ProtocolId) : Nat → ProtocolId → Option Bool
  | 0, p => if p = goal then some true else none
  | depth + 1, p =>
    if p = goal then some true
    else anyEnding (t.conformsWithin goal depth) (t.get p).adopted

/-- Whether `p` is `goal` or reaches it by adoption. The search visits what `p` adopts one after the
other. A path longer than the table has met a protocol twice, and then the search does not end. -/
def conforms? (t : ProtocolTable) (p goal : ProtocolId) : Option Bool :=
  t.conformsWithin goal t.protocols.size p

end ProtocolTable

end MessageBridge
