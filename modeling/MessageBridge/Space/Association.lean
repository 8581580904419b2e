import MessageBridge.Number.Word

/-!
# Associations

Numbers that are kept for an object under a key. Each context has a key of its own, under which it
keeps the serial number of the reference that it gave out for the object.

## Main definitions

* `ContextId`, `AssociationKey`, `AssociationTable` : the data.
* `AssociationTable.get?`, `AssociationTable.set`, `AssociationTable.clear` : access.
-/

namespace MessageBridge

/-- The number of a context. -/
abbrev ContextId := Nat

/-- What an association is kept under. -/
inductive AssociationKey where
  /-- The key of a context. -/
  | context (ctx : ContextId)
  /-- A key that was given as a word. -/
  | word (key : UInt64)
deriving DecidableEq, Repr

/-- The associations of all objects, the latest first. -/
structure AssociationTable where
  entries : List ((Address × AssociationKey) × Nat) := []
deriving Repr

namespace AssociationTable

/-- What the object has under the key. -/
def get? (t : AssociationTable) (a : Address) (key : AssociationKey) : Option Nat :=
  t.entries.lookup (a, key)

/-- Drops what the object has under the key. -/
def erase (t : AssociationTable) (a : Address) (key : AssociationKey) : AssociationTable :=
  ⟨t.entries.filter (fun e => e.1 != (a, key))⟩

/-- Keeps a number for the object under the key. -/
def set (t : AssociationTable) (a : Address) (key : AssociationKey) (value : Nat) :
    AssociationTable :=
  ⟨((a, key), value) :: (t.erase a key).entries⟩

/-- Drops all that the object has. -/
def clear (t : AssociationTable) (a : Address) : AssociationTable :=
  ⟨t.entries.filter (fun e => e.1.1 != a)⟩

end AssociationTable

end MessageBridge
