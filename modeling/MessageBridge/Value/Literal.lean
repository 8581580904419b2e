import MessageBridge.Value.Basic

/-!
# Literals

A value as it is written down: objects by the names that they go under, and structs by the encoding
that their layout is read from.

## Main definitions

* `Literal` : the written values.
* `Literal.eval` : the value of a literal, given what names and encodings stand for.
-/

namespace MessageBridge

/-- A value as it is written down. -/
inductive Literal where
  | nil
  | bool (b : Bool)
  | int (i : Int64)
  | uint (u : UInt64)
  | float (x : Binary64)
  | named (name : String)
  | selector (name : String)
  | str (s : String)
  | pointer (a : Address)
  | struct (encoding : String) (fields : List Literal)

namespace Literal

instance : Inhabited Literal := ⟨nil⟩

/-- The kind of the value in error messages. -/
def kindName : Literal → String
  | nil => Value.kindName .nil
  | bool b => Value.kindName (.bool b)
  | int i => Value.kindName (.int i)
  | uint u => Value.kindName (.uint u)
  | float x => Value.kindName (.float x)
  | named _ => "object"
  | selector s => Value.kindName (.selector s)
  | str s => Value.kindName (.str s)
  | pointer a => Value.kindName (.pointer a)
  | struct _ _ => "struct"

variable {m : Type → Type} [Monad m]

mutual

/-- The value of a literal. `layoutOf` reads the encoding of a struct and `named` finds the object
that goes under a name. -/
def eval (layoutOf : String → m Layout) (named : String → m Value) : Literal → m Value
  | .nil => pure .nil
  | .bool b => pure (.bool b)
  | .int i => pure (.int i)
  | .uint u => pure (.uint u)
  | .float x => pure (.float x)
  | .named name => named name
  | .selector name => pure (.selector name)
  | .str s => pure (.str s)
  | .pointer a => pure (.pointer a)
  | .struct encoding fields => do
    let layout ← layoutOf encoding
    let values ← evalAll layoutOf named fields
    return Value.ofFields layout values

/-- The values of several literals, from the left. -/
def evalAll (layoutOf : String → m Layout) (named : String → m Value) :
    List Literal → m (List Value)
  | [] => pure []
  | l :: ls => do
    let v ← eval layoutOf named l
    let vs ← evalAll layoutOf named ls
    return v :: vs

end

end Literal

end MessageBridge
