import MessageBridge.Decimal.Shortest
import MessageBridge.Encoding.Descriptor
import MessageBridge.ObjectRef
import MessageBridge.Text.Quoted

/-!
# Values

What the host passes to native code and gets back.

## Main definitions

* `Value` : the values, structs with their layout and one value per field.
* `Value.ofFields` : a struct with the given fields, the missing ones nil and those too many left
  out.
* `Value.toBool?`, `Value.toInt64?`, `Value.toUInt64?`, `Value.toFloat?`, `Value.toText?` : the views
  of a value that conversions use.
* `Value.equals` : equality, in which a NaN equals nothing.
* `Value.render` : the text of a value.
-/

namespace MessageBridge

/-- A host-side value. -/
inductive Value where
  | nil
  | bool (b : Bool)
  | int (i : Int64)
  | uint (u : UInt64)
  | float (x : Binary64)
  | object (r : ObjectRef)
  | selector (name : String)
  | str (s : String)
  | pointer (a : Address)
  | struct (layout : Layout) (fields : List Value)

namespace Value

instance : Inhabited Value := ⟨nil⟩

/-- The kind of the value in error messages. -/
def kindName : Value → String
  | nil => "nil"
  | bool _ => "bool"
  | int _ => "signed integer"
  | uint _ => "unsigned integer"
  | float _ => "float"
  | object _ => "object"
  | selector _ => "selector"
  | str _ => "string"
  | pointer _ => "pointer"
  | struct _ _ => "struct"

/-- Whether the value is nil. -/
def isNil : Value → Bool
  | nil => true
  | _ => false

/-- The truth of a boolean or an integer. -/
def toBool? : Value → Option Bool
  | bool b => some b
  | int i => some (i != 0)
  | uint u => some (u != 0)
  | _ => none

/-- The bits of an integer or a boolean as a word. -/
def toBits? : Value → Option UInt64
  | int i => some i.toUInt64
  | uint u => some u
  | bool b => some (if b then 1 else 0)
  | _ => none

/-- The integer, if it fits into the signed range. -/
def toInt64? : Value → Option Int64
  | int i => some i
  | uint u => if u < 0x8000000000000000 then some u.toInt64 else none
  | bool b => some (if b then 1 else 0)
  | _ => none

/-- The integer, if it is not negative. -/
def toUInt64? : Value → Option UInt64
  | uint u => some u
  | int i => if 0 ≤ i then some i.toUInt64 else none
  | bool b => some (if b then 1 else 0)
  | _ => none

/-- The number as a double. Integers are rounded. -/
def toFloat? : Value → Option Binary64
  | float x => some x
  | int i => some (.ofInt i.toInt)
  | uint u => some (.ofInt u.toNat)
  | _ => none

/-- The text of a string or the name of a selector. -/
def toText? : Value → Option String
  | str s => some s
  | selector name => some name
  | _ => none

/-- The object that the value refers to. -/
def toObject? : Value → Option ObjectRef
  | object r => some r
  | _ => none

/-- The value of a reference that may be missing. -/
def ofObject? : Option ObjectRef → Value
  | some r => object r
  | none => nil

/-! ## Structs -/

/-- The struct with the given fields, nil where fields are missing. Fields beyond those of the
layout are left out. -/
def ofFields (layout : Layout) (fields : List Value) : Value :=
  struct layout
    (fields.take layout.fields.length ++
      List.replicate (layout.fields.length - fields.length) nil)

/-- The field at a position of a struct. -/
def field? (v : Value) (index : Nat) : Option Value :=
  match v with
  | struct _ fields => fields[index]?
  | _ => none

/-- The field of a struct with the given name. -/
def fieldNamed? (v : Value) (name : String) : Option Value :=
  match v with
  | struct layout fields => (layout.fieldIndex? name).bind (fields[·]?)
  | _ => none

/-- The struct with the named field replaced, or nothing if there is no such field. -/
def setField? (v : Value) (name : String) (new : Value) : Option Value :=
  match v with
  | struct layout fields =>
    (layout.fieldIndex? name).map (fun i => struct layout (fields.set i new))
  | _ => none

/-! ## Equality -/

mutual

/-- Equality of values. Numbers of different kinds differ, floating-point numbers compare as
numbers, and objects by identity. -/
def equals : Value → Value → Bool
  | nil, nil => true
  | bool a, bool b => a == b
  | int a, int b => a == b
  | uint a, uint b => a == b
  | float a, float b => a.numEq b
  | object a, object b => a.serial == b.serial
  | selector a, selector b => a == b
  | str a, str b => a == b
  | pointer a, pointer b => a == b
  | struct l fs, struct l' fs' => decide (l = l') && equalsAll fs fs'
  | _, _ => false

/-- Equality of lists of values. -/
def equalsAll : List Value → List Value → Bool
  | [], [] => true
  | v :: vs, w :: ws => v.equals w && equalsAll vs ws
  | _, _ => false

end

/-! ## Text -/

/-- A field with its name before it, if it has one. -/
def renderField (name : Option String) (text : String) : String :=
  match name with
  | some name => name ++ ": " ++ text
  | none => text

mutual

/-- The text of a value. -/
def render : Value → String
  | nil => "nil"
  | bool b => if b then "true" else "false"
  | int i => toString i.toInt
  | uint u => toString u.toNat
  | float x => x.toDecimal
  | object r => r.describe
  | selector name => "@selector(" ++ name ++ ")"
  | str s => Text.quote s
  | pointer a => hexAddress a
  | struct layout fields =>
    layout.name ++ " \x7b " ++ ", ".intercalate (renderFields layout.fields fields) ++ " \x7d"

/-- The texts of the fields of a struct. -/
def renderFields : List Field → List Value → List String
  | f :: fs, v :: vs => renderField f.name v.render :: renderFields fs vs
  | _, _ => []

end

end Value

end MessageBridge
