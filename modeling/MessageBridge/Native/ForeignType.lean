import MessageBridge.Encoding.Descriptor

/-!
# Types of foreign calls

A foreign call is prepared with a second description of its types. It knows widths and the nesting of
structs, and nothing of names, classes, encodings or offsets: where the elements of a struct lie is for
the call interface to work out again.

## Main definitions

* `ForeignType` : the types that a call interface tells apart.
* `Descriptor.foreignType` : the type of a value.
-/

namespace MessageBridge

/-- A type as a call interface describes it. -/
inductive ForeignType where
  | void
  | int8
  | uint8
  | int16
  | uint16
  | int32
  | uint32
  | int64
  | uint64
  | float
  | double
  | pointer
  | struct (elements : List ForeignType)

/-- The type of a scalar. A truth value goes as an unsigned byte. -/
def Primitive.foreignType : Primitive → ForeignType
  | char => .int8
  | uchar | bool => .uint8
  | short => .int16
  | ushort => .uint16
  | int => .int32
  | uint => .uint32
  | long | longLong => .int64
  | ulong | ulongLong => .uint64
  | float => .float
  | double => .double
  | void => .void

mutual

/-- The type of a value of a shape. A struct is given by the types of its fields, and every address is a
pointer. -/
def Shape.foreignType : Shape → ForeignType
  | .scalar p => p.foreignType
  | .aggregate (.mk _ fields _ _) => .struct (Field.foreignTypes fields)
  | .object _ | .classRef | .selector | .cString | .pointer _ _ => .pointer

/-- The types of several fields. -/
def Field.foreignTypes : List Field → List ForeignType
  | [] => []
  | .mk _ _ (.mk _ shape) :: fields => shape.foreignType :: Field.foreignTypes fields

end

/-- The type of a value. -/
def Descriptor.foreignType (d : Descriptor) : ForeignType := d.shape.foreignType

end MessageBridge
