import MessageBridge.Bridge.Handles
import MessageBridge.Marshal.Scalar

/-!
# Values as bytes

How values cross the call boundary: a value is written into the bytes that native code reads, and
read back from the bytes that native code left.

Texts, and structs that are passed by address, are stored in blocks of their own. These stay
allocated for as long as the context lives.

## Main definitions

* `Act.encode` : the bytes of a value as a descriptor demands, and the blocks that they refer to.
* `Act.decode` : the value that bytes hold as a descriptor says.
* `Act.decodeResult` : the same for the result of a call.
-/

namespace MessageBridge

/-- The size of a buffer of whole words, at least one, with room for `size` bytes. -/
def slotSize (size : Nat) : Nat := max 1 ((size + 7) / wordSize) * wordSize

/-- A zeroed buffer of whole words with room for `size` bytes. -/
def slot (size : Nat) : List UInt8 := List.replicate (slotSize size) 0

/-- Whether the shape is written in place, so that a nil field of it stays zero. -/
def Shape.isInline (s : Shape) : Bool := !s.isAddress

namespace Act

/-- Stores bytes in a block of their own. -/
def keepBlock (size : Nat) (bytes : List UInt8) : Act Address :=
  tryOnSpace (fun s => (s.memory.allocate size bytes).map (fun (a, memory) => (a, { s with memory })))

/-- Stores a text as a C string. -/
def keepString (text : String) : Act Address := do
  checkName text
  let bytes := Text.toUtf8 text
  keepBlock (bytes.length + 1) bytes

/-- Keeps blocks for as long as the context lives. -/
def retain (ctx : ContextId) (blocks : List Address) : Act Unit :=
  modifyContext ctx (fun c => { c with retained := c.retained ++ blocks })

/-- The address as the first bytes of a buffer. -/
def writeWord (out : List UInt8) (a : Address) : List UInt8 := overwriteBytes out 0 (wordBytes a)

mutual

/-- Writes a value at the front of a zeroed buffer, and answers the blocks that it refers to. -/
def encode (ctx : ContextId) (index : Nat) (d : Descriptor) (out : List UInt8) (v : Value) :
    Act (List UInt8 × List Address) :=
  let mismatch : Act (List UInt8 × List Address) :=
    fail (.argumentTypeMismatch index d.encoding v.kindName)
  match d.shape, v with
  | .scalar p, v =>
    match p.encode? v with
    | some bytes => pure (overwriteBytes out 0 bytes, [])
    | none => mismatch
  | .aggregate l, .struct layout fields =>
    if l.size = layout.size ∧ l.fields.length = fields.length then
      encodeFields ctx index l.fields out fields
    else mismatch
  | .aggregate _, _ => mismatch
  | _, .nil => pure (writeWord out 0, [])
  | _, .pointer a => pure (writeWord out a, [])
  | .object _, .object r | .classRef, .object r | .pointer _ _, .object r =>
    pure (writeWord out r.address, [])
  | .selector, .selector name | .selector, .str name => do
    return (writeWord out (← selector ctx name).address, [])
  | .cString, .str text | .pointer _ _, .str text => do
    let a ← keepString text
    return (writeWord out a, [a])
  | .pointer _ _, .struct layout fields => do
    let (bytes, blocks) ← encodeFields ctx index layout.fields (slot layout.size) fields
    let a ← keepBlock (slotSize layout.size) bytes
    return (writeWord out a, blocks ++ [a])
  | _, _ => mismatch

/-- Writes the fields of a struct at their offsets. Nil for a field that is written in place leaves
it zero. -/
def encodeFields (ctx : ContextId) (index : Nat) (fields : List Field) (out : List UInt8) :
    List Value → Act (List UInt8 × List Address)
  | [] => pure (out, [])
  | v :: vs =>
    match fields with
    | [] => pure (out, [])
    | f :: fs => do
      let (out, blocks) ←
        if v.isNil && f.descriptor.shape.isInline then pure (out, [])
        else
          let (bytes, blocks) ← encode ctx index f.descriptor
            (sliceBytes out f.offset f.descriptor.size) v
          pure (overwriteBytes out f.offset bytes, blocks)
      let (out, more) ← encodeFields ctx index fs out vs
      return (out, blocks ++ more)

end

mutual

/-- The value that bytes hold as a shape says. -/
def decodeShape (ctx : ContextId) (bytes : List UInt8) : Shape → Act Value
  | .scalar p => pure (p.decode bytes)
  | .aggregate l => decodeLayout ctx bytes l
  | .object _ | .classRef => return .ofObject? (← wrap ctx (ofWordBytes bytes))
  | .selector => do
    let a := ofWordBytes bytes
    if a = 0 then return .nil
    let sel ← readSpace (·.selectors.ofAddress? a)
    return .selector (← fromSpace (·.selectors.name sel))
  | .cString => do
    let a := ofWordBytes bytes
    if a = 0 then return .nil
    return .str (Text.ofUtf8Lossy (← readSpace (·.readString? a)))
  | .pointer _ none =>
    let a := ofWordBytes bytes
    pure (if a = 0 then .nil else .pointer a)
  | .pointer _ (some l) => do
    let a := ofWordBytes bytes
    if a = 0 then return .nil
    let pointee ← readSpace (·.read? a l.size)
    decodeLayout ctx pointee l

/-- The struct that bytes hold. -/
def decodeLayout (ctx : ContextId) (bytes : List UInt8) : Layout → Act Value
  | .mk name fields size alignment => do
    let values ← decodeFields ctx bytes fields
    return .ofFields (.mk name fields size alignment) values

/-- The fields that the bytes of a struct hold. -/
def decodeFields (ctx : ContextId) (bytes : List UInt8) : List Field → Act (List Value)
  | [] => pure []
  | .mk _ offset (.mk _ shape) :: fields => do
    let v ← decodeShape ctx (sliceBytes bytes offset shape.size) shape
    let vs ← decodeFields ctx bytes fields
    return v :: vs

end

/-- The value that bytes hold as a descriptor says. -/
def decode (ctx : ContextId) (d : Descriptor) (bytes : List UInt8) : Act Value :=
  decodeShape ctx bytes d.shape

/-- The value of a result, which fills at least a word. -/
def decodeResult (ctx : ContextId) (d : Descriptor) (bytes : List UInt8) : Act Value :=
  match d.scalar? with
  | some p =>
    pure (if p.isWidened then p.decode (p.narrow (ofWordBytes bytes)) else p.decode bytes)
  | none => decode ctx d bytes

end Act

end MessageBridge
