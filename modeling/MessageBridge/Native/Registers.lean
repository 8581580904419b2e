import MessageBridge.Encoding.Signature
import MessageBridge.Space.Memory

/-!
# Passing values in registers

How arguments reach the code that is called, and how its result comes back, when caller and callee
need not agree on the types. Integers and addresses go through six general registers,
floating-point numbers through eight vector registers, structs of up to sixteen bytes through one
register of the fitting kind for each eight bytes, and everything else over the stack. A caller that
expects a larger struct passes the place for it before all arguments.

A word that nobody wrote is `none`.

## Main definitions

* `RegisterKind`, `Descriptor.registers?` : the registers that a value takes.
* `Registers`, `Registers.place`, `Registers.fetch` : arguments.
* `Returned`, `Returned.ofBytes`, `Returned.toBytes?` : results.
-/

namespace MessageBridge

/-- The two kinds of registers. -/
inductive RegisterKind where
  | general
  | vector
deriving DecidableEq, Repr

/-- The larger claim of the two on eight bytes that they share: any integer takes a general
register. -/
def RegisterKind.join : RegisterKind → RegisterKind → RegisterKind
  | .vector, .vector => .vector
  | _, _ => .general

mutual

/-- The kinds of the scalars of a shape, each with its offset from the start of the outermost
struct. -/
def Shape.leaves (offset : Nat) : Shape → List (Nat × RegisterKind)
  | .scalar p => [(offset, if p.isFloat then .vector else .general)]
  | .aggregate (.mk _ fields _ _) => Field.leaves offset fields
  | .object _ | .classRef | .selector | .cString | .pointer _ _ => [(offset, .general)]

/-- The kinds of the scalars of several fields. -/
def Field.leaves (offset : Nat) : List Field → List (Nat × RegisterKind)
  | [] => []
  | .mk _ o (.mk _ shape) :: fields => shape.leaves (offset + o) ++ Field.leaves offset fields

end

namespace Descriptor

/-- The registers that a value takes, one for each eight bytes. The answer is `none` for a struct
that does not fit into two registers. -/
def registers? (d : Descriptor) : Option (List RegisterKind) :=
  if 2 * wordSize < d.size then none
  else some ((List.range ((d.size + 7) / wordSize)).map (fun i =>
    ((d.shape.leaves 0).filter (fun l => l.1 / wordSize == i)).foldl
      (fun k l => k.join l.2) .vector))

/-- The bytes as whole words. An integer narrower than a word is extended as its sign demands. -/
def words (d : Descriptor) (bytes : List UInt8) : List UInt64 :=
  match d.scalar? with
  | some p =>
    if p.isSigned then [UInt64.ofInt (ofLeBytesSigned (bytes.take p.size))]
    else [ofWordBytes (bytes.take p.size)]
  | none => (List.range ((d.size + 7) / wordSize)).map (fun i =>
      ofWordBytes (sliceBytes (bytes.take d.size) (8 * i) 8))

end Descriptor

/-- The registers and the stack at the entry of a call. -/
structure Registers where
  general : List (Option UInt64) := []
  vector : List (Option UInt64) := []
  stack : List (Option UInt64) := []

namespace Registers

/-- The number of general registers for arguments. -/
def generalCount : Nat := 6

/-- The number of vector registers for arguments. -/
def vectorCount : Nat := 8

/-- Puts words into registers of the given kinds. -/
def push (r : Registers) : List (RegisterKind × UInt64) → Registers
  | [] => r
  | (.general, w) :: ws => { r with general := r.general ++ [some w] }.push ws
  | (.vector, w) :: ws => { r with vector := r.vector ++ [some w] }.push ws

/-- Whether registers of the given kinds are still free when `general` and `vector` ones are taken. -/
def fits (general vector : Nat) (kinds : List RegisterKind) : Bool :=
  general + kinds.count .general ≤ generalCount && vector + kinds.count .vector ≤ vectorCount

/-- Passes one more argument. One that does not fit into the free registers as a whole goes over the
stack. -/
def placeOne (r : Registers) (d : Descriptor) (bytes : List UInt8) : Registers :=
  let words := d.words bytes
  match d.registers? with
  | some kinds =>
    if fits r.general.length r.vector.length kinds then r.push (kinds.zip words)
    else { r with stack := r.stack ++ words.map some }
  | none => { r with stack := r.stack ++ words.map some }

/-- Passes arguments to code whose result has the given type. -/
def place (ret : Descriptor) (args : List (Descriptor × List UInt8)) : Registers :=
  args.foldl (fun r a => r.placeOne a.1 a.2)
    (if ret.registers?.isNone then { general := [none] } else {})

/-- The words of a value whose registers are of the given kinds, and what is left. -/
def pop (r : Registers) : List RegisterKind → List (Option UInt64) × Registers
  | [] => ([], r)
  | .general :: ks =>
    let (ws, r') := { r with general := r.general.drop 1 }.pop ks
    (r.general.head?.join :: ws, r')
  | .vector :: ks =>
    let (ws, r') := { r with vector := r.vector.drop 1 }.pop ks
    (r.vector.head?.join :: ws, r')

/-- The bytes of words, if all of them were written. -/
def bytesOf (size : Nat) (words : List (Option UInt64)) : Option (List UInt8) :=
  (words.mapM id).map (fun ws => (ws.flatMap wordBytes).take size)

/-- Reads arguments of the given types, when `general` and `vector` registers have been read. -/
def fetchFrom (general vector : Nat) (r : Registers) :
    List Descriptor → List (Option (List UInt8))
  | [] => []
  | d :: ds =>
    let count := (d.size + 7) / wordSize
    let kinds := d.registers?.getD []
    if d.registers?.isSome && fits general vector kinds then
      let (words, r) := r.pop kinds
      bytesOf d.size words ::
        fetchFrom (general + kinds.count .general) (vector + kinds.count .vector) r ds
    else
      let words := (List.range count).map (fun i => r.stack[i]?.join)
      bytesOf d.size words :: fetchFrom general vector { r with stack := r.stack.drop count } ds

/-- Reads the arguments of code with the given signature. -/
def fetch (r : Registers) (s : Signature) : List (Option (List UInt8)) :=
  if s.ret.registers?.isNone then fetchFrom 1 0 { r with general := r.general.drop 1 } s.args
  else fetchFrom 0 0 r s.args

/-- The general register at a position. -/
def word? (r : Registers) (i : Nat) : Option UInt64 := r.general[i]?.join

end Registers

/-- What a call leaves behind: the result registers, and a struct that was written to memory. -/
structure Returned where
  general : List UInt64 := []
  vector : List UInt64 := []
  memory? : Option (List UInt8) := none

namespace Returned

/-- One word in a general register. -/
def word (w : UInt64) : Returned := { general := [w] }

/-- A truth value. -/
def bool (b : Bool) : Returned := word (if b then 1 else 0)

/-- Nothing in any register. -/
def nothing : Returned := {}

/-- The result of host code. It leaves zero behind where it has nothing to say. -/
def ofBytes (ret : Descriptor) (bytes : List UInt8) : Returned :=
  if ret.isVoid then word 0
  else
    match ret.registers? with
    | some kinds =>
      let words := kinds.zip (ret.words bytes)
      { general := (words.filter (·.1 = .general)).map Prod.snd,
        vector := (words.filter (·.1 = .vector)).map Prod.snd }
    | none => { memory? := some (bytes.take ret.size) }

/-- The result as a caller sees it that expects the given type: at least a word, and an integer
extended to a word. -/
def toBytes? (r : Returned) (ret : Descriptor) : Option (List UInt8) :=
  match ret.registers? with
  | some kinds =>
    let (words, _) := (⟨r.general.map some, r.vector.map some, []⟩ : Registers).pop kinds
    match ret.scalar? with
    | some p =>
      if p.isFloat || p = .void then
        (Registers.bytesOf ret.size words).map (padBytes · wordSize)
      else
        (Registers.bytesOf ret.size words).map (fun bytes =>
          (ret.words bytes).flatMap wordBytes)
    | none => (Registers.bytesOf ret.size words).map (padBytes · wordSize)
  | none => some (r.memory?.getD (List.replicate ret.size 0))

end Returned

end MessageBridge
