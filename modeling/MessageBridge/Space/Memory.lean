import MessageBridge.Number.Word

/-!
# Memory

Native memory as a set of blocks. A block is handed out at an address that was never used before, and
is zero until it is written. Only a prefix of its bytes is stored, so that a large block costs
nothing.

An allocator rounds a request up. Bytes between the requested size and the rounded one can be read
and written like the others, and any access beyond the rounded size is refused.

## Main definitions

* `Block`, `Memory` : the blocks; `Memory.allocate`, `Memory.free?` hand them out and take them back.
* `Memory.read?`, `Memory.write?`, `Memory.readString?` : access at an address.
-/

namespace MessageBridge

/-- `count` bytes from `offset` on. -/
def sliceBytes (bytes : List UInt8) (offset count : Nat) : List UInt8 :=
  (bytes.drop offset).take count

/-- Puts `new` over the bytes from `offset` on. -/
def overwriteBytes (bytes : List UInt8) (offset : Nat) (new : List UInt8) : List UInt8 :=
  bytes.take offset ++ new ++ bytes.drop (offset + new.length)

/-- The bytes with zeros after them, up to `count` bytes in all. -/
def padBytes (bytes : List UInt8) (count : Nat) : List UInt8 :=
  bytes ++ List.replicate (count - bytes.length) 0

/-- An allocated block. The bytes after the stored ones are zero. -/
structure Block where
  base : Nat
  size : Nat
  stored : List UInt8 := []
deriving Repr

namespace Block

/-- The number of bytes that the allocator sets aside for a request: with eight bytes of its own
before it a block fills a multiple of sixteen bytes, and at least thirty-two. -/
def capacityFor (size : Nat) : Nat := max 24 ((size + 8 + 15) / 16 * 16 - 8)

/-- The number of bytes that can be accessed. -/
def capacity (b : Block) : Nat := capacityFor b.size

theorem le_capacityFor (size : Nat) : size ≤ capacityFor size := by
  unfold capacityFor
  omega

/-- Whether `count` bytes at the address lie inside the block. -/
def covers (b : Block) (address count : Nat) : Bool :=
  b.base ≤ address && address + count ≤ b.base + b.capacity

/-- `count` bytes from `offset` on. -/
def read (b : Block) (offset count : Nat) : List UInt8 :=
  padBytes (sliceBytes b.stored offset count) count

/-- The block with new bytes from `offset` on. -/
def write (b : Block) (offset : Nat) (new : List UInt8) : Block :=
  { b with stored := overwriteBytes (padBytes b.stored offset) offset new }

end Block

/-- The allocated blocks, the newest first, and the address of the next one. -/
structure Memory where
  blocks : List Block := []
  next : Nat := 0x40000000000
deriving Repr

namespace Memory

/-- The largest request that is granted. -/
def maxRequest : Nat := 0x10000000000

/-- Where the addresses end that a program can use. -/
def addressLimit : Nat := 0x800000000000

/-- Hands out a block of the given size that begins with the given bytes. Its address is a multiple
of sixteen. -/
def allocate (m : Memory) (size : Nat) (contents : List UInt8) : Option (Address × Memory) :=
  if size ≤ maxRequest ∧ m.next + (Block.capacityFor size + 8) ≤ addressLimit then
    some (UInt64.ofNat m.next,
      ⟨⟨m.next, size, contents⟩ :: m.blocks, m.next + (Block.capacityFor size + 8)⟩)
  else none

/-- The block in which `count` bytes at the address lie. -/
def blockAt? (m : Memory) (address count : Nat) : Option Block :=
  m.blocks.find? (·.covers address count)

/-- The bytes at an address, if they all lie in one block. -/
def read? (m : Memory) (a : Address) (count : Nat) : Option (List UInt8) :=
  if count = 0 then some []
  else (m.blockAt? a.toNat count).map (fun b => b.read (a.toNat - b.base) count)

/-- The memory with new bytes at an address, if they all lie in one block. -/
def write? (m : Memory) (a : Address) (bytes : List UInt8) : Option Memory :=
  if bytes = [] then some m
  else (m.blockAt? a.toNat bytes.length).map (fun b =>
    { m with blocks := m.blocks.map (fun c =>
        if c.base = b.base then c.write (a.toNat - b.base) bytes else c) })

/-- The address that is stored at an address. -/
def readWord? (m : Memory) (a : Address) : Option Address :=
  (m.read? a 8).map ofWordBytes

/-- The bytes from an address up to the first zero, which must come before the block ends. -/
def readString? (m : Memory) (a : Address) : Option (List UInt8) :=
  (m.blockAt? a.toNat 1).bind (fun b =>
    let tail := b.stored.drop (a.toNat - b.base)
    let text := tail.takeWhile (· != 0)
    if a.toNat - b.base + text.length < b.capacity then some text else none)

/-- Takes back the block at an address. Nothing is there to be taken back at the null address. -/
def free? (m : Memory) (a : Address) : Option Memory :=
  if a = 0 then some m
  else if m.blocks.any (·.base == a.toNat) then
    some { m with blocks := m.blocks.filter (·.base != a.toNat) }
  else none

end Memory

end MessageBridge
