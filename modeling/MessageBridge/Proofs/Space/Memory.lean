import MessageBridge.Space.Memory
import Mathlib.Data.List.TakeWhile
import Mathlib.Logic.Relation

/-!
# What memory keeps

Blocks are handed out at growing addresses, so that a new block covers no address that an older one
covers. What can be read at an address stays there while blocks are only handed out.

## Main definitions

* `Memory.Sound` — all blocks lie below the next address, which is one that a program can use.
* `Memory.Change` — a block is handed out, written or taken back, and `Memory.Changes` any number of
  such changes.

## Main results

* `Memory.Sound.allocate`, `Memory.Sound.write?`, `Memory.Sound.free?` — every operation keeps the
  memory sound.
* `Memory.Changes.exists_old` — a block that lies where blocks had been handed out is one of them, and
  as large as it was.
* `Memory.readString?_allocate` — a text that was stored is read back.
* `Memory.Sound.read?_of_allocate`, `Memory.Sound.readString?_of_allocate` — what can be read is still
  there after a block was handed out.
-/

namespace MessageBridge

namespace Block

@[simp] lemma capacity_write (b : Block) (offset : Nat) (new : List UInt8) :
    (b.write offset new).capacity = b.capacity := rfl

@[simp] lemma base_write (b : Block) (offset : Nat) (new : List UInt8) :
    (b.write offset new).base = b.base := rfl

lemma covers_iff {b : Block} {address count : Nat} :
    b.covers address count = true ↔
      b.base ≤ address ∧ address + count ≤ b.base + b.capacity := by
  simp [covers]

end Block

namespace Memory

variable {m m' : Memory} {a a' : Address} {size count : Nat} {contents bytes : List UInt8}

/-- **Sound**: all blocks lie below the next address, which is one that a program can use. -/
structure Sound (m : Memory) : Prop where
  next_pos : 0 < m.next
  next_le : m.next ≤ addressLimit
  below : ∀ b ∈ m.blocks, b.base + b.capacity ≤ m.next

instance (m : Memory) : Decidable m.Sound :=
  decidable_of_iff
    (0 < m.next ∧ m.next ≤ addressLimit ∧ ∀ b ∈ m.blocks, b.base + b.capacity ≤ m.next)
    ⟨fun h => ⟨h.1, h.2.1, h.2.2⟩, fun h => ⟨h.next_pos, h.next_le, h.below⟩⟩

/-! ## Handing out blocks -/

/-- What handing out a block does. -/
lemma allocate_eq_some (h : m.allocate size contents = some (a, m')) :
    a.toNat = m.next ∧ m.next + (Block.capacityFor size + 8) ≤ addressLimit ∧
      m' = ⟨⟨m.next, size, contents⟩ :: m.blocks, m.next + (Block.capacityFor size + 8)⟩ := by
  unfold allocate at h
  split at h
  · next hroom =>
    cases h
    have hlimit : m.next < 18446744073709551616 := by
      have := hroom.2
      unfold addressLimit at this
      omega
    refine ⟨?_, hroom.2, rfl⟩
    rw [UInt64.toNat_ofNat']
    exact Nat.mod_eq_of_lt hlimit
  · cases h

/-- A block is never handed out at the null address. -/
lemma Sound.ne_zero_of_allocate (hm : m.Sound) (h : m.allocate size contents = some (a, m')) :
    a ≠ 0 := by
  rintro rfl
  have hnext := (allocate_eq_some h).1
  have hpos := hm.next_pos
  rw [← hnext] at hpos
  exact absurd hpos (by decide)

lemma Sound.allocate (hm : m.Sound) (h : m.allocate size contents = some (a, m')) : m'.Sound := by
  obtain ⟨-, hlimit, rfl⟩ := allocate_eq_some h
  have hpos := hm.next_pos
  refine ⟨by simp only; omega, hlimit, ?_⟩
  intro b hb
  rcases List.mem_cons.mp hb with rfl | hb
  · simp only [Block.capacity]
    omega
  · have := hm.below b hb
    simp only
    omega

/-- Writing neither moves nor resizes a block. -/
lemma write?_eq_some (h : m.write? a bytes = some m') :
    m'.next = m.next ∧ ∀ c ∈ m'.blocks, ∃ d ∈ m.blocks, d.base = c.base ∧ d.size = c.size := by
  unfold Memory.write? at h
  split at h
  · cases h
    exact ⟨rfl, fun c hc => ⟨c, hc, rfl, rfl⟩⟩
  · obtain ⟨b, -, rfl⟩ := Option.map_eq_some_iff.mp h
    refine ⟨rfl, fun c hc => ?_⟩
    obtain ⟨d, hd, rfl⟩ := List.mem_map.mp hc
    refine ⟨d, hd, ?_⟩
    split <;> exact ⟨rfl, rfl⟩

/-- Taking a block back leaves the others as they are. -/
lemma free?_eq_some (h : m.free? a = some m') :
    m'.next = m.next ∧ ∀ c ∈ m'.blocks, c ∈ m.blocks := by
  unfold Memory.free? at h
  split at h
  · cases h
    exact ⟨rfl, fun _ hc => hc⟩
  · split at h
    · cases h
      exact ⟨rfl, fun c hc => (List.mem_filter.mp hc).1⟩
    · cases h

lemma Sound.write? (hm : m.Sound) (h : m.write? a bytes = some m') : m'.Sound := by
  obtain ⟨hnext, hblocks⟩ := write?_eq_some h
  refine ⟨hnext ▸ hm.next_pos, hnext ▸ hm.next_le, fun c hc => ?_⟩
  obtain ⟨d, hd, hbase, hsize⟩ := hblocks c hc
  rw [hnext, ← hbase, Block.capacity, ← hsize]
  exact hm.below d hd

lemma Sound.free? (hm : m.Sound) (h : m.free? a = some m') : m'.Sound := by
  obtain ⟨hnext, hblocks⟩ := free?_eq_some h
  refine ⟨hnext ▸ hm.next_pos, hnext ▸ hm.next_le, fun c hc => ?_⟩
  rw [hnext]
  exact hm.below c (hblocks c hc)

/-! ## Changes -/

/-- **Change**: a block is handed out, written or taken back. -/
inductive Change (m m' : Memory) : Prop
  | allocate {size : Nat} {contents : List UInt8} {a : Address}
      (h : m.allocate size contents = some (a, m')) : Change m m'
  | write {a : Address} {bytes : List UInt8} (h : m.write? a bytes = some m') : Change m m'
  | free {a : Address} (h : m.free? a = some m') : Change m m'

/-- **Changes**: any number of changes, one after the other. -/
def Changes : Memory → Memory → Prop := Relation.ReflTransGen Change

lemma Change.sound (h : m.Change m') (hm : m.Sound) : m'.Sound := by
  cases h with
  | allocate h => exact hm.allocate h
  | write h => exact hm.write? h
  | free h => exact hm.free? h

/-- A block below the next address was there before, and as large. -/
lemma Change.exists_old (h : m.Change m') {b : Block} (hb : b ∈ m'.blocks)
    (hbase : b.base < m.next) : ∃ c ∈ m.blocks, c.base = b.base ∧ c.size = b.size := by
  cases h with
  | allocate h =>
    obtain ⟨-, -, rfl⟩ := allocate_eq_some h
    rcases List.mem_cons.mp hb with rfl | hb
    · exact absurd hbase (Nat.lt_irrefl _)
    · exact ⟨b, hb, rfl, rfl⟩
  | write h => exact (write?_eq_some h).2 b hb
  | free h => exact ⟨b, (free?_eq_some h).2 b hb, rfl, rfl⟩

/-- Addresses are never handed out again. -/
lemma Change.next_le (h : m.Change m') : m.next ≤ m'.next := by
  cases h with
  | allocate h =>
    obtain ⟨-, -, rfl⟩ := allocate_eq_some h
    exact Nat.le_add_right _ _
  | write h => exact Nat.le_of_eq (write?_eq_some h).1.symm
  | free h => exact Nat.le_of_eq (free?_eq_some h).1.symm

namespace Changes

lemma refl (m : Memory) : m.Changes m := Relation.ReflTransGen.refl

lemma trans {m'' : Memory} (h : m.Changes m') (h' : m'.Changes m'') : m.Changes m'' :=
  Relation.ReflTransGen.trans h h'

lemma of_change (h : m.Change m') : m.Changes m' := .single h

lemma sound (h : m.Changes m') (hm : m.Sound) : m'.Sound := by
  induction h with
  | refl => exact hm
  | tail _ hstep ih => exact hstep.sound ih

lemma next_le (h : m.Changes m') : m.next ≤ m'.next := by
  induction h with
  | refl => exact Nat.le_refl _
  | tail _ hstep ih => exact Nat.le_trans ih hstep.next_le

/-- **Old blocks**: a block that lies where blocks had been handed out is one of them, and as large as it
was. -/
theorem exists_old (h : m.Changes m') {b : Block} (hb : b ∈ m'.blocks) (hbase : b.base < m.next) :
    ∃ c ∈ m.blocks, c.base = b.base ∧ c.size = b.size := by
  induction h generalizing b with
  | refl => exact ⟨b, hb, rfl, rfl⟩
  | tail hrun hstep ih =>
    obtain ⟨d, hd, hdbase, hdsize⟩ :=
      hstep.exists_old hb (Nat.lt_of_lt_of_le hbase (next_le hrun))
    obtain ⟨c, hc, hcbase, hcsize⟩ := ih hd (by rwa [hdbase])
    exact ⟨c, hc, hcbase.trans hdbase, hcsize.trans hdsize⟩

end Changes

/-! ## Reading -/

/-- An address that an old block covers is not covered by a new one. -/
lemma Sound.blockAt?_of_allocate (hm : m.Sound) (h : m.allocate size contents = some (a, m'))
    {address : Nat} {b : Block} (hcount : 0 < count) (hb : m.blockAt? address count = some b) :
    m'.blockAt? address count = some b := by
  obtain ⟨-, -, rfl⟩ := allocate_eq_some h
  have hcovers : b.covers address count = true := by
    unfold blockAt? at hb
    exact List.find?_some (p := fun b : Block => b.covers address count) hb
  obtain ⟨-, hend⟩ := Block.covers_iff.mp hcovers
  have hbelow := hm.below b (List.mem_of_find?_eq_some hb)
  have hnew : (⟨m.next, size, contents⟩ : Block).covers address count = false := by
    rw [Bool.eq_false_iff]
    intro hcovers
    have := (Block.covers_iff.mp hcovers).1
    simp only at this
    omega
  simp only [blockAt?, List.find?_cons, hnew]
  exact hb

/-- **What can be read** is still there after a block was handed out. -/
lemma Sound.read?_of_allocate (hm : m.Sound) (h : m.allocate size contents = some (a, m'))
    (hr : m.read? a' count = some bytes) : m'.read? a' count = some bytes := by
  unfold read? at hr ⊢
  split at hr
  · next hcount => rwa [if_pos hcount]
  · next hcount =>
    obtain ⟨b, hb, rfl⟩ := Option.map_eq_some_iff.mp hr
    have hb' := hm.blockAt?_of_allocate h (Nat.pos_of_ne_zero hcount) hb
    rw [if_neg hcount, hb']
    rfl

/-- **A text that can be read** is still there after a block was handed out. -/
lemma Sound.readString?_of_allocate (hm : m.Sound) (h : m.allocate size contents = some (a, m'))
    (hr : m.readString? a' = some bytes) : m'.readString? a' = some bytes := by
  obtain ⟨b, hb, hr⟩ := Option.bind_eq_some_iff.mp hr
  exact Option.bind_eq_some_iff.mpr ⟨b, hm.blockAt?_of_allocate h Nat.one_pos hb, hr⟩

/-- **A text that was stored** with room for its end is read back. -/
lemma readString?_allocate (h : m.allocate size contents = some (a, m'))
    (hsize : contents.length < size) (hzero : ∀ x ∈ contents, x ≠ 0) :
    m'.readString? a = some contents := by
  obtain ⟨ha, -, rfl⟩ := allocate_eq_some h
  have hcapacity := Block.le_capacityFor size
  have hcovers : (⟨m.next, size, contents⟩ : Block).covers a.toNat 1 = true := by
    rw [Block.covers_iff, ha]
    simp only [Block.capacity]
    omega
  have htext : contents.takeWhile (· != 0) = contents :=
    List.takeWhile_eq_self_iff.mpr fun x hx => by simpa using hzero x hx
  simp only [readString?, blockAt?, List.find?_cons, hcovers, Option.bind_some]
  simp only [ha, Nat.sub_self, List.drop_zero, htext, Block.capacity]
  rw [if_pos (by omega)]

end Memory

end MessageBridge
