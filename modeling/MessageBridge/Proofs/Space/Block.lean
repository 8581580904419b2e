import MessageBridge.Proofs.Space.Growth
import Mathlib.Data.List.Pairwise

/-!
# Bytes of a block

Blocks of memory are apart, so that an access belongs to at most one of them: a write changes the bytes
that it goes to in one block, and nothing else.

## Main definitions

* `Block.byte` — one byte of a block.
* `Memory.Disjoint` — no byte belongs to two blocks.
* `ObjectSpace.HasBlock` — an object lies in a block, and behind all classes.
* `ObjectSpace.byte?` — one byte of an object.

## Main results

* `Memory.Changes.disjoint` — blocks stay apart.
* `Memory.Disjoint.read?_mono`, `Memory.Disjoint.readString?_mono` — what can be read in some blocks can be
  read when there are others.
* `ObjectSpace.HasBlock.exists_written` — what a write to an object does.
-/

namespace MessageBridge

/-! ## Blocks -/

namespace Block

/-- One byte of a block. -/
def byte (b : Block) (k : Nat) : UInt8 := b.stored.getD k 0

lemma length_read (b : Block) (offset count : Nat) : (b.read offset count).length = count := by
  simp only [read, padBytes, sliceBytes, List.length_append, List.length_take, List.length_drop,
    List.length_replicate]
  omega

/-- Reading gives the bytes one after another. -/
lemma getElem?_read (b : Block) {offset count k : Nat} (hk : k < count) :
    (b.read offset count)[k]? = some (b.byte (offset + k)) := by
  have hlength : (sliceBytes b.stored offset count).length = min count (b.stored.length - offset) := by
    rw [sliceBytes, List.length_take, List.length_drop]
  rw [read, padBytes, byte, List.getD_eq_getElem?_getD]
  rcases Nat.lt_or_ge k (b.stored.length - offset) with hlt | hle
  · rw [List.getElem?_append_left (by omega), sliceBytes, List.getElem?_take_of_lt hk,
      List.getElem?_drop, List.getElem?_eq_getElem (by omega)]
    rfl
  · rw [List.getElem?_append_right (by omega), List.getElem?_replicate_of_lt (by omega),
      List.getElem?_eq_none (by omega)]
    rfl

/-- What is read is known by its bytes. -/
lemma read_eq {b : Block} {offset : Nat} {bytes : List UInt8}
    (h : ∀ k < bytes.length, b.byte (offset + k) = bytes.getD k 0) :
    b.read offset bytes.length = bytes := by
  refine List.ext_getElem? fun k => ?_
  rcases Nat.lt_or_ge k bytes.length with hk | hk
  · rw [b.getElem?_read hk, h k hk, List.getD_eq_getElem?_getD, List.getElem?_eq_getElem hk]
    rfl
  · rw [List.getElem?_eq_none hk, List.getElem?_eq_none (by rwa [b.length_read])]

/-- Zeros behind the stored bytes do not show. -/
lemma getD_padBytes (bytes : List UInt8) (count k : Nat) :
    (padBytes bytes count).getD k 0 = bytes.getD k 0 := by
  rw [padBytes, List.getD_eq_getElem?_getD, List.getD_eq_getElem?_getD]
  rcases Nat.lt_or_ge k bytes.length with hlt | hle
  · rw [List.getElem?_append_left hlt]
  · rw [List.getElem?_append_right hle, List.getElem?_eq_none hle, List.getElem?_replicate]
    split <;> rfl

/-- Writing, byte by byte. -/
lemma byte_write (b : Block) (offset : Nat) (new : List UInt8) (k : Nat) :
    (b.write offset new).byte k =
      if offset ≤ k ∧ k < offset + new.length then new.getD (k - offset) 0 else b.byte k := by
  have hpad : offset ≤ (padBytes b.stored offset).length := by
    rw [padBytes, List.length_append, List.length_replicate]
    omega
  have htake : ((padBytes b.stored offset).take offset).length = offset :=
    List.length_take_of_le hpad
  rw [byte, byte, write, ← getD_padBytes b.stored offset k, overwriteBytes]
  generalize padBytes b.stored offset = bytes at hpad htake ⊢
  simp only [List.getD_eq_getElem?_getD]
  rcases Nat.lt_or_ge k offset with hlt | hle
  · rw [if_neg (by omega), List.append_assoc, List.getElem?_append_left (by omega),
      List.getElem?_take_of_lt hlt]
  · rcases Nat.lt_or_ge k (offset + new.length) with hlt' | hle'
    · rw [if_pos ⟨hle, hlt'⟩, List.getElem?_append_left (by rw [List.length_append]; omega),
        List.getElem?_append_right (by omega), htake]
    · rw [if_neg (by omega), List.getElem?_append_right (by rw [List.length_append]; omega),
        List.getElem?_drop, List.length_append, htake, Nat.add_sub_cancel' hle']

/-- **Apart**: no byte belongs to both blocks. -/
def Apart (b c : Block) : Prop := b.base + b.capacity ≤ c.base ∨ c.base + c.capacity ≤ b.base

instance : Std.Symm Apart := ⟨fun _ _ h => Or.symm h⟩

lemma capacity_congr {b c : Block} (h : b.size = c.size) : b.capacity = c.capacity := by
  rw [capacity, h, capacity]

lemma capacity_pos (b : Block) : 0 < b.capacity := by
  unfold capacity capacityFor
  omega

end Block

/-! ## Memory -/

namespace Memory

variable {m m' : Memory} {b c B : Block} {a : Address} {address count : Nat} {bytes : List UInt8}

/-- **Disjoint**: no byte belongs to two blocks. -/
def Disjoint (m : Memory) : Prop := m.blocks.Pairwise Block.Apart

namespace Disjoint

/-- Blocks with a byte in common are the same. -/
lemma eq_of_mem (hm : m.Disjoint) (address : Nat) (hb : b ∈ m.blocks) (hc : c ∈ m.blocks)
    (hbin : b.base ≤ address ∧ address < b.base + b.capacity)
    (hcin : c.base ≤ address ∧ address < c.base + c.capacity) : b = c := by
  by_contra hne
  have hapart : b.Apart c := hm.forall hb hc hne
  unfold Block.Apart at hapart
  omega

/-- An access goes to the block that it lies in. -/
lemma blockAt?_eq_some_iff (hm : m.Disjoint) (hcount : 0 < count) :
    m.blockAt? address count = some b ↔ b ∈ m.blocks ∧ b.covers address count = true := by
  constructor
  · intro h
    exact ⟨List.mem_of_find?_eq_some h,
      List.find?_some (p := fun b : Block => b.covers address count) h⟩
  · rintro ⟨hb, hcovers⟩
    cases hfind : m.blockAt? address count with
    | none =>
      have hnone := List.find?_eq_none.mp hfind b hb
      exact absurd hcovers hnone
    | some c =>
      have hc := List.find?_some (p := fun b : Block => b.covers address count) hfind
      rw [Block.covers_iff] at hcovers hc
      rw [hm.eq_of_mem address (List.mem_of_find?_eq_some hfind) hb (by omega) (by omega)]

/-- What can be read in some blocks can be read when there are others. -/
lemma read?_mono (hm : m'.Disjoint) (hblocks : ∀ b ∈ m.blocks, b ∈ m'.blocks)
    (h : m.read? a count = some bytes) : m'.read? a count = some bytes := by
  unfold read? at h ⊢
  split at h
  · next hcount => rwa [if_pos hcount]
  · next hcount =>
    obtain ⟨b, hb, rfl⟩ := Option.map_eq_some_iff.mp h
    have hcovers := List.find?_some (p := fun b : Block => b.covers a.toNat count) hb
    rw [if_neg hcount, (hm.blockAt?_eq_some_iff (Nat.pos_of_ne_zero hcount)).mpr
      ⟨hblocks b (List.mem_of_find?_eq_some hb), hcovers⟩]
    rfl

/-- So can a text. -/
lemma readString?_mono (hm : m'.Disjoint) (hblocks : ∀ b ∈ m.blocks, b ∈ m'.blocks)
    (h : m.readString? a = some bytes) : m'.readString? a = some bytes := by
  obtain ⟨b, hb, h⟩ := Option.bind_eq_some_iff.mp h
  have hcovers := List.find?_some (p := fun b : Block => b.covers a.toNat 1) hb
  exact Option.bind_eq_some_iff.mpr ⟨b, (hm.blockAt?_eq_some_iff Nat.one_pos).mpr
    ⟨hblocks b (List.mem_of_find?_eq_some hb), hcovers⟩, h⟩

/-- Reading in a block. -/
lemma read?_eq (hm : m.Disjoint) (hB : B ∈ m.blocks) {offset : Nat}
    (ha : a.toNat = B.base + offset) (hend : offset + count ≤ B.capacity) :
    m.read? a count = some (B.read offset count) := by
  unfold read?
  split
  · next hcount =>
    subst hcount
    rw [List.eq_nil_of_length_eq_zero (B.length_read offset 0)]
  · next hcount =>
    rw [(hm.blockAt?_eq_some_iff (Nat.pos_of_ne_zero hcount)).mpr ⟨hB, Block.covers_iff.mpr
      (by omega)⟩, ha, Option.map_some, Nat.add_sub_cancel_left]

end Disjoint

/-! ## Changes -/

lemma Change.disjoint (h : m.Change m') (hsound : m.Sound) (hm : m.Disjoint) : m'.Disjoint := by
  cases h with
  | allocate h =>
    obtain ⟨-, -, rfl⟩ := allocate_eq_some h
    exact List.pairwise_cons.mpr ⟨fun b hb => .inr (hsound.below b hb), hm⟩
  | @write x new h =>
    unfold Memory.write? at h
    split at h
    · cases h
      exact hm
    · obtain ⟨b, -, rfl⟩ := Option.map_eq_some_iff.mp h
      refine List.pairwise_map.mpr (hm.imp fun {c d} hcd => ?_)
      have hbase (e : Block) :
          (if e.base = b.base then e.write (x.toNat - b.base) new else e).base = e.base := by
        split <;> rfl
      have hcapacity (e : Block) :
          (if e.base = b.base then e.write (x.toNat - b.base) new else e).capacity =
            e.capacity := by
        split <;> rfl
      rwa [Block.Apart, hbase, hbase, hcapacity, hcapacity]
  | free h =>
    unfold Memory.free? at h
    split at h
    · cases h
      exact hm
    · split at h
      · cases h
        exact hm.filter _
      · cases h

lemma Changes.disjoint (h : m.Changes m') (hsound : m.Sound) (hm : m.Disjoint) : m'.Disjoint := by
  induction h with
  | refl => exact hm
  | tail hrun hstep ih => exact hstep.disjoint (Changes.sound hrun hsound) ih

/-- **A write** changes the bytes that it goes to, and no other block. -/
lemma Disjoint.exists_of_write? (hm : m.Disjoint) (hB : B ∈ m.blocks) {offset : Nat}
    (ha : a.toNat = B.base + offset) (hoffset : offset < B.capacity)
    (h : m.write? a bytes = some m') :
    (∃ B' ∈ m'.blocks, B'.base = B.base ∧ B'.size = B.size ∧ ∀ k, B'.byte k =
      if offset ≤ k ∧ k < offset + bytes.length then bytes.getD (k - offset) 0 else B.byte k) ∧
      (∀ b ∈ m.blocks, b.base ≠ B.base → b ∈ m'.blocks) ∧
        (bytes ≠ [] → offset + bytes.length ≤ B.capacity) := by
  unfold Memory.write? at h
  split at h
  · next hnil =>
    cases h
    subst hnil
    refine ⟨⟨B, hB, rfl, rfl, fun k => ?_⟩, fun b hb _ => hb, fun hne => absurd rfl hne⟩
    rw [List.length_nil, if_neg (by omega)]
  · next hne =>
    have hpos : 0 < bytes.length := List.length_pos_iff.mpr hne
    obtain ⟨b, hb, rfl⟩ := Option.map_eq_some_iff.mp h
    obtain ⟨hmem, hcovers⟩ := (hm.blockAt?_eq_some_iff hpos).mp hb
    have hbounds := Block.covers_iff.mp hcovers
    obtain rfl : b = B := hm.eq_of_mem a.toNat hmem hB (by omega) (by omega)
    have hstart : a.toNat - b.base = offset := by omega
    refine ⟨⟨b.write offset bytes, ?_, rfl, rfl, b.byte_write offset bytes⟩, fun c hc hbase => ?_,
      fun _ => by omega⟩
    · exact List.mem_map.mpr ⟨b, hB, by rw [if_pos rfl, hstart]⟩
    · exact List.mem_map.mpr ⟨c, hc, if_neg hbase⟩

/-! ## Without a block -/

/-- The memory without the block at an address. -/
def without (m : Memory) (a : Address) : Memory :=
  { m with blocks := m.blocks.filter (·.base != a.toNat) }

lemma mem_without : b ∈ (m.without a).blocks ↔ b ∈ m.blocks ∧ b.base ≠ a.toNat := by
  simp [without]

/-- Where there is no block at the address, none is missing. -/
lemma without_eq_self (h : ∀ b ∈ m.blocks, b.base ≠ a.toNat) : m.without a = m := by
  have hblocks : m.blocks.filter (·.base != a.toNat) = m.blocks :=
    List.filter_eq_self.mpr fun b hb => by simpa using h b hb
  rw [without, hblocks]

lemma without_without (m : Memory) (a : Address) : (m.without a).without a = m.without a := by
  simp [without]

end Memory

/-! ## Objects -/

namespace ObjectSpace

variable {s s' : ObjectSpace} {a x : Address} {B : Block} {bytes : List UInt8} {count k offset : Nat}

/-- **Has a block**: the object lies in a block of memory that ends before the addresses do, behind the
memory of all classes. -/
structure HasBlock (s : ObjectSpace) (a : Address) (B : Block) : Prop where
  disjoint : s.memory.Disjoint
  mem : B ∈ s.memory.blocks
  base : B.base = a.toNat
  stop : B.base + B.capacity ≤ Memory.addressLimit
  classes : ClassId.base + ClassId.stride * s.classes.records.size ≤ B.base

/-- One byte of an object. -/
def byte? (s : ObjectSpace) (a : Address) (k : Nat) : Option UInt8 :=
  (s.read? (a + UInt64.ofNat k) 1).bind List.head?

/-- Behind all classes no address lies in a class. -/
lemma classAround?_eq_none
    (h : ClassId.base + ClassId.stride * s.classes.records.size ≤ x.toNat) :
    s.classAround? x = none := by
  unfold ClassId.base ClassId.stride at h
  have hx := x.toNat_lt
  have hle : (x.toNat - 0x10000000000) % 4096 ≤ x.toNat := by omega
  have hpage : (x - UInt64.ofNat ((x.toNat - 0x10000000000) % 4096)).toNat =
      x.toNat - (x.toNat - 0x10000000000) % 4096 := by
    have hsmall : (UInt64.ofNat ((x.toNat - 0x10000000000) % 4096)).toNat =
        (x.toNat - 0x10000000000) % 4096 := by
      rw [UInt64.toNat_ofNat']
      omega
    rw [UInt64.toNat_sub_of_le _ _ (by rw [UInt64.le_iff_toNat_le, hsmall]; omega), hsmall]
  simp only [classAround?, ClassTable.ofAddress?, ClassId.base, ClassId.stride, hpage,
    Option.map_eq_none_iff]
  rw [if_neg (by omega)]

namespace HasBlock

lemma toNat_add (h : s.HasBlock a B) (hoffset : offset < B.capacity) :
    (a + UInt64.ofNat offset).toNat = B.base + offset := by
  have hstop := h.stop
  have hlimit : Memory.addressLimit = 0x800000000000 := rfl
  rw [UInt64.toNat_add, UInt64.toNat_ofNat', ← h.base]
  omega

/-- Reading in the block of an object. -/
lemma read?_eq (h : s.HasBlock a B) (hx : x.toNat = B.base + offset)
    (hend : offset + count ≤ B.capacity) : s.read? x count = some (B.read offset count) := by
  have hclasses := h.classes
  rw [read?, classAround?_eq_none (by omega)]
  exact h.disjoint.read?_eq h.mem hx hend

lemma byte?_eq (h : s.HasBlock a B) (hk : k < B.capacity) : s.byte? a k = some (B.byte k) := by
  rw [byte?, h.read?_eq (h.toNat_add hk) (by omega), Option.bind_some, List.head?_eq_getElem?,
    B.getElem?_read Nat.one_pos]
  rfl

/-- The class of an object depends on its first bytes. -/
lemma isa?_eq {B' : Block} (h : s.HasBlock a B) (h' : s'.HasBlock a B')
    (hsize : s'.classes.records.size = s.classes.records.size)
    (hbytes : ∀ k < 8, B'.byte k = B.byte k) : s'.isa? a = s.isa? a := by
  have hword {s : ObjectSpace} {B : Block} (h : s.HasBlock a B) :
      s.readWord? a = some (ofWordBytes (B.read 0 8)) := by
    have hcapacity : 8 ≤ B.capacity := by
      unfold Block.capacity Block.capacityFor
      omega
    rw [readWord?, h.read?_eq (h.base.symm.trans (Nat.add_zero _).symm) (by omega), Option.map_some]
  have hread : B'.read 0 8 = B.read 0 8 := by
    have hsame : B'.read 0 (B.read 0 8).length = B.read 0 8 := by
      refine Block.read_eq fun k hk => ?_
      rw [B.length_read] at hk
      rw [Nat.zero_add, hbytes k hk, List.getD_eq_getElem?_getD, B.getElem?_read hk, Nat.zero_add]
      rfl
    rwa [B.length_read] at hsame
  rw [isa?, isa?, hword h, hword h', hread]
  simp only [Option.bind_some, ClassTable.ofAddress?, hsize]

/-- **A write to an object** changes the bytes that it goes to, and nothing else. -/
lemma exists_written (h : s.HasBlock a B) (hsound : s.memory.Sound)
    (hx : x.toNat = B.base + offset) (hoffset : offset < B.capacity)
    (hwrite : s.write? x bytes = some s') :
    ∃ B', s'.HasBlock a B' ∧ B'.size = B.size ∧
      (∀ k, B'.byte k =
        if offset ≤ k ∧ k < offset + bytes.length then bytes.getD (k - offset) 0 else B.byte k) ∧
      (∀ b ∈ s.memory.blocks, b.base ≠ B.base → b ∈ s'.memory.blocks) ∧
      (bytes ≠ [] → offset + bytes.length ≤ B.capacity) ∧ s' = { s with memory := s'.memory } := by
  have hclasses := h.classes
  rw [write?, classAround?_eq_none (by omega)] at hwrite
  obtain ⟨memory, hmemory, rfl⟩ := Option.map_eq_some_iff.mp hwrite
  obtain ⟨⟨B', hB', hbase, hsize, hbyte⟩, hothers, hend⟩ :=
    h.disjoint.exists_of_write? h.mem hx hoffset hmemory
  have hcapacity : B'.capacity = B.capacity := Block.capacity_congr hsize
  refine ⟨B', ⟨?_, hB', hbase.trans h.base, ?_, ?_⟩, hsize, hbyte, hothers, hend, rfl⟩
  · exact (Memory.Change.write hmemory).disjoint hsound h.disjoint
  · rw [hbase, hcapacity]
    exact h.stop
  · rw [hbase]
    exact h.classes

end HasBlock

end ObjectSpace

end MessageBridge
