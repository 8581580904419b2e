import MessageBridge.Proofs.Space.Block
import MessageBridge.Proofs.Space.Hierarchy

/-!
# Where objects live

An allocator may hand out the address of a block that was taken back. All that can be relied on is that
a new block is apart from those that are there, and from the memory of the classes. That is enough for
objects that are there at one time to live at different addresses, and for each of them to be readable.

## Main definitions

* `Memory.Grants` — an allocator hands out a block.
* `ObjectSpace.Tidy` — blocks are apart from one another and from the classes.
* `ObjectSpace.Houses` — a class or an instance lives at the address.

## Main results

* `Memory.Sound.grants_of_allocate` — an allocator that never uses an address again is one.
* `ObjectSpace.Houses.exists_isClass?` — what lives at an address is readable.
* `ObjectSpace.Tidy.grant`, `ObjectSpace.Tidy.free`, `ObjectSpace.Tidy.allocatePair` — spaces stay tidy.
* `ObjectSpace.Houses.mono`, `ObjectSpace.Houses.ne_of_grants`, `ObjectSpace.Houses.ne_of_new` — objects
  stay where they are, and new ones come to live elsewhere.
-/

namespace MessageBridge

/-! ## Allocators -/

namespace Memory

variable {m m' : Memory} {a : Address} {size : Nat} {contents : List UInt8} {B : Block}

/-- **Grants**: an allocator hands out a block that begins with the contents, anywhere apart from the
blocks that are there. -/
structure Grants (m : Memory) (a : Address) (size : Nat) (contents : List UInt8) (m' : Memory) :
    Prop where
  blocks : m'.blocks = ⟨a.toNat, size, contents⟩ :: m.blocks
  apart : ∀ B ∈ m.blocks, Block.Apart ⟨a.toNat, size, contents⟩ B
  stop : a.toNat + Block.capacityFor size ≤ addressLimit

/-- Addresses that were never used are apart from all blocks. -/
lemma Sound.grants_of_allocate (hm : m.Sound) (h : m.allocate size contents = some (a, m')) :
    m.Grants a size contents m' := by
  obtain ⟨ha, hlimit, rfl⟩ := allocate_eq_some h
  exact ⟨by rw [ha], fun B hB => .inr (ha ▸ hm.below B hB), by omega⟩

lemma Grants.disjoint (h : m.Grants a size contents m') (hm : m.Disjoint) : m'.Disjoint := by
  rw [Disjoint, h.blocks]
  exact List.pairwise_cons.mpr ⟨h.apart, hm⟩

/-- No block begins where a new one does. -/
lemma Grants.ne_base (h : m.Grants a size contents m') (hB : B ∈ m.blocks) : B.base ≠ a.toNat := by
  have hapart := h.apart B hB
  have hpos := B.capacity_pos
  have hnew := Block.capacity_pos ⟨a.toNat, size, contents⟩
  unfold Block.Apart at hapart
  simp only at hapart
  omega

/-- Taking back a block leaves the others. -/
lemma mem_of_free? (h : m.free? a = some m') (hB : B ∈ m.blocks) (hne : B.base ≠ a.toNat) :
    B ∈ m'.blocks := by
  unfold free? at h
  split at h
  · cases h
    exact hB
  · split at h
    · cases h
      exact List.mem_filter.mpr ⟨hB, by simpa using hne⟩
    · cases h

end Memory

/-! ## Classes in memory -/

namespace ClassTable

variable {t t' : ClassTable} {c : ClassId} {parent : Option ClassId} {name : String}
  {metaStorage classStorage : Option Address}

/-- Where the memory of the classes ends. -/
def stop (t : ClassTable) : Nat := ClassId.base + ClassId.stride * t.records.size

lemma toNat_address (ht : t.stop ≤ Memory.addressLimit) (hc : t.Has c) :
    c.address.toNat = ClassId.base + ClassId.stride * c.index := by
  unfold stop Memory.addressLimit at ht
  unfold Has at hc
  rw [ClassId.address, UInt64.toNat_ofNat']
  refine Nat.mod_eq_of_lt ?_
  unfold ClassId.base ClassId.stride at *
  omega

/-- A class is found at its address. -/
lemma ofAddress?_address (ht : t.stop ≤ Memory.addressLimit) (hc : t.Has c) :
    t.ofAddress? c.address = some c := by
  have haddress := toNat_address ht hc
  have hoffset : c.address.toNat - ClassId.base = ClassId.stride * c.index := by omega
  have hpos : 0 < ClassId.stride := by decide
  unfold ofAddress?
  simp only [hoffset, Nat.mul_mod_right, Nat.mul_div_cancel_left _ hpos]
  rw [if_pos ⟨by omega, trivial, hc⟩]

lemma address_lt_stop (ht : t.stop ≤ Memory.addressLimit) (hc : t.Has c) :
    c.address.toNat < t.stop := by
  rw [toNat_address ht hc, stop]
  unfold Has at hc
  unfold ClassId.base ClassId.stride
  omega

/-- Different classes have different addresses. -/
lemma address_inj {d : ClassId} (ht : t.stop ≤ Memory.addressLimit) (hc : t.Has c) (hd : t.Has d)
    (h : c.address = d.address) : c = d :=
  Option.some.inj ((ofAddress?_address ht hc).symm.trans
    ((congrArg t.ofAddress? h).trans (ofAddress?_address ht hd)))

/-- The class of a new metaclass is that of the metaclass above, or the new metaclass itself. -/
lemma isa_metaclass_of_allocatePair?
    (h : t.allocatePair? parent name metaStorage classStorage = some (c, t')) :
    (t'.get (t'.metaclass c)).isa =
      (parent.map fun p => t.metaclass (t.metaclass p)).getD (t'.metaclass c) := by
  unfold allocatePair? at h
  split at h
  · cases h
  · cases h
    simp only [metaclass, get, Array.getElem?_push, Array.size_push, if_true, Option.getD_some]
    rw [if_neg (by omega)]
    rfl

end ClassTable

/-! ## Tidy spaces -/

namespace ObjectSpace

variable {s s' : ObjectSpace} {a x : Address} {B : Block} {c : ClassId} {memory : Memory}
  {classes : ClassTable} {size : Nat} {contents : List UInt8}

/-- What taking back a block does. -/
lemma free?_eq_some (h : s.free? a = some s') :
    s'.classes = s.classes ∧ s'.associations = s.associations ∧
      s.memory.free? a = some s'.memory := by
  obtain ⟨memory, hfree, rfl⟩ := Option.map_eq_some_iff.mp h
  exact ⟨rfl, rfl, hfree⟩

/-- What disposing of an instance does. -/
lemma dispose?_eq_some (h : s.dispose? a = some s') :
    s'.classes = s.classes ∧ s'.associations = s.associations.clear a ∧
      s.memory.free? a = some s'.memory :=
  free?_eq_some h

/-- **Tidy**: the class of each class is in the table, and blocks are apart from one another and lie
behind the memory of the classes. -/
structure Tidy (s : ObjectSpace) : Prop where
  isa : ∀ c, s.classes.Has c → s.classes.Has (s.classes.get c).isa
  limit : s.classes.stop ≤ Memory.addressLimit
  disjoint : s.memory.Disjoint
  blocks : ∀ B ∈ s.memory.blocks, s.classes.stop ≤ B.base ∧ B.base + B.capacity ≤ Memory.addressLimit

/-- **Houses**: at the address lives a class, or an instance, the block of which names its class. -/
inductive Houses (s : ObjectSpace) (a : Address) : Prop
  | ofClass {c : ClassId} (hc : s.classes.Has c) (ha : a = c.address)
  | ofBlock {B : Block} {c : ClassId} (hB : B ∈ s.memory.blocks) (hbase : B.base = a.toNat)
      (hc : s.classes.Has c) (hword : B.read 0 8 = wordBytes c.address)

lemma classAround?_address (hlimit : s.classes.stop ≤ Memory.addressLimit) (hc : s.classes.Has c) :
    s.classAround? c.address = some (c, 0) := by
  have hoffset : (c.address.toNat - ClassId.base) % ClassId.stride = 0 := by
    rw [ClassTable.toNat_address hlimit hc, Nat.add_sub_cancel_left, Nat.mul_mod_right]
  have hzero : c.address - UInt64.ofNat 0 = c.address := by simp
  simp only [classAround?, hoffset, hzero, ClassTable.ofAddress?_address hlimit hc, Option.map_some]

/-- The class of an object is read from memory and the class table alone. -/
lemma isa?_congr {s' : ObjectSpace} (hclasses : s'.classes = s.classes)
    (hmemory : s'.memory = s.memory) (a : Address) : s'.isa? a = s.isa? a := by
  have haround : s'.classAround? a = s.classAround? a := by simp only [classAround?, hclasses]
  have hhead (c : ClassId) : s'.classHead c = s.classHead c := by simp only [classHead, hclasses]
  have hread : s'.read? a 8 = s.read? a 8 := by
    rw [read?, read?, haround]
    cases s.classAround? a with
    | none => simp only [readIn?, hmemory]
    | some around => simp only [readIn?, hhead]
  rw [isa?, isa?, readWord?, readWord?, hread, hclasses]

lemma isClass?_congr {s' : ObjectSpace} (hclasses : s'.classes = s.classes)
    (hmemory : s'.memory = s.memory) (a : Address) : s'.isClass? a = s.isClass? a := by
  rw [isClass?, isClass?, isa?_congr hclasses hmemory, hclasses]

/-- The class of a class is read at its address. -/
lemma isa?_address (hlimit : s.classes.stop ≤ Memory.addressLimit) (hc : s.classes.Has c)
    (hisa : s.classes.Has (s.classes.get c).isa) :
    s.isa? c.address = some (s.classes.get c).isa := by
  have hread : s.read? c.address 8 = some (wordBytes (s.classes.get c).isa.address) := by
    rw [read?, classAround?_address hlimit hc, readIn?, classHead]
    simp [sliceBytes, length_wordBytes]
  rw [isa?, readWord?, hread, Option.map_some, Option.bind_some, ofWordBytes_wordBytes,
    ClassTable.ofAddress?_address hlimit hisa]

namespace Houses

/-- What lives at an address has a class. -/
lemma exists_isa? (hs : s.Tidy) (h : s.Houses a) : ∃ c, s.isa? a = some c := by
  cases h with
  | @ofClass c hc ha =>
    subst ha
    exact ⟨(s.classes.get c).isa, isa?_address hs.limit hc (hs.isa c hc)⟩
  | @ofBlock B c hB hbase hc hword =>
    have hblock : s.HasBlock a B := ⟨hs.disjoint, hB, hbase, (hs.blocks B hB).2, (hs.blocks B hB).1⟩
    have hcapacity : 8 ≤ B.capacity := by
      unfold Block.capacity Block.capacityFor
      omega
    refine ⟨c, ?_⟩
    rw [isa?, readWord?, hblock.read?_eq (hbase.symm.trans (Nat.add_zero _).symm) (by omega),
      Option.map_some, hword, Option.bind_some, ofWordBytes_wordBytes,
      ClassTable.ofAddress?_address hs.limit hc]

/-- **What lives at an address is readable.** -/
lemma exists_isClass? (hs : s.Tidy) (h : s.Houses a) : ∃ isClass, s.isClass? a = some isClass := by
  obtain ⟨c, hc⟩ := h.exists_isa? hs
  exact ⟨_, Option.map_eq_some_iff.mpr ⟨c, hc, rfl⟩⟩

/-- Nothing lives at the null address. -/
lemma ne_zero (hs : s.Tidy) (h : s.Houses a) : a ≠ 0 := by
  have hpos : 0 < ClassId.base := by decide
  rintro rfl
  have hzero : (0 : Address).toNat = 0 := rfl
  cases h with
  | ofClass hc ha =>
    have haddress := ClassTable.toNat_address hs.limit hc
    rw [← ha, hzero] at haddress
    omega
  | ofBlock hB hbase =>
    have hstop := (hs.blocks _ hB).1
    rw [hbase, hzero, ClassTable.stop] at hstop
    omega

/-- What lives at an address stays there while classes and blocks are only added. -/
lemma mono (h : s.Houses a) (hclasses : ∀ c, s.classes.Has c → s'.classes.Has c)
    (hblocks : ∀ B ∈ s.memory.blocks, B.base = a.toNat → B ∈ s'.memory.blocks) : s'.Houses a := by
  cases h with
  | ofClass hc ha => exact .ofClass (hclasses _ hc) ha
  | ofBlock hB hbase hc hword => exact .ofBlock (hblocks _ hB hbase) hbase (hclasses _ hc) hword

/-- Nothing lives where a new block begins. -/
lemma ne_of_grants (hs : s.Tidy) (hgrant : s.memory.Grants x size contents memory)
    (hx : s.classes.stop ≤ x.toNat) (h : s.Houses a) : a ≠ x := by
  rintro rfl
  cases h with
  | ofClass hc ha =>
    have hlt := ClassTable.address_lt_stop hs.limit hc
    rw [← ha] at hlt
    omega
  | ofBlock hB hbase => exact hgrant.ne_base hB hbase

/-- Nothing lives where a new class is. -/
lemma ne_of_new (h : s.Houses a) (hclasses : ∀ c, s.classes.Has c → classes.Has c)
    (hlimit : classes.stop ≤ Memory.addressLimit)
    (hblocks : ∀ B ∈ s.memory.blocks, classes.stop ≤ B.base) (hc : classes.Has c)
    (hnew : ¬ s.classes.Has c) : a ≠ c.address := by
  rintro rfl
  cases h with
  | ofClass hd heq =>
    obtain rfl := ClassTable.address_inj hlimit hc (hclasses _ hd) heq
    exact hnew hd
  | ofBlock hB hbase =>
    have hstop := hblocks _ hB
    have hlt := ClassTable.address_lt_stop hlimit hc
    omega

/-- A new block that begins with a class is an instance. -/
lemma of_grants (hgrant : s.memory.Grants a size (wordBytes c.address) memory)
    (hc : s.classes.Has c) : ({ s with memory } : ObjectSpace).Houses a := by
  refine .ofBlock (B := ⟨a.toNat, size, wordBytes c.address⟩) ?_ rfl hc ?_
  · rw [hgrant.blocks]
    exact List.mem_cons_self
  · have htake : (wordBytes c.address).take 8 = wordBytes c.address :=
      List.take_of_length_le (Nat.le_of_eq (length_wordBytes _))
    simp [Block.read, sliceBytes, padBytes, htake]

end Houses

namespace Tidy

/-- Only classes and memory matter. -/
lemma congr (hs : s.Tidy) (hclasses : s'.classes = s.classes) (hmemory : s'.memory = s.memory) :
    s'.Tidy := by
  obtain ⟨hisa, hlimit, hdisjoint, hblocks⟩ := hs
  rw [← hclasses] at hisa hlimit hblocks
  rw [← hmemory] at hdisjoint hblocks
  exact ⟨hisa, hlimit, hdisjoint, hblocks⟩

/-- A new block behind the classes leaves the space tidy. -/
lemma grant (hs : s.Tidy) (hgrant : s.memory.Grants a size contents memory)
    (ha : s.classes.stop ≤ a.toNat) : ({ s with memory } : ObjectSpace).Tidy where
  isa := hs.isa
  limit := hs.limit
  disjoint := hgrant.disjoint hs.disjoint
  blocks B hB := by
    rw [hgrant.blocks] at hB
    rcases List.mem_cons.mp hB with rfl | hB
    · exact ⟨ha, hgrant.stop⟩
    · exact hs.blocks B hB

/-- So does taking one back. -/
lemma free (hs : s.Tidy) (hclasses : s'.classes = s.classes)
    (hfree : s.memory.free? a = some s'.memory) : s'.Tidy where
  isa := by
    rw [hclasses]
    exact hs.isa
  limit := by
    rw [hclasses]
    exact hs.limit
  disjoint := by
    unfold Memory.free? at hfree
    split at hfree
    · exact Option.some.inj hfree ▸ hs.disjoint
    · split at hfree
      · exact Option.some.inj hfree ▸ hs.disjoint.filter _
      · cases hfree
  blocks B hB := by
    rw [hclasses]
    exact hs.blocks B ((Memory.free?_eq_some hfree).2 B hB)

/-- So do a class and its metaclass, where there is room for them. -/
lemma allocatePair {parent : Option ClassId} {name : String} {metaStorage classStorage : Option Address}
    (hs : s.Tidy) (hparent : ∀ p ∈ parent, s.classes.Has p)
    (h : s.classes.allocatePair? parent name metaStorage classStorage = some (c, classes))
    (hlimit : classes.stop ≤ Memory.addressLimit)
    (hblocks : ∀ B ∈ s.memory.blocks, classes.stop ≤ B.base) : (s.withClasses classes).Tidy where
  isa d hd := by
    have halloc := ClassTable.allocated_of_allocatePair? h
    rcases (halloc.has_iff d).mp hd with hd | rfl | rfl
    · change classes.Has (classes.get d).isa
      rw [halloc.get_eq d hd]
      exact (halloc.has_iff _).mpr (.inl (hs.isa d hd))
    · change classes.Has (classes.get (classes.metaclass c)).isa
      rw [ClassTable.isa_metaclass_of_allocatePair? h]
      cases parent with
      | none => exact (halloc.has_iff _).mpr (.inr (.inl rfl))
      | some p => exact (halloc.has_iff _).mpr (.inl (hs.isa _ (hs.isa p (hparent p rfl))))
    · exact (halloc.has_iff _).mpr (.inr (.inl rfl))
  limit := hlimit
  disjoint := hs.disjoint
  blocks B hB := ⟨hblocks B hB, (hs.blocks B hB).2⟩

end Tidy

end ObjectSpace

end MessageBridge
