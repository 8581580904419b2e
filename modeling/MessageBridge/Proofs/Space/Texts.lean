import MessageBridge.Proofs.Space.Residence
import MessageBridge.Proofs.Space.Standing
import MessageBridge.Space.Exception
import MessageBridge.Space.Roots
import Mathlib.Algebra.GroupWithZero.Nat
import Mathlib.Data.List.GetD

/-!
# The texts of exceptions

An exception keeps its texts where the first class on its chain declares the variables `name` and
`reason`. These are the variables of `Exception` itself, unless a class below it declares one of these
names again. Then the texts go to the variable of that class, whatever it is meant for.

Where `Exception` has the last word, making an exception fills its two words and nothing else, reading it
reads them and nothing else, and disposing of it takes back the two texts and the exception.

## Main definitions

* `ClassTable.OwnTexts` — the texts are where `Exception` declares them.
* `Memory.Affords` — there is room for blocks.
* `ObjectSpace.TextAt` — a text, or none.
* `ObjectSpace.HoldsTexts` — an exception with the addresses of its texts.
* `ObjectSpace.Makes` — what making an exception leaves behind.

## Main results

* `ClassTable.ownTexts_iff` — no class below `Exception` declares the names again.
* `ObjectSpace.exists_makes` — making an exception.
* `ObjectSpace.HoldsTexts.text?_eq` — reading it.
* `ObjectSpace.HoldsTexts.disposeException?_eq` — disposing of it.
-/

namespace MessageBridge

/-! ## Where the texts are -/

/-- The class of exceptions. -/
def ClassId.exception : ClassId := ⟨3⟩

namespace ClassTable

variable {t : ClassTable} {c : ClassId} {below above : List ClassId} {name : String}

/-- **Own texts**: the variables for the texts are found in the class of exceptions. -/
def OwnTexts (t : ClassTable) (c : ClassId) : Prop :=
  ∀ name ∈ ObjectSpace.textVariables, t.findIvar? c name = some ⟨.exception, name⟩

/-- The class of exceptions keeps its variables for good. -/
lemma ivars_exception (h : ObjectSpace.initial.classes.Later t) :
    (t.get .exception).ivars = [⟨"name", "*", 8, 8⟩, ⟨"reason", "*", 16, 8⟩] := by
  have hform := h.form .exception (by decide +kernel) (by decide +kernel)
  have hinitial : (ObjectSpace.initial.classes.get .exception).ivars =
      [⟨"name", "*", 8, 8⟩, ⟨"reason", "*", 16, 8⟩] := by decide +kernel
  exact (congrArg ClassRecord.Form.ivars hform).trans hinitial

/-- **Whose texts**: below the class of exceptions no class declares a variable of these names. -/
theorem ownTexts_iff (h : ObjectSpace.initial.classes.Later t)
    (hchain : t.chain c = below ++ .exception :: above) (hbelow : .exception ∉ below) :
    t.OwnTexts c ↔
      ∀ k ∈ below, ∀ name ∈ ObjectSpace.textVariables, (t.get k).ivar? name = none := by
  have hdeclared : ∀ name ∈ ObjectSpace.textVariables,
      ((t.get .exception).ivar? name).isSome = true := by
    simp only [ClassRecord.ivar?, ivars_exception h]
    decide
  constructor
  · intro hown k hk name hname
    by_contra hsome
    have hfound : (below.find? fun k => ((t.get k).ivar? name).isSome).isSome = true :=
      List.find?_isSome.mpr ⟨k, hk, Option.isSome_iff_ne_none.mpr hsome⟩
    obtain ⟨d, hd⟩ := Option.isSome_iff_exists.mp hfound
    have heq := hown name hname
    rw [findIvar?, hchain, List.find?_append, hd, Option.some_or, Option.map_some] at heq
    obtain rfl : d = .exception := congrArg IvarRef.owner (Option.some.inj heq)
    exact hbelow (List.mem_of_find?_eq_some hd)
  · intro hnone name hname
    have hbefore : (below.find? fun k => ((t.get k).ivar? name).isSome) = none :=
      List.find?_eq_none.mpr fun k hk => by simp [hnone k hk name hname]
    have hfirst : ((.exception :: above).find? fun k => ((t.get k).ivar? name).isSome) =
        some .exception := List.find?_cons_of_pos (hdeclared name hname)
    rw [findIvar?, hchain, List.find?_append, hbefore, Option.none_or, hfirst, Option.map_some]

lemma OwnTexts.ivar?_name (hown : t.OwnTexts c) (h : ObjectSpace.initial.classes.Later t) :
    (t.findIvar? c "name").bind t.ivar? = some ⟨"name", "*", 8, 8⟩ := by
  rw [hown "name" (by decide), Option.bind_some, ivar?, ClassRecord.ivar?, ivars_exception h]
  rfl

lemma OwnTexts.ivar?_reason (hown : t.OwnTexts c) (h : ObjectSpace.initial.classes.Later t) :
    (t.findIvar? c "reason").bind t.ivar? = some ⟨"reason", "*", 16, 8⟩ := by
  rw [hown "reason" (by decide), Option.bind_some, ivar?, ClassRecord.ivar?, ivars_exception h]
  rfl

end ClassTable

/-! ## Room -/

namespace Memory

variable {m m' : Memory} {n : Nat} {ns : List Nat}

/-- **Affords**: blocks of these sizes can be handed out one after another. -/
structure Affords (m : Memory) (ns : List Nat) : Prop where
  sizes : ∀ n ∈ ns, n ≤ maxRequest
  room : m.next + (ns.map fun n => Block.capacityFor n + 8).sum ≤ addressLimit

lemma Affords.congr (h : m.Affords ns) (hnext : m'.next = m.next) : m'.Affords ns :=
  ⟨h.sizes, hnext ▸ h.room⟩

/-- The first block is handed out, and there is room for the others. -/
lemma Affords.exists_allocate (h : m.Affords (n :: ns)) (contents : List UInt8) :
    ∃ a m', m.allocate n contents = some (a, m') ∧ m'.Affords ns := by
  have hroom := h.room
  rw [List.map_cons, List.sum_cons] at hroom
  refine ⟨_, _, if_pos ⟨h.sizes n List.mem_cons_self, by omega⟩,
    fun k hk => h.sizes k (List.mem_cons_of_mem _ hk), ?_⟩
  simp only
  omega

end Memory

namespace ObjectSpace

variable {s s' : ObjectSpace} {a n r x : Address} {c : ClassId} {B : Block} {offset : Nat}
  {text : Option (List UInt8)}

/-! ## Texts and words -/

/-- **Text at**: the null address stands for no text, and any other one for the text that its block
begins with. -/
inductive TextAt (s : ObjectSpace) : Address → Option (List UInt8) → Prop
  | none : TextAt s 0 none
  | some {n : Address} {C : Block} (hn : n ≠ 0) (hC : C ∈ s.memory.blocks) (hbase : C.base = n.toNat)
      (hend : (C.stored.takeWhile (· != 0)).length < C.capacity) :
      TextAt s n (some (C.stored.takeWhile (· != 0)))

namespace TextAt

/-- A block that holds a text and a zero byte holds the text. -/
lemma of_block {bytes : List UInt8} (hn : n ≠ 0) (hclean : ∀ x ∈ bytes, x ≠ 0)
    (hmem : (⟨n.toNat, bytes.length + 1, bytes⟩ : Block) ∈ s.memory.blocks) :
    s.TextAt n (.some bytes) := by
  have htake : bytes.takeWhile (· != 0) = bytes :=
    List.takeWhile_eq_self_iff.mpr fun x hx => by simpa using hclean x hx
  have hend : (bytes.takeWhile (· != 0)).length <
      (⟨n.toNat, bytes.length + 1, bytes⟩ : Block).capacity := by
    rw [htake]
    exact Block.le_capacityFor (bytes.length + 1)
  have hat : s.TextAt n (.some (bytes.takeWhile (· != 0))) := @TextAt.some _ _ ⟨_, _, bytes⟩ hn hmem rfl hend
  rwa [htake] at hat

/-- Texts stay as long as their blocks do. -/
lemma mono (h : s.TextAt n text)
    (hblocks : ∀ C ∈ s.memory.blocks, C.base ≠ a.toNat → C ∈ s'.memory.blocks) (hne : n ≠ 0 → n ≠ a) :
    s'.TextAt n text := by
  cases h with
  | none => exact .none
  | some hn hC hbase hend =>
    exact .some hn (hblocks _ hC fun h => hne hn (UInt64.toNat.inj (hbase.symm.trans h))) hbase hend

lemma eq_none (h : s.TextAt 0 text) : text = Option.none := by
  cases h with
  | none => rfl
  | some hn => exact absurd rfl hn

/-- The text is read from its block. -/
lemma readString?_eq {bytes : List UInt8} (h : s.TextAt n (.some bytes)) (hs : s.memory.Disjoint) :
    s.readString? n = .some bytes := by
  cases h with
  | @some n C hn hC hbase hend =>
    have hcovers : C.covers n.toNat 1 = true :=
      Block.covers_iff.mpr ⟨hbase.le, by rw [hbase]; exact Nat.add_le_add_left C.capacity_pos _⟩
    have hfound : s.memory.blockAt? n.toNat 1 = .some C :=
      (hs.blockAt?_eq_some_iff Nat.one_pos).mpr ⟨hC, hcovers⟩
    have hzero : n.toNat - C.base = 0 := by rw [hbase, Nat.sub_self]
    rw [readString?, Memory.readString?, hfound, Option.bind_some]
    simp only [hzero, List.drop_zero, Nat.zero_add]
    rw [if_pos hend]

end TextAt

lemma Tidy.hasBlock (hs : s.Tidy) (hB : B ∈ s.memory.blocks) (hbase : B.base = a.toNat) :
    s.HasBlock a B := ⟨hs.disjoint, hB, hbase, (hs.blocks B hB).2, (hs.blocks B hB).1⟩

/-- A block has room for three words at least. -/
lemma le_capacity (B : Block) : 24 ≤ B.capacity := by
  unfold Block.capacity Block.capacityFor
  omega

/-- The word at an offset of an object. -/
lemma HasBlock.readWord?_eq (h : s.HasBlock a B) (hoffset : offset + 8 ≤ B.capacity) {w : Address}
    (hw : ∀ k < 8, B.byte (offset + k) = (wordBytes w).getD k 0) :
    s.readWord? (a + UInt64.ofNat offset) = some w := by
  have hread : B.read offset (wordBytes w).length = wordBytes w :=
    Block.read_eq fun k hk => hw k (by rwa [length_wordBytes] at hk)
  rw [length_wordBytes] at hread
  rw [readWord?, h.read?_eq (h.toNat_add (by omega)) hoffset, hread, Option.map_some,
    ofWordBytes_wordBytes]

/-- Stores a copy of a text, if there is one. -/
def storeText (s : ObjectSpace) (a : Address) (name : String) :
    Option (List UInt8) → Option ObjectSpace
  | some bytes => s.setText? a name bytes
  | none => some s

/-- **What storing a text does**: the word at the offset of the object says where the text is, and
nothing else of what was there changes. -/
structure Stores (s : ObjectSpace) (a : Address) (B : Block) (offset : Nat)
    (text : Option (List UInt8)) (n : Address) (s' : ObjectSpace) (B' : Block) : Prop where
  space : s' = { s with memory := s'.memory }
  tidy : s'.Tidy
  sound : s'.memory.Sound
  object : s'.HasBlock a B'
  size : B'.size = B.size
  bytes : ∀ k, B'.byte k =
    if offset ≤ k ∧ k < offset + 8 then (wordBytes n).getD (k - offset) 0 else B.byte k
  text : s'.TextAt n text
  others : ∀ C ∈ s.memory.blocks, C.base ≠ a.toNat → C ∈ s'.memory.blocks
  fresh : n ≠ 0 → s.memory.next ≤ n.toNat ∧ n.toNat < s'.memory.next
  next : s.memory.next ≤ s'.memory.next

/-- The size of the block for a text, if there is one. -/
def textSizes (text : Option (List UInt8)) : List Nat := text.toList.map fun bytes => bytes.length + 1

lemma getD_wordBytes_zero (k : Nat) : (wordBytes 0).getD k 0 = 0 := by
  have hword : wordBytes 0 = List.replicate 8 0 := rfl
  rw [hword, List.getD_eq_getElem?_getD, List.getElem?_replicate]
  split <;> rfl

/-- Writing to a block leaves the space tidy. -/
lemma Tidy.write {memory : Memory} {bytes : List UInt8} (hs : s.Tidy) (hsound : s.memory.Sound)
    (h : s.memory.write? x bytes = some memory) : ({ s with memory } : ObjectSpace).Tidy where
  isa := hs.isa
  limit := hs.limit
  disjoint := (Memory.Change.write h).disjoint hsound hs.disjoint
  blocks C hC := by
    obtain ⟨D, hD, hbase, hsize⟩ := (Memory.write?_eq_some h).2 C hC
    have hbounds := hs.blocks D hD
    rwa [hbase, Block.capacity_congr hsize] at hbounds

/-- A word can be written inside the block of an object. -/
lemma HasBlock.exists_write (h : s.HasBlock a B) (hx : x.toNat = B.base + offset)
    (hoffset : offset + 8 ≤ B.capacity) (w : Address) :
    ∃ memory, s.memory.write? x (wordBytes w) = some memory ∧
      s.write? x (wordBytes w) = some { s with memory } := by
  have hclasses := h.classes
  have hcovers : B.covers x.toNat (wordBytes w).length = true :=
    Block.covers_iff.mpr ⟨by omega, by rw [length_wordBytes]; omega⟩
  have hpos : 0 < (wordBytes w).length := by rw [length_wordBytes]; decide
  have hfound := (h.disjoint.blockAt?_eq_some_iff hpos).mpr ⟨h.mem, hcovers⟩
  have hwrite : ∃ memory, s.memory.write? x (wordBytes w) = some memory := by
    rw [Memory.write?, if_neg (List.ne_nil_of_length_pos hpos), hfound]
    exact ⟨_, rfl⟩
  obtain ⟨memory, hwrite⟩ := hwrite
  refine ⟨memory, hwrite, ?_⟩
  rw [write?, classAround?_eq_none (by omega), writeIn?, hwrite]
  rfl

/-- A text is copied, and its address written to the slot. -/
lemma setText?_eq {name : String} {bytes : List UInt8} {slot : Address} {m : Memory}
    (hslot : s.textSlot? a name = some (some slot))
    (hcopy : s.memory.allocate (bytes.length + 1) bytes = some (n, m)) :
    s.setText? a name bytes = ({ s with memory := m } : ObjectSpace).write? slot (wordBytes n) := by
  have hcopied : s.copyString bytes = (n, { s with memory := m }) := by
    rw [copyString, hcopy]
  rw [setText?, hslot, Option.bind_eq_bind, Option.bind_some]
  simp only [hcopied]

/-- Storing a text, or leaving the word of a text zero. -/
lemma exists_stores {name : String} {ns : List Nat} (hs : s.Tidy) (hsound : s.memory.Sound)
    (hB : s.HasBlock a B) (hoffset : offset + 8 ≤ B.capacity)
    (hslot : s.textSlot? a name = some (some (a + UInt64.ofNat offset)))
    (hzero : ∀ k, offset ≤ k → k < offset + 8 → B.byte k = 0)
    (hclean : ∀ bytes ∈ text, ∀ x ∈ bytes, x ≠ 0)
    (hroom : s.memory.Affords (textSizes text ++ ns)) :
    ∃ n s' B', s.storeText a name text = some s' ∧ s.Stores a B offset text n s' B' ∧
      s'.memory.Affords ns := by
  cases text with
  | none =>
    refine ⟨0, s, B, rfl, ⟨rfl, hs, hsound, hB, rfl, fun k => ?_, .none, fun C hC _ => hC,
      fun h => absurd rfl h, le_rfl⟩, hroom⟩
    split
    · next hk =>
      rw [hzero k hk.1 hk.2, getD_wordBytes_zero]
    · rfl
  | some bytes =>
    obtain ⟨n, m, hcopy, hrest⟩ := hroom.exists_allocate bytes
    obtain ⟨hn, -, hm⟩ := Memory.allocate_eq_some hcopy
    have hgrant := hsound.grants_of_allocate hcopy
    have hbelow := hsound.below B hB.mem
    have hbehind : s.classes.stop ≤ n.toNat := by
      have hclasses : s.classes.stop ≤ B.base := hB.classes
      omega
    let s₁ : ObjectSpace := { s with memory := m }
    have hs₁ : s₁.Tidy := hs.grant hgrant hbehind
    have hsound₁ : s₁.memory.Sound := hsound.allocate hcopy
    have hB₁ : s₁.HasBlock a B := hs₁.hasBlock
      (hgrant.blocks ▸ List.mem_cons_of_mem _ hB.mem) hB.base
    have hslot₁ := hB₁.toNat_add (by omega : offset < B.capacity)
    obtain ⟨memory, hmemory, hwrite⟩ := hB₁.exists_write hslot₁ hoffset n
    obtain ⟨B', hB', hsize, hbytes, hothers, -, -⟩ :=
      hB₁.exists_written hsound₁ hslot₁ (by omega) hwrite
    rw [length_wordBytes] at hbytes
    have hkept (C : Block) (hC : C ∈ s₁.memory.blocks) (hne : C.base ≠ a.toNat) : C ∈ memory.blocks :=
      hothers C hC (hB.base ▸ hne)
    have hnext : memory.next = m.next := (Memory.write?_eq_some hmemory).1
    refine ⟨n, _, B', ?_, ⟨rfl, hs₁.write hsound₁ hmemory, hsound₁.write? hmemory, hB', hsize, hbytes,
      ?_, fun C hC hne => hkept C (hgrant.blocks ▸ List.mem_cons_of_mem _ hC) hne, fun _ => ?_, ?_⟩,
      hrest.congr hnext⟩
    · exact (setText?_eq hslot hcopy).trans hwrite
    · exact .of_block (hsound.ne_zero_of_allocate hcopy) (hclean bytes rfl)
        (hkept _ (hgrant.blocks ▸ List.mem_cons_self) fun h =>
          hgrant.ne_base hB.mem (hB.base.trans h.symm))
    · simp only [hnext, hm, hn]
      omega
    · simp only [hnext, hm]
      omega

/-! ## Exceptions -/

/-- The bytes that an exception begins with: its class and the addresses of its texts. -/
def exceptionHead (c : ClassId) (n r : Address) : List UInt8 :=
  wordBytes c.address ++ (wordBytes n ++ wordBytes r)

lemma getD_exceptionHead (c : ClassId) (n r : Address) (k : Nat) :
    (exceptionHead c n r).getD k 0 =
      if 16 ≤ k ∧ k < 24 then (wordBytes r).getD (k - 16) 0
      else if 8 ≤ k ∧ k < 16 then (wordBytes n).getD (k - 8) 0
      else (wordBytes c.address).getD k 0 := by
  have hpast {w : Address} {k : Nat} (hk : 8 ≤ k) : (wordBytes w).getD k 0 = 0 :=
    List.getD_eq_default _ _ (by rwa [length_wordBytes])
  rw [exceptionHead]
  rcases Nat.lt_or_ge k 8 with hk | hk
  · rw [if_neg (by omega), if_neg (by omega), List.getD_append _ _ _ _ (by rwa [length_wordBytes])]
  · rw [List.getD_append_right _ _ _ _ (by rwa [length_wordBytes]), length_wordBytes]
    rcases Nat.lt_or_ge k 16 with hk' | hk'
    · rw [if_neg (by omega), if_pos ⟨hk, hk'⟩,
        List.getD_append _ _ _ _ (by rw [length_wordBytes]; omega)]
    · rw [List.getD_append_right _ _ _ _ (by rw [length_wordBytes]; omega), length_wordBytes]
      split
      · next h =>
        rw [show k - 8 - 8 = k - 16 by omega]
      · rw [if_neg (by omega), hpast hk, hpast (by omega)]

/-- The class of an object whose block begins with it. -/
lemma HasBlock.isa?_of_word (h : s.HasBlock a B) (hs : s.Tidy) (hc : s.classes.Has c)
    (hword : ∀ k < 8, B.byte k = (wordBytes c.address).getD k 0) : s.isa? a = some c := by
  have hzero : a + UInt64.ofNat 0 = a := by simp
  have hcapacity := le_capacity B
  have hread : s.readWord? (a + UInt64.ofNat 0) = some c.address :=
    h.readWord?_eq (by omega) fun k hk => by rw [Nat.zero_add, hword k hk]
  rw [hzero] at hread
  rw [isa?, hread, Option.bind_some, ClassTable.ofAddress?_address hs.limit hc]

/-- The class of an exception. -/
lemma HasBlock.isa?_of_head (h : s.HasBlock a B) (hs : s.Tidy) (hc : s.classes.Has c)
    (hbytes : ∀ k < 24, B.byte k = (exceptionHead c n r).getD k 0) : s.isa? a = some c :=
  h.isa?_of_word hs hc fun k hk => by
    rw [hbytes k (by omega), getD_exceptionHead, if_neg (by omega), if_neg (by omega)]

/-- **Holds texts**: at the address is an exception of the class, in which the words for the texts say
where these are. -/
structure HoldsTexts (s : ObjectSpace) (a : Address) (c : ClassId) (name reason : Option (List UInt8))
    (n r : Address) : Prop where
  object : ∃ B, s.HasBlock a B ∧ ∀ k < 24, B.byte k = (exceptionHead c n r).getD k 0
  name : s.TextAt n name
  reason : s.TextAt r reason
  name_ne : n ≠ 0 → n ≠ a
  reason_ne : r ≠ 0 → r ≠ a
  apart : n ≠ 0 → n ≠ r

namespace HoldsTexts

variable {name reason : Option (List UInt8)}

lemma isa?_eq (h : s.HoldsTexts a c name reason n r) (hs : s.Tidy) (hc : s.classes.Has c) :
    s.isa? a = some c := by
  obtain ⟨B, hB, hbytes⟩ := h.object
  exact hB.isa?_of_head hs hc hbytes

/-- Only memory counts. -/
lemma congr (h : s.HoldsTexts a c name reason n r) (hs' : s'.Tidy) (hmemory : s'.memory = s.memory) :
    s'.HoldsTexts a c name reason n r := by
  have hblocks (C : Block) (hC : C ∈ s.memory.blocks) : C ∈ s'.memory.blocks := hmemory ▸ hC
  obtain ⟨B, hB, hbytes⟩ := h.object
  exact ⟨⟨B, hs'.hasBlock (hblocks B hB.mem) hB.base, hbytes⟩,
    h.name.mono (fun C hC _ => hblocks C hC) h.name_ne,
    h.reason.mono (fun C hC _ => hblocks C hC) h.reason_ne, h.name_ne, h.reason_ne, h.apart⟩

end HoldsTexts

/-- **What making an exception does**: a new block holds its class and its texts and is zero beyond, and
the blocks that were there stay as they are. -/
structure Makes (s : ObjectSpace) (c : ClassId) (name reason : Option (List UInt8)) (a n r : Address)
    (s' : ObjectSpace) : Prop where
  space : s' = { s with memory := s'.memory }
  tidy : s'.Tidy
  sound : s'.memory.Sound
  fresh : a ≠ 0 ∧ s.memory.next ≤ a.toNat
  holds : s'.HoldsTexts a c name reason n r
  object : ∃ B, s'.HasBlock a B ∧ B.size = (allocationSize (s.classes.get c).instanceSize 0).toNat ∧
    ∀ k, B.byte k = (exceptionHead c n r).getD k 0
  others : ∀ C ∈ s.memory.blocks, C ∈ s'.memory.blocks
  next : s.memory.next ≤ s'.memory.next

section Own

variable (hlater : ObjectSpace.initial.classes.Later s.classes) (hown : s.classes.OwnTexts c)
  (hisa : s.isa? a = some c)
include hlater hown hisa

lemma textSlot?_name : s.textSlot? a "name" = some (some (a + UInt64.ofNat 8)) := by
  rw [textSlot?, hisa]
  simp only [Option.bind_eq_bind, Option.bind_some, hown.ivar?_name hlater, Option.map_some]
  rfl

lemma textSlot?_reason : s.textSlot? a "reason" = some (some (a + UInt64.ofNat 16)) := by
  rw [textSlot?, hisa]
  simp only [Option.bind_eq_bind, Option.bind_some, hown.ivar?_reason hlater, Option.map_some]
  rfl

end Own

/-- An exception is made by storing its texts one after the other. -/
lemma newException?_eq {name reason : Option (List UInt8)} {s₀ s₁ s₂ : ObjectSpace}
    (hcreate : s.createInstance c 0 = (a, s₀)) (ha : a ≠ 0)
    (h₁ : s₀.storeText a "name" name = some s₁) (h₂ : s₁.storeText a "reason" reason = some s₂) :
    s.newException? c [name, reason] = some (a, s₂) := by
  have hstored (s : ObjectSpace) (name : String) (bytes : List UInt8) :
    s.storeText a name (some bytes) = s.setText? a name bytes := rfl
  cases name <;> cases reason <;>
    simp only [newException?, hcreate, if_neg ha, textVariables, List.zip_cons_cons,
      List.zip_nil_left, List.foldlM_cons, List.foldlM_nil, Option.bind_eq_bind]
  case none.none =>
    obtain rfl := Option.some.inj h₁
    obtain rfl := Option.some.inj h₂
    rfl
  case none.some =>
    obtain rfl := Option.some.inj h₁
    rw [hstored] at h₂
    rw [Option.bind_some, h₂]
    rfl
  case some.none =>
    obtain rfl := Option.some.inj h₂
    rw [hstored] at h₁
    rw [h₁]
    rfl
  case some.some =>
    rw [hstored] at h₁ h₂
    rw [h₁, Option.bind_some, h₂]
    rfl

/-- **Making an exception**: where the texts are the own ones of `Exception`, and there is room, it fills
the two words for them. -/
theorem exists_makes {name reason : Option (List UInt8)} (hs : s.Tidy) (hsound : s.memory.Sound)
    (hstop : s.classes.stop ≤ s.memory.next) (hlater : ObjectSpace.initial.classes.Later s.classes)
    (hc : s.classes.HasClass c) (hown : s.classes.OwnTexts c)
    (hname : ∀ bytes ∈ name, ∀ x ∈ bytes, x ≠ 0) (hreason : ∀ bytes ∈ reason, ∀ x ∈ bytes, x ≠ 0)
    (hroom : s.memory.Affords ((allocationSize (s.classes.get c).instanceSize 0).toNat ::
      (textSizes name ++ textSizes reason))) :
    ∃ a n r s', s.newException? c [name, reason] = some (a, s') ∧
      s.Makes c name reason a n r s' := by
  obtain ⟨a, m, hgrant, hroom₀⟩ := hroom.exists_allocate (wordBytes c.address)
  obtain ⟨ha, -, hm⟩ := Memory.allocate_eq_some hgrant
  have hne := hsound.ne_zero_of_allocate hgrant
  have hgrants := hsound.grants_of_allocate hgrant
  -- the instance, with its class and no texts
  let s₀ : ObjectSpace := { s with memory := m }
  let B₀ : Block :=
    ⟨a.toNat, (allocationSize (s.classes.get c).instanceSize 0).toNat, wordBytes c.address⟩
  have hs₀ : s₀.Tidy := hs.grant hgrants (ha ▸ hstop)
  have hsound₀ : s₀.memory.Sound := hsound.allocate hgrant
  have hB₀ : s₀.HasBlock a B₀ := hs₀.hasBlock (hgrants.blocks ▸ List.mem_cons_self) rfl
  have hisa₀ : s₀.isa? a = some c := hB₀.isa?_of_word hs₀ hc.1 fun _ _ => rfl
  have hcapacity := le_capacity B₀
  have hbeyond {k : Nat} (hk : 8 ≤ k) : B₀.byte k = 0 :=
    List.getD_eq_default _ _ (by rwa [length_wordBytes])
  -- the first text
  obtain ⟨n, s₁, B₁, hset₁, h₁, hroom₁⟩ := exists_stores hs₀ hsound₀ hB₀ (by omega)
    (textSlot?_name hlater hown hisa₀) (fun k hk _ => hbeyond hk) hname hroom₀
  have hclasses₁ : s₁.classes = s.classes := (congrArg ObjectSpace.classes h₁.space :)
  have hisa₁ : s₁.isa? a = some c := h₁.object.isa?_of_word h₁.tidy (hclasses₁ ▸ hc.1) fun k hk => by
    rw [h₁.bytes, if_neg (by omega)]
    rfl
  -- the second text
  rw [← List.append_nil (textSizes reason)] at hroom₁
  obtain ⟨r, s₂, B₂, hset₂, h₂, -⟩ := exists_stores h₁.tidy h₁.sound h₁.object
    (by rw [Block.capacity_congr h₁.size]; omega)
    (textSlot?_reason (hclasses₁ ▸ hlater) (hclasses₁ ▸ hown) hisa₁)
    (fun k hk hk' => by rw [h₁.bytes, if_neg (by omega), hbeyond (by omega)]) hreason hroom₁
  have hbytes (k : Nat) : B₂.byte k = (exceptionHead c n r).getD k 0 := by
    rw [h₂.bytes, h₁.bytes, getD_exceptionHead]
    rfl
  have hnew : a.toNat < m.next := by
    simp only [hm, ha]
    omega
  have hpast {x : Address} (hx : m.next ≤ x.toNat) : x ≠ a := by
    rintro rfl
    omega
  have hspace : s₂ = { s with memory := s₂.memory } := by
    rw [h₂.space, h₁.space]
  refine ⟨a, n, r, s₂, ?_, hspace, h₂.tidy, h₂.sound, ⟨hne, ha.ge⟩,
    ⟨⟨B₂, h₂.object, fun k _ => hbytes k⟩, h₁.text.mono h₂.others fun hn => hpast (h₁.fresh hn).1,
      h₂.text, fun hn => hpast (h₁.fresh hn).1, fun hr => hpast (h₁.next.trans (h₂.fresh hr).1), ?_⟩,
    ⟨B₂, h₂.object, h₂.size.trans h₁.size, hbytes⟩, fun C hC => ?_, ?_⟩
  · have hcreate : s.createInstance c 0 = (a, s₀) := by
      simp only [createInstance, hc.2, Bool.false_eq_true, if_false, hgrant]
      rfl
    exact newException?_eq hcreate hne hset₁ hset₂
  · rintro hn rfl
    have hnext := (h₁.fresh hn).2
    have hagain := (h₂.fresh hn).1
    omega
  · have hbase := hgrants.ne_base hC
    exact h₂.others C (h₁.others C (hgrants.blocks ▸ List.mem_cons_of_mem _ hC) hbase) hbase
  · have hnext := h₁.next.trans h₂.next
    simp only [s₀, hm] at hnext
    omega

/-! ## Reading and disposing -/

lemma Tidy.base_ne_zero (hs : s.Tidy) (hB : B ∈ s.memory.blocks) (hbase : B.base = x.toNat) :
    x ≠ 0 := by
  rintro rfl
  have hstop := (hs.blocks B hB).1
  rw [hbase, ClassTable.stop, ClassId.base] at hstop
  simp at hstop

/-- What is taken back is gone, and nothing is taken back at the null address. -/
lemma Tidy.free?_eq (hs : s.Tidy) (hx : x ≠ 0 → ∃ B ∈ s.memory.blocks, B.base = x.toNat) :
    s.free? x = some { s with memory := s.memory.without x } := by
  by_cases hzero : x = 0
  · have hsame : s.memory.without x = s.memory :=
      Memory.without_eq_self fun B hB hbase => hs.base_ne_zero hB hbase hzero
    rw [free?, Memory.free?, if_pos hzero, hsame]
    rfl
  · have hany : s.memory.blocks.any (·.base == x.toNat) = true := by
      obtain ⟨B, hB, hbase⟩ := hx hzero
      exact List.any_eq_true.mpr ⟨B, hB, by simpa using hbase⟩
    rw [free?, Memory.free?, if_neg hzero, if_pos hany]
    rfl

/-- Another block than the one that is taken back stays. -/
lemma mem_without_of_ne (hB : B ∈ s.memory.blocks) (hbase : B.base = x.toNat) (hne : x ≠ a) :
    B ∈ (s.memory.without a).blocks :=
  Memory.mem_without.mpr ⟨hB, fun h => hne (UInt64.toNat.inj (hbase.symm.trans h))⟩

lemma TextAt.exists_block (h : s.TextAt n text) (hn : n ≠ 0) :
    ∃ C ∈ s.memory.blocks, C.base = n.toNat := by
  cases h with
  | none => exact absurd rfl hn
  | some _ hC hbase => exact ⟨_, hC, hbase⟩

/-- A text is looked for where the object keeps it. -/
lemma text?_of_slot {name : String} (h : s.textSlot? a name = some (some x)) :
    s.text? a name = s.readWord? x := by
  have hread (read : Address → Option Address) :
      ((some (some x)).bind fun found => found.elim (some 0) read) = read x := rfl
  rw [text?, h]
  exact hread s.readWord?

/-- An exception is disposed of after its texts, one after the other. -/
lemma disposeException?_of_free {s₁ s₂ : ObjectSpace} (hname : s.text? a "name" = some n)
    (hfree₁ : s.free? n = some s₁) (hreason : s₁.text? a "reason" = some r)
    (hfree₂ : s₁.free? r = some s₂) : s.disposeException? a = s₂.dispose? a := by
  have hsteps (text? : ObjectSpace → String → Option Address)
      (free? : ObjectSpace → Address → Option ObjectSpace) (dispose? : ObjectSpace → Option ObjectSpace)
      (hname : text? s "name" = some n) (hfree₁ : free? s n = some s₁)
      (hreason : text? s₁ "reason" = some r) (hfree₂ : free? s₁ r = some s₂) : (do
        let s ← textVariables.foldlM (fun s name => do free? s (← text? s name)) s
        dispose? s) = dispose? s₂ := by
    simp only [textVariables, List.foldlM_cons, List.foldlM_nil, hname, Option.bind_eq_bind,
      Option.bind_some, hfree₁, hreason, hfree₂]
    rfl
  exact hsteps (·.text? a) free? (·.dispose? a) hname hfree₁ hreason hfree₂

section Own

variable (hs : s.Tidy) (hc : s.classes.Has c) (hlater : ObjectSpace.initial.classes.Later s.classes)
  (hown : s.classes.OwnTexts c)
include hs hc hlater hown

/-- The words of an exception say where its texts are. -/
lemma HasBlock.text?_eq (hB : s.HasBlock a B)
    (hbytes : ∀ k < 24, B.byte k = (exceptionHead c n r).getD k 0) :
    s.text? a "name" = some n ∧ s.text? a "reason" = some r := by
  have hisa := hB.isa?_of_head hs hc hbytes
  have hcapacity := le_capacity B
  constructor
  · rw [text?_of_slot (textSlot?_name hlater hown hisa)]
    refine hB.readWord?_eq (by omega) fun k hk => ?_
    rw [hbytes _ (by omega), getD_exceptionHead, if_neg (by omega), if_pos (by omega),
      Nat.add_sub_cancel_left]
  · rw [text?_of_slot (textSlot?_reason hlater hown hisa)]
    refine hB.readWord?_eq (by omega) fun k hk => ?_
    rw [hbytes _ (by omega), getD_exceptionHead, if_pos (by omega), Nat.add_sub_cancel_left]

namespace HoldsTexts

variable {name reason : Option (List UInt8)}

/-- **Reading an exception**: its variables say where its texts are. -/
lemma text?_eq (h : s.HoldsTexts a c name reason n r) :
    s.text? a "name" = some n ∧ s.text? a "reason" = some r := by
  obtain ⟨B, hB, hbytes⟩ := h.object
  exact hB.text?_eq hs hc hlater hown hbytes

/-- **Disposing of an exception** takes back its texts and the exception itself, and nothing else. -/
theorem disposeException?_eq (h : s.HoldsTexts a c name reason n r) :
    s.disposeException? a = some { s with
      associations := s.associations.clear a
      memory := ((s.memory.without n).without r).without a } := by
  obtain ⟨B, hB, hbytes⟩ := h.object
  have hzero : a ≠ 0 := hs.base_ne_zero hB.mem hB.base
  have hne {x : Address} (hx : x ≠ 0 → x ≠ a) : a ≠ x := by
    rintro rfl
    exact hx hzero rfl
  have hname := (hB.text?_eq hs hc hlater hown hbytes).1
  -- taking back the name
  let s₁ : ObjectSpace := { s with memory := s.memory.without n }
  have hfree₁ : s.free? n = some s₁ := hs.free?_eq h.name.exists_block
  have hs₁ : s₁.Tidy := hs.free rfl (free?_eq_some hfree₁).2.2
  have hthere₁ : B ∈ s₁.memory.blocks := mem_without_of_ne hB.mem hB.base (hne h.name_ne)
  have hreason := ((hs₁.hasBlock hthere₁ hB.base).text?_eq hs₁ hc hlater hown hbytes).2
  -- taking back the reason
  let s₂ : ObjectSpace := { s₁ with memory := s₁.memory.without r }
  have hfree₂ : s₁.free? r = some s₂ := hs₁.free?_eq fun hr => by
    obtain ⟨C, hC, hbase⟩ := h.reason.exists_block hr
    exact ⟨C, mem_without_of_ne hC hbase fun heq => h.apart (heq ▸ hr) heq.symm, hbase⟩
  have hs₂ : s₂.Tidy := hs₁.free rfl (free?_eq_some hfree₂).2.2
  have hthere₂ : B ∈ s₂.memory.blocks := mem_without_of_ne hthere₁ hB.base (hne h.reason_ne)
  -- taking back the exception
  have hcleared : ({ s₂ with associations := s₂.associations.clear a } : ObjectSpace).Tidy :=
    hs₂.congr rfl rfl
  have hdispose := hcleared.free?_eq fun _ => ⟨B, hthere₂, hB.base⟩
  exact (disposeException?_of_free hname hfree₁ hreason hfree₂).trans hdispose

end HoldsTexts

end Own

end ObjectSpace

end MessageBridge
