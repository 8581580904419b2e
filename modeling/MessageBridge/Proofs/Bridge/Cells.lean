import MessageBridge.Proofs.Bridge.Access
import MessageBridge.Proofs.Bridge.Construction
import MessageBridge.Proofs.Marshal.Aside

/-!
# Instance variables as cells

A class keeps as many bytes for an instance variable as was asked for when it was added, while setting it
writes as many bytes as its type takes. So variables are cells that do not disturb each other just as
far as the two agree.

## Main definitions

* `ObjectSpace.Lives` — an object lives in a block with room for an instance of a class.
* `Ivar.Unchanged`, `Ivar.Spared` — what setting another variable should do to one, and what it writes
  there.
* `Act.WrittenAs` — the bytes of a value as a variable holds it.

## Main results

* `Act.Sets.exists_block` — which bytes of the object setting a variable changes.
* `Act.Sets.exists_decode` — what is read back.
* `Bridge.Constructed.unchanged_iff_spared` — on a class that was built on registered ones, variables are
  cells just if what is written to them does not reach into others.
-/

namespace MessageBridge

open Relation (ReflTransGen)

/-! ## Objects in their blocks -/

/-- **Lives**: an object of the class lives in a block that has room for an instance, behind the memory of
all classes. -/
structure ObjectSpace.Lives (s : ObjectSpace) (a : Address) (c : ClassId) (B : Block) : Prop where
  isa : s.isa? a = some c
  mem : B ∈ s.memory.blocks
  base : B.base = a.toNat
  room : (s.classes.get c).instanceSize.toNat ≤ B.size
  classes : ClassId.base + ClassId.stride * s.classes.records.size ≤ B.base

section

variable {b b' : Bridge} {a : Address} {c : ClassId} {B : Block}

/-- Whatever a host does, blocks are apart. -/
lemma HostWork.disjoint (hwork : ReflTransGen HostWork default b) : b.space.memory.Disjoint := by
  have hnone : (default : Bridge).space.memory.blocks = [] :=
    List.isEmpty_iff.mp (by decide +kernel)
  have hdisjoint : (default : Bridge).space.memory.Disjoint := by
    rw [Memory.Disjoint, hnone]
    exact List.Pairwise.nil
  exact (HostWork.changes_memory hwork).disjoint Bridge.sound_default.memory hdisjoint

/-- In whatever state a host got to, an object that lives there has its block for itself. -/
lemma ObjectSpace.Lives.hasBlock (h : b.space.Lives a c B) (hwork : ReflTransGen HostWork default b) :
    b.space.HasBlock a B := by
  have hsound := (HostWork.reachable .start hwork).sound.memory
  have hbelow := hsound.below B h.mem
  have hnext := hsound.next_le
  exact ⟨HostWork.disjoint hwork, h.mem, h.base, by omega, h.classes⟩

/-- **Record keeping** leaves the block of an object as it is. -/
lemma ObjectSpace.HasBlock.of_upkeep (h : b.space.HasBlock a B) (hb : b.Sound)
    (hrun : ReflTransGen Upkeep b b') : b'.space.HasBlock a B := by
  obtain ⟨hchanges, hmem⟩ := Upkeep.memory_of_run hrun
  have hclasses := Bridge.SameClasses.of_run (ReflTransGen.mono (fun _ _ => Upkeep.sameClasses) _ _ hrun)
  refine ⟨hchanges.disjoint hb.memory h.disjoint, hmem B h.mem, h.base, h.stop, ?_⟩
  rw [hclasses.size]
  exact h.classes

lemma Bridge.ivar?_congr (hisa : b'.space.isa? a = b.space.isa? a) (h : b.SameClasses b')
    (name : String) : b'.ivar? a name = b.ivar? a name := by
  have hfind (c : ClassId) := h.findIvar?_eq c name
  have hivar : b'.space.classes.ivar? = b.space.classes.ivar? := funext h.ivar?_eq
  simp only [Bridge.ivar?, hisa, hfind, hivar]

/-- Creating an instance leaves the layout of every class as it is. -/
lemma ObjectSpace.sameLayout_createInstance (s : ObjectSpace) (c : ClassId) (extra : UInt64) :
    s.classes.SameLayout (s.createInstance c extra).2.classes := by
  rw [classes_createInstance]
  exact .refl _

end

/-! ## Layouts that contexts know -/

/-- Every context knows the layouts that it knew. -/
def Bridge.SameStructs (b b' : Bridge) : Prop :=
  ∀ ctx, (b'.contextAt ctx).translator = (b.contextAt ctx).translator

instance : Noting Bridge.SameStructs where
  intern _ _ := rfl
  remember i _ _ _ _ _ _ h :=
    h ▸ Bridge.view_contextAt_modify Context.translator (fun _ => by rfl) _ i
  store _ _ := rfl

lemma Bridge.SameStructs.of_run {b b' : Bridge} (h : ReflTransGen Bridge.SameStructs b b') :
    b.SameStructs b' := by
  induction h with
  | refl => exact fun _ => rfl
  | tail _ hstep ih => exact fun ctx => (hstep ctx).trans (ih ctx)

/-! ## Bytes of variables -/

namespace Ivar

/-- **Unchanged**: every byte that the class keeps for the variable is what it was. -/
def Unchanged (j : Ivar) (a : Address) (b b' : Bridge) : Prop :=
  ∀ k, j.offset.toNat ≤ k → k < j.stop → b'.space.byte? a k = b.space.byte? a k

/-- **Spared**: where bytes that are written to one variable reach behind its end into another, they are
those that the other holds. -/
def Spared (j i : Ivar) (a : Address) (b : Bridge) (bytes : List UInt8) : Prop :=
  ∀ k, i.stop ≤ k → k < i.offset.toNat + bytes.length → j.offset.toNat ≤ k → k < j.stop →
    b.space.byte? a k = bytes[k - i.offset.toNat]?

/-- What is no longer than a variable spares all others. -/
lemma spared_of_length_le {i : Ivar} {bytes : List UInt8} (h : bytes.length ≤ i.size.toNat) (j : Ivar)
    (a : Address) (b : Bridge) : j.Spared i a b bytes := by
  intro k hstop hk
  unfold stop at hstop
  omega

end Ivar

namespace Act

/-! ## Setting a variable -/

/-- **Written as**: these are the bytes of the value as the variable holds it, with the type that it has. -/
def WrittenAs (ctx : ContextId) (i : Ivar) (v : Value) (b : Bridge) (d : Descriptor)
    (bytes : List UInt8) : Prop :=
  ∃ b₁ out blocks b₂, EStateM.run (translate ctx i.types) b = .ok d b₁ ∧
    EStateM.run (encode ctx 0 d (slot d.size) v) b₁ = .ok (out, blocks) b₂ ∧
      bytes = out.take d.size

/-- **Sets**: the parts of a run that sets a variable. Its type is found, the value is written as the type
says, the bytes are stored in the object, and the blocks that they refer to are kept. -/
structure Sets (ctx : ContextId) (a : Address) (i : Ivar) (v : Value) (d : Descriptor)
    (out : List UInt8) (b b₁ b₂ b' : Bridge) : Prop where
  type : EStateM.run (translate ctx i.types) b = .ok d b₁
  value : ∃ blocks, EStateM.run (encode ctx 0 d (slot d.size) v) b₁ = .ok (out, blocks) b₂ ∧
    b' = (retain ctx blocks).after { b₂ with space := b'.space }
  length : (out.take d.size).length = d.size
  store : b₂.space.write? (a + i.offset) (out.take d.size) = some b'.space

variable {ctx : ContextId} {a : Address} {i : Ivar} {v : Value} {d : Descriptor} {out : List UInt8}
  {b b₁ b₂ b' : Bridge} {r : ObjectRef} {name : String} {B : Block}

lemma sets_of_setIvar (h : EStateM.run (setIvar ctx r name v) b = .ok () b') :
    ∃ i d out b₁ b₂, b.ivar? r.address name = some i ∧ Text.hasNul name = false ∧
      Sets ctx r.address i v d out b b₁ b₂ b' := by
  obtain ⟨_, _, hfind, -⟩ := run_bind_eq_ok.mp h
  obtain ⟨hnul, -, -⟩ := run_findIvar_eq_ok.mp hfind
  obtain ⟨i, d, b₁, out, blocks, b₂, space, hgoes, htype, hvalue, hlength, hwrite, rfl⟩ :=
    writes_of_setIvar h
  exact ⟨i, d, out, b₁, b₂, hgoes.found, hnul, htype, ⟨blocks, hvalue, rfl⟩, hlength, hwrite⟩

/-- Where setting a variable stops, records were kept at most. -/
lemma upkeep_of_setIvar_error {stop : Stop}
    (h : EStateM.run (setIvar ctx r name v) b = .error stop b') : ReflTransGen Upkeep b b' := by
  rcases run_bind_eq_error.mp h with hfind | ⟨i, b₀, hfind, hrest⟩
  · exact (moves_findIvar r name).of_error hfind
  obtain ⟨-, -, rfl⟩ := run_findIvar_eq_ok.mp hfind
  rcases run_bind_eq_error.mp hrest with htype | ⟨d, b₁, htype, hrest⟩
  · exact (upkeep_withStructs ctx _).of_error htype
  refine ((upkeep_withStructs ctx _).of_ok htype).trans ?_
  rcases run_bind_eq_error.mp hrest with hvalue | ⟨⟨out, blocks⟩, b₂, hvalue, hrest⟩
  · exact (upkeep_encode ctx 0 d _ v _).of_error hvalue
  refine ((upkeep_encode ctx 0 d _ v _).of_ok hvalue).trans ?_
  rcases run_bind_eq_error.mp hrest with hstore | ⟨_, b₃, -, hkeep⟩
  · rcases run_bind_eq_error.mp hstore with hwrite | ⟨_, _, -, hset⟩
    · exact (moves_readSpace _).of_error hwrite
    · cases hset
  · cases hkeep

namespace Sets

variable (h : Sets ctx a i v d out b b₁ b₂ b')
include h

lemma writtenAs : WrittenAs ctx i v b d (out.take d.size) := by
  obtain ⟨blocks, hvalue, -⟩ := h.value
  exact ⟨b₁, out, blocks, b₂, h.type, hvalue, rfl⟩

/-- Until the bytes are stored, records are kept at most. -/
lemma upkeep : ReflTransGen Upkeep b b₂ := by
  obtain ⟨blocks, hvalue, -⟩ := h.value
  have htyped : ReflTransGen Upkeep b b₁ := (upkeep_withStructs ctx _).of_ok h.type
  exact htyped.trans ((upkeep_encode ctx 0 d _ v _).of_ok hvalue)

/-- The context still knows the type of the variable. -/
lemma translate_again : EStateM.run (translate ctx i.types) b' = .ok d b' := by
  obtain ⟨blocks, hvalue, hkeep⟩ := h.value
  have hstructs : b₁.SameStructs b₂ := .of_run ((upkeep_encode ctx 0 d _ v _).of_ok hvalue)
  refine run_withStructs_again h.type (Eq.trans ?_ (hstructs ctx))
  rw [hkeep]
  exact Bridge.view_contextAt_modify Context.translator (fun _ => by rfl) _ ctx ctx

variable (hb : b.Sound) (hB : b.space.HasBlock a B) (hoffset : i.offset.toNat < B.capacity)
include hb hB hoffset

/-- **Which bytes** of the object change: those from the offset of the variable on, as many as its type
takes. No other block changes. -/
lemma exists_block :
    ∃ B', b'.space.HasBlock a B' ∧ B'.size = B.size ∧
      (∀ k, B'.byte k = if i.offset.toNat ≤ k ∧ k < i.offset.toNat + d.size then
        (out.take d.size).getD (k - i.offset.toNat) 0 else B.byte k) ∧
      (∀ C ∈ b₂.space.memory.blocks, C.base ≠ a.toNat → C ∈ b'.space.memory.blocks) ∧
      (d.size ≠ 0 → i.offset.toNat + d.size ≤ B.capacity) ∧
      b'.space = { b₂.space with memory := b'.space.memory } := by
  have hB₂ := hB.of_upkeep hb h.upkeep
  have hsound := (Upkeep.keeps_of_run h.upkeep hb).sound
  have hx : (a + i.offset).toNat = B.base + i.offset.toNat := by
    rw [← hB₂.toNat_add hoffset, UInt64.ofNat_toNat]
  obtain ⟨B', hB', hsize, hbytes, hothers, hend, hspace⟩ :=
    hB₂.exists_written hsound.memory hx hoffset h.store
  rw [h.length] at hbytes hend
  rw [hB.base] at hothers
  refine ⟨B', hB', hsize, hbytes, hothers, fun hd => hend ?_, hspace⟩
  rw [← List.length_pos_iff, h.length]
  exact Nat.pos_of_ne_zero hd

/-- The layout of every class stays as it is. -/
lemma sameClasses : b.SameClasses b' := by
  obtain ⟨-, -, -, -, -, -, hspace⟩ := h.exists_block hb hB hoffset
  have hbefore : b.SameClasses b₂ :=
    .of_run (ReflTransGen.mono (fun _ _ => Upkeep.sameClasses) _ _ h.upkeep)
  rw [Bridge.SameClasses, hspace]
  exact hbefore

/-- What is there beside the block of the object is there afterwards. -/
lemma keeps : (b₂.without a).Keeps b' := by
  have hB₂ := hB.of_upkeep hb h.upkeep
  have hsound := (Upkeep.keeps_of_run h.upkeep hb).sound
  obtain ⟨B', hB', -, -, hothers, -, hspace⟩ := h.exists_block hb hB hoffset
  obtain ⟨blocks, -, hkeep⟩ := h.value
  have hmem : ∀ C ∈ (b₂.space.memory.without a).blocks, C ∈ b'.space.memory.blocks := fun C hC =>
    hothers C (Memory.mem_without.mp hC).1 (Memory.mem_without.mp hC).2
  have hstored : ({ b₂ with space := b'.space } : Bridge).Sound :=
    hsound.grow (ObjectSpace.changes_write? h.store).grows fun _ => rfl
  have hwritten : (b₂.without a).Keeps { b₂ with space := b'.space } := by
    refine Bridge.Keeps.of_space (b := b₂.without a) hstored
      (ObjectSpace.changes_write? h.store).selectors ?_ ?_
      (fun _ _ _ => hB'.disjoint.read?_mono hmem) fun _ _ => hB'.disjoint.readString?_mono hmem
    · rw [hspace]
      rfl
    · rw [hspace]
      rfl
  refine hwritten.trans ?_
  rw [hkeep]
  exact Upkeep.keeps (.retain ctx blocks) hstored

/-- **Reading** the variable afterwards reads the bytes that were written. -/
lemma run_ivar {r : ObjectRef} (hr : r.address = a) (hnul : Text.hasNul name = false)
    (hfound : b'.ivar? a name = some i) :
    EStateM.run (ivar ctx r name) b' = EStateM.run (decode ctx d (out.take d.size)) b' := by
  subst hr
  obtain ⟨B', hB', hsize, hbytes, -, hend, -⟩ := h.exists_block hb hB hoffset
  have hcapacity : B'.capacity = B.capacity := Block.capacity_congr hsize
  have hwritten : B'.read i.offset.toNat (out.take d.size).length = out.take d.size := by
    refine Block.read_eq fun k hk => ?_
    rw [h.length] at hk
    rw [hbytes, if_pos (by omega), Nat.add_sub_cancel_left]
  rw [h.length] at hwritten
  have hx : (r.address + i.offset).toNat = B'.base + i.offset.toNat := by
    rw [← hB'.toNat_add (hcapacity ▸ hoffset), UInt64.ofNat_toNat]
  have hread : b'.space.read? (r.address + i.offset) d.size =
      some (B'.read i.offset.toNat d.size) := hB'.read?_eq hx (by omega)
  rw [hwritten] at hread
  have hfind : EStateM.run (findIvar r name) b' = .ok i b' :=
    run_findIvar_eq_ok.mpr ⟨hnul, hfound, rfl⟩
  have hall : EStateM.run (ivarBytes ctx r name) b' = .ok (d, out.take d.size) b' := by
    unfold ivarBytes
    rw [run_bind_ok hfind, run_bind_ok h.translate_again,
      run_bind_ok (run_readSpace_eq_ok.mpr ⟨hread, rfl⟩)]
    rfl
  unfold ivar
  rw [run_bind_ok hall]

/-- **Read back**: a value that leads nowhere into the object is read back as what it arrives as. -/
lemma exists_decode (hd : d.Plain) (hctx : ctx < b.contexts.size)
    (hv : Readable ctx (b.without a) d.shape v) :
    ∃ w b₃, EStateM.run (decode ctx d (out.take d.size)) b' = .ok w b₃ ∧
      Arrives ctx (b.without a) b₃ d.shape v w := by
  obtain ⟨blocks, hvalue, -⟩ := h.value
  have htyped : (b.without a).Keeps (b₁.without a) := by
    have hlearning : (b.without a).Keeps (((translate ctx i.types).after b).without a) :=
      keeps_without_of_learning hb (learning_withStructs ctx _)
    rwa [after_of_ok h.type] at hlearning
  have hctx₁ : ctx < b₁.contexts.size := by
    have hsize : b₁.contexts.size = b.contexts.size := htyped.size
    rwa [hsize]
  have hbelow : a.toNat < b₁.space.memory.next := by
    have hspace := space_eq_of_translate h.type
    have hpos := B.capacity_pos
    have hend := hb.memory.below B hB.mem
    have hbase := hB.base
    rw [hspace]
    omega
  have hroom : d.size ≤ (slot d.size).length := by
    rw [length_slot]
    exact le_slotSize _
  exact exists_decode_aside hd htyped hctx₁ hbelow hv hroom (zeroed_slot _) hvalue
    (h.keeps hb hB hoffset)

/-- **Another variable** that lies apart is unchanged just if it is spared. -/
lemma unchanged_iff {j : Ivar} (hapart : j.Apart i) (hstop : j.stop ≤ B.capacity) :
    j.Unchanged a b b' ↔ j.Spared i a b (out.take d.size) := by
  obtain ⟨B', hB', hsize, hbytes, -⟩ := h.exists_block hb hB hoffset
  have hcapacity : B'.capacity = B.capacity := Block.capacity_congr hsize
  have hlength := h.length
  have hbefore {k : Nat} (hk : k < j.stop) : b.space.byte? a k = some (B.byte k) :=
    hB.byte?_eq (by omega)
  have hafter {k : Nat} (hk : k < j.stop) : b'.space.byte? a k = some (B'.byte k) :=
    hB'.byte?_eq (by omega)
  have hwritten {k : Nat} (hk : i.offset.toNat ≤ k) (hend : k < i.offset.toNat + d.size) :
      some (B'.byte k) = (out.take d.size)[k - i.offset.toNat]? := by
    rw [hbytes, if_pos ⟨hk, hend⟩, List.getD_eq_getElem?_getD, List.getElem?_eq_getElem (by omega)]
    rfl
  constructor
  · intro hunchanged k hk hend hj hjstop
    have hle : i.offset.toNat ≤ k := Nat.le_trans (Nat.le_add_right _ _) hk
    rw [← hunchanged k hj hjstop, hafter hjstop, hwritten hle (by omega)]
  · intro hspared k hj hjstop
    rw [hafter hjstop]
    by_cases hin : i.offset.toNat ≤ k ∧ k < i.offset.toNat + d.size
    · have hi : i.stop ≤ k := by
        rcases hapart with hbelow | habove <;> omega
      rw [hwritten hin.1 hin.2, hspared k hi (by omega) hj hjstop]
    · rw [hbefore hjstop, hbytes, if_neg hin]

/-- A variable behind the class word is still found. -/
lemma ivar?_eq (hword : 8 ≤ i.offset.toNat) (name : String) : b'.ivar? a name = b.ivar? a name := by
  obtain ⟨B', hB', -, hbytes, -⟩ := h.exists_block hb hB hoffset
  have hsame := h.sameClasses hb hB hoffset
  refine Bridge.ivar?_congr (hB.isa?_eq hB' hsame.size fun k hk => ?_) hsame name
  rw [hbytes, if_neg (by omega)]

end Sets

end Act

/-! ## Variables of founded classes -/

namespace Bridge.Constructed

variable {b : Bridge} {l : Ledger} {c : ClassId} {B : Block} {ctx : ContextId} {r : ObjectRef}
  {x : ClassId × Ivar}

/-- **Variables as cells**: in a state that building classes and other host work lead to, let an object
live whose class and all above were built on registered classes, and let it have a variable.

If the variable is set, then another one of the object is unchanged just if it is spared, and so it is if
the type of the former takes no more bytes than were asked for. Reading the variable then, if it is found
again, reads the bytes that were written, so that a value of a plain type that leads nowhere into the
object is read back as what it arrives as. Where setting stops, no byte of the object changes. -/
theorem unchanged_iff_spared (hl : b.Constructed l) (hwork : ReflTransGen HostWork default b)
    (hc : b.space.classes.HasClass c) (hf : b.space.classes.Founded l c)
    (hlives : b.space.Lives r.address c B) (hx : x ∈ b.space.classes.ivarsAlong c)
    (hfound : b.ivar? r.address x.2.name = some x.2) (v : Value) :
    (∀ b', EStateM.run (Act.setIvar ctx r x.2.name v) b = .ok () b' →
      ∃ d bytes, Act.WrittenAs ctx x.2 v b d bytes ∧ bytes.length = d.size ∧
        (∀ y ∈ b.space.classes.ivarsAlong c, y ≠ x →
          (y.2.Unchanged r.address b b' ↔ y.2.Spared x.2 r.address b bytes) ∧
          (d.size ≤ x.2.size.toNat → y.2.Unchanged r.address b b')) ∧
        (x.2.offset ≠ 0 ∨ b'.ivar? r.address x.2.name = some x.2 →
          EStateM.run (Act.ivar ctx r x.2.name) b' = EStateM.run (Act.decode ctx d bytes) b' ∧
          (d.Plain → ctx < b.contexts.size → Readable ctx (b.without r.address) d.shape v →
            ∃ w b₁, EStateM.run (Act.ivar ctx r x.2.name) b' = .ok w b₁ ∧
              Arrives ctx (b.without r.address) b₁ d.shape v w))) ∧
    ∀ stop b', EStateM.run (Act.setIvar ctx r x.2.name v) b = .error stop b' →
      ∀ k < B.size, b'.space.byte? r.address k = b.space.byte? r.address k := by
  have hb := (HostWork.reachable .start hwork).sound
  have hB := hlives.hasBlock hwork
  have haccounts := hl.accounts
  have hlaid := haccounts.laidOut_of_orderly hc (haccounts.orderly_of_founded hc hf)
  have hroom : (b.space.classes.get c).instanceSize.toNat ≤ B.capacity :=
    Nat.le_trans hlives.room (Block.le_capacityFor B.size)
  have hoffset : x.2.offset.toNat < B.capacity :=
    Nat.lt_of_lt_of_le (haccounts.offset_lt hc hlaid hx) hroom
  constructor
  · intro b' hset
    obtain ⟨i, d, out, b₁, b₂, hi, hnul, h⟩ := Act.sets_of_setIvar hset
    obtain rfl : i = x.2 := Option.some.inj (hi.symm.trans hfound)
    refine ⟨d, _, h.writtenAs, h.length, fun y hy hne => ?_, fun hagain => ?_⟩
    · have hiff := h.unchanged_iff hb hB hoffset (hlaid.apart.forall hy hx hne)
        (Nat.le_trans (hlaid.inside y hy) hroom)
      refine ⟨hiff, fun hsize => hiff.mpr (Ivar.spared_of_length_le ?_ y.2 r.address b)⟩
      rw [h.length]
      exact hsize
    · have hfound' : b'.ivar? r.address x.2.name = some x.2 := by
        rcases hagain with hzero | hagain
        · have hword := (hlaid.classWord x hx).resolve_left fun hisa => hzero hisa.2.2.1
          rw [h.ivar?_eq hb hB hoffset hword, hfound]
        · exact hagain
      have hread := h.run_ivar hb hB hoffset rfl hnul hfound'
      refine ⟨hread, fun hd hctx hv => ?_⟩
      rw [hread]
      exact h.exists_decode hb hB hoffset hd hctx hv
  · intro stop b' hset k hk
    have hB' := hB.of_upkeep hb (Act.upkeep_of_setIvar_error hset)
    have hcapacity : B.size ≤ B.capacity := Block.le_capacityFor B.size
    rw [hB'.byte?_eq (by omega), hB.byte?_eq (by omega)]

/-! ### A variable with too few bytes -/

/-- `Narrow` keeps one byte for a variable that takes eight, and has another one right behind. -/
def narrowBuilt : Bridge :=
  (PendingClass.ofClass ⟨5⟩ "Narrow").register.after
    (((PendingClass.ofClass ⟨5⟩ "Narrow").addIvar "b" "Q" none (some 0)).after
      (((PendingClass.ofClass ⟨5⟩ "Narrow").addIvar "a" "q" (some 1) none).after
        ((Act.extend 0 (some (PendingClass.ofClass ⟨1⟩ "Object").classRef) "Narrow" 0).after
          (Bridge.openContext {} {} {}).2)))

/-- An instance of it. -/
def narrow : ObjectRef := ⟨0, (narrowBuilt.space.createInstance ⟨5⟩ 0).1, false⟩

/-- The instance was created. -/
def narrowCreated : Bridge := { narrowBuilt with space := (narrowBuilt.space.createInstance ⟨5⟩ 0).2 }

lemma run_narrowCreated : ReflTransGen HostWork default narrowCreated := by
  have hopen : ReflTransGen HostWork default (Bridge.openContext {} {} {}).2 :=
    .single (.of_step (.openContext {} {}) rfl)
  have hbuilt : ReflTransGen HostWork default narrowBuilt :=
    (((hopen.trans (Act.moves_extend ..)).trans (Act.moves_addIvar ..)).trans
      (Act.moves_addIvar ..)).trans (Act.moves_register ..)
  exact hbuilt.tail (Running.space (narrowBuilt.space.changes_createInstance ⟨5⟩ 0))

/-- Both variables lie along the chain of the class, apart from each other. -/
lemma ivarsAlong_narrowCreated : narrowCreated.space.classes.ivarsAlong ⟨5⟩ =
    [(⟨5⟩, ⟨"a", "q", 8, 1⟩), (⟨5⟩, ⟨"b", "Q", 9, 8⟩), (⟨1⟩, ⟨"isa", "#", 0, 8⟩)] := by
  decide +kernel

/-- The class was built on a registered one, and so was that. -/
lemma exists_founded_narrowCreated : ∃ l, narrowCreated.Constructed l ∧
    narrowCreated.space.classes.HasClass ⟨5⟩ ∧ narrowCreated.space.classes.Founded l ⟨5⟩ := by
  have hsame : narrowBuilt.SameClasses narrowCreated :=
    narrowBuilt.space.sameLayout_createInstance ⟨5⟩ 0
  refine ⟨_, ((((((Constructed.start rfl).extend _ _ _ _).addIvar _ _ _ _ _).addIvar _ _ _ _ _).register
    _).other hsame), ⟨by decide +kernel, by decide +kernel⟩, ?_, ?_, ?_⟩
  · decide +kernel
  · exact ⟨⟨1⟩, by decide +kernel, by decide +kernel, ⟨"isa", "#", 0, 8⟩, by decide +kernel, rfl, rfl⟩
  · rw [ivarsAlong_narrowCreated]
    unfold Ledger.Exact
    decide +kernel

lemma exists_lives_narrowCreated :
    ∃ B, narrowCreated.space.Lives narrow.address ⟨5⟩ B := by
  have hblock : ∃ B ∈ narrowCreated.space.memory.blocks, B.base = narrow.address.toNat ∧
      (narrowCreated.space.classes.get ⟨5⟩).instanceSize.toNat ≤ B.size ∧
        ClassId.base + ClassId.stride * narrowCreated.space.classes.records.size ≤ B.base := by
    decide +kernel
  obtain ⟨B, hB, hbase, hroom, hclasses⟩ := hblock
  exact ⟨B, by decide +kernel, hB, hbase, hroom, hclasses⟩

lemma found_narrowCreated :
    narrowCreated.ivar? narrow.address "a" = some ⟨"a", "q", 8, 1⟩ ∧
      narrowCreated.ivar? narrow.address "b" = some ⟨"b", "Q", 9, 8⟩ := by
  decide +kernel

/-- Setting the variable leaves the other one unchanged just if it spares it. -/
theorem unchanged_iff_spared_narrow :
    (∃ b', EStateM.run (Act.setIvar 0 narrow "a" (.int 258)) narrowCreated = .ok () b') ∧
      ∀ b', EStateM.run (Act.setIvar 0 narrow "a" (.int 258)) narrowCreated = .ok () b' →
        ∃ d bytes, Act.WrittenAs 0 ⟨"a", "q", 8, 1⟩ (.int 258) narrowCreated d bytes ∧
          bytes.length = d.size ∧
          ((⟨"b", "Q", 9, 8⟩ : Ivar).Unchanged narrow.address narrowCreated b' ↔
            (⟨"b", "Q", 9, 8⟩ : Ivar).Spared ⟨"a", "q", 8, 1⟩ narrow.address narrowCreated bytes) ∧
          EStateM.run (Act.ivar 0 narrow "a") b' = EStateM.run (Act.decode 0 d bytes) b' := by
  have hset : (Act.setIvar 0 narrow "a" (.int 258)).endsWith (fun _ _ => true) narrowCreated = true := by
    decide +kernel
  obtain ⟨_, b', hrun, -⟩ := Act.exists_of_endsWith hset
  refine ⟨⟨b', hrun⟩, fun b' hrun => ?_⟩
  obtain ⟨l, hl, hc, hf⟩ := exists_founded_narrowCreated
  obtain ⟨B, hlives⟩ := exists_lives_narrowCreated
  have hivars := ivarsAlong_narrowCreated
  have ha : (⟨5⟩, ⟨"a", "q", 8, 1⟩) ∈ narrowCreated.space.classes.ivarsAlong ⟨5⟩ := by
    rw [hivars]
    decide
  have hb : (⟨5⟩, ⟨"b", "Q", 9, 8⟩) ∈ narrowCreated.space.classes.ivarsAlong ⟨5⟩ := by
    rw [hivars]
    decide
  obtain ⟨d, bytes, hwritten, hlength, hothers, hread⟩ :=
    (unchanged_iff_spared hl run_narrowCreated hc hf hlives ha found_narrowCreated.1 (.int 258)).1 b' hrun
  exact ⟨d, bytes, hwritten, hlength, (hothers _ hb (by decide)).1, (hread (.inl (by decide))).1⟩

/-- **A variable that is not spared**: setting the one variable changes the other. -/
theorem not_unchanged_narrow :
    ∃ l B, narrowCreated.Constructed l ∧ ReflTransGen HostWork default narrowCreated ∧
      narrowCreated.space.classes.HasClass ⟨5⟩ ∧ narrowCreated.space.classes.Founded l ⟨5⟩ ∧
      (narrowCreated.space.classes.get ⟨5⟩).registered = true ∧
      narrowCreated.space.Lives narrow.address ⟨5⟩ B ∧
      narrowCreated.ivar? narrow.address "a" = some ⟨"a", "q", 8, 1⟩ ∧
      narrowCreated.ivar? narrow.address "b" = some ⟨"b", "Q", 9, 8⟩ ∧
      ∃ b', EStateM.run (Act.setIvar 0 narrow "a" (.int 258)) narrowCreated = .ok () b' ∧
        ¬(⟨"b", "Q", 9, 8⟩ : Ivar).Unchanged narrow.address narrowCreated b' := by
  obtain ⟨l, hl, hc, hf⟩ := exists_founded_narrowCreated
  obtain ⟨B, hlives⟩ := exists_lives_narrowCreated
  have hset : (Act.setIvar 0 narrow "a" (.int 258)).endsWith
      (fun _ b' => b'.space.byte? narrow.address 9 == some 1) narrowCreated = true := by
    decide +kernel
  obtain ⟨_, b', hrun, hafter⟩ := Act.exists_of_endsWith hset
  have hbefore : narrowCreated.space.byte? narrow.address 9 = some 0 := by decide +kernel
  refine ⟨l, B, hl, run_narrowCreated, hc, hf, by decide +kernel, hlives, found_narrowCreated.1,
    found_narrowCreated.2, b', hrun, fun hunchanged => ?_⟩
  have hsame := hunchanged 9 (by decide) (by decide)
  rw [hbefore, eq_of_beq hafter] at hsame
  cases hsame

end Bridge.Constructed

end MessageBridge
