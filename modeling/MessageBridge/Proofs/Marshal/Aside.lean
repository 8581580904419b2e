import MessageBridge.Proofs.Bridge.Types
import MessageBridge.Proofs.Marshal.Transit
import MessageBridge.Proofs.Space.Block

/-!
# Values beside a block

Writing a value as a type hands out blocks, but reads none. So it goes the same way whatever a block that
is there holds, and a value that leads nowhere into the block is read back also after the block was
written.

## Main definitions

* `Bridge.without` — the state without the block at an address.

## Main results

* `Act.alike_encode` — writing a value does not depend on a block.
* `Act.exists_decode_aside` — a value that leads nowhere into a block is read back as what it arrives as,
  whatever was written to the block.
-/

namespace MessageBridge

/-! ## Without a block -/

/-- The state with another memory. -/
def Bridge.withMemory (b : Bridge) (memory : Memory) : Bridge :=
  { b with space := { b.space with memory } }

/-- The state without the block at an address. -/
def Bridge.without (b : Bridge) (a : Address) : Bridge :=
  b.withMemory (b.space.memory.without a)

lemma Bridge.without_without (b : Bridge) (a : Address) :
    (b.without a).without a = b.without a :=
  congrArg b.withMemory (b.space.memory.without_without a)

lemma Memory.Sound.without {m : Memory} (hm : m.Sound) (a : Address) : (m.without a).Sound :=
  ⟨hm.next_pos, hm.next_le, fun b hb => hm.below b (Memory.mem_without.mp hb).1⟩

lemma Bridge.Sound.without {b : Bridge} (hb : b.Sound) (a : Address) : (b.without a).Sound :=
  ⟨hb.memory.without a, hb.selectors⟩

lemma Learning.without {b b' : Bridge} (h : Learning b b') (a : Address) :
    Learning (b.without a) (b'.without a) := by
  cases h with
  | lend loans => exact .lend loans
  | learn ctx layout => exact .learn ctx layout

namespace Act

variable {α : Type} {ctx : ContextId} {index : Nat} {a : Address} {b b' b₀ c : Bridge} {x : Act α}

/-- Reading types leaves in place what is there without the block. -/
lemma keeps_without_of_learning (hb : b.Sound) (h : Moves Learning x b) :
    (b.without a).Keeps ((x.after b).without a) := by
  refine Upkeep.keeps_of_run ?_ (hb.without a)
  have hrun {b' : Bridge} (h : Relation.ReflTransGen Learning b b') :
      Relation.ReflTransGen Upkeep (b.without a) (b'.without a) := by
    induction h with
    | refl => exact .refl
    | tail _ hstep ih => exact ih.tail (.learning (hstep.without a))
  exact hrun h

/-! ## What writing values depends on -/

/-- States that look the same without a block have different memories at most. -/
lemma alike_of_withMemory (h : ∀ (b : Bridge) (m : Memory),
    m.without a = b.space.memory.without a →
      seen (Bridge.without · a) x (b.withMemory m) = seen (Bridge.without · a) x b) :
    Alike (Bridge.without · a) x := by
  intro b c hview
  have hmemory : c.space.memory.without a = b.space.memory.without a :=
    congrArg (·.space.memory) hview.symm
  have hc : c = b.withMemory c.space.memory :=
    congrArg (·.withMemory c.space.memory) hview.symm
  rw [hc]
  exact (h b c.space.memory hmemory).symm

lemma alike_checkName (name : String) : Alike (Bridge.without · a) (checkName name) :=
  .ite (.fail _) (.pure _)

lemma alike_intern (name : String) : Alike (Bridge.without · a) (intern name) :=
  Alike.bind (alike_of_withMemory fun b _ hm => congrArg (fun m => EStateM.Result.ok
      (b.space.intern name).1 (Bridge.withMemory { b with space := (b.space.intern name).2 } m)) hm)
    fun _ => .ite (.pure _) (.fault _)

lemma alike_selector (name : String) : Alike (Bridge.without · a) (selector ctx name) := by
  have hcontexts (b c : Bridge) (h : b.without a = c.without a) :
      b.contextAt ctx = c.contextAt ctx := congrArg (·.contextAt ctx) h
  refine Alike.context (fun b c h => by rw [hcontexts b c h]) fun x => ?_
  split
  · exact .pure _
  · refine (alike_checkName name).bind fun _ => (alike_intern name).bind fun sel =>
      Alike.bind (alike_of_withMemory fun b m hm => ?_) fun _ => .pure _
    exact congrArg (fun m => EStateM.Result.ok () (Bridge.withMemory { b with
      contexts := b.contexts.modify ctx fun c => { c with selectors := (name, sel) :: c.selectors } }
        m)) hm

lemma run_keepBlock (size : Nat) (bytes : List UInt8) (b : Bridge) :
    EStateM.run (keepBlock size bytes) b =
      match b.space.memory.allocate size bytes with
      | some r => .ok r.1 (b.withMemory r.2)
      | none => .error (.fault .badAccess) b := by
  simp only [keepBlock, tryOnSpace]
  rw [EStateM.run_bind, run_readSpace]
  cases b.space.memory.allocate size bytes <;> rfl

/-- Which block is handed out depends on the next address only. -/
lemma alike_keepBlock (size : Nat) (bytes : List UInt8) :
    Alike (Bridge.without · a) (keepBlock size bytes) := by
  refine alike_of_withMemory fun b m hm => ?_
  have hnext : m.next = b.space.memory.next := (congrArg Memory.next hm :)
  have hblocks : m.blocks.filter (·.base != a.toNat) =
      b.space.memory.blocks.filter (·.base != a.toNat) := congrArg Memory.blocks hm
  have hcons (x : Block) (next : Nat) : (⟨x :: m.blocks, next⟩ : Memory).without a =
      (⟨x :: b.space.memory.blocks, next⟩ : Memory).without a := by
    simp only [Memory.without, List.filter_cons, hblocks]
  simp only [seen, run_keepBlock, Memory.allocate]
  have hmemory : (b.withMemory m).space.memory = m := rfl
  rw [hmemory, hnext]
  by_cases hroom : size ≤ Memory.maxRequest ∧
      b.space.memory.next + (Block.capacityFor size + 8) ≤ Memory.addressLimit
  · simp only [if_pos hroom]
    exact congrArg (fun m => EStateM.Result.ok _ (b.withMemory m)) (hcons _ _)
  · simp only [if_neg hroom]
    exact congrArg (fun m => EStateM.Result.error _ (b.withMemory m)) hm

lemma alike_keepString (text : String) : Alike (Bridge.without · a) (keepString text) :=
  (alike_checkName text).bind fun _ => alike_keepBlock _ _

mutual

/-- **Writing a value** does not depend on a block. -/
theorem alike_encode (ctx : ContextId) (index : Nat) (a : Address) (d : Descriptor)
    (out : List UInt8) (v : Value) : Alike (Bridge.without · a) (encode ctx index d out v) := by
  unfold encode
  split
  · split
    · exact .pure _
    · exact .fail _
  · exact .ite (alike_encodeFields ctx index a _ out _) (.fail _)
  · exact .fail _
  · exact .pure _
  · exact .pure _
  · exact .pure _
  · exact .pure _
  · exact .pure _
  · exact (alike_selector _).bind fun _ => .pure _
  · exact (alike_selector _).bind fun _ => .pure _
  · exact (alike_keepString _).bind fun _ => .pure _
  · exact (alike_keepString _).bind fun _ => .pure _
  · exact (alike_encodeFields ctx index a _ _ _).bind fun _ =>
      (alike_keepBlock _ _).bind fun _ => .pure _
  · exact .fail _

theorem alike_encodeFields (ctx : ContextId) (index : Nat) (a : Address) (fields : List Field)
    (out : List UInt8) (vs : List Value) :
    Alike (Bridge.without · a) (encodeFields ctx index fields out vs) := by
  cases vs with
  | nil => unfold encodeFields; exact .pure _
  | cons v vs =>
    cases fields with
    | nil => unfold encodeFields; exact .pure _
    | cons f fs =>
      rw [encodeFields_cons]
      refine Alike.bind (.ite (.pure _) ((alike_encode ctx index a f.descriptor _ v).bind fun _ =>
        .pure _)) fun _ => ?_
      exact (alike_encodeFields ctx index a fs _ vs).bind fun _ => .pure _

end

/-! ## Reading as many bytes as the type takes -/

lemma decodeFields_take {fields : List (Option String × Descriptor)} {start n : Nat}
    (h : (Layout.place start fields).2 ≤ n) (bytes : List UInt8) :
    decodeFields ctx (bytes.take n) (Layout.place start fields).1 =
      decodeFields ctx bytes (Layout.place start fields).1 := by
  induction fields generalizing start with
  | nil => rfl
  | cons f fields ih =>
    obtain ⟨name, encoding, shape⟩ := f
    have hle := Layout.le_place (roundUp start (Descriptor.mk encoding shape).alignment +
      (Descriptor.mk encoding shape).size) fields
    rw [Layout.place_cons] at h ⊢
    have hslice : sliceBytes (bytes.take n) (roundUp start (Descriptor.mk encoding shape).alignment)
        shape.size = sliceBytes bytes (roundUp start (Descriptor.mk encoding shape).alignment)
          shape.size :=
      sliceBytes_congr (n := n) (by rw [List.take_take, Nat.min_self]) (Nat.le_trans hle h)
    simp only [decodeFields, hslice, ih h]

/-- **Reading** a plain type reads no more bytes than the type takes. -/
lemma decodeShape_take {d : Descriptor} (hd : d.Plain) {n : Nat} (h : d.size ≤ n)
    (bytes : List UInt8) :
    decodeShape ctx (bytes.take n) d.shape = decodeShape ctx bytes d.shape := by
  cases hd with
  | scalar =>
    unfold decodeShape
    exact congrArg Pure.pure (Primitive.decode_take h bytes)
  | @address encoding s hs hl =>
    have hword : ofWordBytes (bytes.take n) = ofWordBytes bytes := by
      have hsize : 8 ≤ n := by cases s <;> first | exact h | cases hs
      rw [ofWordBytes, List.take_take, Nat.min_eq_left hsize, ofWordBytes]
    cases s with
    | scalar | aggregate => cases hs
    | object | classRef | selector | cString =>
      unfold Descriptor.shape decodeShape
      rw [hword]
    | pointer k layout =>
      obtain rfl : layout = none := hl
      unfold Descriptor.shape decodeShape
      rw [hword]
  | @struct encoding name fields =>
    have hplace := Nat.le_trans (Layout.place_le_size fields name) h
    simp only [Descriptor.shape, decodeShape, Layout.ofFields, decodeLayout,
      decodeFields_take hplace]

/-! ## Reading beside a block -/

/-- **Values beside a block**: a value that leads nowhere into the block is read back as what it arrives
as, in every state that keeps what is there without the block. -/
theorem exists_decode_aside {d : Descriptor} {v : Value} {out : List UInt8}
    {r : List UInt8 × List Address} {b₁ : Bridge} (hd : d.Plain)
    (hkeeps : b₀.Keeps (b.without a)) (hctx : ctx < b.contexts.size)
    (ha : a.toNat < b.space.memory.next) (hv : Readable ctx b₀ d.shape v)
    (hsize : d.size ≤ out.length) (hzero : Zeroed out)
    (h : EStateM.run (encode ctx index d out v) b = .ok r b') (hb₁ : (b'.without a).Keeps b₁) :
    ∃ w b₂, EStateM.run (decode ctx d (r.1.take d.size)) b₁ = .ok w b₂ ∧
      Arrives ctx b₀ b₂ d.shape v w := by
  have hview : b.without a = (b.without a).without a := (b.without_without a).symm
  obtain ⟨c, hc, hcview⟩ := (alike_encode ctx index a d out v).exists_run hview h
  -- what was handed out since lies behind the block, so that there is still none at its address
  have hnone : c.without a = c := by
    have hchanges := (Upkeep.memory_of_run ((upkeep_encode ctx index d out v _).of_ok hc)).1
    have hfilter : c.space.memory.without a = c.space.memory := by
      refine Memory.without_eq_self fun B hB hbase => ?_
      obtain ⟨C, hC, hCbase, -⟩ := hchanges.exists_old hB (by rw [hbase]; exact ha)
      exact (Memory.mem_without.mp hC).2 (hCbase.trans hbase)
    exact congrArg c.withMemory hfilter
  obtain ⟨-, hholds⟩ := carries_plain hd hkeeps hctx (hv.mono hkeeps) hsize hzero hc
  have hheld := hholds [] b₁ (by rwa [← hnone, ← hcview])
  rw [List.append_nil] at hheld
  rw [decode, decodeShape_take hd (Nat.le_refl _)]
  exact hheld

end Act

end MessageBridge
