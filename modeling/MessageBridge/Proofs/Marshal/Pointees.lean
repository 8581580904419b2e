import MessageBridge.Proofs.Bridge.Cells
import MessageBridge.Proofs.Encoding.InlineStruct

/-!
# Structs passed by address

A struct that is passed by value is written with the layout that is asked for, and must be as large and
have as many fields. A struct that is passed by address is written with its own layout, into a buffer
that is as large as that, while it is read with the layout that the pointer tells. So what is read lies
in the buffer just if the one is not larger than the other, and it is what was passed where the two
layouts are alike.

## Main definitions

* `Deliverable` — a value whose addresses can be read, and whose structs for pointers have the layouts
  that are read behind them, up to names.
* `Delivered` — what a value arrives as, where pointers are followed.
* `Act.Delivers` — from then on, values that are written as a type are read so.

## Main results

* `Act.run_encode_of_alike` — layouts that are alike are written alike.
* `Act.delivers_laid` — every type delivers its values.
* `Act.pointee_delivered` — where a struct that is passed by address lies, and what is read there.
-/

namespace MessageBridge

open Relation (ReflTransGen)

namespace Act

variable {ctx : ContextId} {index : Nat} {b b' : Bridge}

/-! ## Layouts that are alike -/

mutual

/-- **Written alike**: where shapes are alike, a value that is written as the one is written as the
other. -/
theorem run_encode_of_alike {b b' : Bridge} {e e' : String} {s s' : Shape} {out : List UInt8}
    {v : Value} {r : List UInt8 × List Address} (halike : s.alike s' = true) (hsize : s.size = s'.size)
    (h : EStateM.run (encode ctx index (.mk e s) out v) b = .ok r b') :
    EStateM.run (encode ctx index (.mk e' s') out v) b = .ok r b' := by
  cases s with
  | scalar p =>
    cases s' with
    | scalar q =>
      obtain rfl : p = q := by simpa [Shape.alike] using halike
      unfold encode at h ⊢
      simp only [Descriptor.shape] at h ⊢
      cases hp : p.encode? v with
      | none =>
        rw [hp] at h
        cases h
      | some bytes =>
        rw [hp] at h
        exact h
    | object | classRef | selector | cString | pointer | aggregate => cases halike
  | aggregate l =>
    cases s' with
    | aggregate l' =>
      have hfields : Field.alikeAll l.fields l'.fields = true := by
        cases l
        cases l'
        exact halike
      have hsize : l.size = l'.size := hsize
      unfold encode at h ⊢
      simp only [Descriptor.shape] at h ⊢
      cases v with
      | struct layout vs =>
        simp only [← hsize, Field.length_eq_of_alikeAll hfields] at h ⊢
        by_cases hfits : l.size = layout.size ∧ l.fields.length = vs.length
        · rw [if_pos hfits] at h ⊢
          exact run_encodeFields_of_alike hfields h
        · rw [if_neg hfits] at h
          cases h
      | nil | bool | int | uint | float | object | selector | str | pointer => cases h
    | scalar | object | classRef | selector | cString | pointer => cases halike
  | object c =>
    cases s' with
    | object c' =>
      unfold encode at h ⊢
      cases v <;> first | exact h | cases h
    | scalar | classRef | selector | cString | pointer | aggregate => cases halike
  | classRef =>
    cases s' with
    | classRef =>
      unfold encode at h ⊢
      cases v <;> first | exact h | cases h
    | scalar | object | selector | cString | pointer | aggregate => cases halike
  | selector =>
    cases s' with
    | selector =>
      unfold encode at h ⊢
      cases v <;> first | exact h | cases h
    | scalar | object | classRef | cString | pointer | aggregate => cases halike
  | cString =>
    cases s' with
    | cString =>
      unfold encode at h ⊢
      cases v <;> first | exact h | cases h
    | scalar | object | classRef | selector | pointer | aggregate => cases halike
  | pointer n l =>
    cases s' with
    | pointer n' l' =>
      unfold encode at h ⊢
      cases v <;> first | exact h | cases h
    | scalar | object | classRef | selector | cString | aggregate => cases halike

theorem run_encodeFields_of_alike {b b' : Bridge} {fields fields' : List Field} {out : List UInt8}
    {vs : List Value} {r : List UInt8 × List Address} (halike : Field.alikeAll fields fields' = true)
    (h : EStateM.run (encodeFields ctx index fields out vs) b = .ok r b') :
    EStateM.run (encodeFields ctx index fields' out vs) b = .ok r b' := by
  cases vs with
  | nil =>
    unfold encodeFields at h ⊢
    exact h
  | cons v vs =>
    cases fields with
    | nil =>
      cases fields' with
      | nil => exact h
      | cons => cases halike
    | cons f fields =>
      cases fields' with
      | nil => cases halike
      | cons f' fields' =>
        obtain ⟨name, offset, ⟨e, s⟩⟩ := f
        obtain ⟨name', offset', ⟨e', s'⟩⟩ := f'
        simp only [Field.alikeAll, Field.alike, Bool.and_eq_true, beq_iff_eq] at halike
        obtain ⟨⟨⟨rfl, hsize⟩, hshape⟩, hrest⟩ := halike
        rw [encodeFields_cons] at h ⊢
        obtain ⟨⟨out₁, blocks₁⟩, b₁, hhead, h⟩ := run_bind_eq_ok.mp h
        obtain ⟨⟨out₂, blocks₂⟩, b₂, htail, h⟩ := run_bind_eq_ok.mp h
        have hfield : EStateM.run (encodeField ctx index (.mk name' offset ⟨e', s'⟩) out v) b =
            .ok (out₁, blocks₁) b₁ := by
          unfold encodeField at hhead ⊢
          have hinline : s'.isInline = s.isInline := by
            cases s <;> cases s' <;> first | rfl | cases hshape
          simp only [Field.descriptor, Descriptor.shape, Field.offset, hinline] at hhead ⊢
          by_cases hskip : (v.isNil && s.isInline) = true
          · simp only [hskip, if_true] at hhead ⊢
            exact hhead
          · simp only [hskip, Bool.false_eq_true, if_false] at hhead ⊢
            obtain ⟨⟨bytes, blocks⟩, b₃, hencode, hwrite⟩ := run_bind_eq_ok.mp hhead
            have hslice : (Descriptor.mk e' s').size = (Descriptor.mk e s).size := hsize.symm
            rw [hslice, run_bind_ok (run_encode_of_alike hshape hsize hencode)]
            exact hwrite
        exact (run_bind_ok hfield).trans
          ((run_bind_ok (run_encodeFields_of_alike hrest htail)).trans h)

end

end Act

/-! ## Buffers -/

/-- **Spacious**: blocks are apart, and those to come lie behind the memory of all classes. -/
structure Bridge.Spacious (b : Bridge) : Prop where
  sound : b.Sound
  disjoint : b.space.memory.Disjoint
  classes : ClassId.base + ClassId.stride * b.space.classes.records.size ≤ b.space.memory.next

lemma Bridge.Spacious.of_upkeep {b b' : Bridge} (hb : b.Spacious) (hrun : ReflTransGen Upkeep b b') :
    b'.Spacious := by
  obtain ⟨hchanges, -⟩ := Upkeep.memory_of_run hrun
  have hclasses := Bridge.SameClasses.of_run (ReflTransGen.mono (fun _ _ => Upkeep.sameClasses) _ _ hrun)
  refine ⟨(Upkeep.keeps_of_run hrun hb.sound).sound, hchanges.disjoint hb.sound.memory hb.disjoint, ?_⟩
  rw [hclasses.size]
  exact hb.classes.trans hchanges.next_le

/-- Whatever a host does, blocks are apart. -/
lemma Bridge.Spacious.of_work {b : Bridge} (hwork : ReflTransGen HostWork default b)
    (hclasses : ClassId.base + ClassId.stride * b.space.classes.records.size ≤ b.space.memory.next) :
    b.Spacious :=
  ⟨(HostWork.reachable .start hwork).sound, HostWork.disjoint hwork, hclasses⟩

/-- A block begins with the bytes that it was handed out with. -/
lemma Block.read_zero {B : Block} {count : Nat} (h : count ≤ B.stored.length) :
    B.read 0 count = B.stored.take count := by
  rw [read, padBytes, sliceBytes, List.drop_zero, List.length_take_of_le h, Nat.sub_self,
    List.replicate_zero, List.append_nil]

namespace Act

variable {ctx : ContextId} {index : Nat} {b b' : Bridge} {a : Address}

/-- **A buffer** that is handed out is a block of its own, which holds the bytes. -/
lemma hasBlock_of_keepBlock {size : Nat} {bytes : List UInt8} (hb : b.Spacious)
    (h : EStateM.run (keepBlock size bytes) b = .ok a b') :
    b'.space.HasBlock a ⟨a.toNat, size, bytes⟩ := by
  obtain ⟨memory, hallocate, rfl⟩ := run_keepBlock_eq_ok h
  have hdisjoint := (Memory.Change.allocate hallocate).disjoint hb.sound.memory hb.disjoint
  obtain ⟨ha, hlimit, rfl⟩ := Memory.allocate_eq_some hallocate
  refine ⟨hdisjoint, by simp [ha], rfl, ?_, by rw [ha]; exact hb.classes⟩
  simp only [Block.capacity]
  omega

/-- **A pointer is followed**: as many bytes are read in the buffer as the struct takes that the pointer
tells. -/
lemma run_decodeShape_pointee {bytes : List UInt8} {n : Nat} {l : Layout} {B : Block}
    (hB : b.space.HasBlock a B) (ha : a ≠ 0) (hword : ofWordBytes bytes = a)
    (hroom : l.size ≤ B.capacity) :
    EStateM.run (decodeShape ctx bytes (.pointer n (some l))) b =
      EStateM.run (decodeLayout ctx (B.read 0 l.size) l) b := by
  unfold decodeShape
  simp only [hword, if_neg ha]
  exact run_bind_ok (run_readSpace_eq_ok.mpr ⟨hB.read?_eq hB.base.symm (by omega), rfl⟩)

end Act

/-! ## What arrives behind pointers -/

section Values

variable (ctx : ContextId)

mutual

/-- **Deliverable**: every address in a value can be read as the shape says, and every struct that is
passed by address has the layout that is read there, up to names. -/
inductive Deliverable (b : Bridge) : Shape → Value → Prop
  /-- A value that is not followed into a struct. -/
  | plain {s : Shape} {v : Value} (hs : (Descriptor.mk "" s).layout? = none)
      (h : Readable ctx b s v) : Deliverable b s v
  | nil {s : Shape} : Deliverable b s .nil
  | struct {l layout : Layout} {vs : List Value} (h : DeliverableFields b l.fields vs) :
      Deliverable b (.aggregate l) (.struct layout vs)
  /-- A struct that is passed by address. -/
  | pointee {n : Nat} {l layout : Layout} {vs : List Value} (hsize : layout.size = l.size)
      (halike : layout.alike l = true) (h : DeliverableFields b l.fields vs) :
      Deliverable b (.pointer n (some l)) (.struct layout vs)
  /-- An address where a struct can be read, now and later. -/
  | address {n : Nat} {l : Layout} {v : Value} {a : Address} (hv : v.address? = some a)
      (h : ∀ b₁, ReflTransGen Upkeep b b₁ → ∃ w b₂,
        EStateM.run (Act.decodeShape ctx (wordBytes a) (.pointer n (some l))) b₁ = .ok w b₂) :
      Deliverable b (.pointer n (some l)) v

/-- The same for the values of fields. -/
inductive DeliverableFields (b : Bridge) : List Field → List Value → Prop
  | nil : DeliverableFields b [] []
  | cons {f : Field} {fields : List Field} {v : Value} {vs : List Value}
      (h : Deliverable b f.descriptor.shape v) (hs : DeliverableFields b fields vs) :
      DeliverableFields b (f :: fields) (v :: vs)

end

mutual

/-- **Delivered**: passed in the state `b` as the shape says, and read in the state `b'`, a value is what
the second value is. Pointers to structs are followed. -/
inductive Delivered (b b' : Bridge) : Shape → Value → Value → Prop
  | plain {s : Shape} {v w : Value} (h : Arrives ctx b b' s v w) : Delivered b b' s v w
  | struct {l layout : Layout} {vs ws : List Value} (h : DeliveredFields b b' l.fields vs ws) :
      Delivered b b' (.aggregate l) (.struct layout vs) (.struct l ws)
  /-- A struct that is passed by address arrives field by field. -/
  | pointee {n : Nat} {l layout : Layout} {vs ws : List Value}
      (h : DeliveredFields b b' l.fields vs ws) :
      Delivered b b' (.pointer n (some l)) (.struct layout vs) (.struct l ws)
  /-- An address arrives as what is read there. -/
  | address {n : Nat} {l : Layout} {v w : Value} {a : Address} {b₁ b₂ : Bridge}
      (hv : v.address? = some a)
      (h : EStateM.run (Act.decodeShape ctx (wordBytes a) (.pointer n (some l))) b₁ = .ok w b₂) :
      Delivered b b' (.pointer n (some l)) v w

/-- The same for the values of fields. -/
inductive DeliveredFields (b b' : Bridge) : List Field → List Value → List Value → Prop
  | nil : DeliveredFields b b' [] [] []
  | cons {f : Field} {fields : List Field} {v w : Value} {vs ws : List Value}
      (h : Delivered b b' f.descriptor.shape v w) (hs : DeliveredFields b b' fields vs ws) :
      DeliveredFields b b' (f :: fields) (v :: vs) (w :: ws)

end

end Values

section Mono

variable {ctx : ContextId} {b b' b'' : Bridge}

mutual

/-- **What can be delivered** can still be delivered after record keeping. -/
theorem Deliverable.of_upkeep (hb : b.Sound) (hrun : ReflTransGen Upkeep b b') {s : Shape} {v : Value} :
    Deliverable ctx b s v → Deliverable ctx b' s v
  | .plain hs h => .plain hs (h.mono (Upkeep.keeps_of_run hrun hb))
  | .nil => .nil
  | .struct h => .struct (h.of_upkeep hb hrun)
  | .pointee hsize halike h => .pointee hsize halike (h.of_upkeep hb hrun)
  | .address hv h => .address hv fun b₁ hb₁ => h b₁ (hrun.trans hb₁)

theorem DeliverableFields.of_upkeep (hb : b.Sound) (hrun : ReflTransGen Upkeep b b')
    {fields : List Field} {vs : List Value} :
    DeliverableFields ctx b fields vs → DeliverableFields ctx b' fields vs
  | .nil => .nil
  | .cons h hs => .cons (h.of_upkeep hb hrun) (hs.of_upkeep hb hrun)

end

mutual

/-- **What was delivered** is still the same after record keeping. -/
theorem Delivered.mono (hkeeps : b'.Keeps b'') {s : Shape} {v w : Value} :
    Delivered ctx b b' s v w → Delivered ctx b b'' s v w
  | .plain h => .plain (h.mono hkeeps)
  | .struct h => .struct (h.mono hkeeps)
  | .pointee h => .pointee (h.mono hkeeps)
  | .address hv h => .address hv h

theorem DeliveredFields.mono (hkeeps : b'.Keeps b'') {fields : List Field} {vs ws : List Value} :
    DeliveredFields ctx b b' fields vs ws → DeliveredFields ctx b b'' fields vs ws
  | .nil => .nil
  | .cons h hs => .cons (h.mono hkeeps) (hs.mono hkeeps)

end

lemma DeliveredFields.length_eq {fields : List Field} {vs ws : List Value}
    (h : DeliveredFields ctx b b' fields vs ws) : ws.length = fields.length := by
  induction ws generalizing fields vs with
  | nil =>
    cases h with
    | nil => rfl
  | cons w ws ih =>
    cases h with
    | cons _ hs => rw [List.length_cons, List.length_cons, ih hs]

lemma DeliverableFields.length_eq {fields : List Field} {vs : List Value}
    (h : DeliverableFields ctx b fields vs) : vs.length = fields.length := by
  induction vs generalizing fields with
  | nil =>
    cases h with
    | nil => rfl
  | cons v vs ih =>
    cases h with
    | cons _ hs => rw [List.length_cons, List.length_cons, ih hs]

end Mono

namespace Act

variable {ctx : ContextId} {index : Nat} {b₀ b b' b₁ : Bridge} {a : Address}

/-! ## Delivery -/

/-- **Delivers**: when a value is written as the type into a zeroed buffer, the buffer is read as what
the value arrives as, in every state that record keeping leads to. -/
def Delivers (ctx : ContextId) (d : Descriptor) : Prop :=
  ∀ {index : Nat} {b₀ b b' b₁ : Bridge} {out : List UInt8} {v : Value} {r : List UInt8 × List Address},
    b.Spacious → b₀.Keeps b → ctx < b.contexts.size → Deliverable ctx b d.shape v →
      d.size ≤ out.length → Zeroed out → EStateM.run (encode ctx index d out v) b = .ok r b' →
        ReflTransGen Upkeep b' b₁ → ∀ rest, ∃ w b₂,
          EStateM.run (decodeShape ctx (r.1 ++ rest) d.shape) b₁ = .ok w b₂ ∧
            Delivered ctx b₀ b₂ d.shape v w

lemma Carries.delivers {d : Descriptor} (hd : Carries ctx d)
    (hread : ∀ {b : Bridge} {v : Value}, Deliverable ctx b d.shape v → Readable ctx b d.shape v) :
    Delivers ctx d := by
  intro index b₀ b b' b₁ out v r hb hkeeps hctx hv hsize hzero h hb₁ rest
  obtain ⟨-, hholds⟩ := hd hkeeps hctx (hread hv) hsize hzero h
  obtain ⟨w, b₂, hw, harrives⟩ :=
    hholds rest b₁ (Upkeep.keeps_of_run hb₁ (keeps_of_encode hb.sound h).sound)
  exact ⟨w, b₂, hw, .plain harrives⟩

/-- What is read for a field is still the same when the others have been read. -/
lemma exists_deliveredFields_cons {f : Field} {fields : List Field} {bytes : List UInt8} {v : Value}
    {vs : List Value} (hb₁ : b₁.Sound)
    (h : ∃ w b₂, EStateM.run (decodeShape ctx (sliceBytes bytes f.offset f.descriptor.size)
      f.descriptor.shape) b₁ = .ok w b₂ ∧ Delivered ctx b₀ b₂ f.descriptor.shape v w)
    (hs : ∀ b₂, ReflTransGen Upkeep b₁ b₂ → ∃ ws b₃,
      EStateM.run (decodeFields ctx bytes fields) b₂ = .ok ws b₃ ∧
        DeliveredFields ctx b₀ b₃ fields vs ws) :
    ∃ ws b₂, EStateM.run (decodeFields ctx bytes (f :: fields)) b₁ = .ok ws b₂ ∧
      DeliveredFields ctx b₀ b₂ (f :: fields) (v :: vs) ws := by
  obtain ⟨w, b₂, hw, hdelivered⟩ := h
  obtain ⟨ws, b₃, hws, hrest⟩ := hs b₂ ((upkeep_decodeShape ctx _ _ b₁).of_ok hw)
  have hb₃ : b₂.Keeps b₃ := Upkeep.keeps_of_run ((upkeep_decodeFields ctx bytes fields b₂).of_ok hws)
    (keeps_of_decodeShape hb₁ hw).sound
  obtain ⟨name, offset, d⟩ := f
  exact ⟨w :: ws, b₃, run_decodeFields_cons hw hws, .cons (hdelivered.mono hb₃) hrest⟩

/-- The fields of a struct whose bytes were filled are read as what their values arrive as. -/
lemma exists_deliveredFields_of_fills {fields : List Field} {bytes : List UInt8} {vs : List Value}
    (hfields : ∀ f ∈ fields, f.descriptor.Laid ∧ Delivers ctx f.descriptor) (hb : b.Spacious)
    (hkeeps : b₀.Keeps b) (hctx : ctx < b.contexts.size) (hv : DeliverableFields ctx b fields vs)
    (h : Fills ctx index bytes fields vs b b') (hb₁ : ReflTransGen Upkeep b' b₁) :
    ∃ ws b₂, EStateM.run (decodeFields ctx bytes fields) b₁ = .ok ws b₂ ∧
      DeliveredFields ctx b₀ b₂ fields vs ws := by
  have hsound : b₁.Sound := (Upkeep.keeps_of_run (h.upkeep.trans hb₁) hb.sound).sound
  induction h generalizing b₁ with
  | nil => exact ⟨[], b₁, rfl, .nil⟩
  | @skip f fields vs b b' hinline hzero hrest ih =>
    obtain ⟨⟨hd, -⟩, hfields⟩ := List.forall_mem_cons.mp hfields
    cases hv with
    | cons _ hvs =>
      have hreads : Reads ctx (List.replicate f.descriptor.size 0 ++ []) f.descriptor.shape
          f.descriptor.shape.zero := reads_zero hd []
      rw [List.append_nil, ← hzero] at hreads
      exact exists_deliveredFields_cons hsound ⟨_, b₁, hreads b₁, .plain (.zero hinline)⟩ fun b₂ hb₂ =>
        ih hfields hb hkeeps hctx hvs (hb₁.trans hb₂) (Upkeep.keeps_of_run hb₂ hsound).sound
  | @write f fields v vs blocks b b₂ b' hwrite hrest ih =>
    obtain ⟨⟨-, hdelivers⟩, hfields⟩ := List.forall_mem_cons.mp hfields
    have hrun : ReflTransGen Upkeep b b₂ := (upkeep_encode ctx index _ _ _ _).of_ok hwrite
    have hb₂ : b.Keeps b₂ := Upkeep.keeps_of_run hrun hb.sound
    cases hv with
    | cons hv hvs =>
      have hfield := hdelivers hb hkeeps hctx hv (by simp) (.replicate _) hwrite
        (hrest.upkeep.trans hb₁) []
      rw [List.append_nil] at hfield
      exact exists_deliveredFields_cons hsound hfield fun b₃ hb₃ =>
        ih hfields (hb.of_upkeep hrun) (hkeeps.trans hb₂) (by rwa [hb₂.size])
          (hvs.of_upkeep hb.sound hrun) (hb₁.trans hb₃) (Upkeep.keeps_of_run hb₃ hsound).sound

/-- Where a pointer leads depends on its address only. -/
lemma decodeShape_pointer_congr {bytes bytes' : List UInt8} {n : Nat} {l? : Option Layout}
    (h : ofWordBytes bytes = ofWordBytes bytes') :
    decodeShape ctx bytes (.pointer n l?) = decodeShape ctx bytes' (.pointer n l?) := by
  cases l? with
  | none =>
    unfold decodeShape
    rw [h]
  | some l =>
    unfold decodeShape
    rw [h]

/-- **A struct that is passed by address** is written into a buffer of its own. -/
lemma exists_keepBlock {e : String} {n : Nat} {l? : Option Layout} {layout : Layout}
    {out : List UInt8} {vs : List Value} {r : List UInt8 × List Address}
    (h : EStateM.run (encode ctx index (.mk e (.pointer n l?)) out (.struct layout vs)) b = .ok r b') :
    ∃ bytes blocks b₁ a,
      EStateM.run (encodeFields ctx index layout.fields (slot layout.size) vs) b =
        .ok (bytes, blocks) b₁ ∧
      EStateM.run (keepBlock (slotSize layout.size) bytes) b₁ = .ok a b' ∧
      r = (writeWord out a, blocks ++ [a]) := by
  unfold encode at h
  obtain ⟨⟨bytes, blocks⟩, b₁, hfields, h⟩ := run_bind_eq_ok.mp h
  obtain ⟨a, b₂, ha, h⟩ := run_bind_eq_ok.mp h
  cases h
  exact ⟨bytes, blocks, b₁, a, hfields, ha, rfl⟩

/-- Its fields are delivered where it has the layout that is read behind the pointer, up to names. -/
lemma exists_deliveredFields_of_keepBlock {name : String} {n : Nat} {layout : Layout}
    {fields : List (Option String × Descriptor)} {stored bytes : List UInt8} {vs : List Value}
    {blocks : List Address} {b₂ : Bridge} (hfields : ∀ f ∈ fields, f.2.Laid ∧ Delivers ctx f.2)
    (hb : b.Spacious) (hkeeps : b₀.Keeps b) (hctx : ctx < b.contexts.size)
    (hsize : layout.size = (Layout.ofFields name fields).size)
    (halike : layout.alike (.ofFields name fields) = true)
    (hv : DeliverableFields ctx b (Layout.ofFields name fields).fields vs)
    (hwrite : EStateM.run (encodeFields ctx index layout.fields (slot layout.size) vs) b =
      .ok (stored, blocks) b₁)
    (hkeep : EStateM.run (keepBlock (slotSize layout.size) stored) b₁ = .ok a b')
    (hb₂ : ReflTransGen Upkeep b' b₂) (hword : ofWordBytes bytes = a) :
    ∃ ws b₃, EStateM.run (decodeShape ctx bytes (.pointer n (some (.ofFields name fields)))) b₂ =
        .ok (.struct (.ofFields name fields) ws) b₃ ∧
      DeliveredFields ctx b₀ b₃ (Layout.ofFields name fields).fields vs ws := by
  -- what was written is what the layout of the pointer would have written
  have halikeAll : Field.alikeAll layout.fields (Layout.ofFields name fields).fields = true := by
    cases layout
    exact halike
  have hwrite := run_encodeFields_of_alike halikeAll hwrite
  rw [hsize] at hwrite hkeep
  have hplace : (Layout.place 0 fields).2 ≤ (Layout.ofFields name fields).size :=
    Layout.place_le_size fields name
  have hcount : vs.length = fields.length :=
    hv.length_eq.trans (Layout.length_fields_ofFields name fields)
  have hslot : (Layout.ofFields name fields).size ≤ (slot (Layout.ofFields name fields).size).length :=
    (le_slotSize _).trans_eq (length_slot _).symm
  obtain ⟨hlength, -, hfills⟩ := fills_encodeFields (fun f hf => keepsLength_laid (hfields f hf).1) 0
    hcount (hplace.trans hslot) ((zeroed_slot _).drop 0) hwrite
  have hfills := hfills []
  rw [List.append_nil] at hfills
  -- the block is still there
  have hb₁ : b₁.Spacious := hb.of_upkeep hfills.upkeep
  have hstore : ReflTransGen Upkeep b₁ b' := (upkeep_keepBlock _ _).of_ok hkeep
  have hB := (hasBlock_of_keepBlock hb₁ hkeep).of_upkeep (hb₁.of_upkeep hstore).sound hb₂
  have hroom : (Layout.ofFields name fields).size ≤ stored.length := hslot.trans_eq hlength.symm
  have hread : EStateM.run (decodeShape ctx bytes (.pointer n (some (.ofFields name fields)))) b₂ = _ :=
    run_decodeShape_pointee hB (ne_zero_of_keepBlock hb₁.sound hkeep) hword
      ((le_slotSize _).trans (Block.le_capacityFor _))
  rw [Block.read_zero hroom] at hread
  have hplaced : ∀ f ∈ (Layout.place 0 fields).1, f.descriptor.Laid ∧ Delivers ctx f.descriptor :=
    fun f hf => hfields _ (Layout.mem_place 0 fields hf).2.2
  obtain ⟨ws, b₃, hws, hdelivered⟩ :=
    exists_deliveredFields_of_fills hplaced hb hkeeps hctx hv hfills (hstore.trans hb₂)
  rw [← decodeFields_take hplace] at hws
  refine ⟨ws, b₃, hread.trans ?_, hdelivered⟩
  have hstruct : EStateM.run (decodeShape ctx (stored.take (Layout.ofFields name fields).size)
      (.aggregate (.ofFields name fields))) b₂ = .ok (.struct (.ofFields name fields) ws) b₃ :=
    run_decodeLayout hws hdelivered.length_eq
  unfold decodeShape at hstruct
  exact hstruct

/-- **Every type** whose structs are laid out by the C rules delivers its values. -/
theorem delivers_laid {d : Descriptor} (hd : d.Laid) : Delivers ctx d := by
  induction hd with
  | scalar =>
    refine Carries.delivers carries_scalar fun hv => ?_
    cases hv with
    | plain _ h => exact h
    | nil => exact .nil
  | @address encoding s hs hl =>
    refine Carries.delivers (carries_address hs hl) fun hv => ?_
    simp only [Descriptor.shape] at hv ⊢
    cases hv with
    | plain _ h => exact h
    | nil => exact .nil
    | struct => cases hs
    | pointee | address => cases hl
  | @struct encoding name fields hlaid ih =>
    intro index b₀ b b' b₁ out v r hb hkeeps hctx hv hsize hzero h hb₁ rest
    unfold encode at h
    simp only [Descriptor.shape] at h hv ⊢
    cases hv with
    | plain hs => cases hs
    | nil => cases h
    | @struct _ layout vs hvs =>
      simp only at h
      split at h
      · have hcount : vs.length = fields.length :=
          hvs.length_eq.trans (Layout.length_fields_ofFields name fields)
        obtain ⟨-, -, hfills⟩ := fills_encodeFields (fun f hf => keepsLength_laid (hlaid f hf)) 0 hcount
          (Nat.le_trans (Layout.place_le_size fields name) hsize) hzero h
        have hplaced : ∀ f ∈ (Layout.place 0 fields).1, f.descriptor.Laid ∧ Delivers ctx f.descriptor :=
          fun f hf =>
            have hmem := (Layout.mem_place 0 fields hf).2.2
            ⟨hlaid _ hmem, ih _ hmem⟩
        obtain ⟨ws, b₂, hws, hdelivered⟩ :=
          exists_deliveredFields_of_fills hplaced hb hkeeps hctx hvs (hfills rest) hb₁
        exact ⟨_, b₂, run_decodeLayout hws hdelivered.length_eq, .struct hdelivered⟩
      · cases h
  | @pointee encoding name n fields hlaid ih =>
    intro index b₀ b b' b₁ out v r hb hkeeps hctx hv hsize hzero h hb₁ rest
    simp only [Descriptor.shape] at hv ⊢
    cases hv with
    | plain hs => cases hs
    | nil =>
      unfold encode at h
      cases h
      refine ⟨.nil, b₁, ?_, .plain (.null rfl rfl)⟩
      unfold decodeShape
      simp only [ofWordBytes_writeWord, if_true]
      rfl
    | @pointee _ _ layout vs hsame halike hvs =>
      obtain ⟨stored, blocks, b₂, a, hwrite, hkeep, rfl⟩ := exists_keepBlock h
      obtain ⟨ws, b₃, hws, hdelivered⟩ := exists_deliveredFields_of_keepBlock
        (fun f hf => ⟨hlaid f hf, ih f hf⟩) hb hkeeps hctx hsame halike hvs hwrite hkeep hb₁
        (ofWordBytes_writeWord out rest a)
      exact ⟨_, b₃, hws, .pointee hdelivered⟩
    | @address _ _ _ a hv hread =>
      obtain ⟨w, b₂, hw⟩ := hread b₁ (((upkeep_encode ctx index _ _ _ _).of_ok h).trans hb₁)
      have hwrite : r.1 = writeWord out a := by
        unfold encode at h
        cases v <;> first | (cases hv; cases h; rfl) | cases hv
      have hword : ofWordBytes (r.1 ++ rest) = ofWordBytes (wordBytes a) := by
        rw [hwrite, ofWordBytes_writeWord, ofWordBytes_wordBytes]
      rw [← decodeShape_pointer_congr hword] at hw
      exact ⟨w, b₂, hw, .address hv (decodeShape_pointer_congr hword ▸ hw)⟩

/-- **Structs passed by address**: in every state that a host can lead to, and for whatever struct, a
struct that is accepted for a pointer lies in a buffer that is kept and that is as large as its own
layout says. What is read behind the pointer lies in the buffer just if the struct that the pointer tells
is not larger. If the struct has the layout that the pointer tells, up to names, then what is read are
its fields as what they arrive as. -/
theorem pointee_delivered {e : String} {n : Nat} {l layout : Layout} {out : List UInt8}
    {vs : List Value} {r : List UInt8 × List Address} (hwork : ReflTransGen HostWork default b)
    (hctx : ctx < b.contexts.size)
    (hclasses : ClassId.base + ClassId.stride * b.space.classes.records.size ≤ b.space.memory.next)
    (h : EStateM.run (encode ctx index (.mk e (.pointer n (some l))) out (.struct layout vs)) b =
      .ok r b') :
    ∃ a B, r.1 = writeWord out a ∧ a ≠ 0 ∧ a ∈ r.2 ∧ B.base = a.toNat ∧
      B.size = slotSize layout.size ∧ layout.size ≤ B.size ∧
      ((⟨a.toNat, l.size⟩ : Extent).Inside B.extent ↔ l.size ≤ B.size) ∧
      ∀ b₁ bytes, ReflTransGen Upkeep b' b₁ → ofWordBytes bytes = a →
        B ∈ b₁.space.memory.blocks ∧
        (l.size ≤ B.size → EStateM.run (decode ctx (.mk e (.pointer n (some l))) bytes) b₁ =
          EStateM.run (decodeLayout ctx (B.read 0 l.size) l) b₁) ∧
        ((Descriptor.mk e (.pointer n (some l))).Laid → layout.size = l.size →
          layout.alike l = true → DeliverableFields ctx b l.fields vs →
          ∃ ws b₂, EStateM.run (decode ctx (.mk e (.pointer n (some l))) bytes) b₁ =
              .ok (.struct l ws) b₂ ∧ DeliveredFields ctx b b₂ l.fields vs ws) := by
  have hb : b.Spacious := .of_work hwork hclasses
  obtain ⟨stored, blocks, b₂, a, hwrite, hkeep, rfl⟩ := exists_keepBlock h
  have hb₂ : b₂.Spacious := hb.of_upkeep ((upkeep_encodeFields ctx index _ _ _ _).of_ok hwrite)
  have hb' : b'.Spacious := hb₂.of_upkeep ((upkeep_keepBlock _ _).of_ok hkeep)
  have ha : a ≠ 0 := ne_zero_of_keepBlock hb₂.sound hkeep
  refine ⟨a, ⟨a.toNat, slotSize layout.size, stored⟩, rfl, ha, by simp, rfl, rfl, le_slotSize _, ?_,
    fun b₁ bytes hb₁ hword => ?_⟩
  · simp only [Extent.Inside, Block.extent]
    omega
  have hB := (hasBlock_of_keepBlock hb₂ hkeep).of_upkeep hb'.sound hb₁
  refine ⟨hB.mem, fun hroom => ?_, fun hlaid hsize halike hv => ?_⟩
  · exact run_decodeShape_pointee hB ha hword (hroom.trans (Block.le_capacityFor _))
  · cases hlaid with
    | address _ hl => cases hl
    | pointee hfields =>
      exact exists_deliveredFields_of_keepBlock
        (fun f hf => ⟨hfields f hf, delivers_laid (hfields f hf)⟩) hb (.refl hb.sound) hctx hsize halike hv
        hwrite hkeep hb₁ hword

/-- A struct of one double, as it is registered. -/
def doubleBox : Layout := .ofFields "P" [(some "x", .scalar .double)]

/-- The same without a name for the field. -/
def doubleOnly : Layout := .ofFields "P" [(none, .scalar .double)]

/-- A struct of one integer. -/
def integerBox : Layout := .ofFields "Q" [(none, .scalar .longLong)]

/-- A struct of four doubles. -/
def doubleFour : Layout := .ofFields "R" (List.replicate 4 (none, .scalar .double))

/-- A pointer to a struct. -/
def pointerTo (l : Layout) : Descriptor := .mk ("^\x7b" ++ l.name ++ "\x7d") (.pointer 1 (some l))

/-- A double is passed in a struct without field names, and read. -/
theorem pointee_delivered_double :
    let b : Bridge := (Bridge.openContext {} {} {}).2
    ∃ r b' a, EStateM.run (encode 0 0 (pointerTo doubleBox) (slot 8)
        (.struct doubleOnly [.float ⟨0x3ff8000000000000⟩])) b = .ok r b' ∧
      r.1 = writeWord (slot 8) a ∧ a ∈ r.2 ∧
      ∃ ws b₂, EStateM.run (decode 0 (pointerTo doubleBox) r.1) b' = .ok (.struct doubleBox ws) b₂ ∧
        DeliveredFields 0 b b₂ doubleBox.fields [.float ⟨0x3ff8000000000000⟩] ws := by
  intro b
  have hends : (encode 0 0 (pointerTo doubleBox) (slot 8)
      (.struct doubleOnly [.float ⟨0x3ff8000000000000⟩])).endsWith (fun _ _ => true) b = true := by
    decide +kernel
  obtain ⟨r, b', hrun, -⟩ := exists_of_endsWith hends
  have hwork : ReflTransGen HostWork default b := .single (.of_step (.openContext {} {}) rfl)
  obtain ⟨a, B, hr, -, hkept, -, -, -, -, hread⟩ :=
    pointee_delivered hwork (by decide +kernel) (by decide +kernel) hrun
  have hlaid : (pointerTo doubleBox).Laid :=
    .pointee (List.forall_mem_singleton.mpr (.scalar (by decide)))
  have hv : DeliverableFields 0 b doubleBox.fields [.float ⟨0x3ff8000000000000⟩] :=
    .cons (.plain rfl .scalar) .nil
  have hword : ofWordBytes r.1 = a := by
    rw [hr]
    simpa using ofWordBytes_writeWord (slot 8) [] a
  obtain ⟨-, -, hdelivered⟩ := hread b' r.1 .refl hword
  exact ⟨r, b', a, hrun, hr, hkept, hdelivered hlaid rfl (by decide +kernel) hv⟩

/-- A struct is passed by address, and read as the pointer tells. -/
def passStruct (l layout : Layout) (vs : List Value) : Act Value := do
  let (bytes, _) ← encode 0 0 (pointerTo l) (slot 8) (.struct layout vs)
  decode 0 (pointerTo l) bytes

/-- The bits of the number in a struct of one double. -/
def doubleBits? : Value → Option UInt64
  | .struct _ [.float x] => some x.bits
  | _ => none

lemma eq_of_doubleBits? {v : Value} {bits : UInt64} (h : doubleBits? v = some bits) :
    ∃ l x, v = .struct l [.float x] ∧ x.bits = bits := by
  unfold doubleBits? at h
  split at h
  · exact ⟨_, _, rfl, Option.some.inj h⟩
  · cases h

/-- Whether a run ends in an access outside of memory. -/
def faultsBadly (x : Act Value) (b : Bridge) : Bool :=
  match EStateM.run x b with
  | .error (.fault .badAccess) _ => true
  | _ => false

lemma exists_of_faultsBadly {x : Act Value} (h : faultsBadly x b = true) :
    ∃ b', EStateM.run x b = .error (.fault .badAccess) b' := by
  unfold faultsBadly at h
  split at h
  · next hrun => exact ⟨_, hrun⟩
  · cases h

/-- **A struct of another layout**: an integer that is passed by address for a double is accepted, and its
bits are read as a double, although it is one as a double. Where four doubles are read, the buffer of the
integer that is accepted for them does not have them. -/
theorem not_delivered_integer :
    let b : Bridge := (Bridge.openContext {} {} {}).2
    (∃ l x b', EStateM.run (passStruct doubleBox integerBox [.int 1]) b = .ok (.struct l [.float x]) b' ∧
      x.bits = 1) ∧
    (Primitive.double.norm? (.int 1) = some (.float ⟨0x3ff0000000000000⟩)) ∧
    (∃ r b', EStateM.run (encode 0 0 (pointerTo doubleFour) (slot 8) (.struct integerBox [.int 1])) b =
      .ok r b') ∧
    ∃ b', EStateM.run (passStruct doubleFour integerBox [.int 1]) b = .error (.fault .badAccess) b' := by
  intro b
  have hbits : (passStruct doubleBox integerBox [.int 1]).endsWith
      (fun v _ => doubleBits? v == some 1) b = true := by decide +kernel
  have hends : (encode 0 0 (pointerTo doubleFour) (slot 8) (.struct integerBox [.int 1])).endsWith
      (fun _ _ => true) b = true := by decide +kernel
  have hfault : faultsBadly (passStruct doubleFour integerBox [.int 1]) b = true := by decide +kernel
  obtain ⟨w, b', hrun, hw⟩ := exists_of_endsWith hbits
  obtain ⟨r, b₁, hencode, -⟩ := exists_of_endsWith hends
  obtain ⟨l, x, rfl, hx⟩ := eq_of_doubleBits? (beq_iff_eq.mp hw)
  exact ⟨⟨l, x, b', hrun, hx⟩, rfl, ⟨r, b₁, hencode⟩, exists_of_faultsBadly hfault⟩

end Act

end MessageBridge
