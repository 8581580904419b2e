import MessageBridge.Proofs.Space.Declarations
import MessageBridge.Proofs.Space.Memory
import MessageBridge.Space.Exception

/-!
# What every operation of the object space keeps

Selectors are never taken back, blocks of memory are only handed out, written and taken back, and no
methods are declared, whatever is done to classes, objects and exceptions. So memory stays sound.

## Main definitions

* `SelectorTable.Extends` — every selector of the older table still has its name.
* `ObjectSpace.Changes` — what operations make of an object space.
* `ObjectSpace.Grows` — the older space grew into the newer one.

## Main results

* `ObjectSpace.Changes.grows` — a space that changes so grows.
* `ObjectSpace.createInstance_eq` — what creating an instance does.
* `ObjectSpace.changes_intern`, `ObjectSpace.changes_createInstance`, `ObjectSpace.changes_write?`,
  `ObjectSpace.changes_dispose?` — selectors, instances and memory.
* `ObjectSpace.changes_newException?`, `ObjectSpace.changes_raise?`,
  `ObjectSpace.changes_disposeException?` — exceptions.
-/

namespace MessageBridge

/-- **Extends**: every selector of the older table is there in the newer one, under its name. -/
def SelectorTable.Extends (t t' : SelectorTable) : Prop :=
  ∀ sel : Selector, sel.index < t.names.size →
    sel.index < t'.names.size ∧ t'.name sel = t.name sel

namespace SelectorTable.Extends

lemma refl (t : SelectorTable) : t.Extends t := fun _ h => ⟨h, rfl⟩

lemma trans {t t' t'' : SelectorTable} (h : t.Extends t') (h' : t'.Extends t'') : t.Extends t'' := by
  intro sel hsel
  obtain ⟨hsel', hname⟩ := h sel hsel
  obtain ⟨hsel'', hname'⟩ := h' sel hsel'
  exact ⟨hsel'', hname'.trans hname⟩

lemma intern (t : SelectorTable) (name : String) : t.Extends (t.intern name).2 := by
  intro sel hsel
  refine ⟨?_, name_intern_of_mem t name hsel⟩
  unfold SelectorTable.intern
  split
  · exact hsel
  · simp only [Array.size_push]
    omega

end SelectorTable.Extends

namespace ObjectSpace

/-- **Grows**: the selectors are still there, and memory is as sound as it was. -/
structure Grows (s s' : ObjectSpace) : Prop where
  memory : s.memory.Sound → s'.memory.Sound
  selectors : s.selectors.Extends s'.selectors

/-- **Changes**: the selectors are still there, under names that are as distinct as they were, memory
changed block by block, and nothing new is declared. -/
structure Changes (s s' : ObjectSpace) : Prop where
  memory : s.memory.Changes s'.memory
  selectors : s.selectors.Extends s'.selectors
  distinct : s.selectors.Distinct → s'.selectors.Distinct
  encloses : s.classes.Encloses s'.classes

variable {s s' s'' : ObjectSpace} {a : Address}

lemma Grows.refl (s : ObjectSpace) : s.Grows s := ⟨id, .refl _⟩

namespace Changes

lemma grows (h : s.Changes s') : s.Grows s' := ⟨h.memory.sound, h.selectors⟩

lemma refl (s : ObjectSpace) : s.Changes s := ⟨.refl _, .refl _, id, .refl _⟩

lemma trans (h : s.Changes s') (h' : s'.Changes s'') : s.Changes s'' :=
  ⟨h.memory.trans h'.memory, h.selectors.trans h'.selectors, h'.distinct ∘ h.distinct,
    h.encloses.trans h'.encloses⟩

/-- A space with the same memory and the same selectors. -/
lemma of_eq (hmemory : s'.memory = s.memory) (hselectors : s'.selectors = s.selectors)
    (hclasses : s.classes.Encloses s'.classes) : s.Changes s' := by
  refine ⟨?_, ?_, ?_, hclasses⟩
  · rw [hmemory]
    exact .refl _
  · rw [hselectors]
    exact .refl _
  · rw [hselectors]
    exact id

/-- A space in which only a block of memory changed. -/
lemma of_memory {memory : Memory} (h : s.memory.Change memory) : s.Changes { s with memory } :=
  ⟨.of_change h, .refl _, id, .refl _⟩

end Changes

lemma changes_intern (s : ObjectSpace) (name : String) : s.Changes (s.intern name).2 :=
  ⟨.refl _, .intern _ name, (·.intern name), .refl _⟩

lemma changes_withClasses {classes : ClassTable} (h : s.classes.Encloses classes) :
    s.Changes (s.withClasses classes) := .of_eq rfl rfl h

lemma changes_throw (s : ObjectSpace) (a : Address) : s.Changes (s.throw a) :=
  .of_eq rfl rfl (.refl _)

lemma changes_takeRaised (s : ObjectSpace) : s.Changes s.takeRaised.2 := .of_eq rfl rfl (.refl _)

/-! ## Memory and instances -/

lemma changes_setClassHead? {c : ClassId} {head : List UInt8}
    (h : s.setClassHead? c head = some s') : s.Changes s' := by
  obtain ⟨isa, -, h⟩ := Option.bind_eq_some_iff.mp h
  simp only at h
  split at h
  · cases h
    exact changes_withClasses (.modify (by exact fun _ => rfl) _ _)
  · obtain ⟨parent, -, h⟩ := Option.bind_eq_some_iff.mp h
    cases h
    exact changes_withClasses (.modify (by exact fun _ => rfl) _ _)

lemma changes_writeIn? {bytes : List UInt8} {around : Option (ClassId × Nat)}
    (h : s.writeIn? a bytes around = some s') : s.Changes s' := by
  cases around with
  | some around =>
    obtain ⟨c, offset⟩ := around
    simp only [writeIn?] at h
    split at h
    · exact changes_setClassHead? h
    · cases h
  | none =>
    obtain ⟨memory, hmemory, rfl⟩ := Option.map_eq_some_iff.mp h
    exact .of_memory (.write hmemory)

lemma changes_write? {bytes : List UInt8} (h : s.write? a bytes = some s') : s.Changes s' :=
  changes_writeIn? h

lemma changes_free? (h : s.free? a = some s') : s.Changes s' := by
  obtain ⟨memory, hmemory, rfl⟩ := Option.map_eq_some_iff.mp h
  exact .of_memory (.free hmemory)

lemma changes_copyString (s : ObjectSpace) (bytes : List UInt8) : s.Changes (s.copyString bytes).2 := by
  unfold copyString
  split
  · next hmemory => exact .of_memory (.allocate hmemory)
  · exact .refl s

/-- **What creating an instance does**: nothing, or a block that begins with the class is allocated. -/
lemma createInstance_eq (s : ObjectSpace) (c : ClassId) (extra : UInt64) :
    s.createInstance c extra = (0, s) ∨
      ∃ a memory, s.memory.allocate (allocationSize (s.classes.get c).instanceSize extra).toNat
          (wordBytes c.address) = some (a, memory) ∧
        s.createInstance c extra = (a, { s with memory }) := by
  simp only [createInstance]
  split
  · exact .inl rfl
  · split
    · next hmemory => exact .inr ⟨_, _, hmemory, rfl⟩
    · exact .inl rfl

/-- What creating an instance did if there is one. -/
lemma allocate_of_createInstance {c : ClassId} {extra : UInt64}
    (h : s.createInstance c extra = (a, s')) (ha : a ≠ 0) :
    s.memory.allocate (allocationSize (s.classes.get c).instanceSize extra).toNat
      (wordBytes c.address) = some (a, s'.memory) ∧ s' = { s with memory := s'.memory } := by
  rcases createInstance_eq s c extra with heq | ⟨a', memory, hmemory, heq⟩
  · cases heq.symm.trans h
    exact absurd rfl ha
  · cases heq.symm.trans h
    exact ⟨hmemory, rfl⟩

lemma classes_createInstance (s : ObjectSpace) (c : ClassId) (extra : UInt64) :
    (s.createInstance c extra).2.classes = s.classes := by
  rcases createInstance_eq s c extra with heq | ⟨_, _, -, heq⟩
  all_goals rw [heq]

lemma changes_createInstance (s : ObjectSpace) (c : ClassId) (extra : UInt64) :
    s.Changes (s.createInstance c extra).2 := by
  rcases createInstance_eq s c extra with heq | ⟨_, _, hmemory, heq⟩
  · rw [heq]
    exact .refl s
  · rw [heq]
    exact .of_memory (.allocate hmemory)

lemma changes_dispose? (h : s.dispose? a = some s') : s.Changes s' :=
  (Changes.of_eq rfl rfl (.refl _) :
    s.Changes { s with associations := s.associations.clear a }).trans (changes_free? h)

lemma changes_allocateStorage (s : ObjectSpace) (extra : UInt64) :
    s.Changes (s.allocateStorage extra).2 := by
  unfold allocateStorage
  split
  · exact .refl s
  · split
    · next hmemory => exact .of_memory (.allocate hmemory)
    · exact .refl s

lemma changes_allocatePair (s : ObjectSpace) (parent : Option ClassId) (name : String)
    (extra : UInt64) : s.Changes (s.allocatePair parent name extra).2 := by
  have hclasses (s : ObjectSpace) : (s.allocateStorage extra).2.classes = s.classes := by
    unfold allocateStorage
    split
    · rfl
    · split <;> rfl
  simp only [allocatePair]
  split
  · next hpair =>
    refine ((changes_allocateStorage s extra).trans (changes_allocateStorage _ extra)).trans
      (changes_withClasses ?_)
    rw [hclasses, hclasses]
    exact .allocated (ClassTable.allocated_of_allocatePair? hpair)
  · exact .refl s

/-! ## Exceptions -/

lemma changes_setText? {name : String} {bytes : List UInt8} (h : s.setText? a name bytes = some s') :
    s.Changes s' := by
  obtain ⟨slot, -, h⟩ := Option.bind_eq_some_iff.mp h
  cases slot with
  | some slot => exact (changes_copyString s bytes).trans (changes_write? h)
  | none =>
    cases h
    exact .refl s

/-- What every step of a chain of changes keeps is kept by the whole chain. -/
lemma changes_foldlM {β : Type} {f : ObjectSpace → β → Option ObjectSpace}
    (hf : ∀ s x s', f s x = some s' → s.Changes s') (xs : List β) (s : ObjectSpace)
    (h : xs.foldlM f s = some s') : s.Changes s' := by
  induction xs generalizing s with
  | nil =>
    cases h
    exact .refl _
  | cons x xs ih =>
    obtain ⟨s₁, hs₁, h⟩ := Option.bind_eq_some_iff.mp h
    exact (hf s x s₁ hs₁).trans (ih s₁ h)

lemma changes_newException? {c : ClassId} {texts : List (Option (List UInt8))}
    (h : s.newException? c texts = some (a, s')) : s.Changes s' := by
  have hcreate := changes_createInstance s c 0
  simp only [newException?] at h
  split at h
  · cases h
    exact hcreate
  · obtain ⟨s₁, hs₁, h⟩ := Option.bind_eq_some_iff.mp h
    cases h
    refine hcreate.trans (changes_foldlM (fun s x s' hstep => ?_) _ _ hs₁)
    obtain ⟨name, bytes⟩ := x
    cases bytes with
    | some bytes => exact changes_setText? hstep
    | none =>
      cases hstep
      exact .refl _

lemma changes_raise? {name reason : String} (h : s.raise? name reason = some s') : s.Changes s' := by
  unfold raise? at h
  split at h
  · obtain ⟨⟨a, s₁⟩, hs₁, h⟩ := Option.bind_eq_some_iff.mp h
    have hnew := changes_newException? hs₁
    cases h
    split
    · exact hnew
    · exact hnew.trans (changes_throw s₁ a)
  · cases h
    exact .refl s

lemma changes_disposeException? (h : s.disposeException? a = some s') : s.Changes s' := by
  obtain ⟨s₁, hs₁, h⟩ := Option.bind_eq_some_iff.mp h
  refine (changes_foldlM (fun s name s' hstep => ?_) _ _ hs₁).trans (changes_dispose? h)
  obtain ⟨text, -, hfree⟩ := Option.bind_eq_some_iff.mp hstep
  exact changes_free? hfree

end ObjectSpace

end MessageBridge
