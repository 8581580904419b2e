import MessageBridge.Proofs.Space.ClassTable
import Mathlib.Data.List.Nodup
import Mathlib.Data.List.Perm.Subperm

/-!
# The hierarchy of classes

Going up from a class one comes to a root after finitely many steps, and never twice to the same
class. That is why the chain of a class, which is cut off at the size of the table, is all of it, and
why a new class does not get into the chains of the others.

Classes come in pairs with their metaclasses. The metaclasses go up side by side with their classes,
and from the metaclass of a root to the root itself.

## Main definitions

* `ClassTable.Has` — the class is in the table.
* `ClassTable.Ascends` — the classes from a class up to a root.
* `ClassTable.Hierarchy` — classes and metaclasses are paired, and every class ascends to a root.

## Main results

* `ClassTable.Hierarchy.ascends_chain` — the chain of a class ascends to a root.
* `ClassTable.AlikeAbove.hierarchy`, `ClassTable.Allocated.hierarchy`, `ClassTable.Moved.hierarchy` —
  changes of the table keep the hierarchy.
-/

namespace MessageBridge.ClassTable

variable {t t' : ClassTable} {c d p : ClassId} {cs : List ClassId}

/-! ## Records -/

/-- The class is in the table. -/
def Has (t : ClassTable) (c : ClassId) : Prop := c.index < t.records.size

instance (t : ClassTable) (c : ClassId) : Decidable (t.Has c) :=
  inferInstanceAs (Decidable (_ < _))

lemma get_modify (t : ClassTable) (c : ClassId) (f : ClassRecord → ClassRecord) (d : ClassId) :
    (t.modify c f).get d = if d = c ∧ t.Has c then f (t.get d) else t.get d := by
  obtain ⟨i⟩ := c
  obtain ⟨j⟩ := d
  simp only [get, modify, Has, Array.getElem?_modify, ClassId.mk.injEq]
  by_cases hij : j = i
  · subst hij
    by_cases hj : j < t.records.size
    · simp [hj]
    · simp [hj]
  · rw [if_neg (Ne.symm hij), if_neg (fun h => hij h.1)]

/-- What a change of a record leaves alone is left alone in all of them. -/
lemma get_modify_of_eq {α : Type} (g : ClassRecord → α) {f : ClassRecord → ClassRecord}
    (hf : ∀ r, g (f r) = g r) (t : ClassTable) (c d : ClassId) :
    g ((t.modify c f).get d) = g (t.get d) := by
  rw [get_modify]
  split
  · exact hf _
  · rfl

@[simp] lemma has_modify {f : ClassRecord → ClassRecord} : (t.modify c f).Has d ↔ t.Has d := by
  simp [Has, modify]

@[simp] lemma get_invalidate : t.invalidate.get d = t.get d := rfl

/-! ## Ascent -/

/-- **Ascends**: the list leads from the class over its superclasses up to a root. -/
inductive Ascends (t : ClassTable) : ClassId → List ClassId → Prop
  | root {c : ClassId} (h : (t.get c).superclass? = none) : Ascends t c [c]
  | up {c p : ClassId} {cs : List ClassId} (h : (t.get c).superclass? = some p)
      (hp : Ascends t p cs) : Ascends t c (c :: cs)

namespace Ascends

lemma unique {cs' : List ClassId} (h : t.Ascends c cs) (h' : t.Ascends c cs') : cs = cs' := by
  induction h generalizing cs' with
  | root hroot =>
    cases h' with
    | root => rfl
    | up h => cases hroot.symm.trans h
  | up hbelow _ ih =>
    cases h' with
    | root h => cases hbelow.symm.trans h
    | up h hp =>
      cases hbelow.symm.trans h
      rw [ih hp]

lemma mem_self (h : t.Ascends c cs) : c ∈ cs := by
  cases h <;> exact List.mem_cons_self

/-- From every class on the way the rest of the way leads up. -/
lemma exists_suffix (h : t.Ascends c cs) (hd : d ∈ cs) : ∃ ds, ds <:+ cs ∧ t.Ascends d ds := by
  induction h with
  | root hroot =>
    obtain rfl := List.mem_singleton.mp hd
    exact ⟨_, List.suffix_rfl, .root hroot⟩
  | @up c p cs hbelow hp ih =>
    rcases List.mem_cons.mp hd with rfl | hd
    · exact ⟨_, List.suffix_rfl, .up hbelow hp⟩
    · obtain ⟨ds, hsuffix, hds⟩ := ih hd
      exact ⟨ds, hsuffix.trans (List.suffix_cons c cs), hds⟩

/-- No class is met twice on the way up. -/
lemma nodup (h : t.Ascends c cs) : cs.Nodup := by
  induction h with
  | root => exact List.nodup_singleton _
  | @up c p cs hbelow hp ih =>
    refine List.nodup_cons.mpr ⟨fun hmem => ?_, ih⟩
    -- otherwise the way up from the class would be shorter than itself
    obtain ⟨ds, hsuffix, hds⟩ := hp.exists_suffix hmem
    obtain rfl := hds.unique (.up hbelow hp)
    have hle := hsuffix.length_le
    simp only [List.length_cons] at hle
    omega

/-- The way up through a table is no longer than the table. -/
lemma length_le (h : t.Ascends c cs) (hcs : ∀ d ∈ cs, t.Has d) : cs.length ≤ t.records.size := by
  have hnodup : (cs.map ClassId.index).Nodup :=
    h.nodup.map fun c d heq => by cases c; cases d; exact congrArg _ heq
  have hsubset : cs.map ClassId.index ⊆ List.range t.records.size := fun i hi => by
    obtain ⟨d, hd, rfl⟩ := List.mem_map.mp hi
    exact List.mem_range.mpr (hcs d hd)
  simpa using (hnodup.subperm hsubset).length_le

/-- The chain with enough room is the way up. -/
lemma chainUpTo_eq (h : t.Ascends c cs) {n : Nat} (hn : cs.length ≤ n) : t.chainUpTo n c = cs := by
  induction h generalizing n with
  | root hroot =>
    obtain ⟨n, rfl⟩ := Nat.exists_eq_add_of_le' hn
    simp [chainUpTo, hroot]
  | up hbelow _ ih =>
    obtain ⟨n, rfl⟩ : ∃ k, n = k + 1 := ⟨n - 1, by simp only [List.length_cons] at hn; omega⟩
    simp only [chainUpTo, hbelow]
    rw [ih (by simpa using hn)]

/-- The way up does not change where no superclass on it does. -/
lemma congr (h : t.Ascends c cs)
    (heq : ∀ d ∈ cs, (t'.get d).superclass? = (t.get d).superclass?) : t'.Ascends c cs := by
  induction h with
  | root hroot => exact .root ((heq _ List.mem_cons_self).trans hroot)
  | up hbelow _ ih =>
    exact .up ((heq _ List.mem_cons_self).trans hbelow)
      (ih fun d hd => heq d (List.mem_cons_of_mem _ hd))

end Ascends

/-! ## The hierarchy -/

/-- A class that is no metaclass. -/
def HasClass (t : ClassTable) (c : ClassId) : Prop := t.Has c ∧ (t.get c).isMeta = false

/-- **The hierarchy** of a class table. -/
structure Hierarchy (t : ClassTable) : Prop where
  /-- A class has a metaclass. -/
  metaclass : ∀ c, t.HasClass c → t.Has (t.metaclass c) ∧ (t.get (t.metaclass c)).isMeta = true
  /-- No other class has the same one. -/
  metaclass_inj : ∀ c d, t.HasClass c → t.HasClass d → t.metaclass c = t.metaclass d → c = d
  /-- Every metaclass is that of a class. -/
  exists_class : ∀ m, t.Has m → (t.get m).isMeta = true → ∃ c, t.HasClass c ∧ t.metaclass c = m
  /-- A class has no metaclass above it. -/
  parent : ∀ c p, t.HasClass c → (t.get c).superclass? = some p → t.HasClass p
  /-- The metaclass goes up with the class, at last to the root. -/
  metaParent : ∀ c, t.HasClass c → (t.get (t.metaclass c)).superclass? =
    some (((t.get c).superclass?.map t.metaclass).getD c)
  /-- Going up from a class comes to an end. -/
  ascends : ∀ c, t.HasClass c → ∃ cs, t.Ascends c cs

namespace Hierarchy

/-- What is above a class of the table is in the table. -/
lemma has_parent (ht : t.Hierarchy) (hc : t.Has c) (h : (t.get c).superclass? = some p) :
    t.Has p := by
  cases hmeta : (t.get c).isMeta with
  | false => exact (ht.parent c p ⟨hc, hmeta⟩ h).1
  | true =>
    obtain ⟨k, hk, rfl⟩ := ht.exists_class c hc hmeta
    obtain rfl := Option.some.inj (h.symm.trans (ht.metaParent k hk))
    cases hparent : (t.get k).superclass? with
    | none => exact hk.1
    | some q => exact (ht.metaclass q (ht.parent k q hk hparent)).1

lemma has_of_mem (ht : t.Hierarchy) (h : t.Ascends c cs) (hc : t.Has c) : ∀ d ∈ cs, t.Has d := by
  induction h with
  | root => exact List.forall_mem_singleton.mpr hc
  | up hbelow _ ih => exact List.forall_mem_cons.mpr ⟨hc, ih (ht.has_parent hc hbelow)⟩

lemma hasClass_of_mem (ht : t.Hierarchy) (h : t.Ascends c cs) (hc : t.HasClass c) :
    ∀ d ∈ cs, t.HasClass d := by
  induction h with
  | root => exact List.forall_mem_singleton.mpr hc
  | up hbelow _ ih => exact List.forall_mem_cons.mpr ⟨hc, ih (ht.parent _ _ hc hbelow)⟩

/-- The metaclass of a class ascends beside it. -/
lemma exists_ascends_metaclass (ht : t.Hierarchy) (h : t.Ascends c cs) (hc : t.HasClass c) :
    ∃ ms, t.Ascends (t.metaclass c) ms := by
  induction h with
  | @root c hroot =>
    have hmeta := ht.metaParent c hc
    rw [hroot] at hmeta
    exact ⟨_, .up hmeta (.root hroot)⟩
  | @up c p cs hbelow _ ih =>
    obtain ⟨ms, hms⟩ := ih (ht.parent c p hc hbelow)
    have hmeta := ht.metaParent c hc
    rw [hbelow] at hmeta
    exact ⟨_, .up hmeta hms⟩

lemma exists_ascends (ht : t.Hierarchy) (hc : t.Has c) : ∃ cs, t.Ascends c cs := by
  cases hmeta : (t.get c).isMeta with
  | false => exact ht.ascends c ⟨hc, hmeta⟩
  | true =>
    obtain ⟨k, hk, rfl⟩ := ht.exists_class c hc hmeta
    obtain ⟨cs, hcs⟩ := ht.ascends k hk
    exact ht.exists_ascends_metaclass hcs hk

/-- The way up is no longer than the table. -/
lemma length_le (ht : t.Hierarchy) (h : t.Ascends c cs) (hc : t.Has c) :
    cs.length ≤ t.records.size := h.length_le (ht.has_of_mem h hc)

/-- The chain of a class is its whole way up. -/
lemma chain_eq (ht : t.Hierarchy) (h : t.Ascends c cs) (hc : t.Has c) : t.chain c = cs :=
  h.chainUpTo_eq (ht.length_le h hc)

/-- **Chains are whole**: the chain of a class ascends to a root. -/
theorem ascends_chain (ht : t.Hierarchy) (hc : t.Has c) : t.Ascends c (t.chain c) := by
  obtain ⟨cs, hcs⟩ := ht.exists_ascends hc
  rwa [ht.chain_eq hcs hc]

end Hierarchy

/-! ## Changes that leave the hierarchy alone -/

/-- **Alike**: as many classes, and the same superclasses and metaclasses. -/
structure AlikeAbove (t t' : ClassTable) : Prop where
  size : t'.records.size = t.records.size
  isMeta : ∀ c, (t'.get c).isMeta = (t.get c).isMeta
  isa : ∀ c, (t'.get c).isa = (t.get c).isa
  superclass : ∀ c, (t'.get c).superclass? = (t.get c).superclass?

namespace AlikeAbove

lemma has_iff (h : t.AlikeAbove t') : t'.Has c ↔ t.Has c := by rw [Has, h.size, Has]

lemma hasClass_iff (h : t.AlikeAbove t') : t'.HasClass c ↔ t.HasClass c := by
  rw [HasClass, h.has_iff, h.isMeta, HasClass]

/-- A change of one record that leaves alone what is above the class. -/
lemma modify {f : ClassRecord → ClassRecord} (hmeta : ∀ r, (f r).isMeta = r.isMeta)
    (hisa : ∀ r, (f r).isa = r.isa) (hsuper : ∀ r, (f r).superclass? = r.superclass?)
    (t : ClassTable) (c : ClassId) : t.AlikeAbove (t.modify c f) where
  size := by simp [ClassTable.modify]
  isMeta d := get_modify_of_eq ClassRecord.isMeta hmeta t c d
  isa d := get_modify_of_eq ClassRecord.isa hisa t c d
  superclass d := get_modify_of_eq ClassRecord.superclass? hsuper t c d

lemma trans {t'' : ClassTable} (h : t.AlikeAbove t') (h' : t'.AlikeAbove t'') :
    t.AlikeAbove t'' where
  size := h'.size.trans h.size
  isMeta c := (h'.isMeta c).trans (h.isMeta c)
  isa c := (h'.isa c).trans (h.isa c)
  superclass c := (h'.superclass c).trans (h.superclass c)

lemma hierarchy (h : t.AlikeAbove t') (ht : t.Hierarchy) : t'.Hierarchy where
  metaclass c hc := by
    rw [ClassTable.metaclass, h.isa, h.has_iff, h.isMeta]
    exact ht.metaclass c (h.hasClass_iff.mp hc)
  metaclass_inj c d hc hd heq := by
    rw [ClassTable.metaclass, ClassTable.metaclass, h.isa, h.isa] at heq
    exact ht.metaclass_inj c d (h.hasClass_iff.mp hc) (h.hasClass_iff.mp hd) heq
  exists_class m hm hmeta := by
    obtain ⟨c, hc, heq⟩ := ht.exists_class m (h.has_iff.mp hm) ((h.isMeta m).symm.trans hmeta)
    exact ⟨c, h.hasClass_iff.mpr hc, (h.isa c).trans heq⟩
  parent c p hc hp :=
    h.hasClass_iff.mpr (ht.parent c p (h.hasClass_iff.mp hc) ((h.superclass c).symm.trans hp))
  metaParent c hc := by
    have hmap : t'.metaclass = t.metaclass := funext h.isa
    rw [hmap, h.superclass, h.superclass]
    exact ht.metaParent c (h.hasClass_iff.mp hc)
  ascends c hc := by
    obtain ⟨cs, hcs⟩ := ht.ascends c (h.hasClass_iff.mp hc)
    exact ⟨cs, hcs.congr fun d _ => h.superclass d⟩

/-- Chains are the same. -/
lemma chain_eq (h : t.AlikeAbove t') (c : ClassId) : t'.chain c = t.chain c := by
  have hupTo (n : Nat) (c : ClassId) : t'.chainUpTo n c = t.chainUpTo n c := by
    induction n generalizing c with
    | zero => rfl
    | succ n ih =>
      simp only [chainUpTo, h.superclass]
      cases (t.get c).superclass? with
      | none => rfl
      | some p => simp only [ih]
  rw [chain, chain, h.size, hupTo]

end AlikeAbove

/-! ## New classes -/

/-- **Allocated**: the class and its metaclass are new, without methods and with empty caches, and
nothing else has changed. -/
structure Allocated (t : ClassTable) (parent : Option ClassId) (c : ClassId) (t' : ClassTable) :
    Prop where
  has_iff : ∀ d, t'.Has d ↔ t.Has d ∨ d = t'.metaclass c ∨ d = c
  get_eq : ∀ d, t.Has d → t'.get d = t.get d
  epoch : t'.epoch = t.epoch
  new_class : ¬ t.Has c
  new_metaclass : ¬ t.Has (t'.metaclass c)
  isMeta : (t'.get c).isMeta = false ∧ (t'.get (t'.metaclass c)).isMeta = true
  superclass : (t'.get c).superclass? = parent
  metaSuperclass : (t'.get (t'.metaclass c)).superclass? = some ((parent.map t.metaclass).getD c)
  cache : (t'.get c).cache = {} ∧ (t'.get (t'.metaclass c)).cache = {}
  methods : (t'.get c).methods = [] ∧ (t'.get (t'.metaclass c)).methods = []
  parent : ∀ p ∈ parent, (t.get p).isMeta = false

/-- What an allocation that succeeds does. -/
lemma allocated_of_allocatePair? {parent : Option ClassId} {name : String}
    {metaStorage classStorage : Option Address}
    (h : t.allocatePair? parent name metaStorage classStorage = some (c, t')) :
    t.Allocated parent c t' := by
  unfold allocatePair? at h
  split at h
  · cases h
  · next hguard =>
    simp only [Option.some.injEq, Prod.mk.injEq] at h
    obtain ⟨rfl, rfl⟩ := h
    simp only [Bool.or_eq_true, not_or, Bool.not_eq_true] at hguard
    have hclass (m k : ClassRecord) :
        ({ t with records := (t.records.push m).push k } : ClassTable).get ⟨t.records.size + 1⟩ =
          k := by
      simp only [get, Array.getElem?_push, Array.size_push, if_true, Option.getD_some]
    have hmeta (m k : ClassRecord) :
        ({ t with records := (t.records.push m).push k } : ClassTable).get ⟨t.records.size⟩ =
          m := by
      simp only [get, Array.getElem?_push, Array.size_push]
      rw [if_neg (by omega), if_true, Option.getD_some]
    have hold (m k : ClassRecord) (d : ClassId) (hd : t.Has d) :
        ({ t with records := (t.records.push m).push k } : ClassTable).get d = t.get d := by
      have hd : d.index < t.records.size := hd
      simp only [get, Array.getElem?_push, Array.size_push]
      rw [if_neg (by omega), if_neg (by omega)]
    exact {
      has_iff := fun d => by
        obtain ⟨i⟩ := d
        simp only [metaclass, hclass, Has, Array.size_push, ClassId.mk.injEq]
        omega
      get_eq := hold _ _
      epoch := rfl
      new_class := by simp [Has]
      new_metaclass := by simp [metaclass, hclass, Has]
      isMeta := by simp only [metaclass, hclass, hmeta, and_self]
      superclass := by simp only [hclass]
      metaSuperclass := by simp only [metaclass, hclass, hmeta]
      cache := by simp only [metaclass, hclass, hmeta, and_self]
      methods := by simp only [metaclass, hclass, hmeta, and_self]
      parent := fun p hp => by simpa [Option.mem_def.mp hp] using hguard.1 }

namespace Allocated

variable {parent : Option ClassId}

lemma hasClass_iff (h : t.Allocated parent c t') : t'.HasClass d ↔ t.HasClass d ∨ d = c := by
  rw [HasClass, h.has_iff, HasClass]
  constructor
  · rintro ⟨hd | rfl | rfl, hmeta⟩
    · exact .inl ⟨hd, h.get_eq d hd ▸ hmeta⟩
    · cases hmeta.symm.trans h.isMeta.2
    · exact .inr rfl
  · rintro (⟨hd, hmeta⟩ | rfl)
    · exact ⟨.inl hd, (h.get_eq d hd).symm ▸ hmeta⟩
    · exact ⟨.inr (.inr rfl), h.isMeta.1⟩

lemma metaclass_eq (h : t.Allocated parent c t') (hd : t.Has d) :
    t'.metaclass d = t.metaclass d := by
  rw [metaclass, h.get_eq d hd, metaclass]

lemma has (h : t.Allocated parent c t') (hd : t.Has d) : t'.Has d := (h.has_iff d).mpr (.inl hd)

/-- The ways up that there were stay. -/
lemma ascends (h : t.Allocated parent c t') (ht : t.Hierarchy) (hd : t.Has d)
    (hcs : t.Ascends d cs) : t'.Ascends d cs :=
  hcs.congr fun e he => by rw [h.get_eq e (ht.has_of_mem hcs hd e he)]

lemma hierarchy (h : t.Allocated parent c t') (ht : t.Hierarchy) (hparent : ∀ p ∈ parent, t.Has p) :
    t'.Hierarchy where
  metaclass d hd := by
    rcases h.hasClass_iff.mp hd with hd | rfl
    · obtain ⟨hhas, hmeta⟩ := ht.metaclass d hd
      rw [h.metaclass_eq hd.1, h.get_eq _ hhas]
      exact ⟨h.has hhas, hmeta⟩
    · exact ⟨(h.has_iff _).mpr (.inr (.inl rfl)), h.isMeta.2⟩
  metaclass_inj d e hd he heq := by
    rcases h.hasClass_iff.mp hd with hd | rfl <;> rcases h.hasClass_iff.mp he with he | rfl
    · rw [h.metaclass_eq hd.1, h.metaclass_eq he.1] at heq
      exact ht.metaclass_inj d e hd he heq
    · rw [h.metaclass_eq hd.1] at heq
      exact absurd (heq ▸ (ht.metaclass d hd).1) h.new_metaclass
    · rw [h.metaclass_eq he.1] at heq
      exact absurd (heq ▸ (ht.metaclass e he).1) h.new_metaclass
    · rfl
  exists_class m hm hmeta := by
    rcases (h.has_iff m).mp hm with hm | rfl | rfl
    · rw [h.get_eq m hm] at hmeta
      obtain ⟨d, hd, heq⟩ := ht.exists_class m hm hmeta
      exact ⟨d, h.hasClass_iff.mpr (.inl hd), (h.metaclass_eq hd.1).trans heq⟩
    · exact ⟨c, h.hasClass_iff.mpr (.inr rfl), rfl⟩
    · cases hmeta.symm.trans h.isMeta.1
  parent d p hd hp := by
    rw [h.hasClass_iff]
    rcases h.hasClass_iff.mp hd with hd | rfl
    · rw [h.get_eq d hd.1] at hp
      exact .inl (ht.parent d p hd hp)
    · have hmem : p ∈ parent := h.superclass.symm.trans hp
      exact .inl ⟨hparent p hmem, h.parent p hmem⟩
  metaParent d hd := by
    rcases h.hasClass_iff.mp hd with hd | rfl
    · rw [h.metaclass_eq hd.1, h.get_eq _ (ht.metaclass d hd).1, h.get_eq d hd.1, ht.metaParent d hd]
      cases hp : (t.get d).superclass? with
      | none => rfl
      | some p => simp [h.metaclass_eq (ht.parent d p hd hp).1]
    · rw [h.metaSuperclass, h.superclass]
      cases parent with
      | none => rfl
      | some p => simp [h.metaclass_eq (hparent p rfl)]
  ascends d hd := by
    rcases h.hasClass_iff.mp hd with hd | rfl
    · obtain ⟨cs, hcs⟩ := ht.ascends d hd
      exact ⟨cs, h.ascends ht hd.1 hcs⟩
    · cases parent with
      | none => exact ⟨_, .root h.superclass⟩
      | some p =>
        obtain ⟨cs, hcs⟩ := ht.exists_ascends (hparent p rfl)
        exact ⟨_, .up h.superclass (h.ascends ht (hparent p rfl) hcs)⟩

/-- Chains stay as they are: no new class gets into them. -/
lemma chain_eq (h : t.Allocated parent c t') (ht : t.Hierarchy) (hparent : ∀ p ∈ parent, t.Has p)
    (hd : t.Has d) : t'.chain d = t.chain d :=
  (h.hierarchy ht hparent).chain_eq (h.ascends ht hd (ht.ascends_chain hd)) (h.has hd)

end Allocated

/-! ## Moved classes -/

/-- **Moved**: the class and its metaclass have other superclasses. -/
structure Moved (t : ClassTable) (c p : ClassId) (t' : ClassTable) : Prop where
  size : t'.records.size = t.records.size
  epoch : t'.epoch = t.epoch + 1
  isMeta : ∀ d, (t'.get d).isMeta = (t.get d).isMeta
  isa : ∀ d, (t'.get d).isa = (t.get d).isa
  cache : ∀ d, (t'.get d).cache = (t.get d).cache
  superclass : (t'.get c).superclass? = some p
  metaSuperclass : (t'.get (t.metaclass c)).superclass? = some (t.metaclass p)
  superclass_of_ne : ∀ d, d ≠ c → d ≠ t.metaclass c →
    (t'.get d).superclass? = (t.get d).superclass?

/-- What a move that is accepted does. -/
lemma moved_of_canInherit (ht : t.Hierarchy) (hc : t.Has c) (h : t.canInherit c p = true) :
    t.Moved c p (t.setSuperclass c p).2 := by
  have hclass : t.HasClass c := ⟨hc, by simp_all [canInherit]⟩
  obtain ⟨hmetaHas, hmeta⟩ := ht.metaclass c hclass
  have hne : c ≠ t.metaclass c := by
    intro heq
    rw [← heq, hclass.2] at hmeta
    cases hmeta
  have hkeep {α : Type} (g : ClassRecord → α) (hg : ∀ r q, g { r with superclass? := q } = g r)
      (d : ClassId) : g ((t.setSuperclass c p).2.get d) = g (t.get d) := by
    rw [setSuperclass, if_pos h]
    exact (get_modify_of_eq g (fun r => hg r _) _ _ d).trans
      (get_modify_of_eq g (fun r => hg r _) _ _ d)
  exact {
    size := by simp [setSuperclass, h, invalidate, modify]
    epoch := by simp [setSuperclass, h, invalidate, modify]
    isMeta := hkeep ClassRecord.isMeta fun _ _ => rfl
    isa := hkeep ClassRecord.isa fun _ _ => rfl
    cache := hkeep ClassRecord.cache fun _ _ => rfl
    superclass := by
      rw [setSuperclass, if_pos h, get_invalidate, get_modify, if_neg (fun h => hne h.1),
        get_modify, if_pos ⟨rfl, hc⟩]
    metaSuperclass := by
      rw [setSuperclass, if_pos h, get_invalidate, get_modify, if_pos ⟨rfl, has_modify.mpr hmetaHas⟩]
    superclass_of_ne := fun d hd hdmeta => by
      rw [setSuperclass, if_pos h, get_invalidate, get_modify, if_neg (fun h => hdmeta h.1),
        get_modify, if_neg (fun h => hd h.1)] }

namespace Moved

lemma hasClass_iff (h : t.Moved c p t') : t'.HasClass d ↔ t.HasClass d := by
  rw [HasClass, h.isMeta, Has, h.size, HasClass, Has]

/-- Moving a class below one that does not come below it keeps the hierarchy. -/
lemma hierarchy (h : t.Moved c p t') (ht : t.Hierarchy) (hc : t.HasClass c) (hp : t.HasClass p)
    (hbelow : c ∉ t.chain p) : t'.Hierarchy := by
  have hmap : t'.metaclass = t.metaclass := funext h.isa
  have hmetaclass (d : ClassId) (hd : t.HasClass d) : d ≠ t.metaclass c := by
    rintro rfl
    cases hd.2.symm.trans (ht.metaclass c hc).2
  have hsuper (d : ClassId) (hd : t.HasClass d) (hne : d ≠ c) :
      (t'.get d).superclass? = (t.get d).superclass? :=
    h.superclass_of_ne d hne (hmetaclass d hd)
  -- the way up from the new superclass does not meet the class, so that it stays
  have habove : t'.Ascends p (t.chain p) :=
    (ht.ascends_chain hp.1).congr fun d hd => hsuper d
      (ht.hasClass_of_mem (ht.ascends_chain hp.1) hp d hd) (ne_of_mem_of_not_mem hd hbelow)
  exact {
    metaclass := fun d hd => by
      rw [hmap, Has, h.size, h.isMeta]
      exact ht.metaclass d (h.hasClass_iff.mp hd)
    metaclass_inj := fun d e hd he heq => by
      rw [hmap] at heq
      exact ht.metaclass_inj d e (h.hasClass_iff.mp hd) (h.hasClass_iff.mp he) heq
    exists_class := fun m hm hmeta => by
      rw [Has, h.size] at hm
      rw [h.isMeta] at hmeta
      obtain ⟨d, hd, heq⟩ := ht.exists_class m hm hmeta
      exact ⟨d, h.hasClass_iff.mpr hd, by rw [hmap, heq]⟩
    parent := fun d q hd hq => by
      have hd := h.hasClass_iff.mp hd
      rw [h.hasClass_iff]
      by_cases hdc : d = c
      · subst hdc
        cases h.superclass.symm.trans hq
        exact hp
      · rw [hsuper d hd hdc] at hq
        exact ht.parent d q hd hq
    metaParent := fun d hd => by
      have hd := h.hasClass_iff.mp hd
      rw [hmap]
      by_cases hdc : d = c
      · subst hdc
        rw [h.metaSuperclass, h.superclass]
        rfl
      · have hmeta : (t'.get (t.metaclass d)).superclass? = (t.get (t.metaclass d)).superclass? := by
          refine h.superclass_of_ne _ ?_ fun heq => hdc (ht.metaclass_inj d c hd hc heq)
          rintro rfl
          cases hc.2.symm.trans (ht.metaclass d hd).2
        rw [hmeta, hsuper d hd hdc]
        exact ht.metaParent d hd
    ascends := fun d hd => by
      replace hd := h.hasClass_iff.mp hd
      obtain ⟨cs, hcs⟩ := ht.ascends d hd
      induction hcs with
      | @root d hroot =>
        by_cases hdc : d = c
        · subst hdc
          exact ⟨_, .up h.superclass habove⟩
        · exact ⟨_, .root ((hsuper d hd hdc).trans hroot)⟩
      | @up d q cs hup _ ih =>
        by_cases hdc : d = c
        · subst hdc
          exact ⟨_, .up h.superclass habove⟩
        · obtain ⟨ds, hds⟩ := ih (ht.parent d q hd hup)
          exact ⟨_, .up ((hsuper d hd hdc).trans hup) hds⟩ }

end Moved

end MessageBridge.ClassTable
