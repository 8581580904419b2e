import MessageBridge.Proofs.Space.Hierarchy
import MessageBridge.Space.Entry
import Mathlib.Algebra.Group.Nat.Defs

/-!
# Looked-up implementations are current

Every class remembers the implementations that were looked up for it, with the epoch in which they were
found. A change of one class changes what is right for all classes below it and for their metaclasses,
so a change that matters moves the whole table to a new epoch. Two kinds of change do not: registering
a class, which no look-up sees, and allocating one, which gets into no chain that there was.

An epoch is a word and comes again after `2 ^ 64` changes. Until then what is remembered for the
present epoch was found in it.

## Main definitions

* `ClassTable.Recalls` — what a class remembers is what a walk over the superclasses finds.
* `ClassTable.Coherent` — what the caches answer is what a walk finds, and they age with the epochs.
* `ClassRequest`, `ObjectSpace.serve` — the requests that classes and methods are changed by, and
  look-ups.
* `ObjectSpace.Ran` — the states that requests lead to, with the number of changes of the epoch.

## Main results

* `ObjectSpace.change_serve` — what a request does to the class table.
* `ClassTable.Change.coherent` — each such change keeps the caches coherent.
* `ObjectSpace.Ran.lookup_eq` — every look-up answers the present implementation of the first method
  on the way up from the class.
-/

namespace MessageBridge

namespace ClassTable

variable {t t' : ClassTable} {c d : ClassId} {sel : Selector} {n : Nat}

/-! ## Walks -/

private lemma find?_bind {α β : Type} (f : α → Option β) (l : List α) :
    (l.find? fun a => (f a).isSome).bind f = l.findSome? f := by
  induction l with
  | nil => rfl
  | cons a l ih =>
    rw [List.find?_cons, List.findSome?_cons]
    cases h : f a with
    | none => simpa using ih
    | some b => simp [h]

private lemma findSome?_eq {α β : Type} {f g : α → Option β} {l : List α}
    (h : ∀ a ∈ l, f a = g a) : l.findSome? f = l.findSome? g := by
  induction l with
  | nil => rfl
  | cons a l ih =>
    obtain ⟨ha, hl⟩ := List.forall_mem_cons.mp h
    rw [List.findSome?_cons, List.findSome?_cons, ha, ih hl]

/-- A walk answers for the first class on the chain that has a method. -/
lemma walk_eq (t : ClassTable) (c : ClassId) (sel : Selector) :
    t.walk c sel =
      ((t.chain c).findSome? fun k => (t.get k).method? sel).bind Method.implementation? := by
  rw [walk, findMethod?, Option.bind_map, ← find?_bind]
  rfl

/-- A walk sees the methods on the chain, and nothing else. -/
lemma walk_congr (hchain : t'.chain c = t.chain c)
    (hmethods : ∀ d ∈ t.chain c, (t'.get d).methods = (t.get d).methods) (sel : Selector) :
    t'.walk c sel = t.walk c sel := by
  rw [walk_eq, walk_eq, hchain]
  congr 1
  exact findSome?_eq fun d hd => by rw [ClassRecord.method?, hmethods d hd, ClassRecord.method?]

/-! ## Changes -/

/-- **Retains**: the hierarchy and all that is remembered stay. -/
structure Retains (t t' : ClassTable) : Prop extends AlikeAbove t t' where
  cache : ∀ d, (t'.get d).cache = (t.get d).cache

namespace Retains

lemma refl (t : ClassTable) : t.Retains t :=
  ⟨⟨rfl, fun _ => rfl, fun _ => rfl, fun _ => rfl⟩, fun _ => rfl⟩

lemma trans {t'' : ClassTable} (h : t.Retains t') (h' : t'.Retains t'') : t.Retains t'' :=
  ⟨h.toAlikeAbove.trans h'.toAlikeAbove, fun d => (h'.cache d).trans (h.cache d)⟩

lemma modify {f : ClassRecord → ClassRecord} (hf : ∀ r, (f r).isMeta = r.isMeta ∧
      (f r).isa = r.isa ∧ (f r).superclass? = r.superclass? ∧ (f r).cache = r.cache)
    (t : ClassTable) (c : ClassId) : t.Retains (t.modify c f) :=
  ⟨.modify (fun r => (hf r).1) (fun r => (hf r).2.1) (fun r => (hf r).2.2.1) t c,
    fun d => get_modify_of_eq ClassRecord.cache (fun r => (hf r).2.2.2) t c d⟩

lemma invalidate (h : t.Retains t') : t.Retains t'.invalidate :=
  ⟨⟨h.size, h.isMeta, h.isa, h.superclass⟩, h.cache⟩

lemma register (t : ClassTable) (c : ClassId) : t.Retains (t.register c) := by
  unfold ClassTable.register
  split
  · exact .refl t
  · exact (modify (by exact fun _ => ⟨rfl, rfl, rfl, rfl⟩) _ _).trans
      (modify (by exact fun _ => ⟨rfl, rfl, rfl, rfl⟩) _ _)

lemma addMethod? {imp : Implementation} {types : String}
    (h : t.addMethod? c sel imp types = some t') : t.Retains t' := by
  unfold ClassTable.addMethod? at h
  split at h
  · cases h
  · cases h
    exact (modify (by exact fun _ => ⟨rfl, rfl, rfl, rfl⟩) _ _).invalidate

lemma swapImplementation (t : ClassTable) (m : MethodRef) (imp : Option Implementation) :
    t.Retains (t.swapImplementation m imp).2 :=
  (modify (by exact fun _ => ⟨rfl, rfl, rfl, rfl⟩) _ _).invalidate

lemma exchange (t : ClassTable) (m k : MethodRef) : t.Retains (t.exchange m k) :=
  ((modify (by exact fun _ => ⟨rfl, rfl, rfl, rfl⟩) _ _).trans
    (modify (by exact fun _ => ⟨rfl, rfl, rfl, rfl⟩) _ _)).invalidate

lemma getD {o : Option ClassTable} (h : ∀ t', o = some t' → t.Retains t') :
    t.Retains (o.getD t) := by
  cases o with
  | none => exact refl t
  | some t' => exact h t' rfl

lemma replaceMethod (t : ClassTable) (c : ClassId) (sel : Selector) (imp : Option Implementation)
    (types : String) : t.Retains (t.replaceMethod c sel imp types).2 := by
  unfold ClassTable.replaceMethod
  split
  · exact .swapImplementation t _ imp
  · exact .getD fun t' h => by
      obtain ⟨i, -, hadd⟩ := Option.bind_eq_some_iff.mp h
      exact .addMethod? hadd

lemma addIvar? {name types : String} {size : UInt64} {exponent : UInt8}
    (h : t.addIvar? c name size exponent types = some t') : t.Retains t' := by
  unfold ClassTable.addIvar? at h
  simp only at h
  split at h
  · cases h
  · split at h
    · cases h
    · cases h
      exact modify (by exact fun _ => ⟨rfl, rfl, rfl, rfl⟩) _ _

end Retains

/-- **Changes** of a class table, by what they mean for look-ups. -/
inductive Change (t : ClassTable) : ClassTable → Prop
  /-- Nothing that a look-up sees. -/
  | unseen {t' : ClassTable} (h : t.Retains t') (hepoch : t'.epoch = t.epoch)
      (hmethods : ∀ d, (t'.get d).methods = (t.get d).methods) : Change t t'
  /-- A look-up remembers what it found. -/
  | remembered (c : ClassId) (sel : Selector) : Change t (t.lookup c sel).2
  /-- A class and its metaclass are new. -/
  | allocated {parent : Option ClassId} {c : ClassId} {t' : ClassTable}
      (h : t.Allocated parent c t') (hparent : ∀ p ∈ parent, t.Has p) : Change t t'
  /-- Anything else takes place in a new epoch. -/
  | invalidated {t' : ClassTable} (hierarchy : t.Hierarchy → t'.Hierarchy)
      (hepoch : t'.epoch = t.epoch + 1) (hcache : ∀ d, (t'.get d).cache = (t.get d).cache) :
      Change t t'

/-! ## What changes a table -/

namespace Change

lemma refl (t : ClassTable) : t.Change t := .unseen (.refl t) rfl fun _ => rfl

/-- A change of methods takes place in a new epoch. -/
lemma of_retains (h : t.Retains t') (hepoch : t'.epoch = t.epoch + 1) : t.Change t' :=
  .invalidated h.hierarchy hepoch h.cache

/-- Registering a class is not seen by look-ups. -/
lemma register (t : ClassTable) (c : ClassId) : t.Change (t.register c) := by
  refine .unseen (.register t c) ?_ fun d => ?_
  · unfold ClassTable.register
    split <;> rfl
  · unfold ClassTable.register
    split
    · rfl
    · exact (get_modify_of_eq ClassRecord.methods (by exact fun _ => rfl) _ _ d).trans
        (get_modify_of_eq ClassRecord.methods (by exact fun _ => rfl) _ _ d)

lemma addMethod? {imp : Implementation} {types : String}
    (h : t.addMethod? c sel imp types = some t') : t.Change t' := by
  refine .of_retains (.addMethod? h) ?_
  unfold ClassTable.addMethod? at h
  split at h
  · cases h
  · cases h
    rfl

lemma replaceMethod (t : ClassTable) (c : ClassId) (sel : Selector) (imp : Option Implementation)
    (types : String) : t.Change (t.replaceMethod c sel imp types).2 := by
  unfold ClassTable.replaceMethod
  split
  · exact .of_retains (.swapImplementation t _ imp) rfl
  · cases imp with
    | none => exact .refl t
    | some imp =>
      change t.Change ((t.addMethod? c sel imp types).getD t)
      cases h : t.addMethod? c sel imp types with
      | none => exact .refl t
      | some t' => exact .addMethod? h

lemma setSuperclass {p : ClassId} (ht : t.Hierarchy) (hc : t.Has c) (hp : t.Has p) :
    t.Change (t.setSuperclass c p).2 := by
  by_cases h : t.canInherit c p = true
  · have hmoved := moved_of_canInherit ht hc h
    simp only [canInherit, Bool.and_eq_true, Bool.not_eq_true', List.contains_eq_mem,
      decide_eq_false_iff_not] at h
    exact .invalidated (fun ht => hmoved.hierarchy ht ⟨hc, h.1.1⟩ ⟨hp, h.1.2⟩ h.2) hmoved.epoch
      hmoved.cache
  · rw [ClassTable.setSuperclass, if_neg h]
    exact .refl t

end Change

/-- How many epochs went by, none or one. -/
def epochs (t t' : ClassTable) : Nat := if t'.epoch = t.epoch then 0 else 1

/-- A class that is new remembers nothing. -/
lemma Allocated.has_or_cache {parent : Option ClassId} (h : t.Allocated parent c t')
    (d : ClassId) : t.Has d ∨ (t'.get d).cache = {} := by
  by_cases hd : t'.Has d
  · rcases (h.has_iff d).mp hd with hd | rfl | rfl
    · exact .inl hd
    · exact .inr h.cache.2
    · exact .inr h.cache.1
  · right
    rw [get, Array.getElem?_eq_none (Nat.le_of_not_lt hd)]
    rfl

/-! ## Coherence -/

/-- **Recalls**: what the class remembers for the selector, if anything, is what a walk finds. -/
def Recalls (t : ClassTable) (c : ClassId) (sel : Selector) : Prop :=
  ∀ imp, (t.get c).cache.find? t.epoch sel = some imp → t.walk c sel = imp

/-- A look-up answers what a walk finds, if what is remembered is just that. -/
lemma fst_lookup_of_current (h : t.Recalls c sel) : (t.lookup c sel).1 = t.walk c sel := by
  unfold lookup
  split
  · next imp hfind => exact (h imp hfind).symm
  · split
    · next m hm => rw [walk, hm, Option.bind_some]
    · next hm => rw [walk, hm, Option.bind_none]

/-- Remembering something is not seen by walks. -/
lemma walk_remember (t : ClassTable) (c : ClassId) (sel : Selector) (imp : Option Implementation)
    (d : ClassId) (sel' : Selector) :
    (t.modify c fun r => { r with cache := r.cache.insert t.epoch sel imp }).walk d sel' =
      t.walk d sel' :=
  walk_congr ((AlikeAbove.modify (by exact fun _ => rfl) (by exact fun _ => rfl)
      (by exact fun _ => rfl) t c).chain_eq d)
    (fun e _ => get_modify_of_eq ClassRecord.methods (by exact fun _ => rfl) t c e) sel'

/-- Remembering what a walk found leaves right what the classes remember. -/
lemma Recalls.remember {sel' : Selector} (h : t.Recalls d sel') {imp : Option Implementation}
    (himp : t.walk c sel = imp) :
    (t.modify c fun r => { r with cache := r.cache.insert t.epoch sel imp }).Recalls d sel' := by
  intro imp' hfind
  rw [walk_remember]
  rw [get_modify] at hfind
  split at hfind
  · next hd =>
    obtain ⟨rfl, -⟩ := hd
    simp only [modify, ImpCache.find?, ImpCache.insert, if_true, List.lookup_cons] at hfind
    split at hfind
    · next hsel =>
      obtain rfl := eq_of_beq hsel
      cases hfind
      exact himp
    · split at hfind
      · next hepoch => exact h imp' (by rw [ImpCache.find?, if_pos hepoch, hfind])
      · cases hfind
  · exact h imp' hfind

/-- So does a look-up. -/
lemma Recalls.lookup {sel' : Selector} (h : t.Recalls d sel') (c : ClassId) (sel : Selector) :
    (t.lookup c sel).2.Recalls d sel' := by
  unfold ClassTable.lookup
  split
  · exact h
  · split
    · next m hm => exact h.remember (by rw [walk, hm, Option.bind_some])
    · exact h

/-- **Coherent**: what is remembered was found at most `n` epochs ago, and what was found in this epoch
is what a walk finds now. -/
structure Coherent (t : ClassTable) (n : Nat) : Prop where
  hierarchy : t.Hierarchy
  aged : ∀ c, (t.get c).cache.entries = [] ∨ (t.epoch - (t.get c).cache.epoch).toNat ≤ n
  current : ∀ c sel imp, (t.get c).cache.find? t.epoch sel = some imp → t.walk c sel = imp

namespace Coherent

/-- A look-up answers what a walk finds. -/
lemma fst_lookup (h : t.Coherent n) (c : ClassId) (sel : Selector) :
    (t.lookup c sel).1 = t.walk c sel :=
  fst_lookup_of_current (h.current c sel)

/-- Remembering what a walk found keeps the caches coherent. -/
lemma remember (h : t.Coherent n) {imp : Option Implementation} (himp : t.walk c sel = imp) :
    (t.modify c fun r => { r with cache := r.cache.insert t.epoch sel imp }).Coherent n := by
  have habove := AlikeAbove.modify (f := fun r => { r with cache := r.cache.insert t.epoch sel imp })
    (fun _ => rfl) (fun _ => rfl) (fun _ => rfl) t c
  refine ⟨habove.hierarchy h.hierarchy, fun d => ?_,
    fun d sel' => Recalls.remember (h.current d sel') himp⟩
  rw [get_modify]
  split
  · right
    change (t.epoch - t.epoch).toNat ≤ n
    simp
  · exact h.aged d

/-- A look-up keeps the caches coherent. -/
lemma lookup (h : t.Coherent n) (c : ClassId) (sel : Selector) : (t.lookup c sel).2.Coherent n := by
  unfold ClassTable.lookup
  split
  · exact h
  · split
    · next m hm => exact h.remember (by rw [walk, hm, Option.bind_some])
    · exact h

/-- What no look-up sees keeps the caches coherent. -/
lemma unseen (h : t.Coherent n) (ht : t.Retains t') (hepoch : t'.epoch = t.epoch)
    (hmethods : ∀ d, (t'.get d).methods = (t.get d).methods) : t'.Coherent n := by
  refine ⟨ht.hierarchy h.hierarchy, fun d => ?_, fun d sel imp hfind => ?_⟩
  · rw [ht.cache, hepoch]
    exact h.aged d
  · rw [ht.cache, hepoch] at hfind
    rw [walk_congr (ht.chain_eq d) fun e _ => hmethods e]
    exact h.current d sel imp hfind

/-- New classes remember nothing, and the others look up what they did. -/
lemma allocated {parent : Option ClassId} (h : t.Coherent n) (ht : t.Allocated parent c t')
    (hparent : ∀ p ∈ parent, t.Has p) : t'.Coherent n := by
  refine ⟨ht.hierarchy h.hierarchy hparent, fun d => ?_, fun d sel imp hfind => ?_⟩
  · rcases ht.has_or_cache d with hd | hd
    · rw [ht.get_eq d hd, ht.epoch]
      exact h.aged d
    · rw [hd]
      exact .inl rfl
  · rcases ht.has_or_cache d with hd | hd
    · rw [ht.get_eq d hd, ht.epoch] at hfind
      rw [walk_congr (ht.chain_eq h.hierarchy hparent hd) fun e he => ?_]
      · exact h.current d sel imp hfind
      · rw [ht.get_eq e (h.hierarchy.has_of_mem (h.hierarchy.ascends_chain hd) hd e he)]
    · rw [hd] at hfind
      simp [ImpCache.find?] at hfind

/-- In a new epoch nothing is remembered yet, as long as no epoch has come again. -/
lemma invalidated (h : t.Coherent n) (hn : n + 1 < 2 ^ 64) (hierarchy : t'.Hierarchy)
    (hepoch : t'.epoch = t.epoch + 1) (hcache : ∀ d, (t'.get d).cache = (t.get d).cache) :
    t'.Coherent (n + 1) := by
  refine ⟨hierarchy, fun d => ?_, fun d sel imp hfind => ?_⟩
  · rw [hcache, hepoch]
    refine (h.aged d).imp id fun hd => ?_
    simp only [UInt64.toNat_sub, UInt64.toNat_add, UInt64.reduceToNat] at hd ⊢
    omega
  · rw [hcache, hepoch, ImpCache.find?] at hfind
    split at hfind
    · next heq =>
      rcases h.aged d with hd | hd
      · rw [hd] at hfind
        cases hfind
      · rw [heq] at hd
        simp only [UInt64.toNat_sub, UInt64.toNat_add, UInt64.reduceToNat] at hd
        have hlt := t.epoch.toNat_lt
        omega
    · cases hfind

end Coherent

/-- **Changes keep coherence**, as long as no epoch comes again. -/
theorem Change.coherent (h : t.Change t') (ht : t.Coherent n) (hn : n + t.epochs t' < 2 ^ 64) :
    t'.Coherent (n + t.epochs t') := by
  cases h with
  | unseen h hepoch hmethods =>
    rw [epochs, if_pos hepoch]
    exact ht.unseen h hepoch hmethods
  | remembered c sel =>
    have hepoch : (t.lookup c sel).2.epoch = t.epoch := by
      change (t.lookup c sel).2.bare.epoch = t.bare.epoch
      rw [bare_lookup]
    rw [epochs, if_pos hepoch]
    exact ht.lookup c sel
  | allocated h hparent =>
    rw [epochs, if_pos h.epoch]
    exact ht.allocated h hparent
  | invalidated hierarchy hepoch hcache =>
    have hne : t'.epoch ≠ t.epoch := by
      rw [hepoch]
      simp
    rw [epochs, if_neg hne] at hn ⊢
    exact ht.invalidated hn (hierarchy ht.hierarchy) hepoch hcache

/-! ## Tables without memories -/

/-- **Untouched**: a hierarchy whose caches are empty. -/
structure Untouched (t : ClassTable) : Prop where
  hierarchy : t.Hierarchy
  cache : ∀ c, (t.get c).cache = {}

namespace Untouched

lemma empty : Untouched {} := by
  have hnone (c : ClassId) : ¬ ClassTable.HasClass {} c := fun h => Nat.not_lt_zero _ h.1
  refine ⟨?_, fun c => rfl⟩
  exact {
    metaclass := fun c hc => absurd hc (hnone c)
    metaclass_inj := fun c _ hc => absurd hc (hnone c)
    exists_class := fun m hm => absurd hm (Nat.not_lt_zero _)
    parent := fun c _ hc => absurd hc (hnone c)
    metaParent := fun c hc => absurd hc (hnone c)
    ascends := fun c hc => absurd hc (hnone c) }

lemma retains (h : t.Untouched) (ht : t.Retains t') : t'.Untouched :=
  ⟨ht.hierarchy h.hierarchy, fun c => by rw [ht.cache, h.cache]⟩

lemma allocated {parent : Option ClassId} (h : t.Untouched) (ht : t.Allocated parent c t')
    (hparent : ∀ p ∈ parent, t.Has p) : t'.Untouched := by
  refine ⟨ht.hierarchy h.hierarchy hparent, fun d => ?_⟩
  rcases ht.has_or_cache d with hd | hd
  · rw [ht.get_eq d hd, h.cache]
  · exact hd

lemma coherent (h : t.Untouched) : t.Coherent 0 where
  hierarchy := h.hierarchy
  aged c := .inl (by rw [h.cache])
  current c sel imp hfind := by
    rw [h.cache] at hfind
    simp [ImpCache.find?] at hfind

end Untouched

lemma has_of_find? {name : String} (h : t.find? name = some c) : t.Has c := by
  obtain ⟨i, hi, rfl⟩ := Option.map_eq_some_iff.mp h
  exact (Array.findIdx?_eq_some_iff_getElem.mp hi).1

end ClassTable

/-! ## Requests -/

/-- **Requests** that change classes and methods, with handles that may be null, and look-ups. -/
inductive ClassRequest where
  | allocatePair (parent : Option ClassId) (name : String) (extra : UInt64)
  | registerPair (c : Option ClassId)
  | addMethod (c : Option ClassId) (sel : Option Selector) (imp : Option Implementation)
      (types : String)
  | replaceMethod (c : Option ClassId) (sel : Option Selector) (imp : Option Implementation)
      (types : String)
  | setImplementation (m : Option MethodRef) (imp : Option Implementation)
  | exchange (m k : Option MethodRef)
  | setSuperclass (c parent : Option ClassId)
  | lookup (c : ClassId) (sel : Selector)

/-- The classes that a request names. -/
def ClassRequest.classes : ClassRequest → List ClassId
  | allocatePair parent _ _ => parent.toList
  | registerPair c | addMethod c _ _ _ | replaceMethod c _ _ _ => c.toList
  | setImplementation m _ => (m.map MethodRef.owner).toList
  | exchange m k => (m.map MethodRef.owner).toList ++ (k.map MethodRef.owner).toList
  | setSuperclass c parent => c.toList ++ parent.toList
  | lookup c _ => [c]

namespace ObjectSpace

variable {s : ObjectSpace} {r : ClassRequest} {c : ClassId} {sel : Selector} {n : Nat}

/-- The space after a request. -/
def serve (s : ObjectSpace) : ClassRequest → ObjectSpace
  | .allocatePair parent name extra => (s.allocatePair parent name extra).2
  | .registerPair c => s.registerClass c
  | .addMethod c sel imp types => (s.addMethod c sel imp types).2
  | .replaceMethod c sel imp types => (s.replaceMethod c sel imp types).2
  | .setImplementation m imp => (s.setImplementation m imp).2
  | .exchange (some m) (some k) => s.withClasses (s.classes.exchange m k)
  | .exchange _ _ => s
  | .setSuperclass c parent => (s.setSuperclass c parent).2
  | .lookup c sel => s.withClasses (s.classes.lookup c sel).2

/-- **Valid**: the classes that the request names are in the table. -/
def Valid (s : ObjectSpace) (r : ClassRequest) : Prop := ∀ c ∈ r.classes, s.classes.Has c

instance (s : ObjectSpace) (r : ClassRequest) : Decidable (s.Valid r) :=
  List.decidableBAll s.classes.Has r.classes

lemma allocated_of_allocatePair {parent : Option ClassId} {name : String} {extra : UInt64}
    {s' : ObjectSpace} (h : s.allocatePair parent name extra = (some c, s')) :
    s.classes.Allocated parent c s'.classes := by
  simp only [allocatePair] at h
  split at h
  · next halloc =>
    cases h
    exact ClassTable.allocated_of_allocatePair? halloc
  · cases h

lemma eq_of_allocatePair {parent : Option ClassId} {name : String} {extra : UInt64}
    {s' : ObjectSpace} (h : s.allocatePair parent name extra = (none, s')) : s' = s := by
  simp only [allocatePair] at h
  split at h
  · cases h
  · cases h
    rfl

/-- **What a request does** to the class table. -/
theorem change_serve (hs : s.classes.Hierarchy) (hr : s.Valid r) :
    s.classes.Change (s.serve r).classes := by
  cases r with
  | allocatePair parent name extra =>
    rw [serve]
    cases halloc : s.allocatePair parent name extra with
    | mk c s' =>
      cases c with
      | none =>
        rw [eq_of_allocatePair halloc]
        exact .refl _
      | some c =>
        exact .allocated (allocated_of_allocatePair halloc)
          fun p hp => hr p (Option.mem_toList.mpr hp)
  | registerPair c =>
    cases c with
    | none => exact .refl _
    | some c => exact .register _ c
  | addMethod c sel imp types =>
    simp only [serve, addMethod]
    split
    · split
      · next h => exact .addMethod? h
      · exact .refl _
    · exact .refl _
  | replaceMethod c sel imp types =>
    simp only [serve, replaceMethod]
    split
    · exact .replaceMethod _ _ _ imp types
    · exact .refl _
  | setImplementation m imp =>
    simp only [serve, setImplementation]
    split
    · exact .of_retains (.swapImplementation _ _ _) rfl
    · exact .refl _
  | exchange m k =>
    cases m with
    | none => exact .refl _
    | some m =>
      cases k with
      | none => exact .refl _
      | some k =>
        exact .of_retains (.exchange _ m k) rfl
  | setSuperclass c parent =>
    cases c with
    | none => exact .refl _
    | some c =>
      cases parent with
      | none => exact .refl _
      | some p =>
        exact .setSuperclass hs (hr c (by simp [ClassRequest.classes]))
          (hr p (by simp [ClassRequest.classes]))
  | lookup c sel => exact .remembered c sel

/-- **Runs**: the spaces that valid requests lead to, from an empty one or from the root classes, and
how often the epoch changed on the way. -/
inductive Ran : ObjectSpace → Nat → Prop
  | empty : Ran {} 0
  | roots : Ran initial 0
  | serve {s : ObjectSpace} {n : Nat} (r : ClassRequest) (h : Ran s n) (hr : s.Valid r) :
      Ran (s.serve r) (n + s.classes.epochs (s.serve r).classes)

/-! ## The root classes -/

/-- Declared methods leave the hierarchy and the caches as they are. -/
lemma retains_install (s : ObjectSpace) (c : ClassId) (methods : List RootMethod) :
    s.classes.Retains (s.install c methods).classes := by
  induction methods generalizing s with
  | nil => exact .refl _
  | cons m methods ih =>
    have hstep : s.classes.Retains ((s.classes.addMethod? c (s.intern m.name).1
        (.routine m.routine) m.types).getD s.classes) := .getD fun _ h => .addMethod? h
    exact hstep.trans (ih ((s.intern m.name).2.withClasses _))

lemma retains_declareWords (s : ObjectSpace) (c : ClassId) (fields : List (String × String)) :
    s.classes.Retains (s.declareWords c fields).classes := by
  induction fields generalizing s with
  | nil => exact .refl _
  | cons v fields ih =>
    have hstep : s.classes.Retains ((s.classes.addIvar? c v.1 8 3 v.2).getD s.classes) :=
      .getD fun _ h => .addIvar? h
    exact hstep.trans (ih (s.withClasses _))

/-- A root class is added to a table without memories. -/
lemma untouched_addRoot (hs : s.classes.Untouched) {parent : Option ClassId}
    (hparent : ∀ p ∈ parent, s.classes.Has p) (name : String) (fields : List (String × String))
    (methods classMethods : List RootMethod) :
    (s.addRoot parent name fields methods classMethods).classes.Untouched := by
  unfold addRoot
  split
  · next c s' halloc =>
    have hs' := hs.allocated (allocated_of_allocatePair halloc) hparent
    exact hs'.retains (((retains_declareWords s' c fields).trans
      ((retains_install _ c methods).trans (retains_install _ _ classMethods))).trans
        (.register _ c))
  · next s' halloc =>
    rw [eq_of_allocatePair halloc]
    exact hs

lemma untouched_initial : initial.classes.Untouched :=
  untouched_addRoot (untouched_addRoot .empty (by simp) _ _ _ _)
    (fun _ hp => ClassTable.has_of_find? hp) _ _ _ _

/-! ## Look-ups in a run -/

/-- **Runs are coherent.** -/
theorem Ran.coherent (h : Ran s n) (hn : n < 2 ^ 64) : s.classes.Coherent n := by
  induction h with
  | empty => exact ClassTable.Untouched.empty.coherent
  | roots => exact untouched_initial.coherent
  | serve r _ hr ih =>
    have hs := ih (by omega)
    exact (change_serve hs.hierarchy hr).coherent hs hn

/-- **Look-ups are current**: in every space that requests lead to, a look-up answers the present
implementation of the first method for the selector on the way up from the class to a root, and none if
no class on it has such a method. -/
theorem Ran.lookup_eq (h : Ran s n) (hn : n < 2 ^ 64) (hc : s.classes.Has c) (sel : Selector) :
    ∃ cs, s.classes.Ascends c cs ∧
      s.classes.findMethod? c sel =
        (cs.find? fun k => ((s.classes.get k).method? sel).isSome).map (⟨·, sel⟩) ∧
      (s.classes.lookup c sel).1 = s.implementation? (s.classes.findMethod? c sel) := by
  have hs := h.coherent hn
  exact ⟨_, hs.hierarchy.ascends_chain hc, rfl, hs.fst_lookup c sel⟩

/-- A class below `Object` has looked `init` up when `Object` gets another implementation of it. -/
def replacedAbove : ObjectSpace :=
  ((initial.serve (.allocatePair (some ⟨1⟩) "Leaf" 0)).serve (.lookup ⟨5⟩ ⟨0⟩)).serve
    (.replaceMethod (some ⟨1⟩) (some ⟨0⟩) (some (.routine .hash)) "Q@:")

/-- The class looks up the new implementation. -/
theorem lookup_eq_replacedAbove :
    ∃ n, Ran replacedAbove n ∧ n < 2 ^ 64 ∧ replacedAbove.classes.Has ⟨5⟩ ∧
      (replacedAbove.classes.lookup ⟨5⟩ ⟨0⟩).1 = some (.routine .hash) := by
  obtain ⟨n, hran, hn⟩ : ∃ n, Ran replacedAbove n ∧ n < 2 ^ 64 :=
    ⟨_, ((Ran.roots.serve (.allocatePair (some ⟨1⟩) "Leaf" 0) (by unfold Valid; decide +kernel)).serve
      (.lookup ⟨5⟩ ⟨0⟩) (by unfold Valid; decide +kernel)).serve
        (.replaceMethod (some ⟨1⟩) (some ⟨0⟩) (some (.routine .hash)) "Q@:")
        (by unfold Valid; decide +kernel), by decide +kernel⟩
  have hhas : replacedAbove.classes.Has ⟨5⟩ := by decide +kernel
  obtain ⟨cs, -, -, hlookup⟩ := hran.lookup_eq hn hhas ⟨0⟩
  exact ⟨n, hran, hn, hhas, hlookup.trans (by decide +kernel)⟩

end ObjectSpace

end MessageBridge
