import MessageBridge.Proofs.Space.Coherence
import MessageBridge.Proofs.Space.Residence

/-!
# Lineages

A class may be moved below another one at any time, and the check that is made sees classes only. Their
metaclasses are moved along with them, so that what holds of the classes holds of the metaclasses too:
going up from any of the two comes to an end. Requests about instances do not touch the class table.

## Main definitions

* `ObjectSpace.Arranged` — the spaces that requests about classes, methods and instances lead to.

## Main results

* `ClassTable.Hierarchy.wellFounded` — no class is above itself, by however many steps.
* `ClassTable.Change.hierarchy` — a request keeps the hierarchy.
* `ObjectSpace.Arranged.lineage` — chains end, look-ups see all of them, and the metaclasses go up
  beside their classes.
-/

namespace MessageBridge

namespace ClassTable

variable {t t' : ClassTable} {c p : ClassId} {cs : List ClassId}

/-! ## Going up -/

/-- The first class is the superclass of the second. -/
def IsParent (t : ClassTable) (p c : ClassId) : Prop := t.Has c ∧ (t.get c).superclass? = some p

lemma Ascends.acc (h : t.Ascends c cs) : Acc t.IsParent c := by
  induction h with
  | root hroot => exact ⟨_, fun p hp => by cases hroot.symm.trans hp.2⟩
  | up hup _ ih =>
    refine ⟨_, fun q hq => ?_⟩
    cases hup.symm.trans hq.2
    exact ih

/-- **Going up ends**, from wherever it begins. -/
lemma Hierarchy.wellFounded (ht : t.Hierarchy) : WellFounded t.IsParent := by
  refine ⟨fun c => ?_⟩
  by_cases hc : t.Has c
  · obtain ⟨cs, hcs⟩ := ht.exists_ascends hc
    exact hcs.acc
  · exact ⟨c, fun p hp => absurd hp.1 hc⟩

/-- The metaclass goes up beside its class. -/
lemma Hierarchy.metaclass_of_some (ht : t.Hierarchy) (hc : t.HasClass c)
    (h : (t.get c).superclass? = some p) :
    (t.get (t.metaclass c)).superclass? = some (t.metaclass p) := by
  rw [ht.metaParent c hc, h]
  rfl

/-- From the metaclass of a root one comes to the root. -/
lemma Hierarchy.metaclass_of_none (ht : t.Hierarchy) (hc : t.HasClass c)
    (h : (t.get c).superclass? = none) : (t.get (t.metaclass c)).superclass? = some c := by
  rw [ht.metaParent c hc, h]
  rfl

/-! ## Changes -/

lemma alikeAbove_lookup (t : ClassTable) (c : ClassId) (sel : Selector) :
    t.AlikeAbove (t.lookup c sel).2 := by
  unfold lookup
  split
  · exact (Retains.refl t).toAlikeAbove
  · split
    · exact .modify (by exact fun _ => rfl) (by exact fun _ => rfl) (by exact fun _ => rfl) t c
    · exact (Retains.refl t).toAlikeAbove

/-- **Changes keep the hierarchy.** -/
lemma Change.hierarchy (h : t.Change t') (ht : t.Hierarchy) : t'.Hierarchy := by
  cases h with
  | unseen h => exact h.hierarchy ht
  | remembered c sel => exact (t.alikeAbove_lookup c sel).hierarchy ht
  | allocated h hparent => exact h.hierarchy ht hparent
  | invalidated hierarchy => exact hierarchy ht

end ClassTable

namespace ObjectSpace

variable {s s' : ObjectSpace} {a : Address} {c : ClassId}

/-! ## Requests about instances -/

/-- An instance lies outside of all classes, so that writing to it changes none. -/
lemma classes_write? {bytes : List UInt8} (ha : s.classAround? a = none)
    (h : s.write? a bytes = some s') : s'.classes = s.classes := by
  rw [write?, ha, writeIn?, Option.map_eq_some_iff] at h
  obtain ⟨memory, -, rfl⟩ := h
  rfl

lemma classes_setIsa? {previous : ClassId} (ha : s.classAround? a = none)
    (h : s.setIsa? a c = some (previous, s')) : s'.classes = s.classes := by
  obtain ⟨_, -, h⟩ := Option.bind_eq_some_iff.mp h
  obtain ⟨s'', hwrite, h⟩ := Option.bind_eq_some_iff.mp h
  cases h
  exact classes_write? ha hwrite

/-! ## Runs -/

/-- **Arranged**: the spaces that requests lead to, from an empty one or from the root classes. The
classes that are named may be any of the table, and only an instance is given another class. -/
inductive Arranged : ObjectSpace → Prop
  | empty : Arranged {}
  | roots : Arranged initial
  /-- A request about classes and methods. -/
  | serve {s : ObjectSpace} (r : ClassRequest) (h : Arranged s) (hr : s.Valid r) :
      Arranged (s.serve r)
  /-- An instance is created. -/
  | create {s : ObjectSpace} (c : ClassId) (extra : UInt64) (h : Arranged s) :
      Arranged (s.createInstance c extra).2
  /-- An instance gets another class. -/
  | setClass {s s' : ObjectSpace} {a : Address} {c previous : ClassId} (h : Arranged s)
      (ha : s.classAround? a = none) (hset : s.setIsa? a c = some (previous, s')) : Arranged s'
  /-- An instance is disposed of. -/
  | dispose {s s' : ObjectSpace} {a : Address} (h : Arranged s) (hdispose : s.dispose? a = some s') :
      Arranged s'

/-- Whatever is requested, the hierarchy stays one. -/
lemma Arranged.hierarchy (h : Arranged s) : s.classes.Hierarchy := by
  induction h with
  | empty => exact ClassTable.Untouched.empty.hierarchy
  | roots => exact untouched_initial.hierarchy
  | serve r _ hr ih => exact (change_serve ih hr).hierarchy ih
  | create c extra _ ih =>
    rw [classes_createInstance]
    exact ih
  | setClass _ ha hset ih =>
    rw [classes_setIsa? ha hset]
    exact ih
  | dispose _ hdispose ih =>
    rw [(dispose?_eq_some hdispose).1]
    exact ih

/-- **Lineages**: in every space that requests lead to, no class or metaclass is above itself; the way
up from each ends at a root, passes no class twice and stays in the table, and it is what chains and
look-ups go through, however much room they are given. The superclass of the metaclass is the
metaclass of the superclass, and for a root the root itself. -/
theorem Arranged.lineage (h : Arranged s) :
    WellFounded s.classes.IsParent ∧
    (∀ c, s.classes.Has c → ∃ cs, s.classes.Ascends c cs ∧ cs.Nodup ∧
      (∀ d ∈ cs, s.classes.Has d) ∧ s.classes.chain c = cs ∧
      (∀ n, cs.length ≤ n → s.classes.chainUpTo n c = cs) ∧
      (∀ sel, s.classes.findMethod? c sel =
        (cs.find? fun k => ((s.classes.get k).method? sel).isSome).map (⟨·, sel⟩)) ∧
      ∀ name, s.classes.findIvar? c name =
        (cs.find? fun k => ((s.classes.get k).ivar? name).isSome).map (⟨·, name⟩)) ∧
    (∀ c p, s.classes.HasClass c → (s.classes.get c).superclass? = some p →
      (s.classes.get (s.classes.metaclass c)).superclass? = some (s.classes.metaclass p)) ∧
    ∀ c, s.classes.HasClass c → (s.classes.get c).superclass? = none →
      (s.classes.get (s.classes.metaclass c)).superclass? = some c := by
  have hs := h.hierarchy
  refine ⟨hs.wellFounded, fun c hc => ?_, fun c p hc => hs.metaclass_of_some hc,
    fun c hc => hs.metaclass_of_none hc⟩
  have hup := hs.ascends_chain hc
  exact ⟨_, hup, hup.nodup, hs.has_of_mem hup hc, rfl, fun n hn => hup.chainUpTo_eq hn,
    fun _ => rfl, fun _ => rfl⟩

/-- A root class of its own gets a subclass and is moved below `Object`; it cannot be moved below its
subclass then, nor can the metaclasses be moved. -/
def reparented : ObjectSpace :=
  [.allocatePair none "Root" 0, .allocatePair (some ⟨5⟩) "Leaf" 0, .registerPair (some ⟨7⟩),
    .setSuperclass (some ⟨5⟩) (some ⟨1⟩), .setSuperclass (some ⟨5⟩) (some ⟨7⟩),
    .setSuperclass (some ⟨6⟩) (some ⟨4⟩)].foldl serve initial

/-- The chain of the metaclass of the subclass ends at `Object`. -/
theorem lineage_reparented :
    Arranged reparented ∧ WellFounded reparented.classes.IsParent ∧
      reparented.classes.Has ⟨6⟩ ∧
      reparented.classes.Ascends ⟨6⟩ [⟨6⟩, ⟨4⟩, ⟨0⟩, ⟨1⟩] := by
  have hran : Arranged reparented :=
    (((((Arranged.roots.serve (.allocatePair none "Root" 0) (by decide +kernel)).serve
      (.allocatePair (some ⟨5⟩) "Leaf" 0) (by decide +kernel)).serve
      (.registerPair (some ⟨7⟩)) (by decide +kernel)).serve
      (.setSuperclass (some ⟨5⟩) (some ⟨1⟩)) (by decide +kernel)).serve
      (.setSuperclass (some ⟨5⟩) (some ⟨7⟩)) (by decide +kernel)).serve
      (.setSuperclass (some ⟨6⟩) (some ⟨4⟩)) (by decide +kernel)
  have hhas : reparented.classes.Has ⟨6⟩ := by decide +kernel
  obtain ⟨hwf, hchain, -, -⟩ := hran.lineage
  obtain ⟨cs, hup, -, -, hcs, -⟩ := hchain ⟨6⟩ hhas
  have hlist : reparented.classes.chain ⟨6⟩ = [⟨6⟩, ⟨4⟩, ⟨0⟩, ⟨1⟩] := by decide +kernel
  exact ⟨hran, hwf, hhas, hlist ▸ hcs ▸ hup⟩

end ObjectSpace

end MessageBridge
