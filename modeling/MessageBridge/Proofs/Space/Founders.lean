import MessageBridge.Proofs.Space.Lineage

/-!
# Founders

The class of a metaclass is meant to be the metaclass of the root above its class. It is written when the
two are allocated: a new root founds a family of its own, and any other class takes over the founder of
the class that it is allocated below. Nothing writes it again. A move changes the superclasses of a class
and of its metaclass only, so that the class of a metaclass goes on naming the founder, wherever the
class and those above it have been moved to since.

## Main definitions

* `ClassTable.rootOf` — the root at the end of the chain of a class.
* `ClassTable.Conventional` — the class of every metaclass is the metaclass of the root above.
* `ObjectSpace.Founded` — the spaces that requests lead to, with the founder of every class.

## Main results

* `ObjectSpace.Arranged.convention_iff` — the class of a metaclass is the metaclass of the founder, so
  that the convention holds for a class if and only if the root above it is its founder.
* `ObjectSpace.conventional_serve_iff` — the requests that keep the convention are those that move no
  class below another root.
-/

namespace MessageBridge

namespace ClassTable

variable {t t' : ClassTable} {c d p : ClassId} {cs : List ClassId} {f : ClassId → ClassId}

/-! ## Roots -/

/-- The root at the end of the chain of a class. -/
def rootOf (t : ClassTable) (c : ClassId) : ClassId := (t.chain c).getLastD c

namespace Hierarchy

lemma rootOf_of_none (ht : t.Hierarchy) (hc : t.Has c) (h : (t.get c).superclass? = none) :
    t.rootOf c = c := by
  rw [rootOf, ht.chain_eq (.root h) hc]
  rfl

lemma rootOf_of_some (ht : t.Hierarchy) (hc : t.Has c) (h : (t.get c).superclass? = some p) :
    t.rootOf c = t.rootOf p := by
  have hp := ht.has_parent hc h
  have hup := ht.ascends_chain hp
  rw [rootOf, rootOf, ht.chain_eq (.up h hup) hc]
  generalize t.chain p = ps at hup
  cases hup with
  | root => rfl
  | up => simp only [List.getLastD_cons]

/-- A root is a class, and nothing is above it. -/
lemma rootOf_spec (ht : t.Hierarchy) (hc : t.HasClass c) :
    t.HasClass (t.rootOf c) ∧ (t.get (t.rootOf c)).superclass? = none := by
  obtain ⟨cs, hcs⟩ := ht.ascends c hc
  induction hcs with
  | root h =>
    rw [ht.rootOf_of_none hc.1 h]
    exact ⟨hc, h⟩
  | up h _ ih =>
    rw [ht.rootOf_of_some hc.1 h]
    exact ih (ht.parent _ _ hc h)

/-- The classes on a chain have the same root. -/
lemma rootOf_of_mem (ht : t.Hierarchy) (hd : t.Has d) (hc : c ∈ t.chain d) :
    t.rootOf c = t.rootOf d := by
  have hup := ht.ascends_chain hd
  generalize t.chain d = ds at hup hc
  induction hup with
  | root => rw [List.mem_singleton.mp hc]
  | up h _ ih =>
    rcases List.mem_cons.mp hc with rfl | hc
    · rfl
    · rw [ih (ht.has_parent hd h) hc, ht.rootOf_of_some hd h]

end Hierarchy

lemma AlikeAbove.rootOf_eq (h : t.AlikeAbove t') (c : ClassId) : t'.rootOf c = t.rootOf c := by
  rw [rootOf, h.chain_eq, rootOf]

lemma Allocated.rootOf_eq {parent : Option ClassId} (h : t.Allocated parent c t') (ht : t.Hierarchy)
    (hparent : ∀ p ∈ parent, t.Has p) (hd : t.Has d) : t'.rootOf d = t.rootOf d := by
  rw [rootOf, h.chain_eq ht hparent hd, rootOf]

/-- A move gives the classes that had the moved one on their chain the root of its new superclass. -/
lemma Moved.rootOf_eq (h : t.Moved c p t') (ht : t.Hierarchy) (hc : t.HasClass c)
    (hp : t.HasClass p) (hbelow : c ∉ t.chain p) (hd : t.HasClass d) :
    t'.rootOf d = if c ∈ t.chain d then t.rootOf p else t.rootOf d := by
  have ht' := h.hierarchy ht hc hp hbelow
  have hhas {e : ClassId} (he : t.Has e) : t'.Has e := by rwa [Has, h.size]
  have hsuper {e : ClassId} (he : t.HasClass e) (hne : e ≠ c) :
      (t'.get e).superclass? = (t.get e).superclass? := by
    refine h.superclass_of_ne e hne ?_
    rintro rfl
    cases he.2.symm.trans (ht.metaclass c hc).2
  -- away from the moved class the way up stays as it was
  have haway {e : ClassId} (he : t.HasClass e) (hce : c ∉ t.chain e) : t'.rootOf e = t.rootOf e := by
    have hup := ht.ascends_chain he.1
    have hup' : t'.Ascends e (t.chain e) := hup.congr fun k hk =>
      hsuper (ht.hasClass_of_mem hup he k hk) (ne_of_mem_of_not_mem hk hce)
    rw [rootOf, ht'.chain_eq hup' (hhas he.1), rootOf]
  split
  · next hcd =>
    have hmoved : t'.rootOf c = t.rootOf p :=
      (ht'.rootOf_of_some (hhas hc.1) h.superclass).trans (haway hp hbelow)
    have hup := ht.ascends_chain hd.1
    generalize t.chain d = ds at hup hcd
    induction hup with
    | root => rwa [← List.mem_singleton.mp hcd]
    | @up d q ds hdq _ ih =>
      by_cases hdc : d = c
      · rwa [hdc]
      · have hq := ht.parent d q hd hdq
        rw [ht'.rootOf_of_some (hhas hd.1) ((hsuper hd hdc).trans hdq)]
        exact ih hq ((List.mem_cons.mp hcd).resolve_left (Ne.symm hdc))
  · next hcd => exact haway hd hcd

/-! ## The convention -/

/-- **The convention**: the class of every metaclass is the metaclass of the root above its class. -/
def Conventional (t : ClassTable) : Prop :=
  ∀ c, t.HasClass c → t.metaclass (t.metaclass c) = t.metaclass (t.rootOf c)

/-- **Bound** to founders: the class of every metaclass is the metaclass of the founder. -/
structure Bound (t : ClassTable) (f : ClassId → ClassId) : Prop where
  founder : ∀ c, t.HasClass c → t.HasClass (f c)
  metaclass : ∀ c, t.HasClass c → t.metaclass (t.metaclass c) = t.metaclass (f c)

/-- Where the founders are the roots, the convention holds. -/
lemma conventional_iff_bound (ht : t.Hierarchy) : t.Conventional ↔ t.Bound t.rootOf :=
  ⟨fun h => ⟨fun _ hc => (ht.rootOf_spec hc).1, h⟩, fun h => h.metaclass⟩

/-- **Pinned**: the same classes, metaclasses and classes of metaclasses. -/
structure Pinned (t t' : ClassTable) : Prop where
  size : t'.records.size = t.records.size
  isMeta : ∀ c, (t'.get c).isMeta = (t.get c).isMeta
  isa : ∀ c, (t'.get c).isa = (t.get c).isa

lemma AlikeAbove.pinned (h : t.AlikeAbove t') : t.Pinned t' := ⟨h.size, h.isMeta, h.isa⟩

lemma Moved.pinned (h : t.Moved c p t') : t.Pinned t' := ⟨h.size, h.isMeta, h.isa⟩

lemma Pinned.hasClass_iff (h : t.Pinned t') : t'.HasClass c ↔ t.HasClass c := by
  rw [HasClass, Has, h.size, h.isMeta, HasClass, Has]

lemma Pinned.metaclass_eq (h : t.Pinned t') : t'.metaclass = t.metaclass := funext h.isa

namespace Bound

lemma pinned (h : t.Bound f) (hpin : t.Pinned t') : t'.Bound f where
  founder c hc := hpin.hasClass_iff.mpr (h.founder c (hpin.hasClass_iff.mp hc))
  metaclass c hc := by
    rw [hpin.metaclass_eq]
    exact h.metaclass c (hpin.hasClass_iff.mp hc)

/-- A new class founds itself, or it takes over the founder of its superclass. -/
lemma allocated {parent : Option ClassId} (h : t.Bound f) (ht : t.Hierarchy)
    (halloc : t.Allocated parent c t') (hparent : ∀ p ∈ parent, t.Has p)
    (hisa : t'.metaclass (t'.metaclass c) =
      (parent.map fun p => t.metaclass (t.metaclass p)).getD (t'.metaclass c)) :
    t'.Bound (Function.update f c ((parent.map f).getD c)) := by
  have hold {d : ClassId} (hd : t.HasClass d) :
      Function.update f c ((parent.map f).getD c) d = f d :=
    Function.update_of_ne (by rintro rfl; exact halloc.new_class hd.1) _ _
  have habove (p : ClassId) (hp : p ∈ parent) : t.HasClass p := ⟨hparent p hp, halloc.parent p hp⟩
  refine ⟨fun d hd => ?_, fun d hd => ?_⟩
  · rcases halloc.hasClass_iff.mp hd with hd | rfl
    · rw [hold hd]
      exact halloc.hasClass_iff.mpr (.inl (h.founder d hd))
    · rw [Function.update_self]
      cases parent with
      | none => exact hd
      | some p => exact halloc.hasClass_iff.mpr (.inl (h.founder p (habove p rfl)))
  · rcases halloc.hasClass_iff.mp hd with hd | rfl
    · rw [hold hd, halloc.metaclass_eq hd.1, halloc.metaclass_eq (ht.metaclass d hd).1,
        halloc.metaclass_eq (h.founder d hd).1]
      exact h.metaclass d hd
    · rw [Function.update_self, hisa]
      cases parent with
      | none => rfl
      | some p =>
        have hp := habove p rfl
        exact (h.metaclass p hp).trans (halloc.metaclass_eq (h.founder p hp).1).symm

end Bound

/-- A move keeps the convention if and only if it stays below the same root. -/
lemma Moved.conventional_iff (h : t.Moved c p t') (ht : t.Hierarchy) (hc : t.HasClass c)
    (hp : t.HasClass p) (hbelow : c ∉ t.chain p) (hconv : t.Conventional) :
    t'.Conventional ↔ t.rootOf p = t.rootOf c := by
  have hroot {d : ClassId} (hd : t.HasClass d) := h.rootOf_eq ht hc hp hbelow hd
  have hmap := h.pinned.metaclass_eq
  constructor
  · intro hconv'
    have hmeta := hconv' c (h.hasClass_iff.mpr hc)
    rw [hmap, hconv c hc, hroot hc, if_pos (ht.ascends_chain hc.1).mem_self] at hmeta
    exact ht.metaclass_inj _ _ (ht.rootOf_spec hp).1 (ht.rootOf_spec hc).1 hmeta.symm
  · intro heq d hd
    have hd := h.hasClass_iff.mp hd
    rw [hmap, hconv d hd, hroot hd]
    split
    · next hcd => rw [heq, ht.rootOf_of_mem hd.1 hcd]
    · rfl

/-- A new class keeps the convention: the root above it is a founder already. -/
lemma Allocated.conventional {parent : Option ClassId} (h : t.Allocated parent c t')
    (ht : t.Hierarchy) (hparent : ∀ p ∈ parent, t.Has p)
    (hisa : t'.metaclass (t'.metaclass c) =
      (parent.map fun p => t.metaclass (t.metaclass p)).getD (t'.metaclass c))
    (hconv : t.Conventional) : t'.Conventional := by
  have ht' := h.hierarchy ht hparent
  have hbound := ((conventional_iff_bound ht).mp hconv).allocated ht h hparent hisa
  intro d hd
  rw [hbound.metaclass d hd]
  congr 1
  rcases h.hasClass_iff.mp hd with hd | rfl
  · rw [Function.update_of_ne (by rintro rfl; exact h.new_class hd.1),
      h.rootOf_eq ht hparent hd.1]
  · rw [Function.update_self]
    cases parent with
    | none => exact (ht'.rootOf_of_none hd.1 h.superclass).symm
    | some p =>
      rw [ht'.rootOf_of_some hd.1 h.superclass, h.rootOf_eq ht hparent (hparent p rfl)]
      rfl

end ClassTable

namespace ObjectSpace

variable {s s' : ObjectSpace} {r : ClassRequest} {c p : ClassId} {f : ClassId → ClassId}

/-! ## Requests -/

/-- The founders after a request: a new class founds itself or takes over the founder of its
superclass, and nothing else is changed. -/
def foundersAfter (s : ObjectSpace) (f : ClassId → ClassId) : ClassRequest → ClassId → ClassId
  | .allocatePair parent name extra =>
    match (s.allocatePair parent name extra).1 with
    | some c => Function.update f c ((parent.map f).getD c)
    | none => f
  | _ => f

/-- What an allocation writes as the class of the metaclass. -/
lemma isa_of_allocatePair {parent : Option ClassId} {name : String} {extra : UInt64}
    (h : s.allocatePair parent name extra = (some c, s')) :
    s'.classes.metaclass (s'.classes.metaclass c) =
      (parent.map fun p => s.classes.metaclass (s.classes.metaclass p)).getD
        (s'.classes.metaclass c) := by
  simp only [allocatePair] at h
  split at h
  · next halloc =>
    cases h
    exact ClassTable.isa_metaclass_of_allocatePair? halloc
  · cases h

/-- Requests that neither allocate nor move a class leave everything above the classes alone. -/
lemma alikeAbove_serve (s : ObjectSpace) (hnew : ∀ parent name extra, r ≠ .allocatePair parent name extra)
    (hmove : ∀ c p, r ≠ .setSuperclass (some c) (some p)) :
    s.classes.AlikeAbove (s.serve r).classes := by
  have hrefl := (ClassTable.Retains.refl s.classes).toAlikeAbove
  cases r with
  | allocatePair parent name extra => exact absurd rfl (hnew parent name extra)
  | registerPair c =>
    cases c with
    | none => exact hrefl
    | some c => exact (ClassTable.Retains.register _ c).toAlikeAbove
  | addMethod c sel imp types =>
    simp only [serve, addMethod]
    split
    · split
      · next h => exact (ClassTable.Retains.addMethod? h).toAlikeAbove
      · exact hrefl
    · exact hrefl
  | replaceMethod c sel imp types =>
    simp only [serve, replaceMethod]
    split
    · exact (ClassTable.Retains.replaceMethod _ _ _ imp types).toAlikeAbove
    · exact hrefl
  | setImplementation m imp =>
    simp only [serve, setImplementation]
    split
    · exact (ClassTable.Retains.swapImplementation _ _ _).toAlikeAbove
    · exact hrefl
  | exchange m k =>
    cases m with
    | none => exact hrefl
    | some m =>
      cases k with
      | none => exact hrefl
      | some k => exact (ClassTable.Retains.exchange _ m k).toAlikeAbove
  | setSuperclass c p =>
    cases c with
    | none => exact hrefl
    | some c =>
      cases p with
      | none => exact hrefl
      | some p => exact absurd rfl (hmove c p)
  | lookup c sel => exact s.classes.alikeAbove_lookup c sel

/-- A move that is served is accepted, or it changes nothing. -/
lemma moved_or_eq_serve (hs : s.classes.Hierarchy) (hr : s.Valid (.setSuperclass (some c) (some p))) :
    s.classes.canInherit c p = true ∧ s.classes.HasClass c ∧ s.classes.HasClass p ∧
        c ∉ s.classes.chain p ∧
        s.classes.Moved c p (s.serve (.setSuperclass (some c) (some p))).classes ∨
      s.classes.canInherit c p = false ∧
        (s.serve (.setSuperclass (some c) (some p))).classes = s.classes := by
  have hc : s.classes.Has c := hr c (by simp [ClassRequest.classes])
  have hp : s.classes.Has p := hr p (by simp [ClassRequest.classes])
  change _ ∨ _ ∧ (s.classes.setSuperclass c p).2 = s.classes
  cases h : s.classes.canInherit c p with
  | true =>
    have hmoved := ClassTable.moved_of_canInherit hs hc h
    simp only [ClassTable.canInherit, Bool.and_eq_true, Bool.not_eq_true', List.contains_eq_mem,
      decide_eq_false_iff_not] at h
    exact .inl ⟨rfl, ⟨hc, h.1.1⟩, ⟨hp, h.1.2⟩, h.2, hmoved⟩
  | false =>
    refine .inr ⟨rfl, ?_⟩
    rw [ClassTable.setSuperclass, if_neg (by simp [h])]

/-- A request keeps the classes of the metaclasses bound to the founders. -/
lemma bound_serve (hs : s.classes.Hierarchy) (hr : s.Valid r) (h : s.classes.Bound f) :
    (s.serve r).classes.Bound (s.foundersAfter f r) := by
  cases r with
  | allocatePair parent name extra =>
    rw [serve, foundersAfter]
    cases halloc : s.allocatePair parent name extra with
    | mk c s' =>
      cases c with
      | none =>
        rw [eq_of_allocatePair halloc]
        exact h
      | some c =>
        exact h.allocated hs (allocated_of_allocatePair halloc)
          (fun p hp => hr p (Option.mem_toList.mpr hp)) (isa_of_allocatePair halloc)
  | setSuperclass c p =>
    cases c with
    | none => exact h
    | some c =>
      cases p with
      | none => exact h
      | some p =>
        rcases moved_or_eq_serve hs hr with ⟨-, -, -, -, hmoved⟩ | ⟨-, heq⟩
        · exact h.pinned hmoved.pinned
        · exact h.pinned (heq ▸ (ClassTable.Retains.refl _).toAlikeAbove.pinned)
  | registerPair | addMethod | replaceMethod | setImplementation | exchange | lookup =>
    exact h.pinned (alikeAbove_serve s (by simp) (by simp)).pinned

/-- **Which requests keep the convention**: all but the moves of a class below another root. -/
theorem conventional_serve_iff (hs : s.classes.Hierarchy) (hr : s.Valid r)
    (h : s.classes.Conventional) :
    (s.serve r).classes.Conventional ↔
      ∀ c p, r = .setSuperclass (some c) (some p) → s.classes.canInherit c p = true →
        s.classes.rootOf p = s.classes.rootOf c := by
  by_cases hmove : ∃ c p, r = .setSuperclass (some c) (some p)
  · obtain ⟨c, p, rfl⟩ := hmove
    rcases moved_or_eq_serve hs hr with ⟨haccept, hc, hp, hbelow, hmoved⟩ | ⟨hrefuse, heq⟩
    · rw [hmoved.conventional_iff hs hc hp hbelow h]
      refine ⟨fun hroot d q hreq _ => ?_, fun hroots => hroots c p rfl haccept⟩
      cases hreq
      exact hroot
    · rw [heq]
      refine iff_of_true h fun d q hreq haccept => ?_
      cases hreq
      cases hrefuse.symm.trans haccept
  · refine iff_of_true ?_ fun c p hreq => absurd ⟨c, p, hreq⟩ hmove
    have hroot : s.classes.Bound s.classes.rootOf := (ClassTable.conventional_iff_bound hs).mp h
    by_cases hnew : ∃ parent name extra, r = .allocatePair parent name extra
    · obtain ⟨parent, name, extra, rfl⟩ := hnew
      rw [serve]
      cases halloc : s.allocatePair parent name extra with
      | mk c s' =>
        cases c with
        | none =>
          rw [eq_of_allocatePair halloc]
          exact h
        | some c =>
          exact (allocated_of_allocatePair halloc).conventional hs
            (fun p hp => hr p (Option.mem_toList.mpr hp)) (isa_of_allocatePair halloc) h
    · have halike := alikeAbove_serve s (fun parent name extra hreq => hnew ⟨_, _, _, hreq⟩)
        (fun c p hreq => hmove ⟨c, p, hreq⟩)
      intro c hc
      rw [halike.rootOf_eq]
      exact (hroot.pinned halike.pinned).metaclass c hc

/-! ## Runs -/

/-- **Founded**: the spaces that requests lead to, with the founder of every class. -/
inductive Founded : ObjectSpace → (ClassId → ClassId) → Prop
  | empty : Founded {} id
  | roots : Founded initial initial.classes.rootOf
  /-- A request about classes and methods. -/
  | serve {s : ObjectSpace} {f : ClassId → ClassId} (r : ClassRequest) (h : Founded s f)
      (hr : s.Valid r) : Founded (s.serve r) (s.foundersAfter f r)
  /-- An instance is created. -/
  | create {s : ObjectSpace} {f : ClassId → ClassId} (c : ClassId) (extra : UInt64)
      (h : Founded s f) : Founded (s.createInstance c extra).2 f
  /-- An instance gets another class. -/
  | setClass {s s' : ObjectSpace} {f : ClassId → ClassId} {a : Address} {c previous : ClassId}
      (h : Founded s f) (ha : s.classAround? a = none)
      (hset : s.setIsa? a c = some (previous, s')) : Founded s' f
  /-- An instance is disposed of. -/
  | dispose {s s' : ObjectSpace} {f : ClassId → ClassId} {a : Address} (h : Founded s f)
      (hdispose : s.dispose? a = some s') : Founded s' f

/-- Whatever is requested, there is one founder for every class. -/
lemma Arranged.exists_founded (h : Arranged s) : ∃ f, Founded s f := by
  induction h with
  | empty => exact ⟨_, .empty⟩
  | roots => exact ⟨_, .roots⟩
  | serve r _ hr ih => exact ih.imp' _ fun _ hf => .serve r hf hr
  | create c extra _ ih => exact ih.imp fun _ hf => .create c extra hf
  | setClass _ ha hset ih => exact ih.imp fun _ hf => .setClass hf ha hset
  | dispose _ hdispose ih => exact ih.imp fun _ hf => .dispose hf hdispose

lemma Founded.arranged (h : Founded s f) : Arranged s := by
  induction h with
  | empty => exact .empty
  | roots => exact .roots
  | serve r _ hr ih => exact .serve r ih hr
  | create c extra _ ih => exact .create c extra ih
  | setClass _ ha hset ih => exact .setClass ih ha hset
  | dispose _ hdispose ih => exact .dispose ih hdispose

lemma conventional_initial : initial.classes.Conventional := by
  have hall : ∀ i < initial.classes.records.size, (initial.classes.get ⟨i⟩).isMeta = false →
      initial.classes.metaclass (initial.classes.metaclass ⟨i⟩) =
        initial.classes.metaclass (initial.classes.rootOf ⟨i⟩) := by
    decide +kernel
  exact fun c hc => hall c.index hc.1 hc.2

/-- **Founders stay**: in every space that requests lead to, the class of every metaclass is the
metaclass of the founder. -/
theorem Founded.bound (h : Founded s f) : s.classes.Bound f := by
  induction h with
  | empty =>
    have hnone (c : ClassId) : ¬ ClassTable.HasClass {} c := fun h => Nat.not_lt_zero _ h.1
    exact ⟨fun c hc => absurd hc (hnone c), fun c hc => absurd hc (hnone c)⟩
  | roots =>
    exact (ClassTable.conventional_iff_bound untouched_initial.hierarchy).mp conventional_initial
  | serve r h hr ih => exact bound_serve h.arranged.hierarchy hr ih
  | create c extra _ ih =>
    rw [classes_createInstance]
    exact ih
  | setClass _ ha hset ih =>
    rw [classes_setIsa? ha hset]
    exact ih
  | dispose _ hdispose ih =>
    rw [(dispose?_eq_some hdispose).1]
    exact ih

/-- **When the convention holds**: in every space that requests lead to, each class has a founder, the
class of its metaclass is the metaclass of the founder, and it is the metaclass of the root above the
class if and only if that root is the founder. -/
theorem Arranged.convention_iff (h : Arranged s) :
    ∃ f, Founded s f ∧ ∀ c, s.classes.HasClass c →
      s.classes.HasClass (f c) ∧
      s.classes.metaclass (s.classes.metaclass c) = s.classes.metaclass (f c) ∧
      (s.classes.metaclass (s.classes.metaclass c) = s.classes.metaclass (s.classes.rootOf c) ↔
        s.classes.rootOf c = f c) := by
  obtain ⟨f, hf⟩ := h.exists_founded
  refine ⟨f, hf, fun c hc => ⟨hf.bound.founder c hc, hf.bound.metaclass c hc, ?_⟩⟩
  rw [hf.bound.metaclass c hc]
  constructor
  · exact fun heq => (h.hierarchy.metaclass_inj _ _ (hf.bound.founder c hc)
      (h.hierarchy.rootOf_spec hc).1 heq).symm
  · exact fun heq => by rw [heq]

/-- A root class of its own is moved below `Object`. -/
def rootMoved : ObjectSpace :=
  [.allocatePair none "Root" 0, .registerPair (some ⟨5⟩),
    .setSuperclass (some ⟨5⟩) (some ⟨1⟩)].foldl serve initial

lemma arranged_rootMoved : Arranged rootMoved :=
  ((Arranged.roots.serve (.allocatePair none "Root" 0) (by decide +kernel)).serve
    (.registerPair (some ⟨5⟩)) (by decide +kernel)).serve
    (.setSuperclass (some ⟨5⟩) (some ⟨1⟩)) (by decide +kernel)

/-- Its root is `Object` now, and it goes on being its own founder. -/
theorem convention_iff_rootMoved :
    Arranged rootMoved ∧ rootMoved.classes.HasClass ⟨5⟩ ∧ rootMoved.classes.rootOf ⟨5⟩ = ⟨1⟩ ∧
      ∃ f, Founded rootMoved f ∧ f ⟨5⟩ = ⟨5⟩ := by
  have hclass : rootMoved.classes.HasClass ⟨5⟩ :=
    ⟨by decide +kernel, by decide +kernel⟩
  obtain ⟨f, hf, hall⟩ := arranged_rootMoved.convention_iff
  obtain ⟨hfounder, hmeta, -⟩ := hall ⟨5⟩ hclass
  have hself : rootMoved.classes.metaclass (rootMoved.classes.metaclass ⟨5⟩) =
      rootMoved.classes.metaclass ⟨5⟩ := by decide +kernel
  exact ⟨arranged_rootMoved, hclass, by decide +kernel, f, hf,
    arranged_rootMoved.hierarchy.metaclass_inj _ _ hfounder hclass (hmeta.symm.trans hself)⟩

/-- The class of its metaclass is not the metaclass of `Object`. -/
theorem not_conventional_rootMoved :
    Arranged rootMoved ∧ rootMoved.classes.HasClass ⟨5⟩ ∧ rootMoved.classes.rootOf ⟨5⟩ = ⟨1⟩ ∧
      rootMoved.classes.metaclass (rootMoved.classes.metaclass ⟨5⟩) ≠
        rootMoved.classes.metaclass (rootMoved.classes.rootOf ⟨5⟩) :=
  ⟨arranged_rootMoved, ⟨by decide +kernel, by decide +kernel⟩, by decide +kernel, by decide +kernel⟩

end ObjectSpace

end MessageBridge
