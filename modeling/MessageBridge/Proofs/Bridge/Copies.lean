import MessageBridge.Proofs.Bridge.Hosting
import MessageBridge.Proofs.Bridge.Identity
import MessageBridge.Proofs.Bridge.Listing

/-!
# Copied lists

The object space lists what is there in a buffer, entry by entry. What a context answers has one
element for each entry, in the same order. There is one list of which a context may leave out entries:
a class that some code gave a class that is no metaclass is still registered, but no class for a
context that has no reference for it yet.

## Main definitions

* `Bridge.TakesAsClass`, `Bridge.Presents` — what a context takes for a class, and how it refers to it.
* `Bridge.ListsInOrder` — the lists that are answered.

## Main results

* `Act.forall₂_classes` — the registered classes, apart from those that the context takes for no
  class.
* `Act.declared_eq_ok` — the declarations of the classes on a chain, one class after another.
* `Bridge.listsInOrder` — all lists.
-/

namespace MessageBridge

/-! ## What a context takes for a class -/

namespace Bridge

variable {b b' b₁ : Bridge} {ctx : ContextId} {a : Address}

/-- Whether a context takes the object at an address for a class: it goes by its good reference, and
else by what the object space says. -/
def taken? (b : Bridge) (ctx : ContextId) (a : Address) : Option Bool :=
  ((b.current? ctx a).map (·.isClass)).or (b.space.isClass? a)

/-- A new reference says of an object what the object space does. -/
lemma taken?_newRef {isClass : Bool} (hnone : b.current? ctx a = none)
    (hclass : b.space.isClass? a = some isClass) (a' : Address) :
    ((Act.newRef ctx a isClass).after b).taken? ctx a' = b.taken? ctx a' := by
  have hclasses : ((Act.newRef ctx a isClass).after b).space.classes = b.space.classes := by
    rw [Act.after_newRef]
  have hmemory : ((Act.newRef ctx a isClass).after b).space.memory = b.space.memory := by
    rw [Act.after_newRef]
  rw [taken?, taken?, ObjectSpace.isClass?_congr hclasses hmemory a']
  cases hcurrent : ((Act.newRef ctx a isClass).after b).current? ctx a' with
  | some r =>
    rcases Act.current?_after_newRef hcurrent with hold | ⟨rfl, -, hr⟩
    · rw [hold]
    · rw [hnone, hclass, Option.map_some, hr]
      rfl
  | none =>
    cases hold : b.current? ctx a' with
    | none => rfl
    | some r =>
      rw [Act.after_newRef, current?_newRef hnone hold] at hcurrent
      cases hcurrent

/-- **Takes as class**: the context takes the class for one. -/
def TakesAsClass (b : Bridge) (ctx : ContextId) (c : ClassId) : Prop :=
  c.address ≠ 0 ∧ b.taken? ctx c.address = some true

instance (b : Bridge) (ctx : ContextId) : DecidablePred (b.TakesAsClass ctx) := fun _ =>
  inferInstanceAs (Decidable (_ ∧ _))

/-- **Presents**: the reference is one for a class, which is the good one for it or bears its
address. -/
def Presents (b : Bridge) (ctx : ContextId) (r : ObjectRef) (c : ClassId) : Prop :=
  r.isClass = true ∧ (b.current? ctx c.address = some r ∨ r.address = c.address)

/-- The reference bears the address of the class. -/
def IsReferenceFor (b : Bridge) (r : ObjectRef) (c : ClassId) : Prop :=
  b.space.classes.ofAddress? r.address = some c

/-- **Lists along**: what is listed along the chain of an object is what these classes declare. The
context refers to the classes on the chain up to the first one that it takes for no class, and as far
as the depth goes. -/
def ListsAlong (b : Bridge) (ctx : ContextId) (r : ObjectRef) (depth : Option Nat)
    (cs : List ClassId) : Prop :=
  ∃ c rs, b.space.isa? r.address = some c ∧
    List.Forall₂ (b.Presents ctx) rs ((b.space.classes.chain c).takeWhile (b.TakesAsClass ctx ·)) ∧
    List.Forall₂ b.IsReferenceFor (depth.elim rs rs.take) cs

/-- **Lists beside**: the class of an object has these entries, or the context takes that for no class
and there are none. -/
def ListsBeside {α : Type} (b : Bridge) (ctx : ContextId) (r : ObjectRef)
    (entries : ClassId → List α) (xs : List α) : Prop :=
  ∃ c, b.space.isa? r.address = some c ∧
    ((∃ k d, b.Presents ctx k c ∧ b.IsReferenceFor k d ∧ xs = entries d) ∨
      ¬ b.TakesAsClass ctx c ∧ xs = [])

/-- **The same taking**: there are the same classes, the context takes the same for classes, and the
references that it gave out since bear the addresses that they are for. -/
structure SameTaking (ctx : ContextId) (b b' : Bridge) : Prop where
  classes : b'.space.classes = b.space.classes
  selectors : b'.space.selectors = b.space.selectors
  taken : ∀ a, b'.taken? ctx a = b.taken? ctx a
  refs : ∀ a r, b'.current? ctx a = some r → b.current? ctx a = some r ∨ r.address = a

namespace SameTaking

lemma refl (b : Bridge) : SameTaking ctx b b := ⟨rfl, rfl, fun _ => rfl, fun _ _ => .inl⟩

lemma trans (h : SameTaking ctx b b₁) (h' : SameTaking ctx b₁ b') : SameTaking ctx b b' where
  classes := h'.classes.trans h.classes
  selectors := h'.selectors.trans h.selectors
  taken a := (h'.taken a).trans (h.taken a)
  refs a r hr := (h'.refs a r hr).elim (h.refs a r) .inr

lemma takesAsClass_iff (h : SameTaking ctx b b') (c : ClassId) :
    b'.TakesAsClass ctx c ↔ b.TakesAsClass ctx c := by
  rw [TakesAsClass, h.taken, TakesAsClass]

lemma presents (h : SameTaking ctx b b') {r : ObjectRef} {c : ClassId} (hr : b'.Presents ctx r c) :
    b.Presents ctx r c := by
  refine ⟨hr.1, ?_⟩
  rcases hr.2 with hcurrent | haddress
  · exact h.refs _ r hcurrent
  · exact .inr haddress

/-- A new reference bears the address that it is for. -/
lemma newRef {isClass : Bool} (hnone : b.current? ctx a = none)
    (hclass : b.space.isClass? a = some isClass) :
    SameTaking ctx b ((Act.newRef ctx a isClass).after b) where
  classes := by rw [Act.after_newRef]
  selectors := by rw [Act.after_newRef]
  taken := taken?_newRef hnone hclass
  refs _ _ hr := (Act.current?_after_newRef hr).imp id fun ⟨ha, hr, _⟩ => hr.trans ha.symm

end SameTaking

end Bridge

namespace Act

variable {α β : Type} {b b' : Bridge} {ctx : ContextId}

/-- A reference for a class is given out just if the context takes the class for one. -/
lemma wrapClassId_eq_ok {c : ClassId} {x : Option ObjectRef}
    (h : EStateM.run (wrapClassId ctx c) b = .ok x b') :
    ((∃ r, x = some r ∧ b.Presents ctx r c ∧ b.TakesAsClass ctx c) ∨
        x = none ∧ ¬ b.TakesAsClass ctx c) ∧
      Bridge.SameTaking ctx b b' := by
  obtain ⟨y, b₁, hwrap, hpure⟩ := run_bind_eq_ok.mp h
  cases hpure
  by_cases ha : c.address = 0
  · unfold wrap at hwrap
    rw [if_pos ha] at hwrap
    cases hwrap
    exact ⟨.inr ⟨rfl, fun htakes => htakes.1 ha⟩, .refl _⟩
  · -- the reference is given out, and then it is asked whether it is one for a class
    have hall {r : ObjectRef} (htaken : b.taken? ctx c.address = some r.isClass)
        (hr : b.current? ctx c.address = some r ∨ r.address = c.address) :
        (∃ r', (some r).filter (·.isClass) = some r' ∧ b.Presents ctx r' c ∧ b.TakesAsClass ctx c) ∨
          (some r).filter (·.isClass) = none ∧ ¬ b.TakesAsClass ctx c := by
      cases hclass : r.isClass with
      | true =>
        rw [hclass] at htaken
        exact .inl ⟨r, by rw [Option.filter_some, if_pos hclass], ⟨hclass, hr⟩, ha, htaken⟩
      | false =>
        rw [hclass] at htaken
        refine .inr ⟨by rw [Option.filter_some, if_neg (by rw [hclass]; exact Bool.false_ne_true)],
          fun htakes => ?_⟩
        rw [htakes.2] at htaken
        cases htaken
    rcases wrap_eq_ok ha hwrap with ⟨r, rfl, hcurrent, rfl⟩ | ⟨hnone, isClass, hclass, rfl, rfl⟩
    · exact ⟨hall (by rw [Bridge.taken?, hcurrent]; rfl) (.inl hcurrent), .refl _⟩
    · exact ⟨hall (by rw [Bridge.taken?, hnone, hclass]; rfl) (.inr rfl), .newRef hnone hclass⟩

/-- References for classes, one after another. -/
lemma mapM_wrapClassId_eq_ok {cs : List ClassId} {xs : List (Option ObjectRef)}
    (h : EStateM.run (cs.mapM (wrapClassId ctx)) b = .ok xs b') :
    List.Forall₂ (b.Presents ctx) (xs.filterMap id) (cs.filter (b.TakesAsClass ctx ·)) := by
  induction cs generalizing b xs with
  | nil =>
    cases h
    exact .nil
  | cons c cs ih =>
    rw [List.mapM_cons] at h
    obtain ⟨x, b₁, hx, h⟩ := run_bind_eq_ok.mp h
    obtain ⟨xs', b₂, hxs, hpure⟩ := run_bind_eq_ok.mp h
    cases hpure
    obtain ⟨hc, hsame⟩ := wrapClassId_eq_ok hx
    have hrest : List.Forall₂ (b.Presents ctx) (xs'.filterMap id)
        (cs.filter (b.TakesAsClass ctx ·)) := by
      simp only [← hsame.takesAsClass_iff]
      exact (ih hxs).imp fun _ _ => hsame.presents
    rcases hc with ⟨r, rfl, hr, htakes⟩ | ⟨rfl, hhides⟩
    · rw [List.filter_cons_of_pos (by exact decide_eq_true htakes)]
      exact .cons hr hrest
    · rw [List.filter_cons_of_neg (by rwa [decide_eq_true_iff])]
      exact hrest

/-- **The registered classes** are listed in their order, apart from those that the context takes for
no class. -/
lemma forall₂_classes {rs : List ObjectRef} (h : EStateM.run (classes ctx) b = .ok rs b') :
    List.Forall₂ (b.Presents ctx) rs
      (b.space.classes.registeredClasses.filter (b.TakesAsClass ctx ·)) := by
  unfold classes at h
  rw [run_bind_ok (run_fromSpace _), borrowList] at h
  split at h
  · next hempty =>
    cases h
    rw [List.isEmpty_iff.mp hempty]
    exact .nil
  · obtain ⟨c, hrun, -⟩ := run_borrowing_eq_ok.mp h
    obtain ⟨xs, b₁, hxs, hpure⟩ := run_bind_eq_ok.mp hrun
    cases hpure
    have hall := mapM_wrapClassId_eq_ok hxs
    exact hall

/-! ## What classes and protocols declare -/

/-- References for classes, up to the first one that the context takes for no class. -/
lemma wrapWhileClass_eq_ok {cs : List ClassId} {rs : List ObjectRef}
    (h : EStateM.run (wrapWhileClass ctx cs) b = .ok rs b') :
    List.Forall₂ (b.Presents ctx) rs (cs.takeWhile (b.TakesAsClass ctx ·)) ∧
      Bridge.SameTaking ctx b b' := by
  induction cs generalizing b rs with
  | nil =>
    cases h
    exact ⟨.nil, .refl _⟩
  | cons c cs ih =>
    unfold wrapWhileClass at h
    obtain ⟨x, b₁, hx, h⟩ := run_bind_eq_ok.mp h
    obtain ⟨hc, hsame⟩ := wrapClassId_eq_ok hx
    rcases hc with ⟨r, rfl, hr, htakes⟩ | ⟨rfl, hhides⟩
    · obtain ⟨rs', b₂, hrs, hpure⟩ := run_bind_eq_ok.mp h
      cases hpure
      obtain ⟨hall, hsame'⟩ := ih hrs
      simp only [hsame.takesAsClass_iff] at hall
      rw [List.takeWhile_cons_of_pos (by exact decide_eq_true htakes)]
      exact ⟨.cons hr (hall.imp fun _ _ => hsame.presents), hsame.trans hsame'⟩
    · cases h
      rw [List.takeWhile_cons_of_neg (by rwa [decide_eq_true_iff])]
      exact ⟨.nil, hsame⟩

section Declared

variable {list : ClassId → Act (List α)} {entries : ClassTable → ClassId → List α} {r : ObjectRef}
  (hlist : ∀ c b, Copies (list c) b (entries b.space.classes c))

include hlist

lemma copies_of_isReferenceFor {c : ClassId} (h : b.IsReferenceFor r c) :
    Copies (classOfRef r >>= list) b (entries b.space.classes c) := by
  have hclass : EStateM.run (classOfRef r) b = .ok c b := run_readSpace_eq_ok.mpr ⟨h, rfl⟩
  rw [Copies, run_bind_ok hclass]
  exact hlist c b

/-- What is listed for a reference is what the class declares whose address it bears. -/
lemma exists_isReferenceFor {xs : List α} (h : EStateM.run (classOfRef r >>= list) b = .ok xs b') :
    ∃ c, b.IsReferenceFor r c ∧ xs = entries b.space.classes c ∧ b'.space = b.space := by
  obtain ⟨c, b₁, hclass, hxs⟩ := run_bind_eq_ok.mp h
  obtain ⟨hc, rfl⟩ := run_readSpace_eq_ok.mp hclass
  rw [hlist c b₁] at hxs
  cases hxs
  exact ⟨c, hc, rfl, rfl⟩

/-- The declarations of the classes that references are for, one class after another. -/
lemma mapM_declared_eq_ok {rs : List ObjectRef} {xss : List (List α)}
    (h : EStateM.run (rs.mapM fun r => classOfRef r >>= list) b = .ok xss b') :
    (∃ cs, List.Forall₂ b.IsReferenceFor rs cs ∧ xss = cs.map (entries b.space.classes)) ∧
      b'.space = b.space := by
  induction rs generalizing b xss with
  | nil =>
    cases h
    exact ⟨⟨[], .nil, rfl⟩, rfl⟩
  | cons r rs ih =>
    rw [List.mapM_cons] at h
    obtain ⟨xs, b₁, hfirst, h⟩ := run_bind_eq_ok.mp h
    obtain ⟨xss', b₂, hrest, hpure⟩ := run_bind_eq_ok.mp h
    cases hpure
    obtain ⟨c, hc, rfl, hspace⟩ := exists_isReferenceFor hlist hfirst
    obtain ⟨⟨cs, hcs, rfl⟩, hspace'⟩ := ih hrest
    refine ⟨⟨c :: cs, .cons hc (hcs.imp fun r d hd => ?_), by rw [hspace, List.map_cons]⟩,
      hspace'.trans hspace⟩
    rwa [Bridge.IsReferenceFor, hspace] at hd

/-- What is declared along the chain of an object, one class after another. -/
lemma declared_eq_ok {depth : Option Nat} {xs : List α}
    (h : EStateM.run (declared ctx r depth list) b = .ok xs b') :
    (∃ cs, b.ListsAlong ctx r depth cs ∧ xs = cs.flatMap (entries b.space.classes)) ∧
      b'.space.selectors = b.space.selectors := by
  obtain ⟨rs, b₁, hancestors, h⟩ := run_bind_eq_ok.mp h
  obtain ⟨xss, b₂, hlists, hpure⟩ := run_bind_eq_ok.mp h
  cases hpure
  obtain ⟨c, b₀, hisa, hwrap⟩ := run_bind_eq_ok.mp hancestors
  obtain ⟨hc, rfl⟩ := run_readSpace_eq_ok.mp hisa
  obtain ⟨hall, hsame⟩ := wrapWhileClass_eq_ok hwrap
  obtain ⟨⟨cs, hcs, rfl⟩, hspace⟩ := mapM_declared_eq_ok hlist hlists
  have hcut : List.Forall₂ b₁.IsReferenceFor (depth.elim rs rs.take) cs := by
    cases depth <;> exact hcs
  refine ⟨⟨cs, ⟨c, rs, hc, hall, hcut.imp fun r d hd => ?_⟩, by rw [hsame.classes, List.flatMap_def]⟩,
    (congrArg ObjectSpace.selectors hspace).trans hsame.selectors⟩
  rwa [Bridge.IsReferenceFor, hsame.classes] at hd

/-- What is listed for a class itself is listed for its class. -/
lemma listsBeside_of_run {xs : List α}
    (h : EStateM.run (do
      match ← classOf ctx r with
      | some k => classOfRef k >>= list
      | none => return []) b = .ok xs b') : b.ListsBeside ctx r (entries b.space.classes) xs := by
  obtain ⟨x, b₁, hclassOf, h⟩ := run_bind_eq_ok.mp h
  obtain ⟨c, b₀, hisa, hwrap⟩ := run_bind_eq_ok.mp hclassOf
  obtain ⟨hc, rfl⟩ := run_readSpace_eq_ok.mp hisa
  obtain ⟨hx, hsame⟩ := wrapClassId_eq_ok hwrap
  rcases hx with ⟨k, rfl, hk, -⟩ | ⟨rfl, hhides⟩
  · obtain ⟨d, hd, rfl, -⟩ := exists_isReferenceFor hlist h
    rw [Bridge.IsReferenceFor, hsame.classes] at hd
    exact ⟨c, hc, .inl ⟨k, d, hk, hd, by rw [hsame.classes]⟩⟩
  · cases h
    exact ⟨c, hc, .inr ⟨hhides, rfl⟩⟩

end Declared

lemma copies_protocols (b : Bridge) : Copies protocols b b.space.protocols.registeredProtocols := by
  unfold protocols
  rw [Copies, run_bind_ok (run_fromSpace _)]
  exact copies_borrowList_self _ b

lemma copies_protocolsOf {r : ObjectRef} {c : ClassId} (h : b.IsReferenceFor r c) :
    Copies (protocolsOf r) b (b.space.classes.get c).protocols := by
  have hclass : EStateM.run (classOfRef r) b = .ok c b := run_readSpace_eq_ok.mpr ⟨h, rfl⟩
  have hrecord : EStateM.run (classRecord r) b = .ok (b.space.classes.get c) b :=
    (run_bind_ok hclass).trans (run_fromSpace _)
  unfold protocolsOf
  rw [Copies, run_bind_ok hrecord]
  exact copies_borrowList_self _ b

/-- The names of the selectors are read while the list is there. -/
lemma copies_protocolMethods (p : ProtocolId) (required instanceSide : Bool) (b : Bridge) :
    Copies (protocolMethods p required instanceSide) b
      ((b.space.protocols.declarations p required instanceSide).map fun d =>
        (b.space.selectors.name d.selector, d.types)) := by
  have hname (d : Declaration) (loans : Loans) :
      EStateM.run (do return some (← fromSpace (·.selectors.name d.selector), d.types))
          { b with loans } =
        .ok (some (b.space.selectors.name d.selector, d.types)) { b with loans } := rfl
  unfold protocolMethods
  rw [Copies, run_bind_ok (run_fromSpace _)]
  exact copies_borrowList hname _

/-- The methods of the classes on a chain, sorted if that is asked for. -/
lemma methodsOf_eq_ok {r : ObjectRef} {depth : Option Nat} {sort : Bool} {ms : List MethodRef}
    (h : EStateM.run (methodsOf ctx r depth sort) b = .ok ms b') :
    ∃ cs, b.ListsAlong ctx r depth cs ∧
      ms = byName sort (fun m => b.space.selectors.name m.selector)
        (cs.flatMap b.space.classes.methodRefs) := by
  obtain ⟨ms', b₁, hdeclared, h⟩ := run_bind_eq_ok.mp h
  obtain ⟨⟨cs, hcs, rfl⟩, hselectors⟩ := declared_eq_ok copies_classMethods hdeclared
  refine ⟨cs, hcs, ?_⟩
  cases sort with
  | false =>
    cases h
    rfl
  | true =>
    rw [if_pos rfl, run_bind_ok (Bridge.Intact.run_mapM_methodName _), hselectors] at h
    cases h
    rfl

lemma ivarsOf_eq_ok {r : ObjectRef} {depth : Option Nat} {sort : Bool} {is : List IvarRef}
    (h : EStateM.run (ivarsOf ctx r depth sort) b = .ok is b') :
    ∃ cs, b.ListsAlong ctx r depth cs ∧
      is = byName sort IvarRef.name (cs.flatMap b.space.classes.ivarRefs) := by
  obtain ⟨is', b₁, hdeclared, h⟩ := run_bind_eq_ok.mp h
  obtain ⟨⟨cs, hcs, rfl⟩, -⟩ := declared_eq_ok copies_classIvars hdeclared
  refine ⟨cs, hcs, ?_⟩
  cases sort <;> cases h <;> rfl

end Act

/-! ## All lists -/

namespace Bridge

open Act

/-- **Lists in order**: whatever is listed has one element for each entry, in their order. A buffer is
lent for each list that is copied, unless it is empty, and given back. -/
structure ListsInOrder (b : Bridge) : Prop where
  classes : ∀ ctx rs b', EStateM.run (classes ctx) b = .ok rs b' →
    List.Forall₂ (b.Presents ctx) rs
      (b.space.classes.registeredClasses.filter (b.TakesAsClass ctx ·))
  protocols : Copies protocols b b.space.protocols.registeredProtocols
  protocolsOf : ∀ r c, b.IsReferenceFor r c →
    Copies (protocolsOf r) b (b.space.classes.get c).protocols
  protocolMethods : ∀ p required instanceSide, Copies (protocolMethods p required instanceSide) b
    ((b.space.protocols.declarations p required instanceSide).map fun d =>
      (b.space.selectors.name d.selector, d.types))
  instanceMethods : ∀ r c, b.IsReferenceFor r c →
    Copies (instanceMethods r) b (b.space.classes.methodRefs c)
  instanceVariables : ∀ r c, b.IsReferenceFor r c →
    Copies (instanceVariables r) b (b.space.classes.ivarRefs c)
  classSideMethods : ∀ ctx r ms b', EStateM.run (classSideMethods ctx r) b = .ok ms b' →
    b.ListsBeside ctx r b.space.classes.methodRefs ms
  classSideVariables : ∀ ctx r is b', EStateM.run (classSideVariables ctx r) b = .ok is b' →
    b.ListsBeside ctx r b.space.classes.ivarRefs is
  methodsOf : ∀ ctx r depth sort ms b', EStateM.run (methodsOf ctx r depth sort) b = .ok ms b' →
    ∃ cs, b.ListsAlong ctx r depth cs ∧
      ms = byName sort (fun m => b.space.selectors.name m.selector)
        (cs.flatMap b.space.classes.methodRefs)
  ivarsOf : ∀ ctx r depth sort is b', EStateM.run (ivarsOf ctx r depth sort) b = .ok is b' →
    ∃ cs, b.ListsAlong ctx r depth cs ∧
      is = byName sort IvarRef.name (cs.flatMap b.space.classes.ivarRefs)

/-- **All lists** have one element for each entry, in their order. -/
theorem listsInOrder (b : Bridge) : b.ListsInOrder where
  classes _ _ _ := forall₂_classes
  protocols := copies_protocols b
  protocolsOf _ _ := copies_protocolsOf
  protocolMethods p required instanceSide := copies_protocolMethods p required instanceSide b
  instanceMethods _ _ := copies_of_isReferenceFor copies_classMethods
  instanceVariables _ _ := copies_of_isReferenceFor copies_classIvars
  classSideMethods _ _ _ _ := listsBeside_of_run copies_classMethods
  classSideVariables _ _ _ _ := listsBeside_of_run copies_classIvars
  methodsOf _ _ _ _ _ _ := methodsOf_eq_ok
  ivarsOf _ _ _ _ _ _ := ivarsOf_eq_ok

end Bridge

end MessageBridge
