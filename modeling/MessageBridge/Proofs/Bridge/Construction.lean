import MessageBridge.Proofs.Bridge.Hosting
import MessageBridge.Proofs.Space.Variables

/-!
# Building classes

Allocating a class, adding an instance variable and registering a class each change the class table at
most once, and whatever else is done leaves the layout of all classes as it is. So in every state that
building can lead to, with classes extended while they are pending and variables added in any order,
the variables along a chain lie where the ledger says.

## Main definitions

* `PendingClass.asked` — the exponent of the alignment that a variable is added with.
* `Bridge.Constructed` — the states that building classes can lead to, with the ledger of what was done.

## Main results

* `Bridge.Constructed.accounts` — the ledger accounts for the class table.
* `Bridge.Constructed.laidOut_iff` — the variables along a chain are laid out just if the chain is
  orderly.
-/

namespace MessageBridge

/-! ## Changes of the class table -/

namespace ClassTable

/-- One change of the class table on the way of building classes. -/
inductive Grown (e : UInt8) (t : ClassTable) : ClassTable → Prop
  | same : Grown e t t
  | allocated {parent : Option ClassId} {c : ClassId} {t' : ClassTable}
      (h : t.AllocatedEmpty parent c t') (hparent : ∀ p ∈ parent, t.Has p) : Grown e t t'
  | added {c : ClassId} {t' : ClassTable} (h : t.Added c e t') : Grown e t t'
  | registered (c : ClassId) : Grown e t (t.register c)

/-- **Builds**: at most one change, among others that leave all layouts as they are. -/
def Builds (e : UInt8) (t t' : ClassTable) : Prop :=
  ∃ t₁ t₁', t.SameLayout t₁ ∧ t₁.Grown e t₁' ∧ t₁'.SameLayout t'

variable {t t' t'' : ClassTable} {e : UInt8} {l : Ledger}

namespace Builds

lemma of_same (h : t.SameLayout t') : t.Builds e t' := ⟨t', t', h, .same, .refl t'⟩

lemma of_grown (h : t.Grown e t') : t.Builds e t' := ⟨t, t', .refl t, h, .refl t'⟩

lemma after_same (h : t.SameLayout t') (h' : t'.Builds e t'') : t.Builds e t'' := by
  obtain ⟨t₁, t₁', hbefore, hgrown, hafter⟩ := h'
  exact ⟨t₁, t₁', h.trans hbefore, hgrown, hafter⟩

lemma before_same (h : t.Builds e t') (h' : t'.SameLayout t'') : t.Builds e t'' := by
  obtain ⟨t₁, t₁', hbefore, hgrown, hafter⟩ := h
  exact ⟨t₁, t₁', hbefore, hgrown, hafter.trans h'⟩

end Builds

/-- **Building** keeps the accounts, when what is new is noted. -/
lemma Accounts.built (h : t.Accounts l) (hb : t.Builds e t') : t'.Accounts (l.noted t t' e) := by
  obtain ⟨t₁, t₁', hbefore, hgrown, hafter⟩ := hb
  rw [Ledger.noted_congr hbefore hafter]
  refine Accounts.same ?_ hafter
  have h₁ := h.same hbefore
  cases hgrown with
  | same => exact h₁.noted t₁ e
  | allocated ha hparent => exact h₁.allocated ha hparent
  | added ha => exact h₁.added ha
  | registered c => exact (h₁.noted _ e).registered c

lemma has_of_ofAddress? {a : Address} {c : ClassId} (h : t.ofAddress? a = some c) : t.Has c := by
  simp only [ofAddress?] at h
  split at h
  · next hin =>
    cases h
    exact hin.2.2
  · cases h

end ClassTable

/-! ## What building does -/

/-- The layout of every class stays as it is. -/
def Bridge.SameClasses (b b' : Bridge) : Prop := b.space.classes.SameLayout b'.space.classes

lemma Upkeep.sameClasses {b b' : Bridge} (h : Upkeep b b') : b.SameClasses b' := by
  cases h with
  | learning h => cases h <;> exact .refl _
  | cache c sel => exact .lookup _ c sel
  | refer ctx a isClass => exact .refl _
  | intern | remember | store | keepFrame | retain => exact .refl _

instance : Recording Bridge.SameClasses := ⟨fun h _ _ _ => h.sameClasses⟩

lemma Bridge.SameClasses.of_run {b b' : Bridge} (h : Relation.ReflTransGen Bridge.SameClasses b b') :
    b.SameClasses b' := by
  induction h with
  | refl => exact .refl _
  | tail _ hstep ih => exact ih.trans hstep

namespace Act

variable {α β : Type} {x : Act α} {f : α → Act β} {b b' : Bridge} {e : UInt8}

lemma Moves.sameClasses (h : Moves Bridge.SameClasses x b) :
    b.space.classes.SameLayout (x.after b).space.classes := Bridge.SameClasses.of_run h

/-- The action changes the class table at most once. -/
def Builds (e : UInt8) (x : Act α) (b : Bridge) : Prop :=
  b.space.classes.Builds e (x.after b).space.classes

namespace Builds

lemma of_moves (h : Moves Bridge.SameClasses x b) : Builds e x b := .of_same h.sameClasses

/-- The change may come after other things. -/
lemma bind (hx : Moves Bridge.SameClasses x b)
    (hf : ∀ a b₁, EStateM.run x b = .ok a b₁ → Builds e (f a) b₁) : Builds e (x >>= f) b := by
  rw [Builds]
  rcases after_bind x f b with h | ⟨a, b₁, hrun, h⟩
  · rw [h]
    exact .of_same hx.sameClasses
  · rw [h]
    have hsame := hx.sameClasses
    rw [after_of_ok hrun] at hsame
    exact .after_same hsame (hf a b₁ hrun)

/-- Other things may come after the change. -/
lemma andThen (hx : Builds e x b)
    (hf : ∀ a b₁, EStateM.run x b = .ok a b₁ → Moves Bridge.SameClasses (f a) b₁) :
    Builds e (x >>= f) b := by
  rw [Builds] at hx ⊢
  rcases after_bind x f b with h | ⟨a, b₁, hrun, h⟩
  · rwa [h]
  · rw [h]
    rw [after_of_ok hrun] at hx
    exact .before_same hx (hf a b₁ hrun).sameClasses

end Builds

lemma has_of_classOfRef {r : ObjectRef} {c : ClassId}
    (h : EStateM.run (classOfRef r) b = .ok c b') : b' = b ∧ b.space.classes.Has c := by
  obtain ⟨hc, rfl⟩ := run_readSpace_eq_ok.mp h
  exact ⟨rfl, ClassTable.has_of_ofAddress? hc⟩

lemma builds_allocatePair {parent : Option ClassId} (hparent : ∀ p ∈ parent, b.space.classes.Has p)
    (name : String) (extra : UInt64) :
    Builds e (onSpace (·.allocatePair parent name extra)) b := by
  have hafter : (onSpace (·.allocatePair parent name extra)).after b =
      { b with space := (b.space.allocatePair parent name extra).2 } := by
    rw [after, run_onSpace]
  rw [Builds, hafter]
  simp only [ObjectSpace.allocatePair]
  split
  · next c classes h => exact .of_grown (.allocated (ClassTable.allocatedEmpty_of_allocatePair? h) hparent)
  · exact .of_same (.refl _)

/-- The part of starting a class that comes after its superclass is known. -/
lemma builds_allocated {parent : Option ClassId} (hparent : ∀ p ∈ parent, b.space.classes.Has p)
    (ctx : ContextId) (name : String) (extra : UInt64) :
    Builds e (do
      match ← onSpace (·.allocatePair parent name extra) with
      | some c =>
        match ← wrapClassId ctx c with
        | some r => return (⟨ctx, r, name, false⟩ : PendingClass)
        | none => fail (.classAllocation name)
      | none => fail (.classAllocation name)) b := by
  refine (builds_allocatePair hparent name extra).andThen fun c b₁ _ => ?_
  split
  · refine (upkeep_wrapClass ctx _).bind fun r b₂ _ => ?_
    split
    · exact moves_pure _
    · exact moves_fail _
  · exact moves_fail _

/-- **Extending** allocates at most one class. -/
lemma builds_extend (ctx : ContextId) (parent : Option ObjectRef) (name : String) (extra : UInt64) :
    Builds e (extend ctx parent name extra) b := by
  unfold extend
  refine Builds.bind (moves_checkName name) fun _ b₁ _ => ?_
  split
  · refine Builds.bind (moves_readSpace _).map fun parent b₂ hrun =>
      builds_allocated (fun p hp => ?_) ctx name extra
    rw [map_eq_pure_bind] at hrun
    obtain ⟨c, b₃, hc, hpure⟩ := run_bind_eq_ok.mp hrun
    obtain ⟨rfl, hhas⟩ := has_of_classOfRef hc
    cases hpure
    exact Option.some.inj hp ▸ hhas
  · refine Builds.bind (moves_pure _) fun parent b₂ hrun =>
      builds_allocated (fun p hp => ?_) ctx name extra
    cases hrun
    cases hp

end Act

namespace PendingClass

open Act

variable (p : PendingClass) {b : Bridge} {e : UInt8}

/-- The exponent of the alignment that a variable is added with: the one that is given, or that of its
size or its type. -/
def asked (encoding : String) (size : Option UInt64) (exponent : Option UInt8) (b : Bridge) : UInt8 :=
  exponent.getD (match EStateM.run (translate p.context encoding) b with
    | .ok d _ => defaultExponent (size.getD (UInt64.ofNat d.size)) d
    | .error _ _ => 0)

/-- The part of adding a variable that comes after its size is known. -/
lemma builds_ivarAdded (name : String) (d : Descriptor) (size : UInt64) (b : Bridge) :
    Builds e (do
      checkName name
      checkName d.encoding
      let c ← classOfRef p.classRef
      match ← fromSpace (·.classes.addIvar? c name size e d.encoding) with
      | some classes => changeSpace (fun s => some (s.withClasses classes))
      | none => fail (.ivarRegistration p.name name)) b := by
  refine Builds.bind (moves_checkName name) fun _ b₁ _ =>
    Builds.bind (moves_checkName _) fun _ b₂ _ =>
      Builds.bind (moves_readSpace _) fun c b₃ hc => ?_
  obtain ⟨rfl, hhas⟩ := has_of_classOfRef hc
  refine Builds.bind (moves_fromSpace _) fun classes b₄ hclasses => ?_
  rw [run_fromSpace] at hclasses
  obtain ⟨hadd, rfl⟩ := EStateM.Result.ok.inj hclasses
  split
  · exact .of_grown (.added (ClassTable.added_of_addIvar? hhas hadd))
  · exact .of_moves (moves_fail _)

/-- **Adding a variable** adds at most one, with the alignment that was asked for. -/
lemma builds_addIvar (name encoding : String) (size : Option UInt64) (exponent : Option UInt8) :
    Builds (p.asked encoding size exponent b) (p.addIvar name encoding size exponent) b := by
  refine Builds.bind (moves_ensurePending p _) fun _ b₁ hrun => ?_
  obtain rfl : b₁ = b := by
    unfold ensurePending at hrun
    split at hrun
    · cases hrun
    · cases hrun
      rfl
  refine Builds.bind (upkeep_withStructs p.context _) fun d b₂ hd => ?_
  have hasked : p.asked encoding size exponent b₁ =
      exponent.getD (defaultExponent (size.getD (UInt64.ofNat d.size)) d) := by
    have htranslate : EStateM.run (translate p.context encoding) b₁ = .ok d b₂ := hd
    rw [asked, htranslate]
  rw [hasked]
  simp only
  split
  · exact Builds.bind (moves_fail _) fun _ b₃ _ => builds_ivarAdded p name d _ b₃
  · exact builds_ivarAdded p name d _ b₂

/-- **Registering** changes no layout. -/
lemma builds_register : Builds e p.register b := by
  refine Builds.bind (moves_ensurePending p _) fun _ b₁ _ =>
    Builds.bind (moves_readSpace _) fun c b₂ _ =>
      Builds.andThen (.of_grown (.registered c)) fun _ b₃ _ =>
        Moves.bind (.of_step (.refl _)) fun _ b₄ _ => moves_pure _

end PendingClass

/-! ## Runs -/

namespace Bridge

/-- **Constructed**: building classes can lead to the state, from the root classes on, with the ledger
of what was done. An operation may also fail. In between anything may be done that leaves the layout of
all classes as it is. -/
inductive Constructed : Bridge → Ledger → Prop
  | start {b : Bridge} (h : b.space = .initial) : Constructed b .roots
  | other {b b' : Bridge} {l : Ledger} (h : Constructed b l) (hsame : b.SameClasses b') :
      Constructed b' l
  | extend {b : Bridge} {l : Ledger} (h : Constructed b l) (ctx : ContextId)
      (parent : Option ObjectRef) (name : String) (extra : UInt64) :
      Constructed ((Act.extend ctx parent name extra).after b)
        (l.noted b.space.classes ((Act.extend ctx parent name extra).after b).space.classes 0)
  | addIvar {b : Bridge} {l : Ledger} (h : Constructed b l) (p : PendingClass)
      (name encoding : String) (size : Option UInt64) (exponent : Option UInt8) :
      Constructed ((p.addIvar name encoding size exponent).after b)
        (l.noted b.space.classes ((p.addIvar name encoding size exponent).after b).space.classes
          (p.asked encoding size exponent b))
  | register {b : Bridge} {l : Ledger} (h : Constructed b l) (p : PendingClass) :
      Constructed (p.register.after b) (l.noted b.space.classes (p.register.after b).space.classes 0)

namespace Constructed

variable {b : Bridge} {l : Ledger} {c : ClassId}

/-- **The ledger accounts** for the class table, after every run. -/
theorem accounts (h : b.Constructed l) : b.space.classes.Accounts l := by
  induction h with
  | start h =>
    rw [h]
    exact accounts_roots
  | other _ hsame ih => exact ih.same hsame
  | extend _ ctx parent name extra ih => exact ih.built (Act.builds_extend ctx parent name extra)
  | addIvar _ p name encoding size exponent ih =>
    exact ih.built (p.builds_addIvar name encoding size exponent)
  | register _ p ih => exact ih.built p.builds_register

/-- **Where variables lie**: in every state that building classes leads to, the variables along the chain
of a class are laid out apart, aligned, inside and clear of the class word just if its root begins with
the class word, no place and no sum wrapped, and no class of the chain got a variable that reaches into
what a class below it holds, or behind its end, after that class had been allocated. -/
theorem laidOut_iff (h : b.Constructed l) (hc : b.space.classes.HasClass c) :
    b.space.classes.LaidOut l c ↔ b.space.classes.Orderly l c :=
  h.accounts.laidOut_iff_orderly hc

/-! ## A variable that comes too late -/

/-- `Lower` is extended from `Upper` while that is pending. -/
def extendedEarly : Bridge :=
  (Act.extend 0 (some (PendingClass.ofClass ⟨5⟩ "Upper").classRef) "Lower" 0).after
    ((Act.extend 0 (some (PendingClass.ofClass ⟨1⟩ "Object").classRef) "Upper" 0).after
      (Bridge.openContext {} {} {}).2)

/-- Then both get a variable, first `Upper`. -/
def grownLate : Bridge :=
  ((PendingClass.ofClass ⟨7⟩ "Lower").addIvar "y" "q" none none).after
    (((PendingClass.ofClass ⟨5⟩ "Upper").addIvar "x" "q" none none).after extendedEarly)

lemma exists_constructed_grownLate : ∃ l, grownLate.Constructed l :=
  ⟨_, ((((Constructed.start rfl).extend _ _ _ _).extend _ _ _ _).addIvar _ _ _ _ _).addIvar _ _ _ _ _⟩

/-- The chain of the class below is laid out just if it is orderly. -/
theorem laidOut_iff_grownLate :
    ∃ l, grownLate.Constructed l ∧ grownLate.space.classes.HasClass ⟨7⟩ ∧
      (grownLate.space.classes.LaidOut l ⟨7⟩ ↔ grownLate.space.classes.Orderly l ⟨7⟩) := by
  obtain ⟨l, hl⟩ := exists_constructed_grownLate
  have hc : grownLate.space.classes.HasClass ⟨7⟩ := ⟨by decide +kernel, by decide +kernel⟩
  exact ⟨l, hl, hc, hl.laidOut_iff hc⟩

/-- **Two variables at one place**: the class that was extended early has the variable that its
superclass got late, and its own lies on it. -/
theorem not_laidOut_grownLate :
    ∃ l, grownLate.Constructed l ∧ grownLate.space.classes.HasClass ⟨7⟩ ∧
      grownLate.space.classes.ivarsAlong ⟨7⟩ =
        [(⟨7⟩, ⟨"y", "q", 8, 8⟩), (⟨5⟩, ⟨"x", "q", 8, 8⟩), (⟨1⟩, ⟨"isa", "#", 0, 8⟩)] ∧
      ¬grownLate.space.classes.LaidOut l ⟨7⟩ := by
  obtain ⟨l, hl⟩ := exists_constructed_grownLate
  have hivars : grownLate.space.classes.ivarsAlong ⟨7⟩ =
      [(⟨7⟩, ⟨"y", "q", 8, 8⟩), (⟨5⟩, ⟨"x", "q", 8, 8⟩), (⟨1⟩, ⟨"isa", "#", 0, 8⟩)] := by
    decide +kernel
  refine ⟨l, hl, ⟨by decide +kernel, by decide +kernel⟩, hivars, fun h => ?_⟩
  have hapart := h.apart
  rw [hivars] at hapart
  exact absurd hapart (by decide)

end Constructed

end Bridge

end MessageBridge
