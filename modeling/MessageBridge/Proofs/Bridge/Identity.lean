import MessageBridge.Proofs.Bridge.Persistence
import MessageBridge.Proofs.Space.Residence
import Mathlib.Data.List.Dedup

/-!
# One reference for each life

Whether a reference is still good is decided by two tables: what the context gave out for the address,
which is never dropped, and what the object space associates with the object, which is dropped when the
object is disposed of. An address may be used again, and then the first table still knows the reference
for the old object. It is the second one that tells the two lives at the address apart.

A census counts lives. Each new object, at whatever address, begins a life of its own, and each
reference that is given out is noted down with the life that it was given for.

## Main definitions

* `Gift`, `Census` — the lives and the references that were given out for them.
* `Bridge.Accounts` — what the tables of the bridge have to do with a census.
* `Bridge.Tended` — the runs of allocation, of disposal and of giving out references, with their
  census.

## Main results

* `Act.wrap_eq_ok` — a reference that is given out is the good one, or a new one where there is none.
* `Bridge.Accounts.give`, `Bridge.Accounts.birth`, `Bridge.Accounts.death` — the tables account for
  the census after each step.
* `Bridge.Tended.createInstance` — creating an instance in the object space is a step of such a run.
* `Bridge.Tended.one_reference` — two references are the same just if they were given out by the same
  context for the same life.
-/

namespace MessageBridge

/-! ## Associations that are dropped -/

namespace AssociationTable

variable {t : AssociationTable} {a a' : Address}

lemma get?_clear_self (t : AssociationTable) (a : Address) (key : AssociationKey) :
    (t.clear a).get? a key = none := by
  refine List.lookup_eq_none_iff.mpr fun e he => ?_
  have hne := (List.mem_filter.mp he).2
  rw [bne_iff_ne]
  intro heq
  simp [← heq] at hne

lemma get?_clear_of_ne (h : a' ≠ a) (t : AssociationTable) (key : AssociationKey) :
    (t.clear a).get? a' key = t.get? a' key :=
  lookup_filter (p := fun k : Address × AssociationKey => k.1 != a) (by simpa using h) t.entries

end AssociationTable

/-! ## What contexts remember -/

namespace Act

variable {b : Bridge} {ctx i : ContextId} {a : Address} {isClass : Bool}

/-- The address of a new reference is remembered before the others, and no longer among them. -/
lemma tracked_newRef_self (hctx : ctx < b.contexts.size) :
    (((newRef ctx a isClass).after b).contextAt ctx).tracked.map Prod.fst =
      a :: ((b.contextAt ctx).tracked.map Prod.fst).filter (· != a) := by
  have hcontext := Bridge.contextAt_modify_self hctx (·.track ⟨b.nextSerial, a, isClass⟩)
  rw [List.filter_map]
  exact congrArg (·.tracked.map Prod.fst) hcontext

/-- Other contexts do not hear of a new reference. -/
lemma contextAt_newRef_of_ne (hi : i ≠ ctx) :
    ((newRef ctx a isClass).after b).contextAt i = b.contextAt i :=
  Bridge.contextAt_modify_of_ne hi.symm _

end Act

/-! ## The census -/

/-- **Gifts**: a context gave out a reference for the object that lived at the address. -/
structure Gift where
  ctx : ContextId
  life : Nat
  address : Address
  ref : ObjectRef

/-- **The census**: which life is lived at which address, how many lives were begun, and what was given
out. -/
structure Census where
  living : List (Address × Nat) := []
  born : Nat := 0
  given : List Gift := []

namespace Census

/-- The census where each class of the table is alive and nothing was given out. -/
def ofClasses (t : ClassTable) : Census where
  living := (List.range t.records.size).map fun i => (ClassId.address ⟨i⟩, i)
  born := t.records.size

/-- Whether the life is lived at the address. -/
def Lives (l : Census) (a : Address) (n : Nat) : Prop := (a, n) ∈ l.living

/-- A new life begins at the address. -/
def birth (l : Census) (a : Address) : Census :=
  { l with living := (a, l.born) :: l.living, born := l.born + 1 }

/-- What lives at the address ends its life. -/
def death (l : Census) (a : Address) : Census :=
  { l with living := l.living.filter (·.1 != a) }

/-- A reference is given out. -/
def give (l : Census) (g : Gift) : Census := { l with given := g :: l.given }

/-- The addresses for which the context gave out references, as often as it did. -/
def addresses (l : Census) (ctx : ContextId) : List Address :=
  (l.given.filter (·.ctx == ctx)).map Gift.address

variable {l : Census} {a x : Address} {n : Nat} {ctx : ContextId}

lemma lives_birth : (l.birth x).Lives a n ↔ (a = x ∧ n = l.born) ∨ l.Lives a n := by
  simp [Lives, birth]

lemma lives_death : (l.death x).Lives a n ↔ l.Lives a n ∧ a ≠ x := by
  simp [Lives, death]

lemma mem_addresses : a ∈ l.addresses ctx ↔ ∃ g ∈ l.given, g.ctx = ctx ∧ g.address = a := by
  simp [addresses, and_assoc]

lemma mem_addresses_give {g : Gift} :
    a ∈ (l.give g).addresses ctx ↔ (g.ctx = ctx ∧ g.address = a) ∨ a ∈ l.addresses ctx := by
  simp only [mem_addresses, give, List.exists_mem_cons_iff]

end Census

namespace Bridge

variable {b b' : Bridge} {l : Census} {ctx : ContextId} {a : Address} {n : Nat} {isClass : Bool}

/-- **Accounts**: no two objects live at one address, nor one at two; the good references are those that
were given out for the lives that are lived; and a context remembers each address that it gave a
reference for once. -/
structure Accounts (b : Bridge) (l : Census) : Prop where
  one_life : ∀ a n n', l.Lives a n → l.Lives a n' → n = n'
  one_home : ∀ a a' n, l.Lives a n → l.Lives a' n → a = a'
  born : ∀ a n, l.Lives a n → n < l.born
  given : ∀ g ∈ l.given, g.ctx < b.contexts.size ∧ g.life < l.born ∧ g.ref.serial < b.nextSerial ∧
    g.ref.address = g.address
  home : ∀ g ∈ l.given, ∀ a, l.Lives a g.life → a = g.address
  unique : ∀ g ∈ l.given, ∀ g' ∈ l.given,
    g.ref.serial = g'.ref.serial ∨ g.ctx = g'.ctx ∧ g.life = g'.life → g = g'
  current : ∀ ctx a r, b.current? ctx a = some r ↔ ∃ n, l.Lives a n ∧ ⟨ctx, n, a, r⟩ ∈ l.given
  nodup : ∀ ctx, ((b.contextAt ctx).tracked.map Prod.fst).Nodup
  tracked : ∀ ctx a, a ∈ (b.contextAt ctx).tracked.map Prod.fst ↔ a ∈ l.addresses ctx

namespace Accounts

/-- Other parts of the bridge do not matter. -/
lemma congr (h : b.Accounts l)
    (htracked : ∀ ctx, (b'.contextAt ctx).tracked = (b.contextAt ctx).tracked)
    (hsize : b.contexts.size ≤ b'.contexts.size) (hserial : b'.nextSerial = b.nextSerial)
    (hassociations : b'.space.associations = b.space.associations) : b'.Accounts l where
  one_life := h.one_life
  one_home := h.one_home
  born := h.born
  given g hg := by
    obtain ⟨hctx, hrest⟩ := h.given g hg
    rw [hserial]
    exact ⟨Nat.lt_of_lt_of_le hctx hsize, hrest⟩
  home := h.home
  unique := h.unique
  current ctx a r := by
    rw [current?, htracked, hassociations]
    exact h.current ctx a r
  nodup ctx := by
    rw [htracked]
    exact h.nodup ctx
  tracked ctx a := by
    rw [htracked]
    exact h.tracked ctx a

/-- **A birth** where nobody lives: nothing was given out for the new life. -/
lemma birth (h : b.Accounts l) (ha : ∀ n, ¬ l.Lives a n) : b.Accounts (l.birth a) where
  one_life x n n' hn hn' := by
    rcases Census.lives_birth.mp hn with ⟨hx, heq⟩ | hn <;>
      rcases Census.lives_birth.mp hn' with ⟨hx', heq'⟩ | hn'
    · rw [heq, heq']
    · exact absurd (hx ▸ hn') (ha n')
    · exact absurd (hx' ▸ hn) (ha n)
    · exact h.one_life x n n' hn hn'
  one_home x x' n hn hn' := by
    rcases Census.lives_birth.mp hn with ⟨hx, heq⟩ | hn <;>
      rcases Census.lives_birth.mp hn' with ⟨hx', heq'⟩ | hn'
    · rw [hx, hx']
    · exact absurd heq (Nat.ne_of_lt (h.born x' n hn'))
    · exact absurd heq' (Nat.ne_of_lt (h.born x n hn))
    · exact h.one_home x x' n hn hn'
  born x n hn := by
    rcases Census.lives_birth.mp hn with ⟨rfl, rfl⟩ | hn
    · exact Nat.lt_succ_self _
    · exact Nat.lt_succ_of_lt (h.born x n hn)
  given g hg := by
    obtain ⟨hctx, hlife, hrest⟩ := h.given g hg
    exact ⟨hctx, Nat.lt_succ_of_lt hlife, hrest⟩
  home g hg x hx := by
    rcases Census.lives_birth.mp hx with ⟨rfl, hlife⟩ | hx
    · exact absurd (h.given g hg).2.1 (hlife ▸ Nat.lt_irrefl _)
    · exact h.home g hg x hx
  unique := h.unique
  current ctx x r := by
    rw [h.current]
    refine exists_congr fun n => and_congr_left fun hg => ?_
    rw [Census.lives_birth, or_iff_right]
    rintro ⟨-, rfl⟩
    exact absurd (h.given _ hg).2.1 (Nat.lt_irrefl _)
  nodup := h.nodup
  tracked := h.tracked

/-- **A death**: the association is dropped, and no reference for the address is good any more. -/
lemma death (h : b.Accounts l) {space : ObjectSpace}
    (hassociations : space.associations = b.space.associations.clear a) :
    ({ b with space } : Bridge).Accounts (l.death a) where
  one_life x n n' hn hn' :=
    h.one_life x n n' (Census.lives_death.mp hn).1 (Census.lives_death.mp hn').1
  one_home x x' n hn hn' :=
    h.one_home x x' n (Census.lives_death.mp hn).1 (Census.lives_death.mp hn').1
  born x n hn := h.born x n (Census.lives_death.mp hn).1
  given := h.given
  home g hg x hx := h.home g hg x (Census.lives_death.mp hx).1
  unique := h.unique
  current ctx x r := by
    simp only [Census.lives_death]
    by_cases hx : x = a
    · subst hx
      have hnone : ({ b with space } : Bridge).current? ctx x = none := by
        rw [current?, hassociations, AssociationTable.get?_clear_self]
        exact Option.filter_eq_none_iff.mpr fun r _ => by simp
      rw [hnone]
      constructor
      · intro heq
        cases heq
      · rintro ⟨_, ⟨-, hne⟩, -⟩
        exact absurd rfl hne
    · have hsame : ({ b with space } : Bridge).current? ctx x = b.current? ctx x := by
        rw [current?, current?, hassociations, AssociationTable.get?_clear_of_ne hx]
        rfl
      rw [hsame, h.current]
      simp only [ne_eq, hx, not_false_eq_true, and_true]
      rfl
  nodup := h.nodup
  tracked := h.tracked

/-- A reference that was given out is given out again. -/
lemma give_again (h : b.Accounts l) {g : Gift} (hg : g ∈ l.given) : b.Accounts (l.give g) := by
  have hmem (g' : Gift) : g' ∈ (l.give g).given ↔ g' ∈ l.given :=
    ⟨fun h => (List.mem_cons.mp h).elim (· ▸ hg) id, List.mem_cons_of_mem _⟩
  exact {
    one_life := h.one_life
    one_home := h.one_home
    born := h.born
    given := fun g' hg' => h.given g' ((hmem g').mp hg')
    home := fun g' hg' => h.home g' ((hmem g').mp hg')
    unique := fun g₁ hg₁ g₂ hg₂ => h.unique g₁ ((hmem g₁).mp hg₁) g₂ ((hmem g₂).mp hg₂)
    current := fun ctx a r => by
      simp only [hmem]
      exact h.current ctx a r
    nodup := h.nodup
    tracked := fun ctx a => by
      rw [h.tracked, Census.mem_addresses, Census.mem_addresses]
      simp only [hmem] }

/-- For a life that has no good reference, none was given out. -/
lemma not_given (h : b.Accounts l) (hlive : l.Lives a n) (hnone : b.current? ctx a = none) :
    ∀ g ∈ l.given, ¬ (g.ctx = ctx ∧ g.life = n) := by
  rintro ⟨_, _, x, r⟩ hg ⟨rfl, rfl⟩
  obtain rfl := h.home _ hg a hlive
  have hr := (h.current _ _ r).mpr ⟨_, hlive, hg⟩
  rw [hnone] at hr
  cases hr

/-- A gift that differs from all others in its reference and in its life leaves them unique. -/
lemma unique_give (h : b.Accounts l) {g : Gift}
    (hserial : ∀ g' ∈ l.given, g'.ref.serial ≠ g.ref.serial)
    (hnew : ∀ g' ∈ l.given, ¬ (g'.ctx = g.ctx ∧ g'.life = g.life)) :
    ∀ g₁ ∈ (l.give g).given, ∀ g₂ ∈ (l.give g).given,
      g₁.ref.serial = g₂.ref.serial ∨ g₁.ctx = g₂.ctx ∧ g₁.life = g₂.life → g₁ = g₂ := by
  refine List.forall_mem_cons.mpr ⟨?_, fun g₁ hg₁ => ?_⟩
  · refine List.forall_mem_cons.mpr ⟨fun _ => rfl, fun g₂ hg₂ heq => ?_⟩
    rcases heq with heq | ⟨hctx, hlife⟩
    · exact absurd heq.symm (hserial g₂ hg₂)
    · exact absurd ⟨hctx.symm, hlife.symm⟩ (hnew g₂ hg₂)
  · refine List.forall_mem_cons.mpr ⟨fun heq => ?_, h.unique g₁ hg₁⟩
    rcases heq with heq | heq
    · exact absurd heq (hserial g₁ hg₁)
    · exact absurd heq (hnew g₁ hg₁)

/-- The new reference is good, and the others stay as good as they were. -/
lemma current_newRef (h : b.Accounts l) (hctx : ctx < b.contexts.size) (hlive : l.Lives a n)
    (hnone : b.current? ctx a = none) (i : ContextId) (x : Address) (r : ObjectRef) :
    ((Act.newRef ctx a isClass).after b).current? i x = some r ↔
      ∃ k, l.Lives x k ∧ ⟨i, k, x, r⟩ ∈ (l.give ⟨ctx, n, a, ⟨b.nextSerial, a, isClass⟩⟩).given := by
  by_cases hkey : (x, AssociationKey.context i) = (a, .context ctx)
  · cases hkey
    rw [Act.current?_newRef_self hctx, Option.some.injEq]
    constructor
    · rintro rfl
      exact ⟨n, hlive, List.mem_cons_self⟩
    · rintro ⟨k, hk, hg⟩
      rcases List.mem_cons.mp hg with heq | hg
      · exact (congrArg Gift.ref heq).symm
      · exact absurd ⟨rfl, h.one_life _ _ _ hk hlive⟩ (h.not_given hlive hnone _ hg)
  · rw [Act.after_newRef, current?_newRef_of_ne hkey, h.current]
    refine exists_congr fun k => and_congr_right fun _ => ?_
    refine ⟨List.mem_cons_of_mem _, fun hg => (List.mem_cons.mp hg).resolve_left fun heq => hkey ?_⟩
    cases heq
    rfl

/-- **A new reference** for a life that has no good one. -/
lemma give_new (h : b.Accounts l) (hctx : ctx < b.contexts.size) (hlive : l.Lives a n)
    (hnone : b.current? ctx a = none) :
    ((Act.newRef ctx a isClass).after b).Accounts
      (l.give ⟨ctx, n, a, ⟨b.nextSerial, a, isClass⟩⟩) where
  one_life := h.one_life
  one_home := h.one_home
  born := h.born
  given := by
    rw [Act.after_newRef]
    simp only [Array.size_modify]
    refine List.forall_mem_cons.mpr ⟨⟨hctx, h.born a n hlive, Nat.lt_succ_self _, rfl⟩, fun g hg => ?_⟩
    obtain ⟨hsize, hlife, hlt, haddress⟩ := h.given g hg
    exact ⟨hsize, hlife, Nat.lt_succ_of_lt hlt, haddress⟩
  home := List.forall_mem_cons.mpr ⟨fun x hx => h.one_home x a n hx hlive, h.home⟩
  unique := h.unique_give (fun g hg => Nat.ne_of_lt (h.given g hg).2.2.1) (h.not_given hlive hnone)
  current := h.current_newRef hctx hlive hnone
  nodup i := by
    by_cases hi : i = ctx
    · subst hi
      rw [Act.tracked_newRef_self hctx]
      exact List.nodup_cons.mpr ⟨by simp, (h.nodup i).filter _⟩
    · rw [Act.contextAt_newRef_of_ne hi]
      exact h.nodup i
  tracked i x := by
    rw [Census.mem_addresses_give, ← h.tracked]
    by_cases hi : i = ctx
    · subst hi
      rw [Act.tracked_newRef_self hctx, List.mem_cons]
      by_cases hx : x = a
      · exact iff_of_true (.inl hx) (.inl ⟨rfl, hx.symm⟩)
      · rw [or_iff_right hx, or_iff_right fun h => hx h.2.symm]
        simp [hx]
    · rw [Act.contextAt_newRef_of_ne hi, or_iff_right fun h => hi h.1.symm]

end Accounts

end Bridge

/-! ## Giving out references -/

namespace Act

variable {b b' : Bridge} {ctx : ContextId} {a : Address} {r : Option ObjectRef}

/-- **What is given out** for an object is the good reference, or a new one where there is none. -/
lemma wrap_eq_ok (ha : a ≠ 0) (h : EStateM.run (wrap ctx a) b = .ok r b') :
    (∃ r', r = some r' ∧ b.current? ctx a = some r' ∧ b' = b) ∨
      b.current? ctx a = none ∧ ∃ isClass, b.space.isClass? a = some isClass ∧
        r = some ⟨b.nextSerial, a, isClass⟩ ∧ b' = (newRef ctx a isClass).after b := by
  have hcached : EStateM.run (cached? ctx a) b = .ok (b.current? ctx a) b := run_cached? ctx a
  unfold wrap at h
  rw [if_neg ha, run_bind_ok hcached] at h
  cases hcurrent : b.current? ctx a with
  | some r' =>
    rw [hcurrent] at h
    cases h
    exact .inl ⟨r', rfl, rfl, rfl⟩
  | none =>
    rw [hcurrent] at h
    obtain ⟨isClass, b₁, hread, hnew⟩ := run_bind_eq_ok.mp h
    obtain ⟨hclass, rfl⟩ := run_readSpace_eq_ok.mp hread
    cases hnew
    exact .inr ⟨rfl, isClass, hclass, rfl, rfl⟩

/-- Giving out a reference opens no context, and changes neither classes nor memory. -/
lemma frame_wrap (ha : a ≠ 0) (h : EStateM.run (wrap ctx a) b = .ok r b') :
    b'.contexts.size = b.contexts.size ∧ b'.space.classes = b.space.classes ∧
      b'.space.memory = b.space.memory := by
  rcases wrap_eq_ok ha h with ⟨_, -, -, rfl⟩ | ⟨-, isClass, -, -, rfl⟩
  · exact ⟨rfl, rfl, rfl⟩
  · rw [after_newRef]
    exact ⟨Array.size_modify, rfl, rfl⟩

end Act

namespace Bridge

variable {b b' : Bridge} {l : Census} {ctx : ContextId} {a : Address} {n : Nat} {r : ObjectRef}

/-- **A reference is given out** for a life that is lived. -/
lemma Accounts.give (h : b.Accounts l) (hctx : ctx < b.contexts.size) (hlive : l.Lives a n)
    (ha : a ≠ 0) (hrun : EStateM.run (Act.wrap ctx a) b = .ok (some r) b') :
    b'.Accounts (l.give ⟨ctx, n, a, r⟩) := by
  rcases Act.wrap_eq_ok ha hrun with ⟨r', heq, hcurrent, rfl⟩ | ⟨hnone, isClass, -, heq, rfl⟩
  · cases heq
    obtain ⟨n', hn', hg⟩ := (h.current ctx a r).mp hcurrent
    obtain rfl := h.one_life a n n' hlive hn'
    exact h.give_again hg
  · cases heq
    exact h.give_new hctx hlive hnone

/-! ## Runs -/

/-- **Tended**: the runs of a host that opens contexts, allocates classes and instances, disposes of
instances, and lets its contexts give out references for what lives. The allocator may hand out any
address for an instance, or for a block that is no object, that is not in use and lies behind the
classes. -/
inductive Tended : Bridge → Census → Prop
  | start : Tended default (.ofClasses ObjectSpace.initial.classes)
  | openContext {b : Bridge} {l : Census} (config : Config) (capabilities : Capabilities)
      (h : Tended b l) : Tended (b.openContext config capabilities).2 l
  /-- A class and its metaclass are allocated. -/
  | allocatePair {b : Bridge} {l : Census} {parent : Option ClassId} {name : String}
      {metaStorage classStorage : Option Address} {c : ClassId} {classes : ClassTable} (h : Tended b l)
      (hparent : ∀ p ∈ parent, b.space.classes.Has p)
      (hpair : b.space.classes.allocatePair? parent name metaStorage classStorage = some (c, classes))
      (hlimit : classes.stop ≤ Memory.addressLimit)
      (hblocks : ∀ B ∈ b.space.memory.blocks, classes.stop ≤ B.base) :
      Tended { b with space := b.space.withClasses classes }
        ((l.birth (classes.metaclass c).address).birth c.address)
  /-- An instance is allocated. -/
  | create {b : Bridge} {l : Census} {c : ClassId} {extra : UInt64} {a : Address} {memory : Memory}
      (h : Tended b l) (hc : b.space.classes.HasClass c)
      (hgrant : b.space.memory.Grants a
        (ObjectSpace.allocationSize (b.space.classes.get c).instanceSize extra).toNat
        (wordBytes c.address) memory)
      (ha : b.space.classes.stop ≤ a.toNat) :
      Tended { b with space := { b.space with memory } } (l.birth a)
  /-- A block that is no object is allocated. -/
  | reserve {b : Bridge} {l : Census} {size : Nat} {contents : List UInt8} {a : Address}
      {memory : Memory} (h : Tended b l) (hgrant : b.space.memory.Grants a size contents memory)
      (ha : b.space.classes.stop ≤ a.toNat) : Tended { b with space := { b.space with memory } } l
  /-- A context gives out a reference for what lives at the address. -/
  | wrap {b b' : Bridge} {l : Census} {ctx : ContextId} {a : Address} {n : Nat} {r : ObjectRef}
      (h : Tended b l) (hctx : ctx < b.contexts.size) (hlive : l.Lives a n)
      (hrun : EStateM.run (Act.wrap ctx a) b = .ok (some r) b') :
      Tended b' (l.give ⟨ctx, n, a, r⟩)
  /-- An instance is disposed of. -/
  | dispose {b : Bridge} {l : Census} {a : Address} {n : Nat} {space : ObjectSpace} (h : Tended b l)
      (hlive : l.Lives a n) (hdispose : b.space.dispose? a = some space) :
      Tended { b with space } (l.death a)
  /-- A block that is no object is taken back. -/
  | release {b : Bridge} {l : Census} {a : Address} {space : ObjectSpace} (h : Tended b l)
      (hdead : ∀ n, ¬ l.Lives a n) (hfree : b.space.free? a = some space) : Tended { b with space } l

/-- **Housed**: the tables account for the census, and each life is lived by an object. -/
structure Housed (b : Bridge) (l : Census) : Prop where
  accounts : b.Accounts l
  tidy : b.space.Tidy
  houses : ∀ a n, l.Lives a n → b.space.Houses a

lemma tracked_openContext (b : Bridge) (config : Config) (capabilities : Capabilities)
    (ctx : ContextId) :
    ((b.openContext config capabilities).2.contextAt ctx).tracked = (b.contextAt ctx).tracked := by
  simp only [Bridge.openContext, contextAt, Array.getElem?_push]
  split
  · next h =>
    rw [h, Array.getElem?_eq_none (Nat.le_refl _)]
    rfl
  · rfl

lemma blocks_initial : ObjectSpace.initial.memory.blocks = [] :=
  List.length_eq_zero_iff.mp (by decide +kernel)

lemma tidy_initial : ObjectSpace.initial.Tidy where
  isa c hc := by
    have hisa : ∀ i < ObjectSpace.initial.classes.records.size,
        ObjectSpace.initial.classes.Has (ObjectSpace.initial.classes.get ⟨i⟩).isa := by
      decide +kernel
    exact hisa c.index hc
  limit := by decide +kernel
  disjoint := by
    rw [Memory.Disjoint, blocks_initial]
    exact .nil
  blocks B hB := by
    rw [blocks_initial] at hB
    cases hB

namespace Housed

/-- In the beginning only classes live, and nothing was given out. -/
lemma start : (default : Bridge).Housed (.ofClasses ObjectSpace.initial.classes) := by
  have hlives {a : Address} {n : Nat} (h : (Census.ofClasses ObjectSpace.initial.classes).Lives a n) :
      ObjectSpace.initial.classes.Has ⟨n⟩ ∧ a = ClassId.address ⟨n⟩ := by
    obtain ⟨i, hi, heq⟩ := List.mem_map.mp h
    cases heq
    exact ⟨List.mem_range.mp hi, rfl⟩
  refine ⟨?_, tidy_initial, fun a n h => .ofClass (hlives h).1 (hlives h).2⟩
  exact {
    one_life := fun a n n' hn hn' => by
      obtain ⟨hhas, rfl⟩ := hlives hn
      obtain ⟨hhas', heq⟩ := hlives hn'
      exact congrArg ClassId.index (ClassTable.address_inj tidy_initial.limit hhas hhas' heq)
    one_home := fun a a' n hn hn' => (hlives hn).2.trans (hlives hn').2.symm
    born := fun a n hn => (hlives hn).1
    given := nofun
    home := nofun
    unique := nofun
    current := fun ctx a r => iff_of_false nofun fun ⟨_, _, hg⟩ => nomatch hg
    nodup := fun ctx => List.nodup_nil
    tracked := fun ctx a => iff_of_false nofun nofun }

lemma openContext (h : b.Housed l) (config : Config) (capabilities : Capabilities) :
    (b.openContext config capabilities).2.Housed l where
  accounts := by
    have hsize : b.contexts.size ≤ (b.openContext config capabilities).2.contexts.size := by
      rw [Bridge.openContext, Array.size_push]
      exact Nat.le_succ _
    exact h.accounts.congr (tracked_openContext b config capabilities) hsize rfl rfl
  tidy := h.tidy
  houses := h.houses

/-- New classes lie where nobody lives. -/
lemma allocatePair (h : b.Housed l) {parent : Option ClassId} {name : String}
    {metaStorage classStorage : Option Address} {c : ClassId} {classes : ClassTable}
    (hparent : ∀ p ∈ parent, b.space.classes.Has p)
    (hpair : b.space.classes.allocatePair? parent name metaStorage classStorage = some (c, classes))
    (hlimit : classes.stop ≤ Memory.addressLimit)
    (hblocks : ∀ B ∈ b.space.memory.blocks, classes.stop ≤ B.base) :
    ({ b with space := b.space.withClasses classes } : Bridge).Housed
      ((l.birth (classes.metaclass c).address).birth c.address) := by
  have halloc := ClassTable.allocated_of_allocatePair? hpair
  have hgrow (d : ClassId) (hd : b.space.classes.Has d) : classes.Has d :=
    (halloc.has_iff d).mpr (.inl hd)
  have hmeta : classes.Has (classes.metaclass c) := (halloc.has_iff _).mpr (.inr (.inl rfl))
  have hclass : classes.Has c := (halloc.has_iff c).mpr (.inr (.inr rfl))
  have hfree {d : ClassId} (hd : classes.Has d) (hnew : ¬ b.space.classes.Has d) (n : Nat) :
      ¬ l.Lives d.address n := fun hn =>
    (h.houses _ n hn).ne_of_new hgrow hlimit hblocks hd hnew rfl
  have hne : c.address ≠ (classes.metaclass c).address := fun heq => by
    have hsame := ClassTable.address_inj hlimit hclass hmeta heq
    have hkind := halloc.isMeta.2
    rw [← hsame, halloc.isMeta.1] at hkind
    cases hkind
  refine ⟨?_, h.tidy.allocatePair hparent hpair hlimit hblocks, fun a n hn => ?_⟩
  · have hfirst := h.accounts.birth (hfree hmeta halloc.new_metaclass)
    refine (hfirst.birth fun n hn => ?_).congr (fun _ => rfl) (Nat.le_refl _) rfl rfl
    rcases Census.lives_birth.mp hn with ⟨heq, -⟩ | hn
    · exact hne heq
    · exact hfree hclass halloc.new_class n hn
  · rcases Census.lives_birth.mp hn with ⟨rfl, -⟩ | hn
    · exact .ofClass hclass rfl
    · rcases Census.lives_birth.mp hn with ⟨rfl, -⟩ | hn
      · exact .ofClass hmeta rfl
      · exact (h.houses a n hn).mono hgrow fun B hB _ => hB

/-- A block that is no object leaves everybody where they are. -/
lemma reserve (h : b.Housed l) {size : Nat} {contents : List UInt8} {memory : Memory}
    (hgrant : b.space.memory.Grants a size contents memory) (ha : b.space.classes.stop ≤ a.toNat) :
    ({ b with space := { b.space with memory } } : Bridge).Housed l where
  accounts := h.accounts.congr (fun _ => rfl) (Nat.le_refl _) rfl rfl
  tidy := h.tidy.grant hgrant ha
  houses x n hn := (h.houses x n hn).mono (fun _ => id) fun B hB _ => by
    rw [hgrant.blocks]
    exact List.mem_cons_of_mem _ hB

/-- A new instance lies where nobody lives. -/
lemma create (h : b.Housed l) {c : ClassId} {size : Nat} {memory : Memory}
    (hc : b.space.classes.Has c)
    (hgrant : b.space.memory.Grants a size (wordBytes c.address) memory)
    (ha : b.space.classes.stop ≤ a.toNat) :
    ({ b with space := { b.space with memory } } : Bridge).Housed (l.birth a) := by
  have hreserve := h.reserve hgrant ha
  have hfree (n : Nat) : ¬ l.Lives a n := fun hn =>
    (h.houses a n hn).ne_of_grants h.tidy hgrant ha rfl
  refine ⟨hreserve.accounts.birth hfree, hreserve.tidy, fun x n hn => ?_⟩
  rcases Census.lives_birth.mp hn with ⟨rfl, -⟩ | hn
  · exact .of_grants hgrant hc
  · exact hreserve.houses x n hn

/-- Giving out a reference moves nobody. -/
lemma wrap (h : b.Housed l) (hctx : ctx < b.contexts.size) (hlive : l.Lives a n)
    (hrun : EStateM.run (Act.wrap ctx a) b = .ok (some r) b') :
    b'.Housed (l.give ⟨ctx, n, a, r⟩) := by
  have ha : a ≠ 0 := (h.houses a n hlive).ne_zero h.tidy
  obtain ⟨-, hclasses, hmemory⟩ := Act.frame_wrap ha hrun
  refine ⟨h.accounts.give hctx hlive ha hrun, h.tidy.congr hclasses hmemory, fun x k hk => ?_⟩
  refine (h.houses x k hk).mono (fun _ hc => ?_) fun B hB _ => ?_
  · rwa [hclasses]
  · rwa [hmemory]

/-- Taking back a block leaves everybody else where they are. -/
lemma houses_of_free (h : b.Housed l) {space : ObjectSpace} (hclasses : space.classes = b.space.classes)
    (hfree : b.space.memory.free? a = some space.memory) {x : Address} (hlive : l.Lives x n)
    (hx : x ≠ a) : space.Houses x := by
  refine (h.houses x n hlive).mono (fun _ hc => ?_) fun B hB hbase => ?_
  · rwa [hclasses]
  · refine Memory.mem_of_free? hfree hB fun heq => hx (UInt64.toNat_inj.mp ?_)
    exact hbase.symm.trans heq

lemma dispose (h : b.Housed l) {space : ObjectSpace} (hdispose : b.space.dispose? a = some space) :
    ({ b with space } : Bridge).Housed (l.death a) := by
  obtain ⟨hclasses, hassociations, hfree⟩ := ObjectSpace.dispose?_eq_some hdispose
  refine ⟨h.accounts.death hassociations, h.tidy.free hclasses hfree, fun x n hn => ?_⟩
  obtain ⟨hlive, hx⟩ := Census.lives_death.mp hn
  exact h.houses_of_free hclasses hfree hlive hx

lemma release (h : b.Housed l) {space : ObjectSpace} (hdead : ∀ n, ¬ l.Lives a n)
    (hfree : b.space.free? a = some space) : ({ b with space } : Bridge).Housed l := by
  obtain ⟨hclasses, hassociations, hfree⟩ := ObjectSpace.free?_eq_some hfree
  refine ⟨h.accounts.congr (fun _ => rfl) (Nat.le_refl _) rfl hassociations,
    h.tidy.free hclasses hfree, fun x n hn => h.houses_of_free hclasses hfree hn ?_⟩
  rintro rfl
  exact hdead n hn

/-- **What lives gets a reference.** -/
lemma exists_wrap (h : b.Housed l) (hctx : ctx < b.contexts.size) (hlive : l.Lives a n) :
    ∃ r b', EStateM.run (Act.wrap ctx a) b = .ok (some r) b' := by
  have hhouse := h.houses a n hlive
  obtain ⟨isClass, hclass⟩ := hhouse.exists_isClass? h.tidy
  obtain ⟨r, b', hrun, -⟩ := Act.exists_wrap hctx (hhouse.ne_zero h.tidy)
    (.inr (Option.isSome_iff_exists.mpr ⟨isClass, hclass⟩))
  exact ⟨r, b', hrun⟩

end Housed

/-- A context remembers as many references as there are addresses that it gave some for. -/
lemma Accounts.length_tracked (h : b.Accounts l) (ctx : ContextId) :
    (b.contextAt ctx).tracked.length = (l.addresses ctx).dedup.length := by
  have hperm : ((b.contextAt ctx).tracked.map Prod.fst).Perm (l.addresses ctx).dedup :=
    (List.perm_ext_iff_of_nodup (h.nodup ctx) (List.nodup_dedup _)).mpr fun a =>
      (h.tracked ctx a).trans List.mem_dedup.symm
  rw [← hperm.length_eq, List.length_map]

namespace Tended

/-- In every run the tables account for the census, and each life is lived by an object. -/
lemma housed (h : Tended b l) : b.Housed l := by
  induction h with
  | start => exact .start
  | openContext config capabilities _ ih => exact ih.openContext config capabilities
  | allocatePair _ hparent hpair hlimit hblocks ih =>
    exact ih.allocatePair hparent hpair hlimit hblocks
  | create _ hc hgrant ha ih => exact ih.create hc.1 hgrant ha
  | reserve _ hgrant ha ih => exact ih.reserve hgrant ha
  | wrap _ hctx hlive hrun ih => exact ih.wrap hctx hlive hrun
  | dispose _ _ hdispose ih => exact ih.dispose hdispose
  | release _ hdead hfree ih => exact ih.release hdead hfree

/-- The space's own way to create an instance is one of the steps. -/
lemma createInstance (h : Tended b l) {c : ClassId} {extra : UInt64} {space : ObjectSpace}
    (hmemory : b.space.memory.Sound) (hstop : b.space.classes.stop ≤ b.space.memory.next)
    (hc : b.space.classes.HasClass c) (hcreate : b.space.createInstance c extra = (a, space))
    (ha : a ≠ 0) : Tended { b with space } (l.birth a) := by
  obtain ⟨hallocate, hspace⟩ := ObjectSpace.allocate_of_createInstance hcreate ha
  rw [hspace]
  refine h.create hc (hmemory.grants_of_allocate hallocate) ?_
  rw [(Memory.allocate_eq_some hallocate).1]
  exact hstop

/-- A run can go on with a reference for what lives. -/
lemma exists_give (h : Tended b l) (hctx : ctx < b.contexts.size) (hlive : l.Lives a n) :
    ∃ r b', Tended b' (l.give ⟨ctx, n, a, r⟩) ∧ b'.contexts.size = b.contexts.size ∧
      b'.space.classes = b.space.classes ∧ b'.space.memory = b.space.memory := by
  obtain ⟨r, b', hrun⟩ := h.housed.exists_wrap hctx hlive
  have ha : a ≠ 0 := (h.housed.houses a n hlive).ne_zero h.housed.tidy
  exact ⟨r, b', h.wrap hctx hlive hrun, Act.frame_wrap ha hrun⟩

/-- **One reference for each life**: after every run, two references that were given out are the same
just if they were given out by the same context for the same life, whichever addresses were used again.
So what was given out for an object is given out for it again as long as it lives, and it is never equal
to what was given out for another object, by another context, or for an object that lived at the
address before. Each object that lives gets a reference, which has its address. A context counts as
many references as there are addresses that it gave some for. -/
theorem one_reference (h : Tended b l) :
    (∀ g ∈ l.given, ∀ g' ∈ l.given,
      (g.ref.serial = g'.ref.serial ↔ g.ctx = g'.ctx ∧ g.life = g'.life) ∧
        (g.ctx = g'.ctx → g.life = g'.life → g.ref = g'.ref)) ∧
    (∀ g ∈ l.given, g.ref.address = g.address) ∧
    (∀ ctx < b.contexts.size, ∀ a n, l.Lives a n →
      ∃ r b', EStateM.run (Act.wrap ctx a) b = .ok (some r) b') ∧
    (∀ a n n', l.Lives a n → l.Lives a n' → n = n') ∧
    ∀ ctx, EStateM.run (Act.wrapperCount ctx) b = .ok (l.addresses ctx).dedup.length b := by
  have hhoused := h.housed
  have haccounts := hhoused.accounts
  refine ⟨fun g hg g' hg' => ⟨⟨fun heq => ?_, fun heq => ?_⟩, fun hctx hlife => ?_⟩,
    fun g hg => (haccounts.given g hg).2.2.2, fun ctx hctx a n hlive => hhoused.exists_wrap hctx hlive,
    haccounts.one_life, fun ctx => ?_⟩
  · rw [haccounts.unique g hg g' hg' (.inl heq)]
    exact ⟨rfl, rfl⟩
  · rw [haccounts.unique g hg g' hg' (.inr heq)]
  · rw [haccounts.unique g hg g' hg' (.inr ⟨hctx, hlife⟩)]
  · rw [← haccounts.length_tracked]
    rfl

/-- Where the one block of `cradled` is. -/
def cradle : Address := 0x40000000000

/-- A memory with an instance of the second class and nothing else. -/
def cradled : Memory where
  blocks := [⟨cradle.toNat, 8, wordBytes (ClassId.address ⟨1⟩)⟩]

/-- An instance of the second class is the first block. -/
lemma exists_create_cradled (h : Tended b l) (hclasses : b.space.classes = ObjectSpace.initial.classes)
    (hblocks : b.space.memory.blocks = []) :
    ∃ b', Tended b' (l.birth cradle) ∧ b'.contexts.size = b.contexts.size ∧
      b'.space.classes = ObjectSpace.initial.classes ∧ b'.space.memory = cradled := by
  have hclass : ObjectSpace.initial.classes.HasClass ⟨1⟩ := ⟨by decide +kernel, by decide +kernel⟩
  have hstop : ObjectSpace.initial.classes.stop ≤ cradle.toNat := by decide +kernel
  have hsize : (ObjectSpace.allocationSize (ObjectSpace.initial.classes.get ⟨1⟩).instanceSize 0).toNat
      = 8 := by decide +kernel
  rw [← hclasses] at hclass hstop hsize
  have hgrant : b.space.memory.Grants cradle
      (ObjectSpace.allocationSize (b.space.classes.get ⟨1⟩).instanceSize 0).toNat
      (wordBytes (ClassId.address ⟨1⟩)) cradled := by
    refine ⟨?_, ?_, ?_⟩
    · rw [hblocks, hsize]
      rfl
    · rw [hblocks]
      exact nofun
    · rw [hsize]
      decide +kernel
  exact ⟨_, h.create hclass hgrant hstop, rfl, hclasses, rfl⟩

/-- It can be disposed of. -/
lemma exists_dispose_cradled (h : Tended b l) (hlive : l.Lives cradle n)
    (hmemory : b.space.memory = cradled) :
    ∃ b', Tended b' (l.death cradle) ∧ b'.contexts.size = b.contexts.size ∧
      b'.space.classes = b.space.classes ∧ b'.space.memory.blocks = [] := by
  have hfree : b.space.memory.free? cradle = some { cradled with blocks := [] } := by
    rw [hmemory]
    rfl
  exact ⟨_, h.dispose hlive (Option.map_eq_some_iff.mpr ⟨_, hfree, rfl⟩), rfl, rfl, rfl⟩

/-- Two contexts and an instance that is disposed of, another one at its address: the first context
gives out one reference for the old instance, twice, and another one for the new instance, and counts
one address; the second context gives out one of its own. -/
theorem one_reference_reused : ∃ b l r₁ r₂ r₃ r₄, Tended b l ∧
    l.given = [⟨0, 5, cradle, r₄⟩, ⟨0, 4, cradle, r₃⟩, ⟨1, 4, cradle, r₂⟩, ⟨0, 4, cradle, r₁⟩] ∧
    r₃ = r₁ ∧ r₂.serial ≠ r₁.serial ∧ r₄.serial ≠ r₁.serial ∧ r₄.serial ≠ r₂.serial ∧
    EStateM.run (Act.wrapperCount 0) b = .ok 1 b := by
  have hopened := (start.openContext {} {}).openContext {} {}
  have hborn : (Census.ofClasses ObjectSpace.initial.classes).born = 4 := by decide +kernel
  -- the first life
  have hlive : (Census.birth (.ofClasses ObjectSpace.initial.classes) cradle).Lives cradle 4 :=
    Census.lives_birth.mpr (.inl ⟨rfl, hborn.symm⟩)
  obtain ⟨b₀, h₀, hsize₀, hclasses₀, hmemory₀⟩ := hopened.exists_create_cradled rfl blocks_initial
  replace hsize₀ : b₀.contexts.size = 2 := hsize₀
  obtain ⟨r₁, b₁, h₁, hsize₁, hclasses₁, hmemory₁⟩ := h₀.exists_give (hsize₀ ▸ Nat.two_pos) hlive
  rw [hsize₀] at hsize₁
  obtain ⟨r₂, b₂, h₂, hsize₂, hclasses₂, hmemory₂⟩ := h₁.exists_give (hsize₁ ▸ Nat.one_lt_two) hlive
  rw [hsize₁] at hsize₂
  obtain ⟨r₃, b₃, h₃, hsize₃, hclasses₃, hmemory₃⟩ := h₂.exists_give (hsize₂ ▸ Nat.two_pos) hlive
  rw [hsize₂] at hsize₃
  -- the second life
  obtain ⟨b₄, h₄, hsize₄, hclasses₄, hblocks₄⟩ :=
    h₃.exists_dispose_cradled hlive (hmemory₃.trans (hmemory₂.trans (hmemory₁.trans hmemory₀)))
  rw [hsize₃] at hsize₄
  obtain ⟨b₅, h₅, hsize₅, -⟩ := h₄.exists_create_cradled
    (hclasses₄.trans (hclasses₃.trans (hclasses₂.trans (hclasses₁.trans hclasses₀)))) hblocks₄
  rw [hsize₄] at hsize₅
  obtain ⟨r₄, b₆, h₆, -⟩ := h₅.exists_give (hsize₅ ▸ Nat.two_pos)
    (Census.lives_birth.mpr (.inl ⟨rfl, show 5 = _ from (congrArg Nat.succ hborn).symm⟩))
  obtain ⟨hrefs, -, -, -, hcount⟩ := one_reference h₆
  refine ⟨b₆, _, r₁, r₂, r₃, r₄, h₆, rfl, ?_, ?_, ?_, ?_, hcount 0⟩
  · exact (hrefs _ (.tail _ (.head _)) _ (.tail _ (.tail _ (.tail _ (.head _))))).2 rfl rfl
  · intro heq
    have hctx := ((hrefs _ (.tail _ (.tail _ (.head _))) _
      (.tail _ (.tail _ (.tail _ (.head _))))).1.mp heq).1
    cases hctx
  · intro heq
    have hlife := ((hrefs _ (.head _) _ (.tail _ (.tail _ (.tail _ (.head _))))).1.mp heq).2
    cases hlife
  · intro heq
    have hctx := ((hrefs _ (.head _) _ (.tail _ (.tail _ (.head _)))).1.mp heq).1
    cases hctx

end Tended

end Bridge

end MessageBridge
