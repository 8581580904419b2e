import MessageBridge.Proofs.Bridge.Slots
import MessageBridge.Proofs.Lists
import MessageBridge.Proofs.Space.ClassTable

/-!
# What record keeping leaves in place

Between the moment a value is written for a call and the moment it is read on the other side, the
bridge keeps more records: texts get blocks, names get selectors, objects get references. What was
there before is still there afterwards: a selector has its name, a text can be read, an object is
readable and its reference is still good.

## Main definitions

* `Bridge.Sound` — memory is sound, and the contexts remember selectors under their own names.
* `Bridge.current?` — the reference that a context gave out for an object and that is still good.
* `Bridge.Keeps` — what was there in a state is there in a later one.

## Main results

* `Bridge.sound_default`, `Bridge.Sound.openContext`, `Bridge.Sound.dropContext` — states are sound from
  the beginning.
* `Step.sound` — no code makes a sound state unsound.
* `Upkeep.keeps` — record keeping leaves everything in place.
* `Act.exists_wrap` — a readable object gets a reference, and it is a good one.
-/

namespace MessageBridge

/-! ## Selectors -/

/-- **Knows**: a selector is in the table under the name, and there is room for it in memory. -/
structure SelectorTable.Knows (t : SelectorTable) (name : String) (sel : Selector) : Prop where
  mem : sel.index < t.names.size
  name : t.name sel = name
  room : sel.index < Selector.maxCount

namespace SelectorTable

variable {t t' : SelectorTable} {name : String} {sel : Selector}

instance : Decidable (t.Knows name sel) :=
  decidable_of_iff (sel.index < t.names.size ∧ t.name sel = name ∧ sel.index < Selector.maxCount)
    ⟨fun h => ⟨h.1, h.2.1, h.2.2⟩, fun h => ⟨h.mem, h.name, h.room⟩⟩

lemma Knows.extends (h : t.Knows name sel) (ht : t.Extends t') : t'.Knows name sel := by
  obtain ⟨hmem, hname⟩ := ht sel h.mem
  exact ⟨hmem, hname.trans h.name, h.room⟩

lemma toNat_address (h : sel.index < Selector.maxCount) :
    sel.address.toNat = Selector.base + Selector.stride * sel.index := by
  unfold Selector.maxCount at h
  rw [Selector.address, UInt64.toNat_ofNat']
  refine Nat.mod_eq_of_lt ?_
  unfold Selector.base Selector.stride
  omega

/-- The selector is found at its address. -/
lemma Knows.ofAddress? (h : t.Knows name sel) : t.ofAddress? sel.address = some sel := by
  have haddress := toNat_address h.room
  have hmem := h.mem
  have hoffset : sel.address.toNat - Selector.base = Selector.stride * sel.index := by omega
  have hpos : 0 < Selector.stride := by decide
  unfold SelectorTable.ofAddress?
  simp only [hoffset, Nat.mul_mod_right, Nat.mul_div_cancel_left _ hpos]
  rw [if_pos ⟨by omega, trivial, hmem⟩]

lemma Knows.address_ne_zero (h : t.Knows name sel) : sel.address ≠ 0 := by
  intro hzero
  have haddress := toNat_address h.room
  rw [hzero] at haddress
  unfold Selector.base at haddress
  have : (0 : UInt64).toNat = 0 := rfl
  omega

/-- What is found at an address is still found there when the table grew. -/
lemma ofAddress?_of_extends {a : Address} (ht : t.Extends t') (h : t.ofAddress? a = some sel) :
    t'.ofAddress? a = some sel ∧ t'.name sel = t.name sel := by
  unfold SelectorTable.ofAddress? at h ⊢
  simp only at h ⊢
  split at h
  · next hcond =>
    cases h
    obtain ⟨hmem, hname⟩ := ht ⟨_⟩ hcond.2.2
    exact ⟨if_pos ⟨hcond.1, hcond.2.1, hmem⟩, hname⟩
  · cases h

end SelectorTable

/-! ## Objects -/

lemma ClassTable.ofAddress?_congr {t t' : ClassTable} (h : t'.bare = t.bare) (a : Address) :
    t'.ofAddress? a = t.ofAddress? a := by
  have hsize : t'.records.size = t.records.size := by
    have := congrArg (·.records.size) h
    simpa [ClassTable.bare] using this
  simp only [ClassTable.ofAddress?, hsize]

lemma ClassTable.get_congr {t t' : ClassTable} (h : t'.bare = t.bare) (c : ClassId) :
    (t'.get c).bare = (t.get c).bare := by
  rw [← ClassTable.get_bare, ← ClassTable.get_bare, h]

namespace ObjectSpace

variable {s s' : ObjectSpace}

lemma classHead_congr (h : s'.classes.bare = s.classes.bare) (c : ClassId) :
    s'.classHead c = s.classHead c := by
  have hget := ClassTable.get_congr h c
  have hisa : (s'.classes.get c).isa = (s.classes.get c).isa := (congrArg ClassRecord.isa hget :)
  have hsuper : (s'.classes.get c).superclass? = (s.classes.get c).superclass? :=
    (congrArg ClassRecord.superclass? hget :)
  rw [classHead, classHead, hisa, hsuper]

/-- What can be read stays readable while only caches change and memory keeps what it has. -/
lemma read?_mono (hclasses : s'.classes.bare = s.classes.bare)
    (hmemory : ∀ a count bytes, s.memory.read? a count = some bytes →
      s'.memory.read? a count = some bytes)
    {a : Address} {count : Nat} {bytes : List UInt8} (h : s.read? a count = some bytes) :
    s'.read? a count = some bytes := by
  have haround : s'.classAround? a = s.classAround? a := by
    simp only [classAround?, ClassTable.ofAddress?_congr hclasses]
  unfold read? at h ⊢
  rw [haround]
  generalize s.classAround? a = around at h ⊢
  cases around with
  | none => exact hmemory a count bytes h
  | some around =>
    simp only [readIn?, classHead_congr hclasses]
    exact h

/-- So an object that is readable keeps its class. -/
lemma isa?_mono (hclasses : s'.classes.bare = s.classes.bare)
    (hmemory : ∀ a count bytes, s.memory.read? a count = some bytes →
      s'.memory.read? a count = some bytes)
    {a : Address} {c : ClassId} (h : s.isa? a = some c) : s'.isa? a = some c := by
  obtain ⟨word, hword, hc⟩ := Option.bind_eq_some_iff.mp h
  obtain ⟨bytes, hbytes, rfl⟩ := Option.map_eq_some_iff.mp hword
  refine Option.bind_eq_some_iff.mpr ⟨ofWordBytes bytes, ?_, ?_⟩
  · rw [readWord?, read?_mono hclasses hmemory hbytes]
    rfl
  · rw [ClassTable.ofAddress?_congr hclasses, hc]

lemma isClass?_mono (hclasses : s'.classes.bare = s.classes.bare)
    (hmemory : ∀ a count bytes, s.memory.read? a count = some bytes →
      s'.memory.read? a count = some bytes)
    {a : Address} {isClass : Bool} (h : s.isClass? a = some isClass) :
    s'.isClass? a = some isClass := by
  obtain ⟨c, hc, rfl⟩ := Option.map_eq_some_iff.mp h
  exact Option.map_eq_some_iff.mpr ⟨c, isa?_mono hclasses hmemory hc,
    (congrArg ClassRecord.isMeta (ClassTable.get_congr hclasses c) :)⟩

end ObjectSpace

/-! ## References -/

/-- A new association leaves the others alone. -/
lemma AssociationTable.get?_set_of_ne {t : AssociationTable} {a a' : Address}
    {key key' : AssociationKey} (h : (a, key) ≠ (a', key')) (value : Nat) :
    (t.set a' key' value).get? a key = t.get? a key := by
  have hne : ((a, key) == (a', key')) = false := by simpa using h
  simp only [get?, set, erase, List.lookup_cons, hne]
  exact lookup_filter_ne h t.entries

lemma AssociationTable.get?_set_self (t : AssociationTable) (a : Address) (key : AssociationKey)
    (value : Nat) : (t.set a key value).get? a key = some value := by
  simp [get?, set]

/-- A new reference leaves those for other addresses alone. -/
lemma Context.lookup_track_of_ne {c : Context} {r : ObjectRef} {a : Address} (h : a ≠ r.address) :
    (c.track r).tracked.lookup a = c.tracked.lookup a := by
  have hne : (a == r.address) = false := by simpa using h
  simp only [track, List.lookup_cons, hne]
  exact lookup_filter_ne h c.tracked

namespace Bridge

variable {b b' b'' : Bridge}

/-- The reference that a context gave out for an object and that is still good. -/
def current? (b : Bridge) (ctx : ContextId) (a : Address) : Option ObjectRef :=
  ((b.contextAt ctx).tracked.lookup a).filter fun r =>
    b.space.associations.get? a (.context ctx) == some r.serial

/-- A good reference is one that the context, which was opened, tracks. -/
lemma mem_tracked_of_current? {ctx : ContextId} {a : Address} {r : ObjectRef}
    (h : b.current? ctx a = some r) : ctx < b.contexts.size ∧ (a, r) ∈ (b.contextAt ctx).tracked := by
  obtain ⟨hlookup, -⟩ := Option.filter_eq_some_iff.mp h
  obtain ⟨before, after, hmem, -⟩ := List.lookup_eq_some_iff.mp hlookup
  refine ⟨Nat.lt_of_not_le fun hctx => ?_, by simp [hmem]⟩
  -- a context that was never opened keeps nothing
  rw [contextAt, Array.getElem?_eq_none hctx] at hlookup
  cases hlookup

/-! ## Sound states -/

/-- **Sound**: memory is sound, and what contexts remember are the selectors of the names. -/
structure Sound (b : Bridge) : Prop where
  memory : b.space.memory.Sound
  selectors : ∀ ctx, ∀ e ∈ (b.contextAt ctx).selectors, b.space.selectors.Knows e.1 e.2

/-- Contexts that were never opened remember nothing. -/
lemma selectors_of_size_le {ctx : ContextId} (h : b.contexts.size ≤ ctx) :
    (b.contextAt ctx).selectors = [] := by
  rw [contextAt, Array.getElem?_eq_none h]
  rfl

instance : Decidable b.Sound :=
  decidable_of_iff (b.space.memory.Sound ∧ ∀ ctx < b.contexts.size,
      ∀ e ∈ (b.contextAt ctx).selectors, b.space.selectors.Knows e.1 e.2) <| by
    refine ⟨fun h => ⟨h.1, fun ctx e he => ?_⟩, fun h => ⟨h.memory, fun ctx _ => h.selectors ctx⟩⟩
    rcases Nat.lt_or_ge ctx b.contexts.size with hctx | hctx
    · exact h.2 ctx hctx e he
    · rw [selectors_of_size_le hctx] at he
      cases he

/-- Contexts that remember the same selectors, and an object space that grew. -/
lemma Sound.grow (hb : b.Sound) (hspace : b.space.Grows b'.space)
    (hselectors : ∀ ctx, (b'.contextAt ctx).selectors = (b.contextAt ctx).selectors) :
    b'.Sound := by
  refine ⟨hspace.memory hb.memory, fun ctx e he => ?_⟩
  rw [hselectors] at he
  exact (hb.selectors ctx e he).extends hspace.selectors

lemma sound_default : (default : Bridge).Sound := by decide +kernel

lemma Sound.openContext (hb : b.Sound) (config : Config) (capabilities : Capabilities) :
    (b.openContext config capabilities).2.Sound := by
  refine hb.grow (.refl _) fun ctx => ?_
  simp only [Bridge.openContext, contextAt, Array.getElem?_push]
  split
  · next h => rw [h, Array.getElem?_eq_none (Nat.le_refl _)]; rfl
  · rfl

lemma changes_foldl_free? (blocks : List Address) (s : ObjectSpace) :
    s.Changes (blocks.foldl (fun s a => (s.free? a).getD s) s) := by
  induction blocks generalizing s with
  | nil => exact .refl s
  | cons a blocks ih =>
    have hstep : s.Changes ((s.free? a).getD s) := by
      cases h : s.free? a with
      | none => exact .refl s
      | some s' => exact ObjectSpace.changes_free? h
    exact hstep.trans (ih _)

lemma Sound.dropContext (hb : b.Sound) (i : ContextId) : (b.dropContext i).Sound :=
  hb.grow (changes_foldl_free? _ b.space).grows fun ctx =>
    b.view_contextAt_modify Context.selectors (fun _ => by rfl) i ctx

end Bridge

namespace Upkeep

variable {b b' : Bridge}

/-- What a context remembers next is the selector of the name. -/
lemma sound (h : Upkeep b b') (hb : b.Sound) : b'.Sound := by
  cases h with
  | learning h =>
    cases h with
    | lend => exact hb.grow (.refl _) fun _ => rfl
    | learn i layout =>
      exact hb.grow (.refl _) fun ctx =>
        b.view_contextAt_modify Context.selectors (fun _ => by rfl) i ctx
  | intern name => exact hb.grow (b.space.changes_intern name).grows fun _ => rfl
  | @remember i name sel hname hsel hroom =>
    refine ⟨hb.memory, fun ctx e he => ?_⟩
    rcases eq_or_ne i ctx with rfl | hi
    · rcases Nat.lt_or_ge i b.contexts.size with hsize | hsize
      · rw [Bridge.contextAt_modify_self hsize] at he
        rcases List.mem_cons.mp he with rfl | he
        · exact ⟨hsel, hname, hroom⟩
        · exact hb.selectors i e he
      · rw [Bridge.selectors_of_size_le (by rwa [Array.size_modify])] at he
        cases he
    · rw [Bridge.contextAt_modify_of_ne hi] at he
      exact hb.selectors ctx e he
  | refer i a isClass =>
    exact hb.grow ⟨id, .refl _⟩ fun ctx =>
      (Bridge.view_contextAt_modify Context.selectors (fun _ => by rfl) _ i ctx).trans rfl
  | store h => exact hb.grow ⟨fun hs => hs.allocate h, .refl _⟩ fun _ => rfl
  | cache c sel => exact hb.grow (ObjectSpace.changes_withClasses (.lookup b.space.classes c sel)).grows fun _ => rfl
  | keepFrame i key s =>
    exact hb.grow (.refl _) fun ctx =>
      b.view_contextAt_modify Context.selectors (fun _ => by rfl) i ctx
  | retain i blocks =>
    exact hb.grow (.refl _) fun ctx =>
      b.view_contextAt_modify Context.selectors (fun _ => by rfl) i ctx

/-- The object space changes as its operations change it. -/
lemma changes (h : Upkeep b b') : b.space.Changes b'.space := by
  cases h with
  | learning h => cases h <;> exact .refl _
  | store h => exact .of_memory (.allocate h)
  | refer ctx a isClass => exact .of_eq rfl rfl (.refl _)
  | intern name => exact b.space.changes_intern name
  | cache c sel => exact ObjectSpace.changes_withClasses (.lookup _ c sel)
  | remember | keepFrame | retain => exact .refl _

lemma mem_blocks (h : Upkeep b b') {B : Block} (hB : B ∈ b.space.memory.blocks) :
    B ∈ b'.space.memory.blocks := by
  cases h with
  | learning h => cases h <;> exact hB
  | store h =>
    obtain ⟨-, -, rfl⟩ := Memory.allocate_eq_some h
    exact List.mem_cons_of_mem _ hB
  | refer ctx a isClass => exact hB
  | intern | remember | cache | keepFrame | retain => exact hB

/-- What a run of record keeping does to memory. -/
lemma memory_of_run (h : Relation.ReflTransGen Upkeep b b') :
    b.space.memory.Changes b'.space.memory ∧
      ∀ B ∈ b.space.memory.blocks, B ∈ b'.space.memory.blocks := by
  induction h with
  | refl => exact ⟨.refl _, fun _ hB => hB⟩
  | tail _ hstep ih =>
    exact ⟨ih.1.trans hstep.changes.memory, fun B hB => hstep.mem_blocks (ih.2 B hB)⟩

end Upkeep

/-- **Soundness** outlasts any code. -/
theorem Step.sound {b b' : Bridge} (h : Step b b') (hb : b.Sound) : b'.Sound := by
  cases h with
  | upkeep h => exact h.sound hb
  | space h => exact hb.grow h fun _ => rfl
  | host | trace => exact hb.grow (.refl _) fun _ => rfl
  | pending i g =>
    exact hb.grow (.refl _) fun ctx =>
      b.view_contextAt_modify Context.selectors (fun _ => by rfl) i ctx

lemma Step.sound_of_run {b b' : Bridge} (h : Relation.ReflTransGen Step b b') (hb : b.Sound) :
    b'.Sound := by
  induction h with
  | refl => exact hb
  | tail _ hstep ih => exact hstep.sound ih

/-! ## What stays in place -/

/-- What giving out a reference does. -/
lemma Act.after_newRef (ctx : ContextId) (a : Address) (isClass : Bool) (b : Bridge) :
    (newRef ctx a isClass).after b = { b with
      nextSerial := b.nextSerial + 1
      space := { b.space with
        associations := b.space.associations.set a (.context ctx) b.nextSerial }
      contexts := b.contexts.modify ctx (·.track ⟨b.nextSerial, a, isClass⟩) } := rfl

/-- **Keeps**: what was there in a state is there in a later one. -/
structure Bridge.Keeps (b b' : Bridge) : Prop where
  sound : b'.Sound
  size : b'.contexts.size = b.contexts.size
  selectors : b.space.selectors.Extends b'.space.selectors
  texts : ∀ {a bytes}, b.space.readString? a = some bytes → b'.space.readString? a = some bytes
  objects : ∀ {a isClass}, b.space.isClass? a = some isClass → b'.space.isClass? a = some isClass
  refs : ∀ {ctx a r}, b.current? ctx a = some r → b'.current? ctx a = some r

namespace Bridge.Keeps

variable {b b' b'' : Bridge}

lemma refl (hb : b.Sound) : b.Keeps b := ⟨hb, rfl, .refl _, id, id, id⟩

lemma trans (h : b.Keeps b') (h' : b'.Keeps b'') : b.Keeps b'' where
  sound := h'.sound
  size := h'.size.trans h.size
  selectors := h.selectors.trans h'.selectors
  texts ht := h'.texts (h.texts ht)
  objects ho := h'.objects (h.objects ho)
  refs hr := h'.refs (h.refs hr)

/-- Neither selectors nor classes nor memory change, and references stay good. -/
lemma of_refs (hb : b'.Sound) (hsize : b'.contexts.size = b.contexts.size)
    (hselectors : b'.space.selectors = b.space.selectors)
    (hclasses : b'.space.classes = b.space.classes) (hmemory : b'.space.memory = b.space.memory)
    (hrefs : ∀ ctx a r, b.current? ctx a = some r → b'.current? ctx a = some r) : b.Keeps b' where
  sound := hb
  size := hsize
  selectors := by
    rw [hselectors]
    exact .refl _
  texts ht := by
    rw [ObjectSpace.readString?, hmemory]
    exact ht
  objects ho := by
    refine ObjectSpace.isClass?_mono (congrArg _ hclasses) (fun _ _ _ hr => ?_) ho
    rw [hmemory]
    exact hr
  refs hr := hrefs _ _ _ hr

/-- Contexts change, but not the references that they gave out. -/
lemma of_contexts {contexts : Array Context} (hb : ({ b with contexts } : Bridge).Sound)
    (hsize : contexts.size = b.contexts.size)
    (htracked : ∀ ctx, (({ b with contexts } : Bridge).contextAt ctx).tracked =
      (b.contextAt ctx).tracked) : b.Keeps { b with contexts } :=
  of_refs hb hsize rfl rfl rfl fun ctx a r hr => by
    rw [current?, htracked]
    exact hr

/-- The object space changes, but neither the objects nor the texts that are there. -/
lemma of_space {space : ObjectSpace} (hb : ({ b with space } : Bridge).Sound)
    (hselectors : b.space.selectors.Extends space.selectors)
    (hclasses : space.classes.bare = b.space.classes.bare)
    (hassociations : space.associations = b.space.associations)
    (hread : ∀ a count bytes, b.space.memory.read? a count = some bytes →
      space.memory.read? a count = some bytes)
    (htexts : ∀ a bytes, b.space.memory.readString? a = some bytes →
      space.memory.readString? a = some bytes) : b.Keeps { b with space } where
  sound := hb
  size := rfl
  selectors := hselectors
  texts {a bytes} ht := htexts a bytes ht
  objects ho := ObjectSpace.isClass?_mono hclasses hread ho
  refs {ctx a r} hr := by
    rw [current?] at hr ⊢
    rw [hassociations]
    exact hr

end Bridge.Keeps

/-- A new reference takes no other one away. -/
lemma Bridge.current?_newRef_of_ne {b : Bridge} {i ctx : ContextId} {a a' : Address} {isClass : Bool}
    (hkey : (a', AssociationKey.context ctx) ≠ (a, .context i)) :
    ({ b with
      nextSerial := b.nextSerial + 1
      space := { b.space with
        associations := b.space.associations.set a (.context i) b.nextSerial }
      contexts := b.contexts.modify i (·.track ⟨b.nextSerial, a, isClass⟩) } : Bridge).current?
        ctx a' = b.current? ctx a' := by
  have hlookup : ((b.contexts.modify i (·.track ⟨b.nextSerial, a, isClass⟩))[ctx]?.getD
      default).tracked.lookup a' = (b.contextAt ctx).tracked.lookup a' := by
    rw [Array.getElem?_modify]
    split
    · next hi =>
      subst hi
      have ha : a' ≠ a := fun h => hkey (by rw [h])
      rw [contextAt]
      cases b.contexts[i]? with
      | none => rfl
      | some c => exact Context.lookup_track_of_ne ha
    · rfl
  rw [current?, current?]
  simp only [contextAt, AssociationTable.get?_set_of_ne hkey] at hlookup ⊢
  rw [hlookup]

/-- A new reference for an object that has no good one takes no good one away. -/
lemma Bridge.current?_newRef {b : Bridge} {i ctx : ContextId} {a a' : Address} {isClass : Bool}
    {r : ObjectRef} (hnone : b.current? i a = none) (hr : b.current? ctx a' = some r) :
    ({ b with
      nextSerial := b.nextSerial + 1
      space := { b.space with
        associations := b.space.associations.set a (.context i) b.nextSerial }
      contexts := b.contexts.modify i (·.track ⟨b.nextSerial, a, isClass⟩) } : Bridge).current?
        ctx a' = some r := by
  have hkey : (a', AssociationKey.context ctx) ≠ (a, .context i) := by
    intro h
    cases h
    rw [hnone] at hr
    cases hr
  rwa [current?_newRef_of_ne hkey]

/-- **Record keeping** leaves everything in place. -/
theorem Upkeep.keeps {b b' : Bridge} (h : Upkeep b b') (hb : b.Sound) : b.Keeps b' := by
  have hsound : b'.Sound := h.sound hb
  cases h with
  | learning h =>
    cases h with
    | lend => exact .of_refs hsound rfl rfl rfl rfl fun _ _ _ hr => hr
    | learn i layout =>
      exact .of_contexts hsound Array.size_modify fun ctx =>
        b.view_contextAt_modify Context.tracked (fun _ => by rfl) i ctx
  | intern name =>
    exact .of_space hsound (.intern _ name) rfl rfl (fun _ _ _ => id) fun _ _ => id
  | remember i =>
    exact .of_contexts hsound Array.size_modify fun ctx =>
      b.view_contextAt_modify Context.tracked (fun _ => by rfl) i ctx
  | refer i a isClass hnone =>
    have hnone : b.current? i a = none := (EStateM.Result.ok.inj hnone).1
    rw [Act.after_newRef] at hsound ⊢
    exact .of_refs hsound Array.size_modify rfl rfl rfl fun ctx a' r hr =>
      Bridge.current?_newRef hnone hr
  | store h =>
    exact .of_space hsound (.refl _) rfl rfl (fun _ _ _ => hb.memory.read?_of_allocate h)
      fun _ _ => hb.memory.readString?_of_allocate h
  | cache c sel =>
    exact .of_space hsound (.refl _) (ClassTable.bare_lookup _ c sel) rfl (fun _ _ _ => id)
      fun _ _ => id
  | keepFrame i key s =>
    exact .of_contexts hsound Array.size_modify fun ctx =>
      b.view_contextAt_modify Context.tracked (fun _ => by rfl) i ctx
  | retain i blocks =>
    exact .of_contexts hsound Array.size_modify fun ctx =>
      b.view_contextAt_modify Context.tracked (fun _ => by rfl) i ctx

/-- So does a run of record keeping. -/
theorem Upkeep.keeps_of_run {b b' : Bridge} (h : Relation.ReflTransGen Upkeep b b')
    (hb : b.Sound) : b.Keeps b' := by
  induction h with
  | refl => exact .refl hb
  | tail _ hstep ih => exact ih.trans (hstep.keeps ih.sound)

namespace Act

variable {ctx : ContextId} {a : Address} {b : Bridge}

/-- A new reference is the good one. -/
lemma current?_newRef_self (hctx : ctx < b.contexts.size) (isClass : Bool) :
    ((newRef ctx a isClass).after b).current? ctx a = some ⟨b.nextSerial, a, isClass⟩ := by
  rw [after_newRef, Bridge.current?, Bridge.contextAt]
  simp only [Array.getElem?_modify, if_true, Array.getElem?_eq_getElem hctx, Option.map_some,
    Option.getD_some, Context.track, List.lookup_cons, beq_self_eq_true,
    AssociationTable.get?_set_self, Option.filter_some]

/-- A reference that is good after a new one was given out was good before, or it is that one. -/
lemma current?_after_newRef {i : ContextId} {a' : Address} {isClass : Bool} {r : ObjectRef}
    (h : ((newRef i a isClass).after b).current? ctx a' = some r) :
    b.current? ctx a' = some r ∨ a' = a ∧ r.address = a ∧ r.isClass = isClass := by
  by_cases hkey : (a', AssociationKey.context ctx) = (a, .context i)
  · cases hkey
    refine .inr ⟨rfl, ?_⟩
    rcases Nat.lt_or_ge ctx b.contexts.size with hctx | hctx
    · rw [current?_newRef_self hctx] at h
      cases h
      exact ⟨rfl, rfl⟩
    · -- a context that was never opened keeps nothing
      rw [after_newRef, Bridge.current?, Bridge.contextAt, Array.getElem?_eq_none
        (Nat.le_trans (Nat.le_of_eq Array.size_modify) hctx)] at h
      cases h
  · rw [after_newRef, Bridge.current?_newRef_of_ne hkey] at h
    exact .inl h

/-- **A readable object** gets a reference, and it is the one that is good from then on. -/
lemma exists_wrap (hctx : ctx < b.contexts.size) (ha : a ≠ 0)
    (h : (b.current? ctx a).isSome ∨ (b.space.isClass? a).isSome) :
    ∃ r b', EStateM.run (wrap ctx a) b = .ok (some r) b' ∧ b'.current? ctx a = some r := by
  have hcached : EStateM.run (cached? ctx a) b = .ok (b.current? ctx a) b := run_cached? ctx a
  unfold wrap
  rw [if_neg ha, run_bind_ok hcached]
  cases hcurrent : b.current? ctx a with
  | some r => exact ⟨r, b, rfl, hcurrent⟩
  | none =>
    rw [hcurrent] at h
    obtain ⟨isClass, hclass⟩ := Option.isSome_iff_exists.mp (h.resolve_left (by simp))
    refine ⟨⟨b.nextSerial, a, isClass⟩, (newRef ctx a isClass).after b, ?_,
      current?_newRef_self hctx isClass⟩
    rw [run_bind_ok (run_readSpace_eq_ok.mpr ⟨hclass, rfl⟩)]
    rfl

end Act

end MessageBridge
