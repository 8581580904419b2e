import MessageBridge.Bridge.Introspection
import MessageBridge.Bridge.PendingClass
import MessageBridge.Bridge.Resolution
import MessageBridge.Proofs.Bridge.Keeping
import MessageBridge.Proofs.Bridge.Persistence

/-!
# What a host does

Between the calls that it makes, a host opens and drops contexts, builds classes, adds sources of names
and looks around. Each of these takes steps of one kind, and what such a step keeps holds in every
state that a host can get to.

## Main definitions

* `HostStep` — one step of what a host does.
* `Bridge.Reachable` — the states that a host can get to.
* `Hosting` — a relation that has the steps of what a host does between calls.
* `HostWork` — a host step that changes memory block by block.
* `HostChange` — a host step that declares methods only for selectors that are known.
* `Bridge.Named` — selectors have distinct names, and methods are declared for them.
* `HostTyping` — a host change that gives methods only type strings of signatures that were read, and
  keeps no signatures that type strings do not denote.

## Main results

* `Bridge.Reachable.of_moves` — an operation leaves a reachable state behind.
* `Bridge.Reachable.sound` — reachable states are sound.
* `HostChange.named_of_start` — whatever a host does, selectors have distinct names.
* `HostTyping.not_types_functionKey` — and no type string is the text under which a function is kept.
* `HostTyping.candid_of_start` — and contexts without layouts keep what type strings denote.
* `Act.moves_extend`, `Act.moves_addIvar`, `Act.moves_register`, `Act.moves_createInstance`,
  `Act.moves_setClass`, `Act.moves_setSuperclass` — operations take only the steps of a host.
-/

namespace MessageBridge

/-- **A host step**: one step of what a host does. -/
inductive HostStep : Bridge → Bridge → Prop
  /-- A step that a call takes as well. -/
  | call {b b' : Bridge} (h : Step b b') : HostStep b b'
  /-- A context is opened. -/
  | openContext {b : Bridge} (config : Config) (capabilities : Capabilities) :
      HostStep b (b.openContext config capabilities).2
  /-- A context is dropped. -/
  | dropContext {b : Bridge} (ctx : ContextId) : HostStep b (b.dropContext ctx)
  /-- A context gets other classes to find by name. -/
  | publish {b : Bridge} (ctx : ContextId) (g : Context → List (String × ObjectRef)) :
      HostStep b { b with contexts := b.contexts.modify ctx fun c => { c with published := g c } }
  /-- A context gets other metadata. -/
  | describe {b : Bridge} (ctx : ContextId) (g : Context → List Metadata) :
      HostStep b { b with contexts := b.contexts.modify ctx fun c => { c with sources := g c } }
  /-- A context gets other libraries. -/
  | link {b : Bridge} (ctx : ContextId) (g : Context → List NativeLibrary) :
      HostStep b { b with contexts := b.contexts.modify ctx fun c => { c with libraries := g c } }
  /-- A context remembers what names stand for. -/
  | resolve {b : Bridge} (ctx : ContextId) (g : Context → List (String × Resolved)) :
      HostStep b { b with contexts := b.contexts.modify ctx fun c => { c with resolved := g c } }
  /-- The host gives names to objects. -/
  | name {b : Bridge} (names : List (String × ObjectRef)) : HostStep b { b with names }

/-- **Soundness** outlasts whatever a host does. -/
theorem HostStep.sound {b b' : Bridge} (h : HostStep b b') (hb : b.Sound) : b'.Sound := by
  cases h with
  | call h => exact h.sound hb
  | openContext config capabilities => exact hb.openContext config capabilities
  | dropContext ctx => exact hb.dropContext ctx
  | publish i g | describe i g | link i g | resolve i g =>
    exact hb.grow (.refl _) fun ctx =>
      b.view_contextAt_modify Context.selectors (fun _ => by rfl) i ctx
  | name => exact hb.grow (.refl _) fun _ => rfl

namespace Bridge

/-- **Reachable**: a host can get to the state from the one in which nothing has been done yet. -/
def Reachable (b : Bridge) : Prop := Relation.ReflTransGen HostStep default b

variable {b b' : Bridge}

namespace Reachable

lemma start : (default : Bridge).Reachable := .refl

lemma step (hb : b.Reachable) (h : HostStep b b') : b'.Reachable := hb.tail h

/-- An operation that takes host steps leaves a reachable state behind, also where it stops. -/
lemma of_moves {α : Type} {x : Act α} (hb : b.Reachable) (h : Act.Moves HostStep x b) :
    (x.after b).Reachable := hb.trans h

/-- **Reachable states are sound.** -/
theorem sound (hb : b.Reachable) : b.Sound := by
  induction hb with
  | refl => exact sound_default
  | tail _ hstep ih => exact hstep.sound ih

end Reachable

end Bridge

/-- A class that is being built, as the first context refers to it. -/
def PendingClass.ofClass (c : ClassId) (name : String) : PendingClass :=
  ⟨0, ⟨0, c.address, true⟩, name, false⟩

/-! ## Relations that have the steps of a host -/

/-- **Hosting**: a relation that has the steps of what a host does between calls. -/
class Hosting (R : Bridge → Bridge → Prop) : Prop extends Running R where
  publish : ∀ {b : Bridge} (ctx : ContextId) (g : Context → List (String × ObjectRef)),
    R b { b with contexts := b.contexts.modify ctx fun c => { c with published := g c } }
  describe : ∀ {b : Bridge} (ctx : ContextId) (g : Context → List Metadata),
    R b { b with contexts := b.contexts.modify ctx fun c => { c with sources := g c } }
  link : ∀ {b : Bridge} (ctx : ContextId) (g : Context → List NativeLibrary),
    R b { b with contexts := b.contexts.modify ctx fun c => { c with libraries := g c } }
  resolve : ∀ {b : Bridge} (ctx : ContextId) (g : Context → List (String × Resolved)),
    R b { b with contexts := b.contexts.modify ctx fun c => { c with resolved := g c } }

lemma Act.Moves.toHost {α : Type} {b : Bridge} {x : Act α} (h : Moves Step x b) :
    Moves HostStep x b := h.mono fun _ _ => .call

instance : Hosting HostStep where
  of_upkeep h _ _ _ := .call (.upkeep h)
  space h := .call (.space h.grows)
  define _ _ := .call (.space ⟨id, .refl _⟩)
  host h := .call (.host h)
  trace v := .call (.trace v)
  pending ctx g := .call (.pending ctx g)
  message ctx method m b := (Running.message ctx method m b).toHost
  function ctx f b := (Running.function ctx f b).toHost
  publish := .publish
  describe := .describe
  link := .link
  resolve := .resolve

/-- **Host work**: a host step that changes memory block by block. -/
def HostWork (b b' : Bridge) : Prop := HostStep b b' ∧ b.space.memory.Changes b'.space.memory

namespace HostWork

variable {b b' : Bridge}

lemma of_upkeep (h : Upkeep b b') : HostWork b b' := ⟨.call (.upkeep h), h.changes.memory⟩

/-- A step that leaves memory as it is. -/
lemma of_step (h : HostStep b b') (hmemory : b'.space.memory = b.space.memory) : HostWork b b' :=
  ⟨h, hmemory ▸ .refl _⟩

lemma dropContext (b : Bridge) (ctx : ContextId) : HostWork b (b.dropContext ctx) :=
  ⟨.dropContext ctx, (Bridge.changes_foldl_free? _ b.space).memory⟩

instance : Hosting HostWork where
  of_upkeep h _ _ _ := of_upkeep h
  space h := ⟨.call (.space h.grows), h.memory⟩
  define _ _ := of_step (.call (.space ⟨id, .refl _⟩)) rfl
  host h := of_step (.call (.host h)) rfl
  trace v := of_step (.call (.trace v)) rfl
  pending ctx g := of_step (.call (.pending ctx g)) rfl
  message ctx method m _ := (Act.upkeep_messageFrame ctx method m).mono fun _ _ => of_upkeep
  function ctx _ _ := (Act.upkeep_frame ctx _ fun _ => Act.moves_pure _).mono fun _ _ => of_upkeep
  publish ctx g := of_step (.publish ctx g) rfl
  describe ctx g := of_step (.describe ctx g) rfl
  link ctx g := of_step (.link ctx g) rfl
  resolve ctx g := of_step (.resolve ctx g) rfl

/-- Host work leads to reachable states only. -/
lemma reachable (hb : b.Reachable) (h : Relation.ReflTransGen HostWork b b') : b'.Reachable :=
  hb.trans (Relation.ReflTransGen.mono (fun _ _ hstep => hstep.1) _ _ h)

/-- **Memory** changes block by block in any run. -/
lemma changes_memory (h : Relation.ReflTransGen HostWork b b') :
    b.space.memory.Changes b'.space.memory := by
  induction h with
  | refl => exact .refl _
  | tail _ hstep ih => exact ih.trans hstep.2

end HostWork

/-- **Host change**: a host step that declares methods only for selectors that are known, and leaves
selectors under their names, which are as distinct as they were. -/
structure HostChange (b b' : Bridge) : Prop where
  host : HostStep b b'
  selectors : b.space.selectors.Extends b'.space.selectors
  distinct : b.space.selectors.Distinct → b'.space.selectors.Distinct
  declares : ∀ sel, b'.space.classes.Declares sel → b.space.classes.Declares sel ∨ b.Minds sel

/-- **Named**: no two selectors have one name, methods are declared for selectors that have one, and
contexts remember selectors under their names. -/
structure Bridge.Named (b : Bridge) : Prop where
  sound : b.Sound
  distinct : b.space.selectors.Distinct
  declares : ∀ sel, b.space.classes.Declares sel → sel.index < b.space.selectors.names.size

namespace HostChange

variable {b b' : Bridge}

/-- A step that changes the object space as its operations do. -/
lemma of_changes (h : HostStep b b') (hspace : b.space.Changes b'.space) : HostChange b b' :=
  ⟨h, hspace.selectors, hspace.distinct, fun _ hsel => .inl (hspace.encloses.declares hsel)⟩

lemma of_upkeep (h : Upkeep b b') : HostChange b b' := of_changes (.call (.upkeep h)) h.changes

/-- A step that leaves the object space as it is. -/
lemma of_step (h : HostStep b b') (hspace : b'.space = b.space) : HostChange b b' :=
  of_changes h (hspace ▸ .refl _)

lemma openContext (b : Bridge) (config : Config) (capabilities : Capabilities) :
    HostChange b (b.openContext config capabilities).2 := of_step (.openContext config capabilities) rfl

lemma dropContext (b : Bridge) (ctx : ContextId) : HostChange b (b.dropContext ctx) :=
  of_changes (.dropContext ctx) (Bridge.changes_foldl_free? _ b.space)

instance : Hosting HostChange where
  of_upkeep h _ _ _ := of_upkeep h
  space h := of_changes (.call (.space h.grows)) h
  define h _ := ⟨.call (.space ⟨id, .refl _⟩), .refl _, id, h⟩
  host h := of_step (.call (.host h)) rfl
  trace v := of_step (.call (.trace v)) rfl
  pending ctx g := of_step (.call (.pending ctx g)) rfl
  message ctx method m _ := (Act.upkeep_messageFrame ctx method m).mono fun _ _ => of_upkeep
  function ctx _ _ := (Act.upkeep_frame ctx _ fun _ => Act.moves_pure _).mono fun _ _ => of_upkeep
  publish ctx g := of_step (.publish ctx g) rfl
  describe ctx g := of_step (.describe ctx g) rfl
  link ctx g := of_step (.link ctx g) rfl
  resolve ctx g := of_step (.resolve ctx g) rfl

lemma named (h : HostChange b b') (hb : b.Named) : b'.Named := by
  refine ⟨h.host.sound hb.sound, h.distinct hb.distinct, fun sel hsel => ?_⟩
  have hold : sel.index < b.space.selectors.names.size := by
    rcases h.declares sel hsel with hsel | hmem | ⟨ctx, e, he, rfl⟩
    · exact hb.declares sel hsel
    · exact hmem
    · exact (hb.sound.selectors ctx e he).mem
  exact (h.selectors sel hold).1

/-- **Names stay distinct** in any run, and selectors stay under them. -/
lemma named_of_run (h : Relation.ReflTransGen HostChange b b') (hb : b.Named) : b'.Named := by
  induction h with
  | refl => exact hb
  | tail _ hstep ih => exact hstep.named ih

lemma extends_of_run (h : Relation.ReflTransGen HostChange b b') :
    b.space.selectors.Extends b'.space.selectors := by
  induction h with
  | refl => exact .refl _
  | tail _ hstep ih => exact ih.trans hstep.selectors

end HostChange

/-- What is so of every method that the root classes declare. -/
lemma ObjectSpace.forall_methods_initial {p : Method → Prop}
    (h : ∀ i < ObjectSpace.initial.classes.records.size,
      ∀ m ∈ (ObjectSpace.initial.classes.get ⟨i⟩).methods, p m) (c : ClassId) (m : Method)
    (hm : m ∈ (ObjectSpace.initial.classes.get c).methods) : p m := by
  rcases Nat.lt_or_ge c.index ObjectSpace.initial.classes.records.size with hc | hc
  · exact h c.index hc m hm
  · have hnone : ObjectSpace.initial.classes.get c = default := by
      rw [ClassTable.get, Array.getElem?_eq_none hc]
      rfl
    rw [hnone] at hm
    cases hm

lemma Bridge.named_default : (default : Bridge).Named where
  sound := sound_default
  distinct := by
    rw [SelectorTable.Distinct]
    decide +kernel
  declares := by
    rintro _ ⟨c, m, hm, rfl⟩
    exact ObjectSpace.forall_methods_initial
      (p := fun m => m.selector.index < ObjectSpace.initial.selectors.names.size)
      (by decide +kernel) c m hm

/-- **Whatever a host does**, selectors have distinct names and methods are declared for them. -/
theorem HostChange.named_of_start {b : Bridge} (h : Relation.ReflTransGen HostChange default b) :
    b.Named := named_of_run h Bridge.named_default

/-- **Host typing**: a host change after which methods have the type strings that they had, or those of
signatures that were read, and after which contexts that know no layouts keep no signature for what does
not denote it. -/
structure HostTyping (b b' : Bridge) : Prop where
  change : HostChange b b'
  types : ∀ types, b'.space.classes.Types types →
    b.space.classes.Types types ∨ Signature.Written types
  candid : b.Candid → b'.Candid

namespace HostTyping

variable {b b' : Bridge}

/-- A step that changes the object space as its operations do. -/
lemma of_changes (h : HostStep b b') (hspace : b.space.Changes b'.space) (hcandid : b.Candid → b'.Candid) :
    HostTyping b b' :=
  ⟨.of_changes h hspace, fun _ htypes => .inl (hspace.encloses.types htypes), hcandid⟩

/-- A step that leaves the object space as it is. -/
lemma of_step (h : HostStep b b') (hspace : b'.space = b.space) (hcandid : b.Candid → b'.Candid) :
    HostTyping b b' := of_changes h (hspace ▸ .refl _) hcandid

lemma of_candid (h : CandidUpkeep b b') : HostTyping b b' :=
  of_changes (.call (.upkeep h.1)) h.1.changes h.2

/-- A context that is opened keeps nothing. -/
lemma openContext (b : Bridge) (config : Config) (capabilities : Capabilities) :
    HostTyping b (b.openContext config capabilities).2 :=
  of_step (.openContext config capabilities) rfl fun hb ctx => by
    rcases Nat.lt_trichotomy ctx b.contexts.size with hctx | rfl | hctx
    · have hsame : (b.openContext config capabilities).2.contextAt ctx = b.contextAt ctx := by
        simp only [Bridge.contextAt, Bridge.openContext, Array.getElem?_push, if_neg (Nat.ne_of_lt hctx)]
      rw [hsame]
      exact hb ctx
    · have hnew : ((b.openContext config capabilities).2.contextAt b.contexts.size).frames = [] := by
        simp only [Bridge.contextAt, Bridge.openContext, Array.getElem?_push, if_true]
        rfl
      intro _ _ e he
      rw [hnew] at he
      cases he
    · have hsame : (b.openContext config capabilities).2.contextAt ctx = b.contextAt ctx := by
        simp only [Bridge.contextAt, Bridge.openContext, Array.getElem?_push, if_neg (Nat.ne_of_gt hctx)]
      rw [hsame]
      exact hb ctx

instance : Hosting HostTyping where
  of_upkeep h hframes _ _ := of_candid ⟨h, fun hb => hb.of_upkeep h hframes⟩
  space h := of_changes (.call (.space h.grows)) h id
  define h htypes := ⟨Running.define h htypes, htypes, id⟩
  host h := of_step (.call (.host h)) rfl id
  trace v := of_step (.call (.trace v)) rfl id
  pending ctx g := of_step (.call (.pending ctx g)) rfl
    fun hb => hb.modify ctx (by exact fun _ => ⟨rfl, rfl, rfl⟩)
  message _ method m _ := (Act.candid_messageFrame method m).mono fun _ _ => of_candid
  function _ f _ := (Act.candid_functionFrame f).mono fun _ _ => of_candid
  publish ctx g := of_step (.publish ctx g) rfl fun hb => hb.modify ctx (by exact fun _ => ⟨rfl, rfl, rfl⟩)
  describe ctx g := of_step (.describe ctx g) rfl
    fun hb => hb.modify ctx (by exact fun _ => ⟨rfl, rfl, rfl⟩)
  link ctx g := of_step (.link ctx g) rfl fun hb => hb.modify ctx (by exact fun _ => ⟨rfl, rfl, rfl⟩)
  resolve ctx g := of_step (.resolve ctx g) rfl fun hb => hb.modify ctx (by exact fun _ => ⟨rfl, rfl, rfl⟩)

/-- **Whatever a host does**, contexts that know no layouts keep what type strings denote. -/
theorem candid_of_start (h : Relation.ReflTransGen HostTyping default b) : b.Candid := by
  induction h with
  | refl => exact fun _ _ _ _ he => nomatch he
  | tail _ hstep ih => exact hstep.candid ih

lemma change_of_run (h : Relation.ReflTransGen HostTyping b b') :
    Relation.ReflTransGen HostChange b b' :=
  Relation.ReflTransGen.mono (fun _ _ hstep => hstep.change) _ _ h

/-- **Whatever a host does**, no method has the text for a type string under which a function is kept. -/
theorem not_types_functionKey (h : Relation.ReflTransGen HostTyping default b) (s : Signature) :
    ¬ b.space.classes.Types s.functionKey := by
  induction h with
  | refl =>
    rintro ⟨c, m, hm, heq⟩
    have hhead := ObjectSpace.forall_methods_initial (p := fun m => m.types.toList.head? ≠ some 'f')
      (by decide +kernel) c m hm
    rw [heq, Signature.functionKey, String.toList_append] at hhead
    exact hhead rfl
  | tail _ hstep ih =>
    intro htypes
    rcases hstep.types _ htypes with hold | hwritten
    · exact ih hold
    · exact hwritten.ne_functionKey s rfl

end HostTyping

namespace Act

variable {α : Type} {R : Bridge → Bridge → Prop} {b : Bridge} {x : Act α}

/-! ## Calls -/

/-- A call that a host asks for takes only the steps of code, whatever runs inside it. -/
lemma moves_call [Running R] (depth : Nat) (ctx : ContextId) (d : Dispatch) :
    Moves R (dispatch (.within depth) ctx d) b :=
  moves_dispatch (Reentry.moves_within depth) ctx d

/-! ## Building classes -/

section Building

variable (p : PendingClass)

lemma moves_ensurePending (operation : String) :
    Moves R (p.ensurePending operation) b :=
  .ite (fun _ => moves_fail _) fun _ => moves_pure _

lemma moves_protocolNamed? (name : String) :
    Moves R (protocolNamed? name) b :=
  (moves_checkName name).bind fun _ _ _ => moves_fromSpace _

/-- The part of starting a class that comes after its superclass is known. -/
lemma moves_allocated [Running R] (ctx : ContextId) (parent : Option ClassId) (name : String) (extra : UInt64) :
    Moves R (do
      match ← onSpace (·.allocatePair parent name extra) with
      | some c =>
        match ← wrapClassId ctx c with
        | some r => return (⟨ctx, r, name, false⟩ : PendingClass)
        | none => fail (.classAllocation name)
      | none => fail (.classAllocation name)) b := by
  refine (moves_onSpace fun s => s.changes_allocatePair parent name extra).bind fun c b₁ _ => ?_
  split
  · refine (upkeep_wrapClass ctx _).bind fun r b₂ _ => ?_
    split
    · exact moves_pure _
    · exact moves_fail _
  · exact moves_fail _

lemma moves_extend [Running R] (ctx : ContextId) (parent : Option ObjectRef) (name : String) (extra : UInt64) :
    Moves R (extend ctx parent name extra) b := by
  unfold extend
  refine (moves_checkName name).bind fun _ b₁ _ => ?_
  split
  · exact (moves_readSpace _).map.bind fun parent b₂ _ => moves_allocated ctx parent name extra
  · exact (moves_pure _).bind fun parent b₂ _ => moves_allocated ctx parent name extra

lemma moves_addPendingMethod [Running R] (selector types : String) (body : Body) :
    Moves R (p.addMethod selector types body) b :=
  (moves_ensurePending p _).bind fun _ _ _ => moves_addMethodTo _ _ _ _ _ _

lemma moves_addClassMethod [Running R] (selector types : String) (body : Body) :
    Moves R (p.addClassMethod selector types body) b := by
  refine (moves_ensurePending p _).bind fun _ b₁ _ =>
    (upkeep_classOf p.context p.classRef).bind fun k b₂ _ => ?_
  split
  · exact moves_addMethodTo _ _ _ _ _ _
  · exact moves_fail _

/-- The part of adding an instance variable that comes after its layout is known. -/
lemma moves_ivarAdded [Running R] (name : String) (d : Descriptor) (size : UInt64) (exponent : UInt8) :
    Moves R (do
      checkName name
      checkName d.encoding
      let c ← classOfRef p.classRef
      match ← fromSpace (·.classes.addIvar? c name size exponent d.encoding) with
      | some classes => changeSpace (fun s => some (s.withClasses classes))
      | none => fail (.ivarRegistration p.name name)) b := by
  refine (moves_checkName name).bind fun _ b₁ _ => (moves_checkName _).bind fun _ b₂ _ =>
    (moves_readSpace _).bind fun c b₃ _ => (moves_fromSpace _).bind fun classes b₄ hclasses => ?_
  rw [run_fromSpace] at hclasses
  obtain ⟨hadd, rfl⟩ := EStateM.Result.ok.inj hclasses
  split
  · exact moves_changeClasses (.addIvar? hadd)
  · exact moves_fail _

lemma moves_addIvar [Running R] (name encoding : String) (size : Option UInt64) (exponent : Option UInt8) :
    Moves R (p.addIvar name encoding size exponent) b := by
  refine (moves_ensurePending p _).bind fun _ b₁ _ =>
    (upkeep_withStructs p.context _).bind fun d b₂ _ => ?_
  exact .ite (fun _ => (moves_fail _).bind fun _ b₃ _ => moves_ivarAdded p name d _ _)
    fun _ => moves_ivarAdded p name d _ _

lemma moves_addProtocol [Running R] (protocol : String) : Moves R (p.addProtocol protocol) b := by
  refine (moves_ensurePending p _).bind fun _ b₁ _ =>
    (moves_protocolNamed? protocol).bind fun q b₂ _ => ?_
  split
  · exact (moves_readSpace _).bind fun _ _ _ => moves_changeClasses (.getD fun _ h => .adopt? h)
  · exact moves_fail _

/-- Registering takes the steps of code, and then a context gets another class to find by name. -/
lemma moves_register_of [Running R] (hpublish : ∀ (b : Bridge) (ctx : ContextId)
    (g : Context → List (String × ObjectRef)),
      R b { b with contexts := b.contexts.modify ctx fun c => { c with published := g c } }) :
    Moves R p.register b :=
  (moves_ensurePending p _).bind fun _ _ _ => (moves_readSpace _).bind fun _ _ _ =>
    (moves_changeClasses (.register _ _)).bind fun _ _ _ =>
      Moves.bind (.of_step (hpublish _ p.context _)) fun _ _ _ => moves_pure _

lemma moves_register [Hosting R] : Moves R p.register b :=
  moves_register_of p fun _ ctx g => Hosting.publish ctx g

end Building

/-! ## Changing classes -/

lemma moves_setSuperclass [Running R] (ctx : ContextId) (r parent : ObjectRef) :
    Moves R (setSuperclass ctx r parent) b := by
  refine (moves_readSpace _).bind fun c b₁ _ => (moves_readSpace _).bind fun parent b₂ _ =>
    (moves_onSpace fun s => ObjectSpace.changes_withClasses (.setSuperclass s.classes _ _)).bind
      fun previous b₃ _ => ?_
  split
  · exact (upkeep_wrapClass ctx _)
  · exact moves_pure _

lemma moves_setVersion [Running R] (r : ObjectRef) (version : Int32) : Moves R (setVersion r version) b :=
  (moves_readSpace _).bind fun _ _ _ =>
    moves_changeClasses (.modify (by exact fun _ => rfl) _ _)

lemma moves_setLayout [Running R] (r : ObjectRef) (weak : Bool) (layout : List UInt8) :
    Moves R (setLayout r weak layout) b := by
  have hrest (b : Bridge) : Moves R (do
      let c ← classOfRef r
      changeClasses (·.setLayout c weak (some layout))) b :=
    (moves_readSpace _).bind fun _ _ _ => moves_changeClasses (.setLayout _ _ _ _)
  exact .ite (fun _ => (moves_fail _).bind fun _ b₁ _ => hrest b₁) fun _ => hrest b

section Implementations

variable {ctx : ContextId} {m : MethodRef} (htypes : ∀ b, Moves R (methodTypes ctx m) b)
include htypes

lemma moves_functionFor (code : Option Implementation) : Moves R (functionFor ctx m code) b := by
  unfold functionFor
  split
  · exact (htypes _).bind fun _ _ _ =>
      (moves_fromSpace _).bind fun _ _ _ => moves_pure _
  · exact moves_pure _

lemma moves_implementationOf : Moves R (implementationOf ctx m) b :=
  (moves_methodOf m).bind fun _ _ _ => moves_functionFor htypes _

lemma moves_setImplementation [Running R] (body : Body) :
    Moves R (Act.setImplementation ctx m body) b := by
  unfold Act.setImplementation
  refine (htypes b).bind fun signature b₁ _ =>
    Moves.bind (moves_fromSpace _) fun name b₂ _ =>
      (moves_makeImplementation ctx name signature body).bind fun imp b₃ _ => ?_
  exact (moves_onSpace fun s =>
    ObjectSpace.changes_withClasses (.swapImplementation s.classes m _)).bind fun previous b₄ _ =>
      moves_functionFor htypes previous

end Implementations

lemma moves_exchangeImplementations [Running R] (m n : MethodRef) : Moves R (exchangeImplementations m n) b :=
  moves_changeClasses (.exchange _ m n)

/-! ## Objects -/

lemma moves_createInstance [Running R] (ctx : ContextId) (r : ObjectRef) (extra : UInt64) :
    Moves R (createInstance ctx r extra) b :=
  (moves_readSpace _).bind fun c _ _ =>
    (moves_onSpace fun s => s.changes_createInstance c extra).bind fun _ _ _ =>
      (upkeep_wrap ctx _)

lemma moves_setClass [Running R] (ctx : ContextId) (r c : ObjectRef) : Moves R (setClass ctx r c) b := by
  refine (moves_readSpace _).bind fun c b₁ _ => (moves_tryOnSpace fun s previous h => ?_).bind
    fun previous b₂ _ => (upkeep_wrapClass ctx _)
  obtain ⟨previous, -, h⟩ := Option.bind_eq_some_iff.mp h
  obtain ⟨s', hs', h⟩ := Option.bind_eq_some_iff.mp h
  cases h
  exact ObjectSpace.changes_write? hs'

/-! ## Sources of names -/

lemma moves_registerStruct (hlearn : ∀ b ctx layout, R b { b with
      contexts := b.contexts.modify ctx fun c => { c with translator := c.translator.insert layout } })
    (ctx : ContextId) (encoding : String) : Moves R (registerStruct ctx encoding) b :=
  ((moves_context ctx).bind fun _ _ _ => moves_pure _).bind fun depth _ _ =>
    moves_registerWithin hlearn ctx (depth + 1) encoding

lemma learning_registerStruct (ctx : ContextId) (encoding : String) :
    Moves Learning (registerStruct ctx encoding) b := moves_registerStruct (fun _ => .learn) ctx encoding

lemma upkeep_registerStruct [Recording R] (ctx : ContextId) (encoding : String) :
    Moves R (registerStruct ctx encoding) b := moves_registerStruct Recording.learn ctx encoding

lemma moves_addMetadata [Hosting R] (ctx : ContextId) (m : Metadata) : Moves R (addMetadata ctx m) b :=
  .of_step (Hosting.describe ctx _)

lemma moves_addLibrary [Hosting R] (ctx : ContextId) (l : NativeLibrary) :
    Moves R (addLibrary ctx l) b := .of_step (Hosting.link ctx _)

lemma moves_loadLibrary [Hosting R] (ctx : ContextId) (path : String) :
    Moves R (loadLibrary ctx path) b :=
  (moves_ofExcept _).bind fun _ _ _ => (moves_addLibrary ctx _).bind fun _ _ _ => moves_pure _

lemma moves_symbol? (ctx : ContextId) (name : String) :
    Moves R (symbol? ctx name) b := (moves_context ctx).bind fun _ _ _ => moves_pure _

lemma moves_constantBytes (ctx : ContextId) (name : String)
    (d : Descriptor) (c : Constant) : Moves R (constantBytes ctx name d c) b := by
  unfold constantBytes
  split
  · exact moves_pure _
  · refine (moves_symbol? ctx name).bind fun symbol b₁ _ => ?_
    split
    · exact moves_fail _
    · exact moves_fault _
    · exact .ite (fun _ => moves_pure _) fun _ => moves_fault _

lemma upkeep_constantValue [Recording R] (ctx : ContextId) (name : String) (c : Constant) :
    Moves R (constantValue ctx name c) b :=
  (upkeep_withStructs ctx _).bind fun d _ _ =>
    (moves_constantBytes ctx name d c).bind fun _ _ _ => upkeep_decode ctx d _

lemma upkeep_functionNamed [Recording R] (ctx : ContextId) (name : String) (type : FunctionType) :
    Moves R (functionNamed ctx name type) b := by
  refine (upkeep_withStructs ctx _).bind fun signature b₁ _ =>
    (moves_symbol? ctx name).bind fun symbol b₂ _ => ?_
  split
  · exact moves_pure _
  · exact moves_pure _
  · exact moves_fail _

lemma upkeep_resolveNow [Recording R] (ctx : ContextId) (name : String) :
    Moves R (resolveNow ctx name) b := by
  refine (upkeep_classNamed? ctx name).bind fun r b₁ _ => ?_
  split
  · exact moves_pure _
  · refine (moves_context ctx).bind fun c b₂ _ => ?_
    simp only
    split
    · exact (upkeep_constantValue ctx name _).bind fun _ _ _ => moves_pure _
    · split
      · exact moves_pure _
      · split
        · exact (upkeep_functionNamed ctx name _).bind fun _ _ _ => moves_pure _
        · exact moves_fail _

lemma moves_resolve [Hosting R] (ctx : ContextId) (name : String) : Moves R (resolve ctx name) b := by
  refine (moves_context ctx).bind fun c b₁ _ => ?_
  split
  · exact moves_pure _
  · exact (upkeep_resolveNow ctx name).bind fun _ _ _ =>
      Moves.bind (.of_step (Hosting.resolve ctx _)) fun _ _ _ => moves_pure _

/-! ## Looking around -/

lemma upkeep_classes (ctx : ContextId) : Moves Upkeep (classes ctx) b := by
  have hlend (b : Bridge) (loans : Loans) : Upkeep b { b with loans } := .learning (.lend loans)
  exact (moves_fromSpace _).bind fun cs _ _ => .ite (fun _ => moves_pure _) fun _ =>
    moves_borrowing hlend fun _ => (Moves.mapM (fun _ _ => upkeep_wrapClass ctx _) cs _).bind
      fun _ _ _ => moves_pure _

lemma upkeep_classList [Referring R] (ctx : ContextId) : Moves R (classList ctx) b :=
  (moves_fromSpace _).bind fun _ _ _ =>
    (Moves.mapM (fun _ _ => upkeep_wrapClass ctx _) _ _).bind fun _ _ _ => moves_pure _

lemma upkeep_protocols [Borrowing R] : Moves R protocols b :=
  (moves_fromSpace _).bind fun _ _ _ => moves_borrowList Borrowing.borrow (fun _ _ => rfl) _

lemma moves_classRecord (r : ObjectRef) : Moves R (classRecord r) b :=
  (moves_readSpace _).bind fun _ _ _ => moves_fromSpace _

lemma upkeep_protocolsOf [Borrowing R] (r : ObjectRef) : Moves R (protocolsOf r) b :=
  (moves_classRecord r).bind fun _ _ _ => moves_borrowList Borrowing.borrow (fun _ _ => rfl) _

lemma upkeep_protocolMethods [Borrowing R] (p : ProtocolId) (required instanceSide : Bool) :
    Moves R (protocolMethods p required instanceSide) b := by
  refine Moves.bind (.of_after rfl) fun ds b₁ _ => moves_borrowList Borrowing.borrow
    (g := fun d => some (b₁.space.selectors.name d.selector, d.types)) (fun d loans => ?_) ds
  rfl

lemma upkeep_superclassOf [Referring R] (ctx : ContextId) (r : ObjectRef) :
    Moves R (superclassOf ctx r) b := by
  refine (moves_readSpace _).bind fun c b₁ _ => (moves_fromSpace _).bind fun parent b₂ _ => ?_
  split
  · exact upkeep_wrapClass ctx _
  · exact moves_pure _

lemma upkeep_instanceMethod? [Noting R] (ctx : ContextId) (r : ObjectRef) (name : String) :
    Moves R (instanceMethod? ctx r name) b :=
  (upkeep_selector ctx name).bind fun _ _ _ => (moves_readSpace _).bind fun _ _ _ => moves_fromSpace _

lemma upkeep_classMethod? [Noting R] (ctx : ContextId) (r : ObjectRef) (name : String) :
    Moves R (classMethod? ctx r name) b :=
  (upkeep_selector ctx name).bind fun _ _ _ => (moves_readSpace _).bind fun _ _ _ => moves_fromSpace _

lemma upkeep_wrapWhileClass [Referring R] (ctx : ContextId) (cs : List ClassId) :
    Moves R (wrapWhileClass ctx cs) b := by
  induction cs generalizing b with
  | nil => exact moves_pure _
  | cons c cs ih =>
    unfold wrapWhileClass
    refine (upkeep_wrapClass ctx _).bind fun r b₁ _ => ?_
    split
    · exact ih.bind fun _ _ _ => moves_pure _
    · exact moves_pure _

lemma upkeep_ancestors [Referring R] (ctx : ContextId) (r : ObjectRef) : Moves R (ancestors ctx r) b :=
  (moves_readSpace _).bind fun _ _ _ => (moves_fromSpace _).bind fun _ _ _ =>
    upkeep_wrapWhileClass ctx _

lemma upkeep_classIvars [Borrowing R] (c : ClassId) : Moves R (classIvars c) b :=
  (moves_fromSpace _).bind fun _ _ _ => moves_borrowList Borrowing.borrow (fun _ _ => rfl) _

lemma upkeep_classMethods [Borrowing R] (c : ClassId) : Moves R (classMethods c) b :=
  (moves_fromSpace _).bind fun _ _ _ => moves_borrowList Borrowing.borrow (fun _ _ => rfl) _

lemma upkeep_instanceMethods [Borrowing R] (r : ObjectRef) : Moves R (instanceMethods r) b :=
  (moves_readSpace _).bind fun c _ _ => upkeep_classMethods c

lemma upkeep_instanceVariables [Borrowing R] (r : ObjectRef) : Moves R (instanceVariables r) b :=
  (moves_readSpace _).bind fun c _ _ => upkeep_classIvars c

lemma upkeep_classSideMethods [Borrowing R] (ctx : ContextId) (r : ObjectRef) :
    Moves R (classSideMethods ctx r) b := by
  refine (upkeep_classOf ctx r).bind fun k b₁ _ => ?_
  split
  · exact upkeep_instanceMethods _
  · exact moves_pure _

lemma upkeep_classSideVariables [Borrowing R] (ctx : ContextId) (r : ObjectRef) :
    Moves R (classSideVariables ctx r) b := by
  refine (upkeep_classOf ctx r).bind fun k b₁ _ => ?_
  split
  · exact upkeep_instanceVariables _
  · exact moves_pure _

/-- Collecting what is declared on a chain takes the steps of listing each class. -/
lemma upkeep_declared [Referring R] {list : ClassId → Act (List α)} (h : ∀ c b, Moves R (list c) b)
    (ctx : ContextId) (r : ObjectRef) (depth : Option Nat) :
    Moves R (declared ctx r depth list) b :=
  (upkeep_ancestors ctx r).bind fun _ _ _ =>
    (Moves.mapM (fun _ _ => (moves_readSpace _).bind fun c _ _ => h c _) _ _).bind fun _ _ _ =>
      moves_pure _

lemma upkeep_ivarsOf [Borrowing R] (ctx : ContextId) (r : ObjectRef) (depth : Option Nat) (sort : Bool) :
    Moves R (ivarsOf ctx r depth sort) b :=
  (upkeep_declared (fun c _ => upkeep_classIvars c) ctx r depth).bind fun _ _ _ =>
    .ite (fun _ => moves_pure _) fun _ => moves_pure _

lemma upkeep_methodsOf [Borrowing R] (ctx : ContextId) (r : ObjectRef) (depth : Option Nat) (sort : Bool) :
    Moves R (methodsOf ctx r depth sort) b :=
  (upkeep_declared (fun c _ => upkeep_classMethods c) ctx r depth).bind fun _ _ _ =>
    .ite (fun _ => (Moves.mapM (fun _ _ => (moves_fromSpace _).bind fun _ _ _ => moves_pure _) _ _).bind
      fun _ _ _ => moves_pure _) fun _ => moves_pure _

end Act

end MessageBridge
