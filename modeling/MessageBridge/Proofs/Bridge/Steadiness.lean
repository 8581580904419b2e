import MessageBridge.Proofs.Bridge.CallShape
import MessageBridge.Proofs.Bridge.Persistence
import MessageBridge.Proofs.Bridge.Step
import MessageBridge.Proofs.Space.Coherence
import MessageBridge.Proofs.Space.Declarations

/-!
# Work that does not disturb messages

Which code a message calls, and how the call is made, depends on the classes and what they remember,
on the class of the receiver, on the selectors, and on a few things that contexts keep. Much of what
goes on while a message is under way leaves all of these alone, or adds to them only what was bound to
be added. Such work can be put together: whatever is done one after the other, each part finds what it
would have found at the beginning.

## Main definitions

* `Bridge.Steady` — what messages depend on is in a later state what it was.
* `Bridge.Tacit` — a step that is steady and writes nothing to the trace.
* `Act.Does`, `Act.Gives` — what an action answers and writes to the trace, in every steady later state.

## Main results

* `Bridge.Steady.trans` — steadiness goes on.
* `Act.Does.bind` — what a sequence does.
* `Act.gives_methodFrame` — settling on the signature of a method is steady where types are known.
-/

namespace MessageBridge

/-- What there is to a context apart from the selectors, references, signatures and blocks that it keeps
for later. -/
def Context.core (c : Context) : Context :=
  { c with selectors := [], tracked := [], frames := [], retained := [] }

namespace Bridge

variable {b b' b'' : Bridge} {ctx : ContextId}

/-- The core of a context, if there is the context. -/
def core? (b : Bridge) (ctx : ContextId) : Option Context := b.contexts[ctx]?.map Context.core

lemma core?_modify {f : Context → Context} (hf : ∀ c, (f c).core = c.core) (b : Bridge)
    (i : ContextId) : ({ b with contexts := b.contexts.modify i f } : Bridge).core? = b.core? := by
  funext ctx
  simp only [core?, Array.getElem?_modify]
  split
  · rw [Option.map_map]
    exact Option.map_congr fun c _ => hf c
  · rfl

lemma core_contextAt (b : Bridge) (ctx : ContextId) :
    (b.contextAt ctx).core = (b.core? ctx).getD default := by
  unfold contextAt core?
  cases b.contexts[ctx]? <;> rfl

/-! ## Steady states -/

/-- **Steady**: what messages depend on is in the later state what it was in the earlier one. Selectors
have their names, classes are the same and remember nothing wrong that was right, objects have their
classes and can be read, nothing more waits to be taken, and names and contexts are the same, apart from
what contexts keep for later. They keep new signatures of methods at most, and new references that say
rightly whether they are for classes. -/
structure Steady (b b' : Bridge) : Prop where
  sound : b'.Sound
  selectors : b.space.selectors.Extends b'.space.selectors
  distinct : b.space.selectors.Distinct → b'.space.selectors.Distinct
  bare : b'.space.classes.bare = b.space.classes.bare
  recalls : ∀ {c sel}, b.space.classes.Recalls c sel → b'.space.classes.Recalls c sel
  isa : ∀ {a c}, b.space.isa? a = some c → b'.space.isa? a = some c
  readable : ∀ {a count}, (b.space.read? a count).isSome = true →
    (b'.space.read? a count).isSome = true
  raised : b'.space.raised = b.space.raised
  hosted : ∀ {i : Nat} {h : Hosted}, b.hosted[i]? = some h → b'.hosted[i]? = some h
  names : b'.names = b.names
  core : ∀ ctx, b'.core? ctx = b.core? ctx
  kept : ∀ {ctx key s}, (b.contextAt ctx).frames.lookup key = some s →
    (b'.contextAt ctx).frames.lookup key = some s
  fresh : ∀ {ctx key s}, (b.contextAt ctx).frames.lookup key = none →
    (b'.contextAt ctx).frames.lookup key = some s →
      ∃ m, Act.frameKey? ctx m b = some key ∧ Act.denoted? ctx m b = some s
  refs : ∀ {ctx a r}, b'.current? ctx a = some r →
    b.current? ctx a = some r ∨ r.address = a ∧ b'.space.isClass? a = some r.isClass

namespace Steady

lemma refl (hb : b.Sound) : b.Steady b where
  sound := hb
  selectors := .refl _
  distinct := id
  bare := rfl
  recalls := id
  isa := id
  readable := id
  raised := rfl
  hosted := id
  names := rfl
  core _ := rfl
  kept := id
  fresh hnone hsome := by cases hnone.symm.trans hsome
  refs := .inl

/-! ### What is the same -/

lemma contextAt_core (h : b.Steady b') (ctx : ContextId) :
    (b'.contextAt ctx).core = (b.contextAt ctx).core := by
  rw [core_contextAt, core_contextAt, h.core]

lemma capabilities (h : b.Steady b') (ctx : ContextId) :
    (b'.contextAt ctx).capabilities = (b.contextAt ctx).capabilities :=
  (congrArg Context.capabilities (h.contextAt_core ctx) :)

lemma live (h : b.Steady b') (ctx : ContextId) :
    (b'.contextAt ctx).live = (b.contextAt ctx).live :=
  (congrArg Context.live (h.contextAt_core ctx) :)

lemma pending (h : b.Steady b') (ctx : ContextId) : b'.pending ctx = b.pending ctx :=
  (congrArg Context.pendingError (h.contextAt_core ctx) :)

lemma published (h : b.Steady b') (ctx : ContextId) :
    (b'.contextAt ctx).published = (b.contextAt ctx).published :=
  (congrArg Context.published (h.contextAt_core ctx) :)

lemma get_bare (h : b.Steady b') (c : ClassId) :
    (b'.space.classes.get c).bare = (b.space.classes.get c).bare := ClassTable.get_congr h.bare c

lemma superclass? (h : b.Steady b') (c : ClassId) :
    (b'.space.classes.get c).superclass? = (b.space.classes.get c).superclass? :=
  (congrArg ClassRecord.superclass? (h.get_bare c) :)

lemma metaclass (h : b.Steady b') (c : ClassId) :
    b'.space.classes.metaclass c = b.space.classes.metaclass c :=
  (congrArg ClassRecord.isa (h.get_bare c) :)

lemma ofAddress? (h : b.Steady b') (a : Address) :
    b'.space.classes.ofAddress? a = b.space.classes.ofAddress? a :=
  ClassTable.ofAddress?_congr h.bare a

lemma method? (h : b.Steady b') (m : MethodRef) :
    b'.space.classes.method? m = b.space.classes.method? m := by
  rw [← ClassTable.method?_bare, h.bare, ClassTable.method?_bare]

lemma findMethod? (h : b.Steady b') (c : ClassId) (sel : Selector) :
    b'.space.classes.findMethod? c sel = b.space.classes.findMethod? c sel := by
  rw [← ClassTable.findMethod?_bare, h.bare, ClassTable.findMethod?_bare]

lemma walk (h : b.Steady b') (c : ClassId) (sel : Selector) :
    b'.space.classes.walk c sel = b.space.classes.walk c sel := by
  rw [ClassTable.walk, ClassTable.walk, h.findMethod?]
  exact congrArg (Option.bind · _) (congrArg _ (funext h.method?))

lemma isClass? (h : b.Steady b') {a : Address} {isClass : Bool}
    (ha : b.space.isClass? a = some isClass) : b'.space.isClass? a = some isClass := by
  obtain ⟨c, hc, rfl⟩ := Option.map_eq_some_iff.mp ha
  exact Option.map_eq_some_iff.mpr ⟨c, h.isa hc, (congrArg ClassRecord.isMeta (h.get_bare c) :)⟩

/-- Types depend on nothing that has changed. -/
lemma typing (h : b.Steady b') (ctx : ContextId) : b'.typing ctx = b.typing ctx := by
  have hcore (x : Bridge) : (x.contexts[ctx]?.map fun c =>
      (c.translator, c.sources, c.capabilities.typed)) =
        (x.core? ctx).map fun c => (c.translator, c.sources, c.capabilities.typed) := by
    rw [core?, Option.map_map]
    rfl
  refine Prod.ext ?_ h.bare
  change (b'.contexts[ctx]?.map fun c => (c.translator, c.sources, c.capabilities.typed)) =
    b.contexts[ctx]?.map fun c => (c.translator, c.sources, c.capabilities.typed)
  rw [hcore, hcore, h.core]

lemma denoted? (h : b.Steady b') (ctx : ContextId) (m : MethodRef) :
    Act.denoted? ctx m b' = Act.denoted? ctx m b := by
  refine Option.ext fun s => ?_
  rw [← Act.denotes_iff, ← Act.denotes_iff]
  exact ⟨.congr (h.typing ctx), .congr (h.typing ctx).symm⟩

lemma frameKey? (h : b.Steady b') (ctx : ContextId) (m : MethodRef) :
    Act.frameKey? ctx m b' = Act.frameKey? ctx m b := by
  rw [Act.frameKey?, Act.frameKey?, h.capabilities, h.method?, h.denoted?]

/-! ### Going on -/

/-- **Steadiness goes on.** -/
lemma trans (h : b.Steady b') (h' : b'.Steady b'') : b.Steady b'' where
  sound := h'.sound
  selectors := h.selectors.trans h'.selectors
  distinct hb := h'.distinct (h.distinct hb)
  bare := h'.bare.trans h.bare
  recalls hr := h'.recalls (h.recalls hr)
  isa ha := h'.isa (h.isa ha)
  readable ha := h'.readable (h.readable ha)
  raised := h'.raised.trans h.raised
  hosted hi := h'.hosted (h.hosted hi)
  names := h'.names.trans h.names
  core ctx := (h'.core ctx).trans (h.core ctx)
  kept hs := h'.kept (h.kept hs)
  fresh {ctx key s} hnone hsome := by
    cases hmid : (b'.contextAt ctx).frames.lookup key with
    | some s' =>
      cases hsome.symm.trans (h'.kept hmid)
      exact h.fresh hnone hmid
    | none =>
      obtain ⟨m, hkey, hs⟩ := h'.fresh hmid hsome
      exact ⟨m, (h.frameKey? ctx m).symm.trans hkey, (h.denoted? ctx m).symm.trans hs⟩
  refs hr := by
    rcases h'.refs hr with hr | hr
    · rcases h.refs hr with hr | ⟨ha, hclass⟩
      · exact .inl hr
      · exact .inr ⟨ha, h'.isClass? hclass⟩
    · exact .inr hr

/-- A step that only adds to the object space, and gives contexts no new signatures. -/
lemma of_books (hsound : b'.Sound) (hselectors : b.space.selectors.Extends b'.space.selectors)
    (hdistinct : b.space.selectors.Distinct → b'.space.selectors.Distinct)
    (hbare : b'.space.classes.bare = b.space.classes.bare)
    (hrecalls : ∀ {c sel}, b.space.classes.Recalls c sel → b'.space.classes.Recalls c sel)
    (hread : ∀ a count bytes, b.space.memory.read? a count = some bytes →
      b'.space.memory.read? a count = some bytes)
    (hraised : b'.space.raised = b.space.raised) (hhosted : b'.hosted = b.hosted)
    (hnames : b'.names = b.names) (hcore : b'.core? = b.core?) (hframes : b'.frames? = b.frames?)
    (hrefs : ∀ {ctx a r}, b'.current? ctx a = some r →
      b.current? ctx a = some r ∨ r.address = a ∧ b.space.isClass? a = some r.isClass) :
    b.Steady b' where
  sound := hsound
  selectors := hselectors
  distinct := hdistinct
  bare := hbare
  recalls := hrecalls
  isa := ObjectSpace.isa?_mono hbare hread
  readable h := by
    obtain ⟨bytes, hbytes⟩ := Option.isSome_iff_exists.mp h
    rw [ObjectSpace.read?_mono hbare hread hbytes]
    rfl
  raised := hraised
  hosted h := by rwa [hhosted]
  names := hnames
  core := congrFun hcore
  kept hs := by rwa [Act.frames_contextAt, hframes, ← Act.frames_contextAt]
  fresh hnone hsome := by
    rw [Act.frames_contextAt, hframes, ← Act.frames_contextAt] at hsome
    cases hnone.symm.trans hsome
  refs hr := (hrefs hr).imp id (And.imp id (ObjectSpace.isClass?_mono hbare hread))

/-- A step that changes what contexts keep for later, but neither signatures nor references. -/
lemma of_contexts {contexts : Array Context} (hsound : ({ b with contexts } : Bridge).Sound)
    (hcore : ({ b with contexts } : Bridge).core? = b.core?)
    (hframes : ({ b with contexts } : Bridge).frames? = b.frames?)
    (htracked : ∀ ctx, (({ b with contexts } : Bridge).contextAt ctx).tracked =
      (b.contextAt ctx).tracked) : b.Steady { b with contexts } :=
  of_books hsound (.refl _) id rfl id (fun _ _ _ => id) rfl rfl rfl hcore hframes fun hr => by
    rw [current?, htracked] at hr
    exact .inl hr

/-- A step that adds to the object space, but leaves the classes and the references alone. -/
lemma of_space {space : ObjectSpace} (hsound : ({ b with space } : Bridge).Sound)
    (hselectors : b.space.selectors.Extends space.selectors)
    (hdistinct : b.space.selectors.Distinct → space.selectors.Distinct)
    (hbare : space.classes.bare = b.space.classes.bare)
    (hrecalls : ∀ {c sel}, b.space.classes.Recalls c sel → space.classes.Recalls c sel)
    (hread : ∀ a count bytes, b.space.memory.read? a count = some bytes →
      space.memory.read? a count = some bytes)
    (hraised : space.raised = b.space.raised)
    (hassociations : space.associations = b.space.associations) : b.Steady { b with space } :=
  of_books hsound hselectors hdistinct hbare hrecalls hread hraised rfl rfl rfl rfl fun hr => by
    rw [current?, hassociations] at hr
    exact .inl hr

/-- A new reference for an object that has no good one. -/
lemma of_newRef (hb : b.Sound) {a : Address} {isClass : Bool}
    (hnone : EStateM.run (Act.cached? ctx a) b = .ok none b)
    (hclass : b.space.isClass? a = some isClass) :
    b.Steady ((Act.newRef ctx a isClass).after b) := by
  refine of_books ((Upkeep.refer ctx a isClass hnone).sound hb) (.refl _) id rfl id
    (fun _ _ _ => id) rfl rfl rfl (core?_modify (by exact fun _ => rfl) _ ctx)
    (frames?_modify (by exact fun _ => rfl) _ ctx) fun hr => (Act.current?_after_newRef hr).imp id ?_
  rintro ⟨rfl, ha, hflag⟩
  exact ⟨ha, hflag ▸ hclass⟩

end Steady

/-! ## Tacit steps -/

/-- **Tacit**: the step is steady in a sound state, and writes nothing to the trace. -/
def Tacit (b b' : Bridge) : Prop := b.Sound → b.Steady b' ∧ b'.trace = b.trace

/-- Tacit steps one after another. -/
lemma Tacit.of_run (h : Relation.ReflTransGen Tacit b b') (hb : b.Sound) :
    b.Steady b' ∧ b'.trace = b.trace := by
  induction h with
  | refl => exact ⟨.refl hb, rfl⟩
  | tail _ hstep ih =>
    obtain ⟨hsteady, htrace⟩ := hstep ih.1.sound
    exact ⟨ih.1.trans hsteady, htrace.trans ih.2⟩

lemma Tacit.lend (loans : Loans) : b.Tacit { b with loans } := fun hb =>
  ⟨{ Steady.refl hb with sound := hb.grow (.refl _) fun _ => rfl }, rfl⟩

instance : Referring Tacit where
  intern name hb := ⟨.of_space ((Upkeep.intern name).sound hb) (.intern _ name) (·.intern name)
    rfl id (fun _ _ _ => id) rfl rfl, rfl⟩
  remember {b _} ctx name sel hname hsel hroom _ h hb := h ▸
    ⟨.of_contexts ((Upkeep.remember ctx hname hsel hroom).sound hb)
      (core?_modify (by exact fun _ => rfl) _ ctx) (frames?_modify (by exact fun _ => rfl) _ ctx)
      fun i => b.view_contextAt_modify Context.tracked (by exact fun _ => rfl) ctx i, rfl⟩
  store h hb := ⟨.of_space ((Upkeep.store h).sound hb) (.refl _) id rfl id
    (fun _ _ _ => hb.memory.read?_of_allocate h) rfl rfl, rfl⟩
  refer ctx a isClass hnone hclass hb := ⟨.of_newRef hb hnone hclass, rfl⟩
  cache c sel hb := ⟨.of_space ((Upkeep.cache c sel).sound hb) (.refl _) id
    (ClassTable.bare_lookup _ c sel) (fun h => h.lookup c sel) (fun _ _ _ => id) rfl rfl, rfl⟩
  retain {b} ctx blocks hb := ⟨.of_contexts ((Upkeep.retain ctx blocks).sound hb)
    (core?_modify (by exact fun _ => rfl) _ ctx) (frames?_modify (by exact fun _ => rfl) _ ctx)
    fun i => b.view_contextAt_modify Context.tracked (by exact fun _ => rfl) ctx i, rfl⟩

end Bridge

/-! ## What actions do in steady states -/

namespace Act

variable {α β : Type} {b b' : Bridge} {ctx : ContextId} {x : Act α}

/-- **Does**: in every steady later state the action ends well, leaves the state steady, and what it
writes to the trace, the latest first, and what it answers are as they should be. -/
def Does (x : Act α) (b : Bridge) (Q : List Value → α → Prop) : Prop :=
  ∀ b', b.Steady b' → ∃ a b'' w, EStateM.run x b' = .ok a b'' ∧ b'.Steady b'' ∧
    b''.trace = w ++ b'.trace ∧ Q w a

/-- **Gives**: the action does nothing but answer as it should. -/
def Gives (x : Act α) (b : Bridge) (Q : α → Prop) : Prop := Does x b fun w a => w = [] ∧ Q a

namespace Does

variable {P Q : List Value → α → Prop}

lemma mono (h : Does x b P) (hPQ : ∀ w a, P w a → Q w a) : Does x b Q := by
  intro b' hb'
  obtain ⟨a, b'', w, hrun, hsteady, htrace, hP⟩ := h b' hb'
  exact ⟨a, b'', w, hrun, hsteady, htrace, hPQ w a hP⟩

/-- What an action does it does in later states as well. -/
lemma later (h : Does x b Q) (hb' : b.Steady b') : Does x b' Q := fun b'' hb'' => h b'' (hb'.trans hb'')

/-- **A sequence** writes what its parts write, one after the other. -/
lemma bind {f : α → Act β} {R : List Value → β → Prop} (hx : Does x b P)
    (hf : ∀ w a, P w a → Does (f a) b fun w' c => R (w' ++ w) c) : Does (x >>= f) b R := by
  intro b' hb'
  obtain ⟨a, b₁, w, hrun, hb₁, htrace, hP⟩ := hx b' hb'
  obtain ⟨c, b₂, w', hrun', hb₂, htrace', hR⟩ := hf w a hP b₁ (hb'.trans hb₁)
  refine ⟨c, b₂, w' ++ w, ?_, hb₁.trans hb₂, ?_, hR⟩
  · rw [run_bind_ok hrun, hrun']
  · rw [htrace', htrace, List.append_assoc]

/-- Two actions that run alike in steady states do the same. -/
lemma congr {y : Act α} (h : Does x b Q)
    (hrun : ∀ b', b.Steady b' → EStateM.run y b' = EStateM.run x b') : Does y b Q := by
  intro b' hb'
  rw [hrun b' hb']
  exact h b' hb'

end Does

lemma does_log (v : Value) : Does (log v) b fun w _ => w = [v] := by
  intro b' hb'
  refine ⟨(), { b' with trace := v :: b'.trace }, [v], rfl, ?_, rfl, rfl⟩
  exact { Bridge.Steady.refl hb'.sound with sound := hb'.sound.grow (.refl _) fun _ => rfl }

namespace Gives

variable {P Q : α → Prop}

lemma mono (h : Gives x b P) (hPQ : ∀ a, P a → Q a) : Gives x b Q :=
  Does.mono h fun _ a ha => ⟨ha.1, hPQ a ha.2⟩

/-- A part that only gives something adds nothing to what the whole sequence does. -/
lemma bind_does {f : α → Act β} {R : List Value → β → Prop} (hx : Gives x b P)
    (hf : ∀ a, P a → Does (f a) b R) : Does (x >>= f) b R := by
  refine Does.bind hx fun w a ⟨hw, ha⟩ => (hf a ha).mono fun w' c hR => ?_
  rwa [hw, List.append_nil]

lemma bind {f : α → Act β} {R : β → Prop} (hx : Gives x b P) (hf : ∀ a, P a → Gives (f a) b R) :
    Gives (x >>= f) b R := bind_does hx hf

/-- An action of tacit steps gives what it answers. -/
lemma of_moves (hmoves : ∀ b', Moves Bridge.Tacit x b')
    (hrun : ∀ b', b.Steady b' → ∃ a b'', EStateM.run x b' = .ok a b'' ∧ Q a) : Gives x b Q := by
  intro b' hb'
  obtain ⟨a, b'', hok, ha⟩ := hrun b' hb'
  obtain ⟨hsteady, htrace⟩ := Bridge.Tacit.of_run ((hmoves b').of_ok hok) hb'.sound
  exact ⟨a, b'', [], hok, hsteady, htrace, rfl, ha⟩

end Gives

lemma gives_pure (a : α) : Gives (pure a) b (· = a) :=
  .of_moves (fun _ => moves_pure a) fun b' _ => ⟨a, b', rfl, rfl⟩

/-! ## Signatures -/

/-- **Familiar**: the type string of the method denotes the signature, with the layouts that the context
knows already. -/
def Familiar (ctx : ContextId) (m : MethodRef) (s : Signature) (b : Bridge) : Prop :=
  ∃ b₁, EStateM.run (methodTypes ctx m) b = .ok s b₁ ∧
    (b₁.contextAt ctx).translator = (b.contextAt ctx).translator

/-- Reading a type string again lends buffers, and changes nothing else. -/
lemma gives_methodTypes {m : MethodRef} {s : Signature} (h : Familiar ctx m s b) :
    Gives (methodTypes ctx m) b (· = s) := by
  obtain ⟨b₁, hrun, htranslator⟩ := h
  obtain ⟨ret, c₁, hret, hrun⟩ := run_bind_eq_ok.mp hrun
  cases ret with
  | none =>
    obtain ⟨key, c₂, -, hrun⟩ := run_bind_eq_ok.mp hrun
    cases hrun
  | some ret =>
    obtain ⟨args, c₂, hargs, hs⟩ := run_bind_eq_ok.mp hrun
    let bare (b : Bridge) : ClassTable := b.space.classes.bare
    have hborrow (b : Bridge) : b.Tacit { b with loans := b.loans.borrow } := Bridge.Tacit.lend _
    intro b' hb'
    have halike : Alike bare (returnType m) := alike_returnType (fun _ _ h => h) (fun _ _ => rfl) m
    have halike' : Alike bare (argumentTypes m) :=
      alike_argumentTypes (fun _ _ h => h) (fun _ _ => rfl) m
    obtain ⟨d₁, hret', hbare₁⟩ := halike.exists_run hb'.bare.symm hret
    obtain ⟨d₂, hargs', -⟩ := halike'.exists_run hbare₁ hargs
    have hmoves : Relation.ReflTransGen Bridge.Tacit b' d₂ :=
      ((moves_returnType hborrow m).of_ok hret').trans ((moves_argumentTypes hborrow m).of_ok hargs')
    obtain ⟨hsteady, htrace⟩ := Bridge.Tacit.of_run hmoves hb'.sound
    refine ⟨s, d₂, [], ?_, hsteady, htrace, rfl, rfl⟩
    have hknown : (d₂.contextAt ctx).translator = (b₁.contextAt ctx).translator := by
      rw [htranslator]
      exact (congrArg Context.translator ((hb'.trans hsteady).contextAt_core ctx) :)
    unfold methodTypes methodSignature
    rw [run_bind_ok hret', run_bind_ok hargs']
    exact run_withStructs_again hs hknown

/-- A kept signature is used. -/
lemma run_frame_of_kept {key : String} {build : Act Signature} {s : Signature}
    (h : (b.contextAt ctx).frames.lookup key = some s) :
    EStateM.run (frame ctx key build) b = .ok s b := by
  unfold frame
  rw [run_bind_ok (run_context ctx), h]
  rfl

/-- What is kept after a signature was kept under a key. -/
lemma lookup_keepFrame (b : Bridge) (ctx : ContextId) (key : String) (s : Signature) (i : ContextId)
    (key' : String) : (({ b with contexts := b.contexts.modify ctx fun c =>
      { c with frames := (key, s) :: c.frames } } : Bridge).contextAt i).frames.lookup key' =
        if i = ctx ∧ ctx < b.contexts.size ∧ key' = key then some s
        else (b.contextAt i).frames.lookup key' := by
  rcases eq_or_ne ctx i with rfl | hi
  · rcases Nat.lt_or_ge ctx b.contexts.size with hctx | hctx
    · rw [Bridge.contextAt_modify_self hctx, List.lookup_cons]
      by_cases hkey : key' = key
      · simp [hkey, hctx]
      · rw [if_neg fun h => hkey h.2.2, beq_false_of_ne hkey]
    · -- a context that was never opened keeps nothing
      rw [if_neg fun h => absurd h.2.1 (Nat.not_lt.mpr hctx), Bridge.contextAt, Bridge.contextAt,
        Array.getElem?_eq_none hctx,
        Array.getElem?_eq_none (Nat.le_trans (Nat.le_of_eq Array.size_modify) hctx)]
  · rw [Bridge.contextAt_modify_of_ne hi, if_neg fun h => hi h.1.symm]

/-- Keeping a signature of a method under its key, where none is kept, is steady. -/
lemma steady_keepFrame (hb : b.Sound) {m : MethodRef} {key : String} {s : Signature}
    (hnone : (b.contextAt ctx).frames.lookup key = none) (hkey : frameKey? ctx m b = some key)
    (hs : denoted? ctx m b = some s) :
    b.Steady { b with contexts := b.contexts.modify ctx fun c =>
      { c with frames := (key, s) :: c.frames } } where
  sound := (Upkeep.keepFrame ctx key s).sound hb
  selectors := .refl _
  distinct := id
  bare := rfl
  recalls := id
  isa := id
  readable := id
  raised := rfl
  hosted := id
  names := rfl
  core := congrFun (Bridge.core?_modify (by exact fun _ => rfl) _ ctx)
  kept h := by
    rw [lookup_keepFrame, if_neg, h]
    rintro ⟨rfl, -, rfl⟩
    cases hnone.symm.trans h
  fresh hnone' h := by
    rw [lookup_keepFrame] at h
    split at h
    · next hnew =>
      obtain ⟨rfl, -, rfl⟩ := hnew
      cases h
      exact ⟨m, hkey, hs⟩
    · cases hnone'.symm.trans h
  refs h := by
    rw [Bridge.current?, b.view_contextAt_modify Context.tracked (by exact fun _ => rfl)] at h
    exact .inl h

/-- Building the signature of a method under its key, where what is kept under the key is right. -/
lemma gives_frame {m : MethodRef} {key : String} {s : Signature} {build : Act Signature}
    (hbuild : Gives build b (· = s)) (hframes : ∀ b', (build.after b').frames? = b'.frames?)
    (hkey : frameKey? ctx m b = some key) (hs : denoted? ctx m b = some s)
    (hkept : ∀ s', (b.contextAt ctx).frames.lookup key = some s' → s' = s)
    (hsame : ∀ m' s', frameKey? ctx m' b = some key → denoted? ctx m' b = some s' → s' = s) :
    Gives (frame ctx key build) b (· = s) := by
  intro b' hb'
  cases hlookup : (b'.contextAt ctx).frames.lookup key with
  | some s' =>
    obtain rfl : s' = s := by
      cases hold : (b.contextAt ctx).frames.lookup key with
      | some s'' =>
        cases hlookup.symm.trans (hb'.kept hold)
        exact hkept _ hold
      | none =>
        obtain ⟨m', hkey', hs'⟩ := hb'.fresh hold hlookup
        exact hsame m' _ hkey' hs'
    exact ⟨s', b', [], run_frame_of_kept hlookup, .refl hb'.sound, rfl, rfl, rfl⟩
  | none =>
    obtain ⟨s', b₁, w, hrun, hb₁, htrace, rfl, rfl⟩ := hbuild b' hb'
    have hnone : (b₁.contextAt ctx).frames.lookup key = none := by
      rw [frames_contextAt, ← after_of_ok hrun, hframes, ← frames_contextAt, hlookup]
    have hlater := hb'.trans hb₁
    have hkeep := steady_keepFrame hb₁.sound hnone ((hlater.frameKey? ctx m).trans hkey)
      ((hlater.denoted? ctx m).trans hs)
    refine ⟨s', _, [], ?_, hb₁.trans hkeep, htrace, rfl, rfl⟩
    unfold frame
    rw [run_bind_ok (run_context ctx), hlookup]
    change EStateM.run (build >>= _) b' = _
    rw [run_bind_ok hrun]
    rfl

/-- **The signature of a method** is settled without disturbing anything: where the context knows the
layouts that the type string refers to, what it keeps for the method is right, and methods with the same
key have the same signature. -/
lemma gives_methodFrame {m : MethodRef} {key : String} {s : Signature} (h : Familiar ctx m s b)
    (hkey : frameKey? ctx m b = some key)
    (hkept : ∀ s', (b.contextAt ctx).frames.lookup key = some s' → s' = s)
    (hsame : ∀ m' s', frameKey? ctx m' b = some key → denoted? ctx m' b = some s' → s' = s) :
    Gives (methodFrame ctx m) b (· = s) := by
  have hs : denoted? ctx m b = some s := by
    obtain ⟨b₁, hrun, -⟩ := h
    exact denotes_iff.mp ⟨b₁, hrun⟩
  have htypes : Gives (typeString ctx m) b fun t => t =
      if (b.contextAt ctx).capabilities.typed then (b.space.classes.method? m).map Method.types
        else none := by
    refine .of_moves (fun b' => moves_typeString ctx m) fun b' hb' => ⟨_, b', run_typeString m, ?_⟩
    rw [hb'.capabilities, hb'.method?]
  unfold methodFrame
  refine htypes.bind fun t ht => ?_
  rw [frameKey?, ← ht] at hkey
  cases t with
  | some types =>
    cases hkey
    refine gives_frame (m := m) (gives_methodTypes h)
      (fun b' => frames?_eq_of_learning (learning_methodTypes ctx m)) ?_ hs hkept hsame
    rw [frameKey?, ← ht]
    rfl
  | none =>
    rw [hs] at hkey
    cases hkey
    refine (gives_methodTypes h).bind fun s' hs' => ?_
    subst hs'
    refine gives_frame (m := m) (gives_pure s') (fun _ => rfl) ?_ hs hkept hsame
    rw [frameKey?, ← ht, hs]
    rfl

/-! ## Methods of one type string -/

/-- The tokens of a method depend on its type string alone. -/
lemma run_typeTokens_congr {m m' : MethodRef}
    (h : (b.space.classes.method? m).map Method.types =
      (b.space.classes.method? m').map Method.types) :
    EStateM.run (typeTokens m) b = EStateM.run (typeTokens m') b := by
  have hrun (m : MethodRef) : EStateM.run (methodOf m) b = .ok (b.space.classes.method? m) b := rfl
  unfold typeTokens
  rw [run_bind_ok (hrun m), run_bind_ok (hrun m'), h]

/-- Lists of actions that run alike run alike. -/
lemma run_mapM_congr {γ : Type} {f g : γ → Act α} {P : Bridge → Prop}
    (hrun : ∀ c b, P b → EStateM.run (f c) b = EStateM.run (g c) b)
    (hP : ∀ c b, P b → P ((g c).after b)) (cs : List γ) (hb : P b) :
    EStateM.run (cs.mapM f) b = EStateM.run (cs.mapM g) b := by
  induction cs generalizing b with
  | nil => rfl
  | cons c cs ih =>
    rw [List.mapM_cons, List.mapM_cons]
    refine run_bind_alike (hrun c b hb) fun a b₁ hc => run_bind_alike (ih ?_) fun _ _ _ => rfl
    exact after_of_ok hc ▸ hP c b hb

/-- **Methods of one type string** denote the same signature. -/
lemma denoted?_congr {m m' : MethodRef}
    (h : (b.space.classes.method? m).map Method.types =
      (b.space.classes.method? m').map Method.types) (ctx : ContextId) :
    denoted? ctx m b = denoted? ctx m' b := by
  -- the classes are the same all the time, so that the same tokens are read again and again
  let P (c : Bridge) : Prop := c.space.classes = b.space.classes
  have hP {γ : Type} {x : Act γ} {c : Bridge}
      (hx : Moves (fun b c => c.space.classes = b.space.classes) x c) (hc : P c) : P (x.after c) :=
    (hx.keeps (·.space.classes) fun _ _ hstep => hstep).trans hc
  have htokens {c : Bridge} (hc : P c) :
      EStateM.run (typeTokens m) c = EStateM.run (typeTokens m') c :=
    run_typeTokens_congr (by rw [hc, h])
  have harg (index : Nat) (c : Bridge) (hc : P c) :
      EStateM.run (argumentType m index) c = EStateM.run (argumentType m' index) c := by
    unfold argumentType
    split
    · exact run_bind_congr (htokens hc) _
    · rfl
  have hargs {c : Bridge} (hc : P c) :
      EStateM.run (argumentTypes m) c = EStateM.run (argumentTypes m') c := by
    refine run_bind_alike (run_bind_congr (htokens hc) _) fun n c₁ hcount => ?_
    have hc₁ : P c₁ := by
      rw [← after_of_ok hcount]
      exact hP ((moves_typeTokens m').bind fun _ _ _ => moves_pure _) hc
    exact run_bind_congr (run_mapM_congr harg
      (fun index c hc => hP (moves_argumentType (by exact fun _ => rfl) m' index) hc) _ hc₁) _
  have hrun : EStateM.run (methodTypes ctx m) b = EStateM.run (methodTypes ctx m') b := by
    refine run_bind_alike (run_bind_congr (htokens rfl) _) fun ret b₁ hret => ?_
    have hb₁ : P b₁ := after_of_ok hret ▸ hP (moves_returnType (by exact fun _ => rfl) m') rfl
    cases ret with
    | some ret => exact run_bind_congr (hargs hb₁) _
    | none =>
      refine run_bind_congr ?_ _
      rw [run_typeString, run_typeString, hb₁, h]
  rw [denoted?, denoted?, hrun]

/-- In a context that can read type strings, the signature of a method is settled without disturbing
anything where the context knows the layouts and what it keeps under the type string is right. -/
lemma gives_methodFrame_of_typed {m : MethodRef} {method : Method} {s : Signature}
    (h : Familiar ctx m s b) (htyped : (b.contextAt ctx).capabilities.typed = true)
    (hm : b.space.classes.method? m = some method)
    (hkept : ∀ s', (b.contextAt ctx).frames.lookup method.types = some s' → s' = s) :
    Gives (methodFrame ctx m) b (· = s) := by
  have hkey (m' : MethodRef) : frameKey? ctx m' b =
      ((b.space.classes.method? m').map Method.types).or
        ((denoted? ctx m' b).map Signature.encoding) := by rw [frameKey?, if_pos htyped]
  have hown : frameKey? ctx m b = some method.types := by
    rw [hkey, hm]
    rfl
  refine gives_methodFrame h hown hkept fun m' s' hkey' hs' => ?_
  obtain ⟨b₁, hrun, -⟩ := h
  have hs : denoted? ctx m b = some s := denotes_iff.mp ⟨b₁, hrun⟩
  have htypes : (b.space.classes.method? m').map Method.types =
      (b.space.classes.method? m).map Method.types := by
    rw [hkey] at hkey'
    cases hm' : b.space.classes.method? m' with
    | some method' =>
      rw [hm'] at hkey'
      rw [hm]
      exact hkey'
    | none =>
      rw [denoted?_eq_none hm'] at hs'
      cases hs'
  rw [denoted?_congr htypes, hs] at hs'
  exact (Option.some.inj hs').symm

end Act

end MessageBridge
