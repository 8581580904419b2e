import MessageBridge.Proofs.Bridge.Introspection
import MessageBridge.Proofs.Bridge.Steadiness
import MessageBridge.Proofs.Bridge.Transparency

/-!
# Sending messages in steady states

A message without arguments that ends in a host body does what the body does, and nothing else that a
later message would notice. Each part of sending it, from the selector of its name to the end of the
call, is steady where classes are in order and the receiver is there. So is the whole message, if the
body is, and messages can be sent by bodies that were called by messages, as often as one likes.

## Main definitions

* `Bridge.TakenAs` — references to an object say rightly whether it is a class.
* `Bridge.Orderly` — the classes are in order, and so are the references to them.
* `Bridge.Receives` — an object is there to receive messages, with its class.
* `Hosted.reply` — what a caller is answered by a body without arguments.
* `Act.Serves` — a host body without arguments is the code of a method.

## Main results

* `Act.gives_target_direct`, `Act.gives_target_above` — where messages start.
* `Act.gives_findCode_direct`, `Act.gives_findCode_above` — the code that is found.
* `Act.does_dispatch` — a message does what the body that it ends in does.
-/

namespace MessageBridge

/-! ## Objects and classes in order -/

namespace Bridge

variable {b b' : Bridge} {a : Address} {c d : ClassId} {r : ObjectRef} {isClass : Bool}

/-- **Taken as**: the object is there, and every good reference to it says whether it is a class. -/
structure TakenAs (b : Bridge) (a : Address) (isClass : Bool) : Prop where
  address : a ≠ 0
  flag : b.space.isClass? a = some isClass
  refs : ∀ ctx r, b.current? ctx a = some r → r.address = a ∧ r.isClass = isClass

lemma TakenAs.later (h : b.TakenAs a isClass) (hb' : b.Steady b') : b'.TakenAs a isClass where
  address := h.address
  flag := hb'.isClass? h.flag
  refs ctx r hr := by
    rcases hb'.refs hr with hr | ⟨ha, hclass⟩
    · exact h.refs ctx r hr
    · exact ⟨ha, Option.some.inj (hclass.symm.trans (hb'.isClass? h.flag))⟩

/-- It is enough to look at the references that contexts track. -/
lemma TakenAs.of_tracked (ha : a ≠ 0) (hflag : b.space.isClass? a = some isClass)
    (htracked : ∀ ctx < b.contexts.size, ∀ e ∈ (b.contextAt ctx).tracked, e.1 = a →
      e.2.address = a ∧ e.2.isClass = isClass) : b.TakenAs a isClass where
  address := ha
  flag := hflag
  refs ctx r hr := by
    obtain ⟨hctx, hmem⟩ := mem_tracked_of_current? hr
    exact htracked ctx hctx (a, r) hmem rfl

/-- **Orderly**: the state is sound, names of selectors are distinct, the classes in memory are those of
a closed table, and references to classes are for classes. -/
structure Orderly (b : Bridge) : Prop where
  sound : b.Sound
  distinct : b.space.selectors.Distinct
  room : b.HasRoom
  closed : b.space.classes.Closed
  classes : ∀ c, b.space.classes.Has c → b.TakenAs c.address true

/-- An intact state is orderly, if names are distinct. -/
lemma Intact.orderly (h : b.Intact) (hb : b.Named) : b.Orderly where
  sound := hb.sound
  distinct := hb.distinct
  room := h.room
  closed := h.closed
  classes c hc := by
    obtain ⟨hisa, hmeta⟩ := h.closed.isa c hc
    refine ⟨h.room.address_ne_zero hc, ?_, fun ctx r hr => ?_⟩
    · rw [ObjectSpace.isClass?, ObjectSpace.isa?_address h.room.limit hc hisa, Option.map_some, hmeta]
    · obtain ⟨d, hd, heq, hfor⟩ := h.refs ctx _ r (h.room.address_lt_start hc) hr
      rwa [ClassTable.address_inj h.room.limit hc hd heq]

lemma Steady.records_size (h : b.Steady b') :
    b'.space.classes.records.size = b.space.classes.records.size := by
  simpa [ClassTable.bare] using congrArg (·.records.size) h.bare

lemma Steady.has_iff (h : b.Steady b') : b'.space.classes.Has c ↔ b.space.classes.Has c := by
  rw [ClassTable.Has, ClassTable.Has, h.records_size]

lemma Steady.isMeta (h : b.Steady b') (c : ClassId) :
    (b'.space.classes.get c).isMeta = (b.space.classes.get c).isMeta :=
  (congrArg ClassRecord.isMeta (h.get_bare c) :)

lemma Orderly.later (h : b.Orderly) (hb' : b.Steady b') : b'.Orderly where
  sound := hb'.sound
  distinct := hb'.distinct h.distinct
  room := by
    rw [HasRoom, ClassTable.stop, hb'.records_size]
    exact h.room
  closed := by
    refine ⟨fun c hc => ?_, fun c p hc hp => ?_⟩
    · change b'.space.classes.Has (b'.space.classes.metaclass c) ∧
        (b'.space.classes.get (b'.space.classes.metaclass c)).isMeta = true
      rw [hb'.metaclass, hb'.has_iff, hb'.isMeta]
      exact h.closed.isa c (hb'.has_iff.mp hc)
    · rw [hb'.superclass?] at hp
      exact hb'.has_iff.mpr (h.closed.superclass c p (hb'.has_iff.mp hc) hp)
  classes c hc := (h.classes c (hb'.has_iff.mp hc)).later hb'

/-- **Receives**: the object is there and has the class, and references to it say rightly whether it is
a class. -/
structure Receives (b : Bridge) (r : ObjectRef) (d : ClassId) : Prop extends b.Live r where
  class_eq : b.space.isa? r.address = some d
  taken : b.TakenAs r.address r.isClass

lemma Receives.later (h : b.Receives r d) (hb' : b.Steady b') : b'.Receives r d where
  address := h.address
  isa := by
    rw [hb'.isa h.class_eq]
    rfl
  isClass hclass := by
    obtain ⟨c, hc, ha⟩ := h.isClass hclass
    exact ⟨c, hb'.has_iff.mpr hc, ha⟩
  class_eq := hb'.isa h.class_eq
  taken := h.taken.later hb'

/-- Another reference to the same object receives the same. -/
lemma Receives.of_address (h : b.Receives r d) {r' : ObjectRef} (ha : r'.address = r.address)
    (hclass : r'.isClass = r.isClass) : b.Receives r' d where
  address := ha ▸ h.address
  isa := ha ▸ h.isa
  isClass := by
    rw [hclass, ha]
    exact h.isClass
  class_eq := ha ▸ h.class_eq
  taken := by
    rw [ha, hclass]
    exact h.taken

/-- Quiet lasts in steady states. -/
lemma Quiet.later {ctx : ContextId} (h : b.Quiet ctx) (hb' : b.Steady b') : b'.Quiet ctx := by
  refine ⟨(hb'.pending ctx).trans h.pending, fun hcap => hb'.raised.trans ?_⟩
  rw [hb'.capabilities] at hcap
  exact h.raised hcap

end Bridge

/-! ## The parts of sending -/

namespace Act

variable {α : Type} {b b' : Bridge} {ctx : ContextId} {re : Reentry} {name : String} {sel : Selector}
  {r c : ObjectRef} {d k origin start : ClassId} {imp : Implementation} {Q : List Value → Value → Prop}

lemma gives_readSpace {g : ObjectSpace → Option α} {a : α}
    (h : ∀ b', b.Steady b' → g b'.space = some a) : Gives (readSpace g) b (· = a) :=
  .of_moves (fun _ => moves_readSpace g) fun b' hb' =>
    ⟨a, b', run_readSpace_eq_ok.mpr ⟨h b' hb', rfl⟩, rfl⟩

lemma gives_fromSpace {g : ObjectSpace → α} {a : α} (h : ∀ b', b.Steady b' → g b'.space = a) :
    Gives (fromSpace g) b (· = a) :=
  .of_moves (fun _ => moves_fromSpace g) fun b' hb' => ⟨a, b', by rw [run_fromSpace, h b' hb'], rfl⟩

lemma gives_context (ctx : ContextId) :
    Gives (context ctx) b fun c => c.core = (b.contextAt ctx).core :=
  .of_moves (fun _ => moves_context ctx) fun b' hb' =>
    ⟨_, b', run_context ctx, hb'.contextAt_core ctx⟩

/-- **The selector of a known name** is given, whether the context remembers it or not. -/
lemma gives_selector (hb : b.Orderly) (hsel : b.space.selectors.Knows name sel)
    (hname : Text.hasNul name = false) (ctx : ContextId) : Gives (selector ctx name) b (· = sel) := by
  refine .of_moves (fun _ => upkeep_selector ctx name) fun b' hb' => ?_
  have hsel' := hsel.extends hb'.selectors
  have hdistinct := hb'.distinct hb.distinct
  have hunique {sel' : Selector} {t : SelectorTable} (ht : b'.space.selectors.Extends t)
      (hdistinct : t.Distinct) (hmem : sel'.index < t.names.size) (heq : t.name sel' = name) :
      sel' = sel :=
    hdistinct.eq_of_name hmem (hsel'.extends ht).mem (heq.trans (hsel'.extends ht).name.symm)
  unfold selector
  rw [run_bind_ok (run_context ctx)]
  cases hlookup : (b'.contextAt ctx).selectors.lookup name with
  | some sel' =>
    obtain ⟨l₁, l₂, hmem, -⟩ := List.lookup_eq_some_iff.mp hlookup
    have hknows := hb'.sound.selectors ctx (name, sel') (by rw [hmem]; simp)
    exact ⟨sel', b', rfl, hunique (.refl _) hdistinct hknows.mem hknows.name⟩
  | none =>
    have hnew : (b'.space.intern name).1 = sel :=
      hunique (.intern _ name) (hdistinct.intern name) (SelectorTable.index_intern_lt _ name)
        (SelectorTable.name_intern _ name)
    have hcheck : EStateM.run (checkName name) b' = .ok () b' := by
      rw [checkName, hname]
      rfl
    have hintern : EStateM.run (intern name) b' = .ok (b'.space.intern name).1
        { b' with space := (b'.space.intern name).2 } :=
      run_intern_eq_ok.mpr ⟨rfl, rfl, hnew.symm ▸ hsel.room⟩
    simp only
    rw [run_bind_ok hcheck, run_bind_ok hintern]
    exact ⟨_, _, rfl, hnew⟩

/-- **An object that is there** gets a reference that says whether it is a class. -/
lemma gives_wrap {a : Address} {isClass : Bool} (h : b.TakenAs a isClass) (ctx : ContextId) :
    Gives (wrap ctx a) b fun r => ∃ serial, r = some ⟨serial, a, isClass⟩ := by
  refine .of_moves (fun _ => upkeep_wrap ctx a) fun b' hb' => ?_
  have hcached : EStateM.run (cached? ctx a) b' = .ok (b'.current? ctx a) b' := run_cached? ctx a
  have htaken := h.later hb'
  unfold wrap
  rw [if_neg h.address, run_bind_ok hcached]
  cases hcurrent : b'.current? ctx a with
  | some r =>
    obtain ⟨rfl, rfl⟩ := htaken.refs ctx r hcurrent
    exact ⟨some r, b', rfl, r.serial, rfl⟩
  | none =>
    simp only
    rw [run_bind_ok (run_readSpace_eq_ok.mpr ⟨htaken.flag, rfl⟩)]
    exact ⟨_, _, rfl, _, rfl⟩

lemma gives_wrapClassId (hb : b.Orderly) (hk : b.space.classes.Has k) (ctx : ContextId) :
    Gives (wrapClassId ctx k) b fun r => ∃ c : ObjectRef, r = some c ∧ c.IsFor k := by
  refine (gives_wrap (hb.classes k hk) ctx).bind fun r hr => ?_
  obtain ⟨serial, rfl⟩ := hr
  exact (gives_pure _).mono fun _ h => ⟨_, h, rfl, rfl⟩

/-- The class at the address of a class. -/
lemma gives_classOfRef (hb : b.Orderly) (hk : b.space.classes.Has k) (hc : c.address = k.address) :
    Gives (classOfRef c) b (· = k) :=
  gives_readSpace fun b' hb' => by
    rw [hb'.ofAddress?, hc, ClassTable.ofAddress?_address hb.room.limit hk]

/-- **Where a message above a class starts from**: the class, or its metaclass if the receiver is a
class. -/
lemma gives_superOrigin (hb : b.Orderly) (hk : b.space.classes.Has k) (hc : c.address = k.address)
    (ctx : ContextId) (r : ObjectRef) : Gives (superOrigin ctx r c) b
      (· = some (if r.isClass then b.space.classes.metaclass k else k)) := by
  unfold superOrigin
  split
  · next hclass =>
    obtain ⟨hisa, -⟩ := hb.closed.isa k hk
    have hread : Gives (isa c) b (· = b.space.classes.metaclass k) :=
      gives_readSpace fun b' hb' => by
        rw [hc, hb'.isa (ObjectSpace.isa?_address hb.room.limit hk hisa)]
        rfl
    have hclassOf : Gives (classOf ctx c) b fun m =>
        ∃ x : ObjectRef, m = some x ∧ x.IsFor (b.space.classes.metaclass k) := by
      refine hread.bind fun m hm => ?_
      subst hm
      exact gives_wrapClassId hb hisa ctx
    refine hclassOf.bind fun m hm => ?_
    obtain ⟨x, rfl, hx⟩ := hm
    refine (gives_classOfRef hb hisa hx.1).bind fun m hm => ?_
    subst hm
    exact gives_pure _
  · refine (gives_classOfRef hb hk hc).bind fun m hm => ?_
    subst hm
    exact gives_pure _

/-- **A message to an object** starts at the class of the object. -/
lemma gives_target_direct (hb : b.Orderly) (hr : b.Receives r d)
    (hsel : b.space.selectors.Knows name sel) (hname : Text.hasNul name = false) (ctx : ContextId) :
    Gives (target ctx r .direct name) b (· = ⟨r, sel, d, false⟩) := by
  have hclass : Gives (receiverClass r) b (· = d) :=
    .of_moves (fun _ => moves_receiverClass r) fun b' hb' =>
      have hb₁ := hb.later hb'
      have hr₁ := hr.later hb'
      ⟨d, b', run_receiverClass hb₁.room hb₁.closed hr₁.toLive hr₁.class_eq, rfl⟩
  refine (gives_selector hb hsel hname ctx).bind fun s hs => hclass.bind fun m hm => ?_
  subst hs hm
  exact gives_pure _

/-- **A message above a class** starts at its superclass, or at that of its metaclass if the receiver is
a class. -/
lemma gives_target_above (hb : b.Orderly) (hk : b.space.classes.Has k) (hc : c.address = k.address)
    (horigin : (if r.isClass then b.space.classes.metaclass k else k) = origin)
    (hstart : (b.space.classes.get origin).superclass? = some start)
    (hsel : b.space.selectors.Knows name sel) (hname : Text.hasNul name = false) (ctx : ContextId) :
    Gives (target ctx r (.superOf c) name) b (· = ⟨r, sel, start, true⟩) := by
  refine (gives_superOrigin hb hk hc ctx r).bind fun o ho => ?_
  rw [horigin] at ho
  subst ho
  have habove : Gives (fromSpace fun s => (some origin).bind fun c => (s.classes.get c).superclass?) b
      (· = some start) := gives_fromSpace fun b' hb' => (hb'.superclass? origin).trans hstart
  refine (gives_selector hb hsel hname ctx).bind fun s hs => habove.bind fun p hp => ?_
  subst hs hp
  exact gives_pure _

/-- **What a class looks up** is what a walk finds, if it remembers nothing else. -/
lemma gives_lookupImp (hrecalls : b.space.classes.Recalls k sel)
    (hwalk : b.space.classes.walk k sel = some imp) : Gives (lookupImp k sel) b (· = some imp) :=
  .of_moves (fun _ => upkeep_lookupImp k sel) fun b' hb' =>
    ⟨_, _, run_lookupImp k sel, by
      rw [ClassTable.fst_lookup_of_current (hb'.recalls hrecalls), hb'.walk, hwalk]⟩

lemma gives_findCode_direct (hr : b.Receives r d) (hrecalls : b.space.classes.Recalls d sel)
    (hwalk : b.space.classes.walk d sel = some imp)
    (hcap : (b.contextAt ctx).capabilities.lookup = true) (re : Reentry) :
    Gives (findCode re ctx ⟨r, sel, d, false⟩) b (· = some imp) := by
  have hlook : Gives (lookupImplementation re r.address (some sel)) b (· = imp) := by
    unfold lookupImplementation
    simp only [if_neg hr.address]
    refine (gives_readSpace fun b' hb' => hb'.isa hr.class_eq).bind fun m hm => ?_
    subst hm
    refine (gives_lookupImp hrecalls hwalk).bind fun m hm => ?_
    subst hm
    exact gives_pure _
  unfold findCode
  simp only [Bool.false_eq_true, if_false]
  refine (gives_context ctx).bind fun x hx => ?_
  have hxcap : x.capabilities.lookup = true := by
    rw [← hcap]
    exact (congrArg (fun c : Context => c.capabilities.lookup) hx :)
  rw [if_pos hxcap]
  refine hlook.bind fun m hm => ?_
  subst hm
  exact gives_pure _

lemma gives_findCode_above (hne : r.address ≠ 0) (hrecalls : b.space.classes.Recalls start sel)
    (hwalk : b.space.classes.walk start sel = some imp) (re : Reentry) :
    Gives (findCode re ctx ⟨r, sel, start, true⟩) b (· = some imp) := by
  have hlook : Gives (lookupAbove r.address (some start) (some sel)) b (· = imp) := by
    unfold lookupAbove
    simp only [if_neg hne]
    refine (gives_lookupImp hrecalls hwalk).bind fun m hm => ?_
    subst hm
    exact gives_pure _
  unfold findCode
  simp only [if_true]
  refine hlook.bind fun m hm => ?_
  subst hm
  exact gives_pure _

/-- A message is planned once its target, its method, the signature and the code are found. -/
lemma gives_plan {route : Route} {t : Target} {m : MethodRef} {s : Signature}
    (htarget : Gives (target ctx r route name) b (· = t))
    (hmethod : b.space.classes.findMethod? t.start t.sel = some m)
    (hframe : Gives (methodFrame ctx m) b (· = s)) (hdeclared : s.declared = [])
    (hcode : Gives (findCode re ctx t) b (· = some imp)) :
    Gives (plan re ctx (.message route r ⟨name, []⟩)) b
      (· = ⟨s, imp, [t.receiver.address, t.sel.address], []⟩) := by
  have hfound : Gives (fromSpace fun s => s.classes.findMethod? t.start t.sel) b (· = some m) :=
    gives_fromSpace fun b' hb' => (hb'.findMethod? _ _).trans hmethod
  refine htarget.bind fun t' ht => ?_
  subst ht
  refine hfound.bind fun m' hm => ?_
  subst hm
  refine hframe.bind fun s' hs => ?_
  subst hs
  rw [if_neg (by rw [hdeclared]; exact not_not.mpr rfl)]
  refine hcode.bind fun code hcode => ?_
  subst hcode
  exact gives_pure _

end Act

/-! ## Calls that a body answers -/

/-- What a caller in a context is answered by a body that takes no arguments. -/
def Hosted.reply (re : Reentry) (h : Hosted) (ctx : ContextId) (self : ObjectRef) : Act Value := do
  let bytes ← h.answer re self []
  if h.signature.ret.isVoid then return .nil
  else Act.decodeResult ctx h.signature.ret (padBytes bytes h.width)

namespace Act

variable {b b' : Bridge} {ctx : ContextId} {name : String} {sel : Selector} {r : ObjectRef}
  {Q : List Value → Value → Prop} {h : Hosted} {depth i : Nat}

/-- The body is called with a reference for the receiver. -/
lemma run_respond {re : Reentry} {a word : UInt64} {self : ObjectRef}
    (hdeclared : h.signature.declared = [])
    (hwrap : EStateM.run (wrap h.context a) b = .ok (some self) b') :
    EStateM.run (respond re h ([wordBytes a, wordBytes word].map some)) b =
      EStateM.run (h.answer re self []) b' := by
  unfold respond
  simp only [List.map_cons, List.map_nil, List.head?_cons, Option.join_some]
  rw [run_bind_ok (run_require_some _ _), ofWordBytes_wordBytes, run_bind_ok hwrap, hdeclared]
  rfl

/-- **A call** without arguments is what its body replies, if all is quiet when it has. -/
lemma run_carryOut {a word : UInt64} {self : ObjectRef} {v : Value} {b₁ b₂ : Bridge}
    (hhosted : b.hosted[i]? = some h) (hlive : (b.contextAt h.context).live = true)
    (hdeclared : h.signature.declared = [])
    (hwrap : EStateM.run (wrap h.context a) b = .ok (some self) b₁)
    (hreply : EStateM.run (h.reply (.within depth) ctx self) b₁ = .ok v b₂) (hquiet : b₂.Quiet ctx) :
    EStateM.run (carryOut (.within (depth + 1)) ctx ⟨h.signature, .hosted i, [a, word], []⟩) b =
      .ok v b₂ := by
  obtain ⟨bytes, b₃, hanswer, hend⟩ := run_bind_eq_ok.mp hreply
  let p : Plan := ⟨h.signature, .hosted i, [a, word], []⟩
  have hargs : EStateM.run (encodeArguments ctx 0 p.declared) b = .ok ([], []) b := by
    rw [Plan.declared, List.zip_nil_right]
    rfl
  let c : Call := ⟨h.signature, [wordBytes a, wordBytes word]⟩
  have hslots : c.arguments h.signature = [wordBytes a, wordBytes word].map some := if_pos rfl
  have hresult : c.result h.signature.ret (padBytes bytes h.width) =
      some (padBytes bytes h.width) := if_pos rfl
  have horZero : EStateM.run (h.orZero (respond (.within depth) h (c.arguments h.signature))) b =
      .ok bytes b₃ := by
    unfold Hosted.orZero
    rw [run_tryCatch, hslots, run_respond hdeclared hwrap, hanswer]
  have hinvoke : EStateM.run ((Reentry.within (depth + 1)).invoke (.hosted i) c) b =
      .ok (some (padBytes bytes h.width)) b₃ := by
    rw [run_invoke_hosted hhosted, run_runHosted_of_live hlive, run_bind_ok horZero, hresult]
    rfl
  have hretain : EStateM.run (retain ctx []) b₃ = .ok () b₃ := by
    have hself : { b₃ with contexts := b₃.contexts.modify ctx fun c =>
        { c with retained := c.retained ++ [] } } = b₃ :=
      Bridge.modify_eq_self (by rw [List.append_nil])
    exact congrArg (EStateM.Result.ok ()) hself
  have hcall : EStateM.run (callCode (.within (depth + 1)) ctx p.signature p.code p.words p.args) b =
      .ok (some (padBytes bytes h.width)) b₃ := by
    rw [run_callCode hargs]
    change EStateM.run ((Reentry.within (depth + 1)).invoke (.hosted i) c >>= _) b = _
    rw [run_bind_ok hinvoke, run_bind_ok hretain]
    rfl
  -- decoding the result is all that is left, and it disturbs no quiet
  have hquiet' : b₃.Quiet ctx := by
    have hmoves : Moves Upkeep (if h.signature.ret.isVoid then return .nil
        else decodeResult ctx h.signature.ret (padBytes bytes h.width)) b₃ :=
      .ite (fun _ => moves_pure _) fun _ => upkeep_decodeResult ctx _ _
    rw [← hmoves.quiet_iff, after_of_ok hend]
    exact hquiet
  unfold carryOut
  rw [run_bind_ok hcall, run_complete_of_quiet hquiet', ← hend]
  split
  · rfl
  · rfl

/-- **Serves**: the body is the code of the method and takes no arguments, its context is live, and the
caller settles on its signature. -/
structure Serves (h : Hosted) (b : Bridge) (ctx : ContextId) (m : MethodRef) : Prop where
  code : ∃ i : Nat, (b.space.classes.method? m).bind Method.implementation? = some (.hosted i) ∧
    b.hosted[i]? = some h
  frame : Gives (methodFrame ctx m) b (· = h.signature)
  declared : h.signature.declared = []
  live : (b.contextAt h.context).live = true

/-- **A message does what the body does** that it ends in. -/
lemma does_dispatch {route : Route} {t : Target} {m : MethodRef} {isClass : Bool}
    (htarget : Gives (target ctx r route name) b (· = t))
    (hmethod : b.space.classes.findMethod? t.start t.sel = some m) (hserves : Serves h b ctx m)
    (hcode : ∀ imp, (b.space.classes.method? m).bind Method.implementation? = some imp →
      Gives (findCode (.within (depth + 1)) ctx t) b (· = some imp))
    (htaken : b.TakenAs t.receiver.address isClass) (hquiet : b.Quiet ctx)
    (hreply : ∀ serial, Does (h.reply (.within depth) ctx ⟨serial, t.receiver.address, isClass⟩) b Q) :
    Does (dispatch (.within (depth + 1)) ctx (.message route r ⟨name, []⟩)) b Q := by
  obtain ⟨i, himp, hhosted⟩ := hserves.code
  refine (gives_plan htarget hmethod hserves.frame hserves.declared (hcode _ himp)).bind_does
    fun p hp => ?_
  subst hp
  intro b' hb'
  obtain ⟨_, b₁, _, hwrap, hb₁, htrace₁, rfl, serial, rfl⟩ := gives_wrap htaken h.context b' hb'
  obtain ⟨v, b₂, w, hrun, hb₂, htrace₂, hQ⟩ := hreply serial b₁ (hb'.trans hb₁)
  have hsteady := hb₁.trans hb₂
  have hlater := hb'.trans hsteady
  refine ⟨v, b₂, w, ?_, hsteady, ?_, hQ⟩
  · exact run_carryOut (hb'.hosted hhosted) ((hb'.live _).trans hserves.live) hserves.declared hwrap
      hrun (hquiet.later hlater)
  · rw [htrace₂, htrace₁, List.nil_append]

end Act

end MessageBridge
