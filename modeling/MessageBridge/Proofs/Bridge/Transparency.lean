import MessageBridge.Proofs.Bridge.Hosting
import MessageBridge.Proofs.Bridge.Passing
import MessageBridge.Proofs.Bridge.Settling

/-!
# Calls that a host body answers

A message that ends in a host body is one call from one end to the other: the host encodes arguments,
the bridge decodes them for the body, encodes what the body answers and decodes it for the host. When
both ends go by the same signature and the same context, the body is given what the arguments arrive
as, and the host is given what the answer arrives as. A failure that waits when the body has answered,
or a raised exception, takes the place of the answer.

## Main definitions

* `Act.Reaches` — a planned message ends in a host body that goes by the same signature.
* `Hosted.conclude` — what is left of the call once the body has its arguments.
* `Bridge.Quiet` — nothing waits that would take the place of an answer.

## Main results

* `Act.transparent` — calls are transparent.
-/

namespace MessageBridge

/-! ## Planned messages -/

namespace Act

variable {re : Reentry} {ctx : ContextId} {b b' : Bridge}

/-- The receiver of a target is that of the message. -/
lemma receiver_of_target {receiver : ObjectRef} {route : Route} {name : String} {t : Target}
    (h : EStateM.run (target ctx receiver route name) b = .ok t b') : t.receiver = receiver := by
  have habove {b : Bridge} (origin : Option ClassId)
      (h : EStateM.run (targetAbove ctx receiver origin name) b = .ok t b') :
      t.receiver = receiver := by
    obtain ⟨sel, b₁, -, h⟩ := run_bind_eq_ok.mp h
    obtain ⟨start, b₂, -, h⟩ := run_bind_eq_ok.mp h
    split at h
    · cases h
    · cases h
      rfl
  cases route with
  | direct =>
    obtain ⟨sel, b₁, -, h⟩ := run_bind_eq_ok.mp h
    obtain ⟨start, b₂, -, h⟩ := run_bind_eq_ok.mp h
    cases h
    rfl
  | super =>
    obtain ⟨c, b₁, -, h⟩ := run_bind_eq_ok.mp h
    exact habove _ h
  | superOf c =>
    obtain ⟨origin, b₁, -, h⟩ := run_bind_eq_ok.mp h
    exact habove _ h

/-- At the null address there is only the code that answers nothing. -/
lemma nilMethod_of_findCode {t : Target} {code : Implementation} (ht : t.receiver.address = 0)
    (h : EStateM.run (findCode re ctx t) b = .ok (some code) b') : code = .nilMethod := by
  unfold findCode at h
  split at h
  · unfold lookupAbove at h
    simp only [ht, if_true, pure_bind] at h
    cases h
    rfl
  · rw [run_bind_ok (run_context ctx)] at h
    split at h
    · unfold lookupImplementation at h
      simp only [ht, if_true, pure_bind] at h
      cases h
      rfl
    · cases h

/-- **A planned message** passes the receiver and a selector, and then the arguments of the message. -/
lemma plan_message {receiver : ObjectRef} {route : Route} {m : Message} {p : Plan}
    (h : EStateM.run (plan re ctx (.message route receiver m)) b = .ok p b') :
    (∃ sel : Selector, p.words = [receiver.address, sel.address]) ∧ p.args = m.args ∧
      p.signature.declared.length = m.args.length ∧
      (receiver.address = 0 → p.code = .nilMethod) := by
  obtain ⟨t, b₁, ht, h⟩ := run_bind_eq_ok.mp h
  have hreceiver := receiver_of_target ht
  obtain ⟨method, b₂, -, h⟩ := run_bind_eq_ok.mp h
  obtain ⟨s, b₃, -, h⟩ := run_bind_eq_ok.mp h
  split at h
  · cases h
  · next hcount =>
    obtain ⟨code, b₄, hcode, h⟩ := run_bind_eq_ok.mp h
    cases code with
    | none => cases h
    | some code =>
      cases h
      refine ⟨⟨t.sel, by rw [hreceiver]⟩, rfl, not_not.mp hcount, fun hzero => ?_⟩
      exact nilMethod_of_findCode (by rw [hreceiver, hzero]) hcode

/-- **Reaches**: a planned message to the receiver ends in a host body of the same context, which goes
by the same signature. The signature is one of a method with plain types. The addresses that are
passed can be read. -/
structure Reaches (ctx : ContextId) (receiver : ObjectRef) (p : Plan) (h : Hosted) (b : Bridge) :
    Prop where
  code : ∃ i, p.code = .hosted i ∧ b.hosted[i]? = some h
  signature : p.signature = h.signature
  context : h.context = ctx
  opened : ctx < b.contexts.size
  live : (b.contextAt ctx).live = true
  method : h.signature.isMethod = true
  plain : ∀ d ∈ h.signature.declared, d.Plain
  ret : h.signature.ret.isVoid = true ∨ h.signature.ret.Plain
  receiver : b.CanRead ctx (.object none) receiver.address
  args : ∀ arg ∈ p.declared, Readable ctx b arg.1.shape arg.2

end Act

/-! ## After the body has its arguments -/

namespace Hosted

/-- What a host body answers to a receiver and arguments, in bytes. -/
def answer (re : Reentry) (h : Hosted) (receiver : ObjectRef) (args : List Value) :
    Act (List UInt8) := do
  let v ← h.body.eval ⟨re, h.context, receiver, args⟩
  Act.encodeResult h.context h.signature.ret v

/-- The size of the buffer for a result. -/
def width (h : Hosted) : Nat := max h.signature.ret.size wordSize

/-- The bytes of a result, zero if there is none: a failure is kept by the context of the body. -/
def orZero (h : Hosted) (x : Act (List UInt8)) : Act (List UInt8) :=
  let failed (e : Error) : Act (List UInt8) := do
    Act.modifyContext h.context (·.recordFailure e)
    return List.replicate h.width 0
  tryCatch x (fun
    | .error e => failed e
    | .panic text => failed (.callback h.selector text)
    | stop => throw stop)

/-- What is left of a call once the host body has its receiver and its arguments: the body answers, the
blocks of the arguments are kept, and the call is ended. -/
def conclude (inner outer : Reentry) (h : Hosted) (blocks : List Address) (receiver : ObjectRef)
    (args : List Value) : Act Value := do
  let bytes ← h.orZero (h.answer inner receiver args)
  Act.retain h.context blocks
  Act.complete outer h.context h.signature.ret (some (padBytes bytes h.width))

end Hosted

namespace Bridge

/-- **Quiet**: no failure waits in the context, and no exception that the context would take. -/
structure Quiet (b : Bridge) (ctx : ContextId) : Prop where
  pending : b.pending ctx = none
  raised : (b.contextAt ctx).capabilities.exceptions = true → b.space.raised = 0

/-- A change that leaves a context as it is leaves all as it is. -/
lemma modify_eq_self {b : Bridge} {ctx : ContextId} {f : Context → Context}
    (h : f (b.contextAt ctx) = b.contextAt ctx) :
    { b with contexts := b.contexts.modify ctx f } = b := by
  have hcontexts : b.contexts.modify ctx f = b.contexts := by
    refine Array.ext_getElem? fun i => ?_
    rw [Array.getElem?_modify]
    split
    · next hi =>
      subst hi
      rw [contextAt] at h
      cases hc : b.contexts[ctx]? with
      | none => rfl
      | some c =>
        rw [hc] at h
        exact congrArg some h
    · rfl
  rw [hcontexts]

end Bridge

namespace Act

variable {α β : Type} {re : Reentry} {ctx : ContextId} {b b' : Bridge} {x : Act α}

lemma run_orZero_congr {h : Hosted} {x y : Act (List UInt8)}
    (hxy : EStateM.run x b = EStateM.run y b') :
    EStateM.run (h.orZero x) b = EStateM.run (h.orZero y) b' := by
  unfold Hosted.orZero
  rw [run_tryCatch, run_tryCatch, hxy]

/-- A host body of a live context is called, whatever comes of it. -/
lemma run_runHosted_of_live {h : Hosted} {c : Call}
    (hlive : (b.contextAt h.context).live = true) :
    EStateM.run (runHosted re h c) b =
      EStateM.run (h.orZero (respond re h (c.arguments h.signature)) >>= fun bytes =>
        return c.result h.signature.ret (padBytes bytes h.width)) b := by
  unfold runHosted
  rw [run_bind_ok (run_context h.context), hlive]
  rfl

/-- **A call in quiet** ends with its result, and its end leaves all as it is before the result is
decoded. -/
lemma run_complete_of_quiet (hb : b.Quiet ctx) (ret : Descriptor) (bytes : List UInt8) :
    EStateM.run (complete re ctx ret (some bytes)) b =
      if ret.isVoid then .ok .nil b else EStateM.run (decodeResult ctx ret bytes) b := by
  have hpending : EStateM.run (takePendingError ctx) b = .ok none b := by
    have hself : { b with contexts := b.contexts.modify ctx fun c => { c with pendingError := none } } =
        b := Bridge.modify_eq_self <| by
      have hnone : (b.contextAt ctx).pendingError = none := hb.pending
      rw [← hnone]
    unfold takePendingError
    rw [run_bind_ok (run_context ctx), run_bind_ok (run_modifyContext ctx _), hself]
    exact congrArg (EStateM.Result.ok · b) hb.pending
  have hexception : EStateM.run (takeException ctx) b = .ok none b := by
    unfold takeException
    rw [run_bind_ok (run_context ctx)]
    split
    · next hcap =>
      have hraised := hb.raised hcap
      have hself : { b with space := b.space.takeRaised.2 } = b := by
        have hspace : b.space.takeRaised.2 = b.space := by
          unfold ObjectSpace.takeRaised
          rw [← hraised]
        rw [hspace]
      have hnull : b.space.takeRaised.1 = 0 := hraised
      rw [run_bind_ok (run_onSpace _), hself]
      unfold wrap
      rw [if_pos hnull]
      rfl
    · rfl
  unfold complete
  rw [run_bind_ok hpending]
  simp only
  rw [run_bind_ok hexception]
  simp only
  split
  · rfl
  · rfl

/-- An address that stands for no reference is null. -/
lemma eq_zero_of_wrap {a : Address} (h : EStateM.run (wrap ctx a) b = .ok none b') : a = 0 := by
  unfold wrap at h
  split at h
  · assumption
  · obtain ⟨r, b₁, -, h⟩ := run_bind_eq_ok.mp h
    split at h
    · cases h
    · obtain ⟨isClass, b₂, -, h⟩ := run_bind_eq_ok.mp h
      obtain ⟨r, b₃, -, h⟩ := run_bind_eq_ok.mp h
      cases h

/-- **Only a call in quiet** ends with its result. -/
lemma quiet_of_run_complete {ret : Descriptor} {result : Option (List UInt8)} {w : Value}
    (h : EStateM.run (complete re ctx ret result) b = .ok w b') : b.Quiet ctx := by
  obtain ⟨pending, b₁, hpending, h⟩ := run_bind_eq_ok.mp h
  cases hpending
  split at h
  · -- the failure that waits is what the call ends with
    obtain ⟨r, b₂, -, h⟩ := run_bind_eq_ok.mp h
    cases h
  · next hnone =>
    refine ⟨hnone, fun hcap => ?_⟩
    obtain ⟨exception, b₂, hexception, h⟩ := run_bind_eq_ok.mp h
    cases exception with
    | some exception =>
      obtain ⟨name, b₃, -, h⟩ := run_bind_eq_ok.mp h
      obtain ⟨reason, b₄, -, h⟩ := run_bind_eq_ok.mp h
      cases h
    | none =>
      unfold takeException at hexception
      rw [run_bind_ok (run_context ctx), if_pos, run_bind_ok (run_onSpace _)] at hexception
      · exact eq_zero_of_wrap hexception
      · rw [← hcap]
        refine congrArg _ (b.view_contextAt_modify Context.capabilities (fun c => ?_) ctx ctx)
        rfl

/-! ## From one end to the other -/

/-- Record keeping changes nothing about the quiet of a context. -/
lemma Moves.quiet_iff (h : Moves Upkeep x b) : (x.after b).Quiet ctx ↔ b.Quiet ctx := by
  have hpending := h.keeps (·.pending ctx) fun _ _ hstep => hstep.pending_eq ctx
  have hraised := h.keeps (·.space.raised) fun _ _ hstep => hstep.raised_eq
  have hcap := h.toStep.capabilities_eq ctx
  constructor
  · rintro ⟨hnone, hzero⟩
    exact ⟨hpending.symm.trans hnone, fun hex => hraised.symm.trans (hzero (by rwa [hcap]))⟩
  · rintro ⟨hnone, hzero⟩
    exact ⟨hpending.trans hnone, fun hex => hraised.trans (hzero (by rwa [hcap] at hex))⟩

/-- Keeping blocks changes nothing about the quiet of a context. -/
lemma quiet_retain_iff (blocks : List Address) :
    ((retain ctx blocks).after b).Quiet ctx ↔ b.Quiet ctx := (upkeep_retain ctx blocks).quiet_iff

section Message

variable {receiver : ObjectRef} {m : Message} {p : Plan} {h : Hosted}
  {r : List (List UInt8) × List Address} {b₁ b₂ : Bridge}

/-- The arguments that are encoded are the declared ones. -/
lemma declared_eq (hsignature : p.signature = h.signature) (hmethod : h.signature.isMethod = true)
    (hwords : ∃ sel : Selector, p.words = [receiver.address, sel.address])
    (hpargs : p.args = m.args) : p.declared = h.signature.declared.zip m.args := by
  obtain ⟨sel, hwords⟩ := hwords
  rw [Plan.declared, hwords, hsignature, hpargs, Signature.declared, if_pos hmethod]
  rfl

/-- **The host body is called** with what its receiver and its arguments arrive as. -/
lemma exists_run_respond (re : Reentry) (hreaches : Reaches ctx receiver p h b)
    (hwords : ∃ sel : Selector, p.words = [receiver.address, sel.address])
    (hpargs : p.args = m.args) (hcount : h.signature.declared.length = m.args.length)
    (hnull : receiver.address ≠ 0) (hb : b.Sound)
    (hargs : EStateM.run (encodeArguments ctx 0 p.declared) b = .ok r b') :
    ∃ self values b₃,
      EStateM.run (respond re h ((p.words.map wordBytes ++ r.1).map some)) b' =
        EStateM.run (h.answer re self values) b₃ ∧ b'.Keeps b₃ ∧
      Arrives ctx b b₃ (.object none) (.object receiver) (.object self) ∧
      List.Forall₂ (fun arg w => Arrives ctx b b₃ arg.1.shape arg.2 w)
        (h.signature.declared.zip m.args) values := by
  have hdeclared := declared_eq hreaches.signature hreaches.method hwords hpargs
  obtain ⟨sel, hwords⟩ := hwords
  have hb' : b.Keeps b' := keeps_of_encodeArguments hb hargs
  have hopened : ctx < b'.contexts.size := by
    rw [hb'.size]
    exact hreaches.opened
  -- first the receiver, which is decoded like any object
  obtain ⟨self, b₁, hself, hcurrent⟩ := exists_wrap hopened hnull (hreaches.receiver.mono hb')
  have hb₁ : b'.Keeps b₁ := Upkeep.keeps_of_run ((upkeep_wrap ctx _).of_ok hself) hb'.sound
  -- then the arguments
  have hplain : ∀ arg ∈ p.declared, arg.1.Plain := by
    intro arg harg
    rw [hdeclared] at harg
    exact hreaches.plain arg.1 (List.of_mem_zip harg).1
  obtain ⟨values, b₂, hvalues, hb₂, hall⟩ :=
    exists_decodeArguments hplain hreaches.args (.refl hb) hreaches.opened hargs hb₁
  have hmap : p.declared.map Prod.fst = h.signature.declared := by
    rw [hdeclared]
    exact List.map_fst_zip (Nat.le_of_eq hcount)
  rw [hmap] at hvalues
  rw [hdeclared] at hall
  refine ⟨self, values, b₂, ?_, hb₁.trans hb₂, ?_, hall⟩
  · rw [hwords]
    simp only [List.map_cons, List.map_nil, List.cons_append, List.nil_append]
    unfold respond
    simp only [List.head?_cons, Option.join_some]
    rw [run_bind_ok (run_require_some _ _), ofWordBytes_wordBytes, hreaches.context,
      run_bind_ok hself]
    simp only [List.drop_succ_cons, List.drop_zero]
    rw [run_bind_ok hvalues]
    unfold Hosted.answer
    rw [hreaches.context]
  · refine .object rfl rfl hnull (hb₂.refs hcurrent) fun r' hr' => ?_
    have hsame := (hb'.trans hb₁).refs hr'
    rw [hcurrent] at hsame
    exact Option.some.inj hsame

/-- **From the call to the body**: the whole call comes down to what is left of it once the body has its
arguments. -/
lemma exists_run_dispatch {depth : Nat} {route : Route} (hb : b₁.Sound)
    (hplan : EStateM.run (plan (.within (depth + 1)) ctx (.message route receiver m)) b = .ok p b₁)
    (hreaches : Reaches ctx receiver p h b₁)
    (hargs : EStateM.run (encodeArguments ctx 0 p.declared) b₁ = .ok r b₂) :
    ∃ self values b₃,
      EStateM.run (dispatch (.within (depth + 1)) ctx (.message route receiver m)) b =
        EStateM.run (h.conclude (.within depth) (.within (depth + 1)) r.2 self values) b₃ ∧
      b₂.Keeps b₃ ∧ Arrives ctx b₁ b₃ (.object none) (.object receiver) (.object self) ∧
      List.Forall₂ (fun arg w => Arrives ctx b₁ b₃ arg.1.shape arg.2 w)
        (h.signature.declared.zip m.args) values := by
  obtain ⟨hwords, hpargs, hcount, hzero⟩ := plan_message hplan
  obtain ⟨i, hcode, hhosted⟩ := hreaches.code
  rw [hreaches.signature] at hcount
  have hnull : receiver.address ≠ 0 := by
    intro hnull
    rw [hzero hnull] at hcode
    cases hcode
  obtain ⟨self, values, b₃, hrespond, hb₃, hself, hall⟩ := exists_run_respond
    (.within depth) hreaches hwords hpargs hcount hnull hb hargs
  refine ⟨self, values, b₃, ?_, hb₃, hself, hall⟩
  -- nothing that the body depends on changes while the arguments are encoded
  have hrun := (upkeep_encodeArguments (R := Upkeep) ctx 0 p.declared).of_ok hargs
  have hhosted' : b₂.hosted[i]? = some h := by
    rw [view_eq_of_reflTransGen Bridge.hosted (fun _ _ hstep => hstep.hosted_eq) hrun]
    exact hhosted
  have hlive : (b₂.contextAt ctx).live = true := by
    rw [view_eq_of_reflTransGen (fun b => (b.contextAt ctx).live) (fun _ _ hstep =>
      hstep.view_contextAt Context.live (fun _ _ _ _ _ _ => rfl) ctx) hrun]
    exact hreaches.live
  let c : Call := ⟨p.signature, p.words.map wordBytes ++ r.1⟩
  have hslots : c.arguments h.signature = (p.words.map wordBytes ++ r.1).map some :=
    if_pos hreaches.signature
  have hresult (bytes : List UInt8) : c.result h.signature.ret bytes = some bytes :=
    if_pos (congrArg Signature.ret hreaches.signature)
  have hinvoke : EStateM.run ((Reentry.within (depth + 1)).invoke p.code c) b₂ =
      EStateM.run (h.orZero (h.answer (.within depth) self values) >>= fun bytes =>
        return some (padBytes bytes h.width)) b₃ := by
    rw [hcode, run_invoke_hosted hhosted', run_runHosted_of_live (by rwa [hreaches.context]), hslots]
    simp only [hresult]
    exact run_bind_congr (run_orZero_congr hrespond) _
  unfold dispatch carryOut
  rw [run_bind_ok hplan, run_bind_congr (run_callCode hargs), bind_assoc, run_bind_congr hinvoke]
  unfold Hosted.conclude
  simp only [bind_assoc, pure_bind, hreaches.context, hreaches.signature]

/-- A host body leaves a sound state behind, with as many contexts as before. -/
lemma sound_eval {depth : Nat} {body : Body} {self : ObjectRef} {values : List Value} {v : Value}
    (hb : b.Sound)
    (h : EStateM.run (body.eval ⟨.within depth, ctx, self, values⟩) b = .ok v b') :
    b'.Sound ∧ b'.contexts.size = b.contexts.size := by
  have hrun := (Body.moves_eval (R := Step) (a := ⟨.within depth, ctx, self, values⟩)
    (Reentry.moves_within depth) body b).of_ok h
  exact ⟨Step.sound_of_run hrun hb,
    view_eq_of_reflTransGen (·.contexts.size) (fun _ _ hstep => hstep.size_eq) hrun⟩

section Conclude

variable {inner : Reentry} (outer : Reentry) (blocks : List Address) {self : ObjectRef}
  {values : List Value} {v : Value} {bytes : List UInt8}

/-- Once the body has answered, only the end of the call is left. -/
lemma run_conclude (hctx : h.context = ctx)
    (hv : EStateM.run (h.body.eval ⟨inner, ctx, self, values⟩) b = .ok v b₁)
    (hbytes : EStateM.run (encodeResult ctx h.signature.ret v) b₁ = .ok bytes b₂) :
    EStateM.run (h.conclude inner outer blocks self values) b =
      EStateM.run (complete outer ctx h.signature.ret (some (padBytes bytes h.width)))
        ((retain ctx blocks).after b₂) := by
  subst hctx
  have hanswer : EStateM.run (h.orZero (h.answer inner self values)) b = .ok bytes b₂ := by
    have hrun : EStateM.run (h.answer inner self values) b = .ok bytes b₂ := by
      unfold Hosted.answer
      rw [run_bind_ok hv, hbytes]
    unfold Hosted.orZero
    rw [run_tryCatch, hrun]
  have hretain : EStateM.run (retain h.context blocks) b₂ =
      .ok () ((retain h.context blocks).after b₂) := rfl
  unfold Hosted.conclude
  rw [run_bind_ok hanswer, run_bind_ok hretain]

/-- **From the body to the caller**: if all is quiet when the body has answered, the call ends with what
the answer arrives as. -/
lemma exists_run_conclude (hctx : h.context = ctx)
    (hret : h.signature.ret.isVoid = true ∨ h.signature.ret.Plain)
    (hv : EStateM.run (h.body.eval ⟨inner, ctx, self, values⟩) b = .ok v b₁) (hb₁ : b₁.Sound)
    (hopened : ctx < b₁.contexts.size) (hread : Readable ctx b₁ h.signature.ret.shape v)
    (hbytes : EStateM.run (encodeResult ctx h.signature.ret v) b₁ = .ok bytes b₂)
    (hquiet : b₂.Quiet ctx) :
    ∃ w b', EStateM.run (h.conclude inner outer blocks self values) b = .ok w b' ∧
      Arrives ctx b₁ b' h.signature.ret.shape v w := by
  have hend : ((retain ctx blocks).after b₂).Quiet ctx := (quiet_retain_iff blocks).mpr hquiet
  rw [run_conclude outer blocks hctx hv hbytes, run_complete_of_quiet hend]
  rcases hret with hvoid | hplain
  · exact ⟨.nil, _, if_pos hvoid, .of_isVoid hvoid⟩
  · obtain ⟨hkeeps, hdecode⟩ := exists_decodeResult hplain hb₁ hopened hread hbytes
    have hb₃ : b₂.Keeps ((retain ctx blocks).after b₂) :=
      Upkeep.keeps_of_run ((upkeep_retain ctx blocks).of_ok rfl) hkeeps.sound
    rw [if_neg (by rw [hplain.isVoid]; decide)]
    exact hdecode _ hb₃

end Conclude

/-- **Transparency**: in every state that a host can get to, a message whose arguments can be encoded,
and which ends in a host body of the same context and with the same signature, is transparent. The body
is evaluated with what the receiver and the arguments arrive as, and whatever comes of that, what is
left of the call follows. If the body has a value that can be encoded, the call has a value as well if
and only if all is quiet then, and it is what the value of the body arrives as. -/
theorem transparent {depth : Nat} {route : Route} (hb : b.Reachable)
    (hplan : EStateM.run (plan (.within (depth + 1)) ctx (.message route receiver m)) b = .ok p b₁)
    (hreaches : Reaches ctx receiver p h b₁)
    (hargs : EStateM.run (encodeArguments ctx 0 p.declared) b₁ = .ok r b₂) :
    ∃ self values b₃,
      EStateM.run (dispatch (.within (depth + 1)) ctx (.message route receiver m)) b =
        EStateM.run (h.conclude (.within depth) (.within (depth + 1)) r.2 self values) b₃ ∧
      Arrives ctx b₁ b₃ (.object none) (.object receiver) (.object self) ∧
      m.args.length = h.signature.declared.length ∧
      List.Forall₂ (fun arg w => Arrives ctx b₁ b₃ arg.1.shape arg.2 w)
        (h.signature.declared.zip m.args) values ∧
      ∀ v bytes b₄ b₅,
        EStateM.run (h.body.eval ⟨.within depth, ctx, self, values⟩) b₃ = .ok v b₄ →
        Readable ctx b₄ h.signature.ret.shape v →
        EStateM.run (encodeResult ctx h.signature.ret v) b₄ = .ok bytes b₅ →
        (b₅.Quiet ctx ↔ ∃ w b₆,
          EStateM.run (dispatch (.within (depth + 1)) ctx (.message route receiver m)) b =
            .ok w b₆) ∧
        ∀ w b₆,
          EStateM.run (dispatch (.within (depth + 1)) ctx (.message route receiver m)) b =
            .ok w b₆ → Arrives ctx b₄ b₆ h.signature.ret.shape v w := by
  have hb₁ : b₁.Sound :=
    Step.sound_of_run ((moves_plan (Reentry.moves_within _) ctx _).of_ok hplan) hb.sound
  have hb₂ : b₁.Keeps b₂ := keeps_of_encodeArguments hb₁ hargs
  obtain ⟨self, values, b₃, hdispatch, hb₃, hself, hall⟩ :=
    exists_run_dispatch hb₁ hplan hreaches hargs
  have hcount : m.args.length = h.signature.declared.length := by
    obtain ⟨-, -, hcount, -⟩ := plan_message hplan
    rw [← hreaches.signature, hcount]
  refine ⟨self, values, b₃, hdispatch, hself, hcount, hall, fun v bytes b₄ b₅ hv hread hbytes => ?_⟩
  obtain ⟨hb₄, hsize⟩ := sound_eval hb₃.sound hv
  have hopened : ctx < b₄.contexts.size := by
    rw [hsize, hb₃.size, hb₂.size]
    exact hreaches.opened
  rw [hdispatch]
  have hanswers (hquiet : b₅.Quiet ctx) := exists_run_conclude (.within (depth + 1)) r.2
    hreaches.context hreaches.ret hv hb₄ hopened hread hbytes hquiet
  have hquiet {w : Value} {b₆ : Bridge}
      (hrun : EStateM.run (h.conclude (.within depth) (.within (depth + 1)) r.2 self values) b₃ =
        .ok w b₆) : b₅.Quiet ctx := by
    rw [run_conclude _ _ hreaches.context hv hbytes] at hrun
    exact (quiet_retain_iff r.2).mp (quiet_of_run_complete hrun)
  refine ⟨⟨fun hq => ?_, fun ⟨w, b₆, hrun⟩ => hquiet hrun⟩, fun w b₆ hrun => ?_⟩
  · obtain ⟨w, b₆, hrun, -⟩ := hanswers hq
    exact ⟨w, b₆, hrun⟩
  · obtain ⟨w', b₆', hrun', harrives⟩ := hanswers (hquiet hrun)
    rw [hrun] at hrun'
    cases hrun'
    exact harrives

end Message

/-! ## An answer and an exception in its place -/

/-- A class with a method that answers its first argument and one that raises an exception before it
answers, and an instance of it. -/
def echoScene : Act Value := do
  let p ← extend 0 (← classNamed? 0 "Object") "Echo" 0
  p.addMethod "pick:of:" "s@:c@" (.argument 0)
  p.addMethod "alarm" "q@:" (.seq [.throw .receiver, .literal (.int 5)])
  let p ← p.register
  send 0 p.classRef { selector := "new" }

/-- The state after the class was built. -/
def echoBridge : Bridge := echoScene.after (Bridge.openContext {} {} {}).2

lemma reachable_echoBridge : echoBridge.Reachable := by
  have hopened : (Bridge.openContext {} {} {}).2.Reachable :=
    Bridge.Reachable.start.step (.openContext {} {})
  refine hopened.of_moves ?_
  exact (upkeep_classNamed? 0 _).toStep.toHost.bind fun parent _ _ =>
    (moves_extend 0 parent _ 0).toHost.bind fun p _ _ =>
      (moves_addPendingMethod p _ _ _).toHost.bind fun _ _ _ =>
        (moves_addPendingMethod p _ _ _).toHost.bind fun _ _ _ =>
          (moves_register p).bind fun _ _ _ => moves_call _ 0 _

/-- The instance. -/
def echoReceiver : ObjectRef := ⟨4, 0x40000000000, false⟩

/-- A message to the instance. -/
def echoMessage (selector : String) (args : List Value) : Dispatch :=
  .message .direct echoReceiver { selector, args }

/-- Whether a planned message ends in a host body with the given types that passes a test. -/
def endsInBody (declared : List Descriptor) (ret : Descriptor) (test : Body → Bool) (p : Plan)
    (b : Bridge) : Bool :=
  match p.code with
  | .hosted i => b.hosted[i]?.any fun h =>
      decide (p.signature = h.signature) && h.context == 0 && h.signature.isMethod &&
        decide (h.signature.declared = declared) && decide (h.signature.ret = ret) && test h.body &&
          decide (0 < b.contexts.size) && (b.contextAt 0).live &&
            (b.current? 0 echoReceiver.address).isSome &&
              (encodeArguments 0 0 p.declared).endsWith (fun _ _ => true) b
  | _ => false

/-- Such a message reaches its body, if its arguments can be read wherever the instance can. -/
lemma exists_reaches (selector : String) (args : List Value) (declared : List Descriptor)
    (ret : Descriptor) (test : Body → Bool) (hplain : ∀ d ∈ declared, d.Plain) (hret : ret.Plain)
    (hread : ∀ b : Bridge, (b.current? 0 echoReceiver.address).isSome →
      ∀ arg ∈ declared.zip args, Readable 0 b arg.1.shape arg.2)
    (hends : (plan (.within (9999 + 1)) 0 (echoMessage selector args)).endsWith
      (endsInBody declared ret test) echoBridge = true) :
    ∃ p h r b₁ b₂,
      EStateM.run (plan (.within (9999 + 1)) 0 (echoMessage selector args)) echoBridge = .ok p b₁ ∧
      Reaches 0 echoReceiver p h b₁ ∧
      EStateM.run (encodeArguments 0 0 p.declared) b₁ = .ok r b₂ ∧
      h.signature.declared = declared ∧ h.signature.ret = ret ∧ test h.body = true := by
  obtain ⟨p, b₁, hplan, htest⟩ := exists_of_endsWith hends
  unfold endsInBody at htest
  split at htest
  · next i hcode =>
    simp only [Option.any_eq_true, Bool.and_eq_true, decide_eq_true_eq, beq_iff_eq, and_assoc]
      at htest
    obtain ⟨h, hhosted, hsignature, hcontext, hmethod, hdeclared, hret', hbody, hopened, hlive,
      hcurrent, hencodes⟩ := htest
    obtain ⟨r, b₂, hargs, -⟩ := exists_of_endsWith hencodes
    obtain ⟨hwords, hpargs, -, -⟩ := plan_message hplan
    refine ⟨p, h, r, b₁, b₂, hplan, ?_, hargs, hdeclared, hret', hbody⟩
    refine ⟨⟨i, hcode, hhosted⟩, hsignature, hcontext, hopened, hlive, hmethod, ?_, ?_, .inl hcurrent,
      ?_⟩
    · rwa [hdeclared]
    · rw [hret']
      exact .inr hret
    · rw [declared_eq hsignature hmethod hwords hpargs, hdeclared]
      exact hread b₁ hcurrent
  · cases htest

/-- Whether a body answers its first argument. -/
def isPick : Body → Bool
  | .argument i => i == 0
  | _ => false

/-- A number that is too large for its type is reduced on the way to a body, and comes back reduced. -/
theorem transparent_pick : ∃ p h r b₁ b₂ self w b₃ b₄,
    (echoBridge.Reachable ∧
      EStateM.run (plan (.within (9999 + 1)) 0
        (echoMessage "pick:of:" [.int 300, .object echoReceiver])) echoBridge = .ok p b₁ ∧
      Reaches 0 echoReceiver p h b₁ ∧
      EStateM.run (encodeArguments 0 0 p.declared) b₁ = .ok r b₂) ∧
    EStateM.run (dispatch (.within (9999 + 1)) 0
      (echoMessage "pick:of:" [.int 300, .object echoReceiver])) echoBridge =
        EStateM.run (h.conclude (.within 9999) (.within (9999 + 1)) r.2 self [.int 44, w]) b₃ ∧
    Arrives 0 b₁ b₃ (.object none) (.object echoReceiver) w ∧
    EStateM.run (dispatch (.within (9999 + 1)) 0
      (echoMessage "pick:of:" [.int 300, .object echoReceiver])) echoBridge = .ok (.int 44) b₄ := by
  have hplain : ∀ d ∈ [Descriptor.scalar .char, .object], d.Plain := by
    intro d hd
    simp only [List.mem_cons, List.not_mem_nil, or_false] at hd
    rcases hd with rfl | rfl
    · exact .scalar (by decide)
    · exact .address rfl rfl
  obtain ⟨p, h, r, b₁, b₂, hplan, hreaches, hargs, hdeclared, hret, hbody⟩ := exists_reaches
    "pick:of:" [.int 300, .object echoReceiver] [.scalar .char, .object] (.scalar .short) isPick
    hplain (.scalar (by decide)) (fun b hcurrent arg harg => by
      simp only [List.zip_cons_cons, List.zip_nil_left, List.mem_cons, List.not_mem_nil,
        or_false] at harg
      rcases harg with rfl | rfl
      · exact .scalar
      · refine .address rfl fun a ha _ => ?_
        cases ha
        exact .inl hcurrent) (by decide +kernel)
  obtain ⟨self, values, b₃, hdispatch, -, -, hall, hends⟩ :=
    transparent reachable_echoBridge hplan hreaches hargs
  -- the body is given the reduced number
  rw [hdeclared] at hall
  obtain _ | @⟨_, v, _, _, hv, hall⟩ := hall
  obtain _ | @⟨_, w, _, _, hw, hall⟩ := hall
  cases hall
  have hint : Primitive.char.norm? (.int 300) = some (.int 44) := rfl
  obtain rfl : Value.int 44 = v :=
    Option.some.inj (hint.symm.trans (hv.norm?_eq (by decide) nofun))
  -- it answers it, and the caller is given the same
  have hpick : h.body = .argument 0 := by
    unfold isPick at hbody
    split at hbody
    · next i heq => rw [heq, beq_iff_eq.mp hbody]
    · cases hbody
  have heval : EStateM.run (h.body.eval ⟨.within 9999, 0, self, [.int 44, w]⟩) b₃ =
      .ok (.int 44) b₃ := by
    rw [hpick]
    rfl
  obtain ⟨bytes, hbytes⟩ : ∃ bytes,
      EStateM.run (encodeResult 0 h.signature.ret (.int 44)) b₃ = .ok bytes b₃ := by
    rw [hret]
    exact ⟨_, run_encodeResult_widened rfl⟩
  rw [hret] at hends hbytes
  have hreturns : (dispatch (.within (9999 + 1)) 0 (echoMessage "pick:of:"
      [.int 300, .object echoReceiver])).endsWith (fun _ _ => true) echoBridge = true := by
    decide +kernel
  obtain ⟨v, b₄, hrun, -⟩ := exists_of_endsWith hreturns
  have harrives := (hends _ _ _ _ heval .scalar hbytes).2 v b₄ hrun
  have hshort : Primitive.short.norm? (.int 44) = some (.int 44) := rfl
  obtain rfl : Value.int 44 = v :=
    Option.some.inj (hshort.symm.trans (harrives.norm?_eq (by decide) nofun))
  exact ⟨p, h, r, b₁, b₂, self, w, b₃, b₄, ⟨reachable_echoBridge, hplan, hreaches, hargs⟩,
    hdispatch, hw, hrun⟩

/-- Whether a body raises its receiver as an exception and answers a number. -/
def isAlarm : Body → Bool
  | .seq [.throw .receiver, .literal (.int i)] => i == 5
  | _ => false

/-- Only an exception is named like one. -/
lemma exists_eq_exception {e : Error} (h : e.kindName = "Exception") :
    ∃ raised name reason, e = .exception raised name reason := by
  cases e with
  | exception raised name reason => exact ⟨raised, name, reason, rfl⟩
  | _ => simp [Error.kindName] at h

/-- **An exception in place of an answer**: the body answers a number that can be encoded, but it raised
an exception before, and the caller is given the exception. -/
theorem raised_in_place : ∃ p h r b₁ b₂ self b₃ b₄ bytes b₅ exception name reason b₆,
    EStateM.run (plan (.within (9999 + 1)) 0 (echoMessage "alarm" [])) echoBridge = .ok p b₁ ∧
    Reaches 0 echoReceiver p h b₁ ∧
    EStateM.run (encodeArguments 0 0 p.declared) b₁ = .ok r b₂ ∧
    EStateM.run (dispatch (.within (9999 + 1)) 0 (echoMessage "alarm" [])) echoBridge =
      EStateM.run (h.conclude (.within 9999) (.within (9999 + 1)) r.2 self []) b₃ ∧
    EStateM.run (h.body.eval ⟨.within 9999, 0, self, []⟩) b₃ = .ok (.int 5) b₄ ∧
    EStateM.run (encodeResult 0 h.signature.ret (.int 5)) b₄ = .ok bytes b₅ ∧
    EStateM.run (dispatch (.within (9999 + 1)) 0 (echoMessage "alarm" [])) echoBridge =
      .error (.error (.exception exception name reason)) b₆ := by
  obtain ⟨p, h, r, b₁, b₂, hplan, hreaches, hargs, hdeclared, hret, hbody⟩ :=
    exists_reaches "alarm" [] [] (.scalar .longLong) isAlarm (fun _ hd => by cases hd)
      (.scalar (by decide)) (fun _ _ _ harg => by cases harg) (by decide +kernel)
  have hb₁ : b₁.Sound :=
    Step.sound_of_run ((moves_plan (Reentry.moves_within _) 0 _).of_ok hplan)
      reachable_echoBridge.sound
  obtain ⟨self, values, b₃, hdispatch, -, -, hall⟩ :=
    exists_run_dispatch hb₁ hplan hreaches hargs
  rw [hdeclared] at hall
  cases hall
  have hraises : (dispatch (.within (9999 + 1)) 0 (echoMessage "alarm" [])).failsWith
      (·.kindName == "Exception") echoBridge = true := by decide +kernel
  have hseq : h.body = .seq [.throw .receiver, .literal (.int 5)] := by
    unfold isAlarm at hbody
    split at hbody
    · next i heq =>
      rw [heq, beq_iff_eq.mp hbody]
    · cases hbody
  have hv : EStateM.run (h.body.eval ⟨.within 9999, 0, self, []⟩) b₃ =
      .ok (.int 5) { b₃ with space := b₃.space.throw self.address } := by
    rw [hseq]
    rfl
  have hbytes (b : Bridge) : EStateM.run (encodeResult 0 h.signature.ret (.int 5)) b =
      .ok (leBytes 8 5) ((retain 0 []).after b) := by
    rw [hret]
    rfl
  obtain ⟨e, b₆, hrun, he⟩ := exists_of_failsWith hraises
  obtain ⟨exception, name, reason, rfl⟩ := exists_eq_exception (beq_iff_eq.mp he)
  exact ⟨p, h, r, b₁, b₂, self, b₃, _, _, _, exception, name, reason, b₆, hplan, hreaches, hargs,
    hdispatch, hv, hbytes _, hrun⟩

end Act

end MessageBridge
