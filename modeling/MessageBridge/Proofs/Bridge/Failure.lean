import MessageBridge.Proofs.Bridge.Settling
import MessageBridge.Proofs.Native.Zero

/-!
# Who reports the failure of a host body

A host body that fails leaves its failure in the context that registered it. The call that encloses
it collects what waits in the context that the call was made through. This module follows a failure
from the body to the end of the innermost call around it, through every way in which code can get to
a host body without another call in between: the code of the call is the body, or a routine sends a
message on, or the class of a receiver is asked for a missing method.

## Main definitions

* `Act.Fails` — a host body of a live context fails.
* `Act.Failing` — code that is called gets to a host body that fails, with no call in between.
* `Act.FailsIn` — the same for a call that a host asks for.
* `Act.Calls` — the code of a call is called, and comes back with failures waiting in the contexts.
* `Act.Reports` — a call ends with a failure that waited in its context.

## Main results

* `Act.Failing.handsOn` — a host body that fails is the last one that runs, and what is handed on reads
  as zero.
* `Act.reports_iff` — the innermost call reports the failure exactly if it is made at all, and the
  failure was left in the context of the call and is the first one there.
* `Act.failure_elsewhere` — a failure that another call reports.
-/

namespace MessageBridge

namespace Bridge

/-- The state in which a context keeps a failure, unless it keeps one already. -/
def record (b : Bridge) (ctx : ContextId) (e : Error) : Bridge :=
  { b with contexts := b.contexts.modify ctx (·.recordFailure e) }

lemma pending_record {b : Bridge} {i : ContextId} (h : i < b.contexts.size) (e : Error)
    (j : ContextId) :
    (b.record i e).pending j = if j = i then (b.pending j).or (some e) else b.pending j := by
  simp only [pending, contextAt, record, Array.getElem?_modify]
  by_cases hij : i = j
  · subst hij
    rw [if_pos rfl, if_pos rfl, Array.getElem?_eq_getElem h]
    rfl
  · rw [if_neg hij, if_neg (Ne.symm hij)]

end Bridge

/-- What a context keeps of a host body that stopped. Nothing is known after a fault. -/
def Hosted.failure? (h : Hosted) : Stop → Option Error
  | .error e => some e
  | .panic text => some (.callback h.selector text)
  | .fault _ => none

namespace Act

variable {b b' : Bridge} {re : Reentry} {ctx : ContextId}

/-! ## Host bodies that fail -/

/-- **Fails**: the host body of a live context is called, and fails or breaks off. -/
structure Fails (re : Reentry) (h : Hosted) (c : Call) (b : Bridge) (e : Error) (b' : Bridge) :
    Prop where
  live : ∃ x, b.contexts[h.context]? = some x ∧ x.live = true
  stops : ∃ stop, EStateM.run (respond re h (c.arguments h.signature)) b = .error stop b' ∧
    h.failure? stop = some e

namespace Fails

variable {h : Hosted} {c : Call} {e : Error}

/-- The context is there when its failure is kept. -/
lemma lt_size (hre : re.Moves Step) (hf : Fails re h c b e b') : h.context < b'.contexts.size := by
  obtain ⟨x, hx, -⟩ := hf.live
  obtain ⟨stop, hstop, -⟩ := hf.stops
  have hsize : b'.contexts.size = b.contexts.size := by
    rw [← after_of_error hstop]
    exact (moves_respond hre h _).keeps (·.contexts.size) fun _ _ hstep => hstep.size_eq
  rw [hsize]
  exact (Array.getElem?_eq_some_iff.mp hx).1

/-- The failure is kept by the context that registered the body, and the result is zero. -/
lemma run_runHosted (hf : Fails re h c b e b') :
    ∃ r, EStateM.run (runHosted re h c) b = .ok r (b'.record h.context e) ∧ ReadsZero r := by
  obtain ⟨x, hx, hlive⟩ := hf.live
  obtain ⟨stop, hstop, hfailure⟩ := hf.stops
  have hcontext : b.contextAt h.context = x := by rw [Bridge.contextAt, hx]; rfl
  let width := max h.signature.ret.size wordSize
  have hzero : Zeroed (padBytes (List.replicate width 0) width) := Zeroed.padBytes (.replicate _) _
  refine ⟨c.result h.signature.ret _, ?_, c.readsZero_result h.signature.ret hzero⟩
  unfold runHosted
  rw [run_bind_ok (run_context h.context), hcontext, hlive]
  refine Eq.trans (run_bind_ok ?_) rfl
  rw [run_tryCatch, hstop]
  cases stop with
  | error e' => cases hfailure; rfl
  | panic text => cases hfailure; rfl
  | fault g => cases hfailure

end Fails

/-! ## Ways to a host body -/

/-- **Relays**: what the routine does comes down to sending a message, with the given receiver and
selector, in the state that it leaves behind before it does so. -/
inductive Relays (c : Call) (b : Bridge) : Routine → Address → Address → Bridge → Prop
  /-- A routine that is told what to send to the receiver. -/
  | perform {receiver sel : Address} (hreceiver : c.registers.word? 0 = some receiver)
      (hsel : c.registers.word? 2 = some sel) : Relays c b .perform receiver sel b
  /-- A routine that sends a message to what it has created. -/
  | newInitialized {k receiver : Address} {sel : Selector} {b₁ b₂ : Bridge}
      (hclass : c.registers.word? 0 = some k)
      (hnew : EStateM.run (instantiate k) b = .ok receiver b₁)
      (hsel : EStateM.run (intern "init") b₁ = .ok sel b₂) :
      Relays c b .newInitialized receiver sel.address b₂

lemma Relays.run_runRoutine {c : Call} {routine : Routine} {receiver sel : Address}
    (h : Relays c b routine receiver sel b') :
    EStateM.run (runRoutine re routine c.registers) b = EStateM.run (sendAt re receiver sel) b' := by
  cases h with
  | perform hreceiver hsel =>
    simp only [runRoutine, hreceiver, hsel]
    rfl
  | newInitialized hclass hnew hsel =>
    simp only [runRoutine, hclass]
    exact (run_bind_ok hnew).trans (run_bind_ok hsel)

/-- **Asked**: no code is found for the receiver at once, and its class is asked with the given call
of the given code. -/
structure Asked (receiver : Address) (sel : Selector) (b : Bridge) (imp : Implementation) (c : Call)
    (b' : Bridge) : Prop where
  receiver_ne : receiver ≠ 0
  asks : ∃ k b₁, b.space.isa? receiver = some k ∧
    EStateM.run (lookupImp k sel) b = .ok none b₁ ∧
    EStateM.run (resolverCall k receiver sel) b₁ = .ok (some (imp, c)) b'

/-- **Hands on**: the action ends with a result that reads as zero and with the given failures waiting
in the contexts, or at a fault. -/
def HandsOn (waiting : ContextId → Option Error) (x : Act (Option (List UInt8))) (b : Bridge) : Prop :=
  (∃ r b', EStateM.run x b = .ok r b' ∧ ReadsZero r ∧ b'.pending = waiting) ∨
    ∃ g b', EStateM.run x b = .error (.fault g) b'

/-- Looking the code up comes down to asking the question. -/
lemma Asked.run_lookupImplementation {receiver : Address} {sel : Selector} {imp : Implementation}
    {c : Call} (h : Asked receiver sel b imp c b') (re : Reentry) :
    ∃ k, EStateM.run (lookupImplementation re receiver (some sel)) b =
      EStateM.run (do
        let reply ← re.invoke imp c
        if ofWordBytes ((← require .unwrittenWord reply).take 1) != 0 then
          return (← lookupImp k sel).getD .forwarding
        else return .forwarding) b' := by
  obtain ⟨k, b₁, hisa, hlookup, hcall⟩ := h.asks
  have hread : EStateM.run (readSpace (·.isa? receiver)) b = .ok k b :=
    run_readSpace_eq_ok.mpr ⟨hisa, rfl⟩
  refine ⟨k, ?_⟩
  simp only [lookupImplementation, if_neg h.receiver_ne]
  rw [run_bind_ok hread, run_bind_ok hlookup]
  simp only [resolveMissing, bind_assoc]
  rw [run_bind_ok hcall]
  simp only [bind_assoc, pure_bind]

/-- If the answer reads as zero, the code that stands in for missing code is called. -/
lemma Asked.forwarding_or_fault {receiver : Address} {sel : Selector} {imp : Implementation}
    {c : Call} {waiting : ContextId → Option Error} (h : Asked receiver sel b imp c b')
    (hreply : HandsOn waiting (re.invoke imp c) b') :
    (∃ b₁, EStateM.run (lookupImplementation re receiver (some sel)) b = .ok .forwarding b₁ ∧
      b₁.pending = waiting) ∨
    ∃ g b₁, EStateM.run (lookupImplementation re receiver (some sel)) b =
      .error (.fault g) b₁ := by
  obtain ⟨k, hrun⟩ := h.run_lookupImplementation re
  rw [hrun]
  rcases hreply with ⟨r, b₁, hr, hzero, hwaiting⟩ | ⟨g, b₁, hg⟩
  · rw [run_bind_ok hr]
    cases r with
    | none => exact .inr ⟨.unwrittenWord, b₁, rfl⟩
    | some bytes =>
      refine .inl ⟨b₁, ?_, hwaiting⟩
      rw [run_bind_ok (run_require_some _ bytes), ((hzero bytes rfl).take 1).ofWordBytes_eq]
      rfl
  · exact .inr ⟨g, b₁, run_bind_error hg⟩

/-- **Failing**: the code, called with the call, gets to a host body that fails, with no call that a
host asks for in between. The body is the code itself, or the code relays a message, and the class of
the receiver is asked for the method, or the code that is found for the message gets there in
turn. -/
inductive Failing : Nat → Implementation → Call → Bridge → Hosted → Error → Bridge → Prop
  | hosted {depth i : Nat} {c : Call} {b b' : Bridge} {h : Hosted} {e : Error}
      (hbody : b.hosted[i]? = some h) (hfails : Fails (.within depth) h c b e b') :
      Failing (depth + 1) (.hosted i) c b h e b'
  | asked {depth : Nat} {routine : Routine} {c call : Call} {b b₁ b₂ b' : Bridge} {h : Hosted}
      {e : Error} {receiver a : Address} {sel : Selector} {imp : Implementation}
      (hrelays : Relays c b routine receiver a b₁)
      (hsel : EStateM.run (selectorAt a) b₁ = .ok (some sel) b₁)
      (hasked : Asked receiver sel b₁ imp call b₂) (hfailing : Failing depth imp call b₂ h e b') :
      Failing (depth + 1) (.routine routine) c b h e b'
  | found {depth : Nat} {routine : Routine} {c : Call} {b b₁ b₂ b' : Bridge} {h : Hosted}
      {e : Error} {receiver a : Address} {sel : Option Selector} {code : Implementation}
      (hrelays : Relays c b routine receiver a b₁)
      (hsel : EStateM.run (selectorAt a) b₁ = .ok sel b₁)
      (hcode : EStateM.run (lookupImplementation (.within depth) receiver sel) b₁ = .ok code b₂)
      (hfailing : Failing depth code (askCall receiver a) b₂ h e b') :
      Failing (depth + 1) (.routine routine) c b h e b'

/-- The code that stands in for missing code answers zero, and touches no failure that waits. -/
lemma handsOn_forwarding (depth : Nat) (c : Call) (b : Bridge) :
    HandsOn b.pending ((Reentry.within depth).invoke .forwarding c) b := by
  cases hrun : EStateM.run ((Reentry.within depth).invoke .forwarding c) b with
  | error stop b' =>
    obtain ⟨g, rfl⟩ := faultsOnly_within depth _ _ _ _ _ hrun
    exact .inr ⟨g, b', hrun⟩
  | ok r b' =>
    refine .inl ⟨r, b', hrun, ?_⟩
    cases depth with
    | zero => cases hrun
    | succ depth =>
      have hwaiting : b'.pending = b.pending := by
        have hmoves : Moves (fun b c => c.pending = b.pending)
            (invokeVia (.within depth) .forwarding c) b := moves_forwarding (fun _ _ _ => rfl) c
        rw [← after_of_ok hrun]
        exact hmoves.keeps Bridge.pending fun _ _ hstep => hstep
      refine ⟨?_, hwaiting⟩
      obtain ⟨receiver, b₁, hreceiver, hrun⟩ := run_bind_eq_ok.mp hrun
      obtain ⟨sel, b₂, hsel, hrun⟩ := run_bind_eq_ok.mp hrun
      obtain ⟨s, b₃, hs, hrun⟩ := run_bind_eq_ok.mp hrun
      obtain ⟨u, b₄, hraise, hrun⟩ := run_bind_eq_ok.mp hrun
      cases hrun
      exact Returned.readsZero_toBytes? Returned.zeroed_word _

/-- Once the code for a message is found, sending it is running that code. -/
lemma run_sendAt {depth : Nat} {receiver a : Address} {sel : Option Selector} {code : Implementation}
    {b₁ b₂ : Bridge} (hsel : EStateM.run (selectorAt a) b₁ = .ok sel b₁)
    (hcode : EStateM.run (lookupImplementation (.within depth) receiver sel) b₁ = .ok code b₂) :
    EStateM.run (sendAt (.within depth) receiver a) b₁ =
      EStateM.run (do
        match ← (Reentry.within depth).invoke code (askCall receiver a) with
        | some bytes => return Returned.word (ofWordBytes bytes)
        | none => return Returned.nothing) b₂ :=
  (run_bind_ok hsel).trans (run_bind_ok hcode)

/-- A routine that relays a message hands on what the code for it hands on. -/
lemma HandsOn.relays {depth : Nat} {waiting : ContextId → Option Error} {routine : Routine} {c : Call}
    {receiver a : Address} {sel : Option Selector} {code : Implementation} {b₁ b₂ : Bridge}
    (hrelays : Relays c b routine receiver a b₁)
    (hsel : EStateM.run (selectorAt a) b₁ = .ok sel b₁)
    (hcode : EStateM.run (lookupImplementation (.within depth) receiver sel) b₁ = .ok code b₂)
    (h : HandsOn waiting ((Reentry.within depth).invoke code (askCall receiver a)) b₂) :
    HandsOn waiting ((Reentry.within (depth + 1)).invoke (.routine routine) c) b := by
  have hroutine : (Reentry.within (depth + 1)).invoke (.routine routine) c =
      runRoutine (.within depth) routine c.registers >>= fun r =>
        pure (r.toBytes? c.signature.ret) := rfl
  have hsend := run_sendAt hsel hcode
  rcases h with ⟨r, b', hr, hzero, hwaiting⟩ | ⟨g, b', hg⟩
  · obtain ⟨answer, hanswer, hanswer₀⟩ : ∃ answer : Returned,
        EStateM.run (sendAt (.within depth) receiver a) b₁ = .ok answer b' ∧ answer.Zeroed := by
      rw [hsend, run_bind_ok hr]
      cases r with
      | some bytes =>
        refine ⟨.word (ofWordBytes bytes), rfl, ?_⟩
        rw [(hzero bytes rfl).ofWordBytes_eq]
        exact Returned.zeroed_word
      | none => exact ⟨.nothing, rfl, Returned.zeroed_nothing⟩
    refine .inl ⟨_, b', ?_, Returned.readsZero_toBytes? hanswer₀ c.signature.ret, hwaiting⟩
    rw [hroutine, run_bind_ok (hrelays.run_runRoutine.trans hanswer)]
    rfl
  · refine .inr ⟨g, b', ?_⟩
    rw [hroutine, run_bind_error (hrelays.run_runRoutine.trans (hsend.trans (run_bind_error hg)))]

/-- **A host body that fails is the last one that runs**: what called it hands zeros on, and nothing
but the failure is kept in any context. -/
lemma Failing.handsOn {depth : Nat} {code : Implementation} {c : Call} {h : Hosted} {e : Error}
    (hf : Failing depth code c b h e b') :
    HandsOn (b'.record h.context e).pending ((Reentry.within depth).invoke code c) b := by
  induction hf with
  | hosted hbody hfails =>
    obtain ⟨r, hr, hzero⟩ := hfails.run_runHosted
    exact .inl ⟨r, _, (run_invoke_hosted hbody).trans hr, hzero, rfl⟩
  | @asked depth routine c call b b₁ b₂ b' h e receiver a sel imp hrelays hsel hasked _ ih =>
    rcases hasked.forwarding_or_fault ih with ⟨b₃, hcode, hwaiting⟩ | ⟨g, b₃, hcode⟩
    · rw [← hwaiting]
      exact (handsOn_forwarding depth _ _).relays hrelays hsel hcode
    · refine .inr ⟨g, b₃, ?_⟩
      change EStateM.run (runRoutine (.within depth) routine c.registers >>= fun r =>
        pure (r.toBytes? c.signature.ret)) b = _
      refine run_bind_error ?_
      rw [hrelays.run_runRoutine]
      unfold sendAt
      rw [run_bind_ok hsel, run_bind_error hcode]
  | found hrelays hsel hcode _ ih => exact ih.relays hrelays hsel hcode

/-! ## The innermost call -/

/-- **Fails in**: a call that is asked for gets to a host body that fails, with no other such call in
between. Either the class of the receiver is asked for a missing method, or the code of the call gets
there. -/
inductive FailsIn (depth : Nat) (ctx : ContextId) :
    Dispatch → Bridge → Hosted → Error → Bridge → Prop
  | asked {route : Route} {receiver : ObjectRef} {m : Message} {t : Target} {s : Signature}
      {b b₁ b₂ b₃ b' : Bridge} {imp : Implementation} {c : Call} {h : Hosted} {e : Error}
      (htarget : EStateM.run (target ctx receiver route m.selector) b = .ok t b₁)
      (hframe : EStateM.run (messageFrame ctx (b₁.space.classes.findMethod? t.start t.sel) m) b₁ =
        .ok s b₂)
      (hcount : s.declared.length = m.args.length) (hdirect : t.isSuper = false)
      (hlookup : (b₂.contextAt ctx).capabilities.lookup = true)
      (hasked : Asked t.receiver.address t.sel b₂ imp c b₃)
      (hfailing : Failing depth imp c b₃ h e b') :
      FailsIn depth ctx (.message route receiver m) b h e b'
  | called {d : Dispatch} {p : Plan} {r : List (List UInt8) × List Address} {b b₁ b₂ b' : Bridge}
      {h : Hosted} {e : Error} (hplan : EStateM.run (plan (.within depth) ctx d) b = .ok p b₁)
      (hargs : EStateM.run (encodeArguments ctx 0 p.declared) b₁ = .ok r b₂)
      (hfailing : Failing depth p.code ⟨p.signature, p.words.map wordBytes ++ r.1⟩ b₂ h e b') :
      FailsIn depth ctx d b h e b'

/-- The context that registered a failing body is there when the failure is kept. -/
lemma Failing.lt_size {depth : Nat} {code : Implementation} {c : Call} {h : Hosted} {e : Error}
    (hf : Failing depth code c b h e b') : h.context < b'.contexts.size := by
  induction hf with
  | hosted _ hfails => exact hfails.lt_size (Reentry.moves_within _)
  | asked _ _ _ _ ih => exact ih
  | found _ _ _ _ ih => exact ih

lemma FailsIn.lt_size {depth : Nat} {d : Dispatch} {h : Hosted} {e : Error}
    (hf : FailsIn depth ctx d b h e b') : h.context < b'.contexts.size := by
  cases hf with
  | asked _ _ _ _ _ _ hfailing => exact hfailing.lt_size
  | called _ _ hfailing => exact hfailing.lt_size

/-- **Encodes**: the call can be planned, and then its arguments can be encoded. -/
def Encodes (re : Reentry) (ctx : ContextId) (d : Dispatch) (b : Bridge) : Prop :=
  ∃ p b₁ r b₂, EStateM.run (plan re ctx d) b = .ok p b₁ ∧
    EStateM.run (encodeArguments ctx 0 p.declared) b₁ = .ok r b₂

/-- **Calls**: the code of the call is called, and comes back with the given failures waiting in the
contexts. -/
def Calls (re : Reentry) (ctx : ContextId) (d : Dispatch) (b : Bridge)
    (waiting : ContextId → Option Error) : Prop :=
  ∃ p b₁ r b₂, EStateM.run (plan re ctx d) b = .ok p b₁ ∧
    EStateM.run (callCode re ctx p.signature p.code p.words p.args) b₁ = .ok r b₂ ∧
      b₂.pending = waiting

/-- **Reports**: the call fails with what waits in its context when its code comes back, and takes it
away. -/
def Reports (re : Reentry) (ctx : ContextId) (d : Dispatch) (b : Bridge) (e : Error) : Prop :=
  ∃ waiting b', Calls re ctx d b waiting ∧ waiting ctx = some e ∧
    EStateM.run (dispatch re ctx d) b = .error (.error e) b' ∧ b'.pending ctx = none

lemma Calls.unique {d : Dispatch} {waiting waiting' : ContextId → Option Error}
    (h : Calls re ctx d b waiting) (h' : Calls re ctx d b waiting') : waiting = waiting' := by
  obtain ⟨p, b₁, r, b₂, hplan, hcall, rfl⟩ := h
  obtain ⟨p', b₁', r', b₂', hplan', hcall', rfl⟩ := h'
  obtain ⟨rfl, rfl⟩ := EStateM.Result.ok.inj (hplan.symm.trans hplan')
  obtain ⟨rfl, rfl⟩ := EStateM.Result.ok.inj (hcall.symm.trans hcall')
  rfl

/-- Code can only be called once the arguments are encoded. -/
lemma Calls.encodes {d : Dispatch} {waiting : ContextId → Option Error}
    (h : Calls re ctx d b waiting) : Encodes re ctx d b := by
  obtain ⟨p, b₁, r, b₂, hplan, hcall, -⟩ := h
  obtain ⟨args, b₃, hargs, -⟩ := run_bind_eq_ok.mp hcall
  exact ⟨p, b₁, args, b₃, hplan, hargs⟩

/-- **The end of a call** reports what waits in its context. -/
lemma Calls.reports {d : Dispatch} {waiting : ContextId → Option Error} {e : Error}
    (h : Calls re ctx d b waiting) (he : waiting ctx = some e)
    (hret : returns (dispatch re ctx d) b = true) : Reports re ctx d b e := by
  obtain ⟨p, b₁, r, b₂, hplan, hcall, rfl⟩ := h
  have hrun : EStateM.run (dispatch re ctx d) b =
      EStateM.run (complete re ctx p.signature.ret r) b₂ := by
    unfold dispatch carryOut
    rw [run_bind_ok hplan, run_bind_ok hcall]
  let b₃ : Bridge := (modifyContext ctx fun c => { c with pendingError := none }).after b₂
  have htake : EStateM.run (takePendingError ctx) b₂ = .ok (some e) b₃ := by
    rw [← he]
    rfl
  have hnone : b₃.pending ctx = none := by
    change ((b₂.contexts.modify ctx _)[ctx]?.getD default).pendingError = none
    rw [Array.getElem?_modify, if_pos rfl]
    cases b₂.contexts[ctx]? <;> rfl
  have hcomplete : EStateM.run (complete re ctx p.signature.ret r) b₂ =
      EStateM.run (takeException ctx >>= fun _ => (fail e : Act Value)) b₃ := by
    unfold complete
    rw [run_bind_ok htake]
  rw [returns, hrun, hcomplete, ← returns] at hret
  obtain ⟨x, b₄, hx⟩ := (faultsOnly_takeException ctx).exists_ok (returns_of_bind hret)
  refine ⟨_, b₄, ⟨p, b₁, r, b₂, hplan, hcall, rfl⟩, he, ?_, ?_⟩
  · rw [hrun, hcomplete, run_bind_ok hx]
    rfl
  · unfold takeException at hx
    rw [run_bind_ok (run_context ctx)] at hx
    split at hx
    · obtain ⟨a, b₅, ha, hx⟩ := run_bind_eq_ok.mp hx
      cases ha
      rw [← after_of_ok hx, (upkeep_wrap (R := Upkeep) ctx _).keeps (·.pending ctx)
        fun _ _ h => h.pending_eq ctx]
      exact hnone
    · cases hx
      exact hnone

/-- Record keeping leaves alone what waits. -/
lemma Moves.pending_eq {α : Type} {x : Act α} (h : Moves Upkeep x b) :
    (x.after b).pending = b.pending :=
  funext fun ctx => h.keeps (·.pending ctx) fun _ _ hstep => hstep.pending_eq ctx

/-- What the code of a call hands on is what waits at the end of the call. -/
lemma HandsOn.calls {d : Dispatch} {p : Plan} {r : List (List UInt8) × List Address}
    {waiting : ContextId → Option Error} {b₁ b₂ : Bridge}
    (hplan : EStateM.run (plan re ctx d) b = .ok p b₁)
    (hargs : EStateM.run (encodeArguments ctx 0 p.declared) b₁ = .ok r b₂)
    (h : HandsOn waiting (re.invoke p.code ⟨p.signature, p.words.map wordBytes ++ r.1⟩) b₂)
    (hret : returns (dispatch re ctx d) b = true) : Calls re ctx d b waiting := by
  rcases h with ⟨result, b₃, hresult, -, hwaiting⟩ | ⟨g, b₃, hg⟩
  · refine ⟨p, b₁, result, (retain ctx r.2).after b₃, hplan, ?_, ?_⟩
    · rw [run_callCode hargs, run_bind_ok hresult]
      rfl
    · rw [(upkeep_retain ctx r.2).pending_eq, hwaiting]
  · have hstop : EStateM.run (dispatch re ctx d) b = .error (.fault g) b₃ := by
      unfold dispatch carryOut
      rw [run_bind_ok hplan]
      exact run_bind_error ((run_callCode hargs).trans (run_bind_error hg))
    rw [returns, hstop] at hret
    cases hret

/-- **After the failure of a host body** the call comes to its end with the failure waiting in the
context that registered the body, if its arguments can be encoded. -/
lemma FailsIn.calls {depth : Nat} {d : Dispatch} {h : Hosted} {e : Error}
    (hf : FailsIn depth ctx d b h e b')
    (hret : returns (dispatch (.within depth) ctx d) b = true)
    (hencodes : Encodes (.within depth) ctx d b) :
    Calls (.within depth) ctx d b (b'.record h.context e).pending := by
  cases hf with
  | called hplan hargs hfailing => exact hfailing.handsOn.calls hplan hargs hret
  | @asked route receiver m t s b b₁ b₂ b₃ b' imp c h e htarget hframe hcount hdirect hlookup hasked
      hfailing =>
    have hplan : EStateM.run (plan (.within depth) ctx (.message route receiver m)) b =
        EStateM.run (do
          let code ← lookupImplementation (.within depth) t.receiver.address (some t.sel)
          return ⟨s, code, [t.receiver.address, t.sel.address], m.args⟩) b₂ := by
      simp only [plan]
      rw [run_bind_ok htarget]
      unfold planMessage
      rw [run_bind_ok (run_fromSpace _), run_bind_ok hframe, if_neg (not_not.mpr hcount)]
      simp only [findCode, hdirect, Bool.false_eq_true, if_false, bind_assoc]
      rw [run_bind_ok (run_context ctx), if_pos hlookup]
      simp only [bind_assoc, pure_bind]
    obtain ⟨p, b₄, args, b₅, hplan', hargs⟩ := hencodes
    rcases hasked.forwarding_or_fault hfailing.handsOn with ⟨b₆, hcode, hwaiting⟩ | ⟨g, b₆, hg⟩
    · rw [hplan, run_bind_ok hcode] at hplan'
      obtain ⟨rfl, rfl⟩ := EStateM.Result.ok.inj hplan'
      rw [← hwaiting, ← (upkeep_encodeArguments ctx 0 _).pending_eq, after_of_ok hargs]
      exact (handsOn_forwarding depth _ _).calls (hplan.trans (run_bind_ok hcode)) hargs hret
    · rw [hplan, run_bind_error hg] at hplan'
      cases hplan'

/-- **Who reports a failure**: a call in which a host body fails, with no other call in between, and
that comes back reports the failure exactly if its arguments can be encoded and the failure is the
first that waits in the context of the call: it was left there, or the same failure waited there
before. The failure waits in the context that registered the body. -/
theorem reports_iff {depth : Nat} {d : Dispatch} {h : Hosted} {e : Error}
    (hf : FailsIn depth ctx d b h e b')
    (hret : returns (dispatch (.within depth) ctx d) b = true) :
    (Reports (.within depth) ctx d b e ↔ Encodes (.within depth) ctx d b ∧
      (b'.pending ctx = some e ∨ b'.pending ctx = none ∧ h.context = ctx)) ∧
    (Encodes (.within depth) ctx d b → Calls (.within depth) ctx d b fun i =>
      if i = h.context then (b'.pending i).or (some e) else b'.pending i) := by
  have hwaiting : (b'.record h.context e).pending = fun i =>
      if i = h.context then (b'.pending i).or (some e) else b'.pending i :=
    funext (Bridge.pending_record (hf.lt_size) e)
  have hcalls (hencodes : Encodes (.within depth) ctx d b) :
      Calls (.within depth) ctx d b fun i =>
        if i = h.context then (b'.pending i).or (some e) else b'.pending i := by
    rw [← hwaiting]
    exact hf.calls hret hencodes
  have hfirst : (if ctx = h.context then (b'.pending ctx).or (some e) else b'.pending ctx) = some e ↔
      b'.pending ctx = some e ∨ b'.pending ctx = none ∧ h.context = ctx := by
    by_cases hctx : ctx = h.context
    · rw [if_pos hctx]
      cases b'.pending ctx <;> simp [hctx]
    · rw [if_neg hctx]
      simp [Ne.symm hctx]
  refine ⟨⟨?_, ?_⟩, hcalls⟩
  · rintro ⟨waiting, b₁, hreports, he, -, -⟩
    refine ⟨hreports.encodes, ?_⟩
    rwa [hreports.unique (hcalls hreports.encodes), hfirst] at he
  · rintro ⟨hencodes, hcond⟩
    exact (hcalls hencodes).reports (hfirst.mpr hcond) hret

/-! ## A failure that another call reports -/

/-- A class of the first context with a method that fails, and an instance of it. -/
def failingClass : Act Value := do
  let p ← extend 0 (← classNamed? 0 "Object") "Fails" 0
  p.addMethod "boom" "v@:" (.fail (.ivarNotFound "fuse"))
  let p ← p.register
  send 0 p.classRef { selector := "new" }

/-- Two contexts, after the first one built the class. -/
def sharedBridge : Bridge := failingClass.after (Bridge.openContext freshBridge {} {}).2

/-- A message to the instance. -/
def sharedMessage (selector : String) : Dispatch :=
  .message .direct ⟨4, 0x40000000000, false⟩ { selector }

/-- Through the second context the message gets to the host body that fails. -/
lemma exists_failsIn_boom : ∃ h b',
    FailsIn nestingLimit 1 (sharedMessage "boom") sharedBridge h (.ivarNotFound "fuse") b' := by
  have hends : (plan (.within nestingLimit) 1 (sharedMessage "boom")).endsWith (fun p b₁ =>
      p.code == .hosted 0 && p.declared.isEmpty && b₁.hosted[0]?.any fun h =>
        b₁.contexts[h.context]?.any (·.live) &&
          (respond (.within (nestingLimit - 1)) h
            (Call.arguments ⟨p.signature, p.words.map wordBytes ++ []⟩ h.signature)).failsWith
              (· == .ivarNotFound "fuse") b₁) sharedBridge = true := by decide +kernel
  obtain ⟨p, b₁, hplan, htest⟩ := exists_of_endsWith hends
  simp only [Bool.and_eq_true, beq_iff_eq, List.isEmpty_iff, Option.any_eq_true] at htest
  obtain ⟨⟨hcode, hargs⟩, h, hhosted, hlive, hstops⟩ := htest
  obtain ⟨e, b', hrun, he⟩ := exists_of_failsWith hstops
  obtain rfl : e = .ivarNotFound "fuse" := beq_iff_eq.mp he
  refine ⟨h, b', .called hplan (r := ([], [])) (by rw [hargs]; rfl) ?_⟩
  rw [hcode]
  exact .hosted hhosted ⟨hlive, .error (.ivarNotFound "fuse"), hrun, rfl⟩

/-- The call through the second context does not report the failure that is left in the first. -/
theorem reports_iff_boom : ∃ h b',
    (FailsIn nestingLimit 1 (sharedMessage "boom") sharedBridge h (.ivarNotFound "fuse") b' ∧
      returns (dispatch (.within nestingLimit) 1 (sharedMessage "boom")) sharedBridge = true) ∧
    (Reports (.within nestingLimit) 1 (sharedMessage "boom") sharedBridge (.ivarNotFound "fuse") ↔
      Encodes (.within nestingLimit) 1 (sharedMessage "boom") sharedBridge ∧
        (b'.pending 1 = some (.ivarNotFound "fuse") ∨ b'.pending 1 = none ∧ h.context = 1)) := by
  obtain ⟨h, b', hf⟩ := exists_failsIn_boom
  have hret : returns (dispatch (.within nestingLimit) 1 (sharedMessage "boom")) sharedBridge =
      true := by decide +kernel
  exact ⟨h, b', ⟨hf, hret⟩, (reports_iff hf hret).1⟩

/-- **A failure that another call reports**: the host body fails during a call through the second
context, which answers nothing and reports no failure. A later call through the first context fails
with it. -/
theorem failure_elsewhere : ∃ h b' b₁ b₂,
    FailsIn nestingLimit 1 (sharedMessage "boom") sharedBridge h (.ivarNotFound "fuse") b' ∧
    EStateM.run (dispatch (.within nestingLimit) 1 (sharedMessage "boom")) sharedBridge =
      .ok .nil b₁ ∧
    EStateM.run (dispatch (.within nestingLimit) 0 (sharedMessage "self")) b₁ =
      .error (.error (.ivarNotFound "fuse")) b₂ := by
  obtain ⟨h, b', hf⟩ := exists_failsIn_boom
  have hends : (dispatch (.within nestingLimit) 1 (sharedMessage "boom")).endsWith (fun v b₁ =>
      v.equals .nil && (dispatch (.within nestingLimit) 0 (sharedMessage "self")).failsWith
        (· == .ivarNotFound "fuse") b₁) sharedBridge = true := by decide +kernel
  obtain ⟨v, b₁, hfirst, htest⟩ := exists_of_endsWith hends
  obtain ⟨hnil, hsecond⟩ := Bool.and_eq_true_iff.mp htest
  obtain ⟨e, b₂, hrun, he⟩ := exists_of_failsWith hsecond
  obtain rfl : e = .ivarNotFound "fuse" := beq_iff_eq.mp he
  obtain rfl : v = .nil := by cases v <;> first | rfl | cases hnil
  exact ⟨h, b', b₁, b₂, hf, hfirst, hrun⟩

end Act

end MessageBridge
