import MessageBridge.Bridge.PendingClass
import MessageBridge.Proofs.Bridge.Slots

/-!
# What a call leaves in the slots

A call that gets to its end takes whatever waits in the two slots, also what calls nested in it left
there. A call can be given up before its end: the arguments are encoded only after the code has been
looked up, and looking it up may have run a host body. This module shows that these are all the calls
that leave something behind.

## Main definitions

* `Act.returns` — the action ends with a result or with an error.
* `Act.Strands` — the call is given up while something waits.

## Main results

* `Act.settles_complete` — the end of a call leaves nothing behind, whatever waited before.
* `Act.settled_after_dispatch_iff` — a call that starts with empty slots ends with empty slots
  exactly if it is not given up while something waits.
* `Act.not_settled_after_dispatch` — some call is.
-/

namespace MessageBridge.Act

variable {α β : Type} {b b' : Bridge} {x : Act α} {ctx : ContextId}

/-! ## Actions that come back -/

/-- **Returns**: the action ends with a result or with an error. -/
def returns (x : Act α) (b : Bridge) : Bool :=
  match EStateM.run x b with
  | .ok _ _ | .error (.error _) _ => true
  | .error _ _ => false

lemma returns_of_ok {a : α} (h : EStateM.run x b = .ok a b') : returns x b = true := by
  rw [returns, h]

lemma returns_of_error {stop : Stop} (h : EStateM.run x b = .error stop b') :
    returns x b = true ↔ ∃ e, stop = .error e := by
  rw [returns, h]
  cases stop <;> simp

/-- An action that ends with faults at most comes back only with a result. -/
lemma FaultsOnly.exists_ok (hx : FaultsOnly x b) (h : returns x b = true) :
    ∃ a b₁, EStateM.run x b = .ok a b₁ := by
  cases hrun : EStateM.run x b with
  | ok a b₁ => exact ⟨a, b₁, rfl⟩
  | error stop b₁ =>
    obtain ⟨g, rfl⟩ := hx stop b₁ hrun
    obtain ⟨e, he⟩ := (returns_of_error hrun).mp h
    cases he

/-- The first part of a sequence comes back if the sequence does. -/
lemma returns_of_bind {f : α → Act β} (h : returns (x >>= f) b = true) : returns x b = true := by
  cases hrun : EStateM.run x b with
  | ok a b₁ => exact returns_of_ok hrun
  | error stop b₁ =>
    exact (returns_of_error hrun).mpr ((returns_of_error (run_bind_error hrun)).mp h)

/-- Once the first part of a sequence has ended well, the rest is what counts. -/
lemma returns_bind_ok {f : α → Act β} {a : α} (h : EStateM.run x b = .ok a b') :
    returns (x >>= f) b = returns (f a) b' := by
  rw [returns, run_bind_ok h, returns]

lemma after_bind_ok {f : α → Act β} {a : α} (h : EStateM.run x b = .ok a b') :
    (x >>= f).after b = (f a).after b' := by
  rw [after, run_bind_ok h, after]

lemma after_bind_error {f : α → Act β} {stop : Stop} (h : EStateM.run x b = .error stop b') :
    (x >>= f).after b = b' := after_of_error (run_bind_error h)

/-- **Leaves**: where the action comes back, the state that it leaves behind is one of `P`. -/
def Leaves (P : Bridge → Prop) (x : Act α) (b : Bridge) : Prop :=
  returns x b = true → P (x.after b)

namespace Leaves

variable {P : Bridge → Prop}

lemma of_ok {a : α} (h : EStateM.run x b = .ok a b') (hP : P b') : Leaves P x b := by
  intro _
  rwa [after_of_ok h]

lemma bind {f : α → Act β} (hx : Leaves P x b)
    (hf : ∀ a b₁, EStateM.run x b = .ok a b₁ → P b₁ → Leaves P (f a) b₁) :
    Leaves P (x >>= f) b := by
  intro hret
  have hP : P (x.after b) := hx (returns_of_bind hret)
  cases h : EStateM.run x b with
  | ok a b₁ =>
    rw [after_of_ok h] at hP
    rw [after_bind_ok h]
    exact hf a b₁ h hP (by rwa [returns_bind_ok h] at hret)
  | error stop b₁ =>
    rwa [after_bind_error h, ← after_of_error h]

/-- A handled error leaves what the handler makes of the state that the error left. -/
lemma recover {handle : Error → Act α} (hx : Leaves P x b)
    (hh : ∀ e b₁, P b₁ → Leaves P (handle e) b₁) : Leaves P (recover x handle) b := by
  intro hret
  cases h : EStateM.run x b with
  | ok a b₁ =>
    have hrun : EStateM.run (Act.recover x handle) b = .ok a b₁ := by rw [run_recover, h]
    rw [after_of_ok hrun, ← after_of_ok h]
    exact hx (returns_of_ok h)
  | error stop b₁ =>
    cases stop with
    | error e =>
      have hrun : EStateM.run (Act.recover x handle) b = EStateM.run (handle e) b₁ := by
        rw [run_recover, h]
      rw [after, hrun, ← after]
      refine hh e b₁ ?_ (by rwa [returns, hrun, ← returns] at hret)
      rw [← after_of_error h]
      exact hx ((returns_of_error h).mpr ⟨e, rfl⟩)
    | panic text | fault g =>
      rw [returns, run_recover, h] at hret
      cases hret

lemma ite {c : Prop} [Decidable c] {y : Act α} (hx : c → Leaves P x b) (hy : ¬c → Leaves P y b) :
    Leaves P (if c then x else y) b := by
  split
  · next h => exact hx h
  · next h => exact hy h

end Leaves

/-! ## The end of a call -/

/-- **Ready**: nothing waits, and the context can take exceptions. -/
structure Ready (ctx : ContextId) (b : Bridge) : Prop where
  settled : b.Settled ctx
  exceptions : (b.contextAt ctx).capabilities.exceptions = true

lemma Moves.ready (h : Moves Upkeep x b) (hb : Ready ctx b) : Ready ctx (x.after b) :=
  ⟨(h.settled_iff ctx).mpr hb.settled, by rw [h.toStep.capabilities_eq, hb.exceptions]⟩

lemma Moves.leaves (h : Moves Upkeep x b) (hb : Ready ctx b) : Leaves (Ready ctx) x b :=
  fun _ => h.ready hb

/-- Taking the failure that waits leaves none. -/
lemma run_takePendingError (hcap : (b.contextAt ctx).capabilities.exceptions = true) :
    ∃ b₁, EStateM.run (takePendingError ctx) b = .ok (b.pending ctx) b₁ ∧ b₁.pending ctx = none ∧
      (b₁.contextAt ctx).capabilities.exceptions = true := by
  refine ⟨_, rfl, ?_, ?_⟩
  · simp only [Bridge.pending, Bridge.contextAt, Array.getElem?_modify, if_true]
    cases b.contexts[ctx]? <;> rfl
  · rw [← hcap]
    refine congrArg _ (b.view_contextAt_modify Context.capabilities (fun c => ?_) ctx ctx)
    rfl

/-- A context that can take exceptions leaves none in the object space. -/
lemma ready_takeException {r : Option ObjectRef}
    (hpending : b.pending ctx = none)
    (hcap : (b.contextAt ctx).capabilities.exceptions = true)
    (h : EStateM.run (takeException ctx) b = .ok r b') : Ready ctx b' := by
  unfold takeException at h
  rw [run_bind_ok (run_context ctx)] at h
  rw [if_pos hcap, run_bind_ok (run_onSpace _)] at h
  rw [← after_of_ok h]
  exact (upkeep_wrap ctx _).ready ⟨⟨hpending, rfl⟩, hcap⟩

lemma faultsOnly_takeException (ctx : ContextId) : FaultsOnly (takeException ctx) b :=
  (FaultsOnly.of_ok (run_context ctx)).bind fun _ _ _ =>
    .ite (fun _ => (faultsOnly_onSpace _).bind fun _ _ _ => faultsOnly_wrap ctx _) fun _ =>
      faultsOnly_pure _

section Complete

variable {re : Reentry}

/-- The texts of an exception are asked for by calls of their own, which leave nothing behind. -/
lemma leaves_exceptionText
    (hask : ∀ r name b, Ready ctx b → Leaves (Ready ctx) (re.ask ctx r name) b)
    (exception : ObjectRef) (name : String) (hb : Ready ctx b) :
    Leaves (Ready ctx) (exceptionText re ctx exception name) b := by
  have hor (r : ObjectRef) (name : String) (b : Bridge) (hb : Ready ctx b) :
      Leaves (Ready ctx) (orNone (re.ask ctx r name)) b := by
    refine Leaves.recover ?_ fun e b₁ hb₁ => (moves_pure _).leaves hb₁
    rw [map_eq_pure_bind]
    exact (hask r name b hb).bind fun _ _ _ hb₁ => (moves_pure _).leaves hb₁
  refine ((upkeep_respondsTo ctx exception name).leaves hb).bind fun known b₁ _ hb₁ =>
    .ite (fun _ => (hor exception name b₁ hb₁).bind fun answer b₂ _ hb₂ => ?_) fun _ =>
      (moves_pure _).leaves hb₁
  split
  · exact (moves_pure _).leaves hb₂
  · exact (hor _ _ b₂ hb₂).bind fun _ _ _ hb₃ => (moves_pure _).leaves hb₃
  · exact (moves_pure _).leaves hb₂

/-- **The end of a call** leaves nothing behind, whatever waited before. -/
lemma settles_complete
    (hask : ∀ r name b, Ready ctx b → Leaves (Ready ctx) (re.ask ctx r name) b)
    (hcap : (b.contextAt ctx).capabilities.exceptions = true) (ret : Descriptor)
    (result : Option (List UInt8)) : Leaves (Ready ctx) (complete re ctx ret result) b := by
  intro hret
  obtain ⟨b₁, hrun₁, hpending, hcap₁⟩ := run_takePendingError hcap
  unfold complete at hret ⊢
  rw [returns_bind_ok hrun₁] at hret
  rw [after_bind_ok hrun₁]
  split at hret
  · next e _ =>
    obtain ⟨r, b₂, hrun₂⟩ := (faultsOnly_takeException ctx).exists_ok (returns_of_bind hret)
    rw [after_bind_ok hrun₂]
    exact ready_takeException hpending hcap₁ hrun₂
  · obtain ⟨r, b₂, hrun₂⟩ := (faultsOnly_takeException ctx).exists_ok (returns_of_bind hret)
    have hb₂ : Ready ctx b₂ := ready_takeException hpending hcap₁ hrun₂
    rw [returns_bind_ok hrun₂] at hret
    rw [after_bind_ok hrun₂]
    refine (show Leaves (Ready ctx) _ b₂ from ?_) hret
    cases r with
    | some exception =>
      exact (leaves_exceptionText hask exception "name" hb₂).bind fun _ b₃ _ hb₃ =>
        (leaves_exceptionText hask exception "reason" hb₃).bind fun _ b₄ _ hb₄ =>
          (moves_fail _).leaves hb₄
    | none =>
      exact .ite (fun _ => (moves_pure _).leaves hb₂) fun _ =>
        ((moves_require _ _).leaves hb₂).bind fun _ b₃ _ hb₃ =>
          (upkeep_decodeResult ctx ret _).leaves hb₃

end Complete

/-! ## A whole call -/

/-- What is left of planning the call for a message once its signature is settled. -/
def planWith (re : Reentry) (ctx : ContextId) (t : Target) (m : Message) (s : Signature) : Act Plan := do
  if s.declared.length ≠ m.args.length then
    fail (.argumentCountMismatch m.selector s.declared.length m.args.length)
  else
    match ← findCode re ctx t with
    | none => fail (.unrecognizedSelector m.selector)
    | some code => return ⟨s, code, [t.receiver.address, t.sel.address], m.args⟩

/-- What the arguments of a planned call are encoded as. -/
def Plan.declared (p : Plan) : List (Descriptor × Value) :=
  (p.signature.args.drop p.words.length).zip p.args

/-- Once the arguments are encoded, a call is the code that runs, and then the blocks are kept. -/
lemma run_callCode {re : Reentry} {p : Plan} {r : List (List UInt8) × List Address}
    (hargs : EStateM.run (encodeArguments ctx 0 p.declared) b = .ok r b') :
    EStateM.run (callCode re ctx p.signature p.code p.words p.args) b =
      EStateM.run (do
        let result ← re.invoke p.code ⟨p.signature, p.words.map wordBytes ++ r.1⟩
        retain ctx r.2
        return result) b' := run_bind_ok hargs

/-- Code that runs a host body runs the one of its number. -/
lemma run_invoke_hosted {depth index : Nat} {h : Hosted} {c : Call}
    (hhosted : b.hosted[index]? = some h) :
    EStateM.run ((Reentry.within (depth + 1)).invoke (.hosted index) c) b =
      EStateM.run (runHosted (.within depth) h c) b := by
  refine (run_bind_ok (x := (get : Act Bridge)) rfl).trans ?_
  rw [hhosted]

/-- **Strands**: planning the call left something waiting, and then its arguments cannot be
encoded. -/
def Strands (re : Reentry) (ctx : ContextId) (d : Dispatch) (b : Bridge) : Prop :=
  ∃ p b₁ e b₂, EStateM.run (plan re ctx d) b = .ok p b₁ ∧ ¬b₁.Settled ctx ∧
    EStateM.run (encodeArguments ctx 0 p.declared) b₁ = .error (.error e) b₂

/-- Record keeping that ends well leaves settled what is settled. -/
lemma Moves.settled_of_ok {a : α} (h : Moves Upkeep x b) (hb : b.Settled ctx)
    (hrun : EStateM.run x b = .ok a b') : b'.Settled ctx := by
  rw [← after_of_ok hrun]
  exact (h.settled_iff ctx).mpr hb

/-- Record keeping that fails leaves settled what is settled, and so does what comes after it. -/
lemma settled_of_bind_error {f : α → Act β} {e : Error} (h : Moves Upkeep x b)
    (hb : b.Settled ctx)
    (hf : ∀ a b₁, EStateM.run x b = .ok a b₁ → b₁.Settled ctx →
      EStateM.run (f a) b₁ = .error (.error e) b' → b'.Settled ctx)
    (hrun : EStateM.run (x >>= f) b = .error (.error e) b') : b'.Settled ctx := by
  rcases run_bind_eq_error.mp hrun with hx | ⟨a, b₁, ha, hx⟩
  · rw [← after_of_error hx]
    exact (h.settled_iff ctx).mpr hb
  · exact hf a b₁ ha (h.settled_of_ok hb ha) hx

section Dispatch

variable {re : Reentry} (hre : ∀ code c b, FaultsOnly (re.invoke code c) b)

/-- Where the context cannot look code up, nothing happens. -/
lemma eq_of_findCode_eq_none {t : Target} (h : EStateM.run (findCode re ctx t) b = .ok none b') :
    b' = b := by
  unfold findCode at h
  split at h
  · obtain ⟨code, b₁, -, h⟩ := run_bind_eq_ok.mp h
    cases h
  · rw [run_bind_ok (run_context ctx)] at h
    split at h
    · obtain ⟨code, b₁, -, h⟩ := run_bind_eq_ok.mp h
      cases h
    · cases h
      rfl

include hre

/-- A call that was not planned to the end has run no code. -/
lemma settled_of_plan_error {d : Dispatch} {e : Error} (hb : b.Settled ctx)
    (h : EStateM.run (plan re ctx d) b = .error (.error e) b') : b'.Settled ctx := by
  cases d with
  | function f args =>
    rw [← after_of_error h, Moves.settled_iff _ ctx]
    · exact hb
    · exact .ite (fun _ => moves_fail _) fun _ =>
        (upkeep_frame ctx _ fun _ => moves_pure _).bind fun _ _ _ => moves_pure _
  | message route receiver m =>
    refine settled_of_bind_error (upkeep_target ctx receiver route m.selector) hb
      (fun t b₁ _ hb₁ h => ?_) h
    refine settled_of_bind_error (moves_fromSpace _) hb₁ (fun method b₂ _ hb₂ h => ?_) h
    refine settled_of_bind_error (upkeep_messageFrame ctx method m) hb₂ (fun s b₃ _ hb₃ h => ?_) h
    split at h
    · cases h
      exact hb₃
    · rcases run_bind_eq_error.mp h with h | ⟨code, b₄, hcode, h⟩
      · obtain ⟨g, hg⟩ := faultsOnly_findCode hre ctx t _ _ h
        cases hg
      · cases code with
        | none =>
          cases h
          rwa [eq_of_findCode_eq_none hcode]
        | some code => cases h

/-- Once the arguments are encoded, a call that comes back has a result. -/
lemma exists_run_callCode {p : Plan} {r : List (List UInt8) × List Address}
    (hargs : EStateM.run (encodeArguments ctx 0 p.declared) b = .ok r b')
    (hret : returns (callCode re ctx p.signature p.code p.words p.args) b = true) :
    ∃ result b₁, EStateM.run (callCode re ctx p.signature p.code p.words p.args) b =
      .ok result b₁ := by
  rw [returns, run_callCode hargs, ← returns] at hret
  rw [run_callCode hargs]
  obtain ⟨result, b₁, hrun⟩ := (hre p.code _ b').exists_ok (returns_of_bind hret)
  exact ⟨result, _, by rw [run_bind_ok hrun]; rfl⟩

/-- **A call that is made** leaves nothing behind, whatever planning it left. -/
lemma leaves_carryOut {p : Plan} {r : List (List UInt8) × List Address}
    (hmoves : re.Moves Step)
    (hask : ∀ r name b, Ready ctx b → Leaves (Ready ctx) (re.ask ctx r name) b)
    (hcap : (b.contextAt ctx).capabilities.exceptions = true)
    (hargs : EStateM.run (encodeArguments ctx 0 p.declared) b = .ok r b') :
    Leaves (Ready ctx) (carryOut re ctx p) b := by
  intro hret
  unfold carryOut at hret ⊢
  obtain ⟨result, b₁, hrun⟩ := exists_run_callCode hre hargs (returns_of_bind hret)
  have hcap₁ : (b₁.contextAt ctx).capabilities.exceptions = true := by
    rw [← after_of_ok hrun, (moves_callCode hmoves ctx _ _ _ _).capabilities_eq, hcap]
  rw [returns_bind_ok hrun] at hret
  rw [after_bind_ok hrun]
  exact settles_complete hask hcap₁ _ _ hret

end Dispatch

/-- **A call** leaves nothing behind unless it is given up while something waits. -/
lemma ready_or_strands {depth : Nat} {d : Dispatch}
    (hask : ∀ r name b, Ready ctx b →
      Leaves (Ready ctx) ((Reentry.within depth).ask ctx r name) b) (hb : Ready ctx b) :
    Leaves (fun b' => Ready ctx b' ∨ Strands (.within depth) ctx d b)
      (dispatch (.within depth) ctx d) b := by
  intro hret
  have hmoves : (Reentry.within depth).Moves Step := Reentry.moves_within depth
  unfold dispatch at hret ⊢
  cases hplan : EStateM.run (plan (.within depth) ctx d) b with
  | error stop b₁ =>
    obtain ⟨e, rfl⟩ := (returns_of_error hplan).mp (returns_of_bind hret)
    rw [after_bind_error hplan]
    refine .inl ⟨settled_of_plan_error (faultsOnly_within depth) hb.settled hplan, ?_⟩
    rw [← after_of_error hplan, (moves_plan hmoves ctx d).capabilities_eq, hb.exceptions]
  | ok p b₁ =>
    have hcap : (b₁.contextAt ctx).capabilities.exceptions = true := by
      rw [← after_of_ok hplan, (moves_plan hmoves ctx d).capabilities_eq, hb.exceptions]
    rw [returns_bind_ok hplan] at hret
    rw [after_bind_ok hplan]
    cases hargs : EStateM.run (encodeArguments ctx 0 p.declared) b₁ with
    | ok r b₂ =>
      exact .inl (leaves_carryOut (faultsOnly_within depth) hmoves hask hcap hargs hret)
    | error stop b₂ =>
      have hrun : EStateM.run (carryOut (.within depth) ctx p) b₁ = .error stop b₂ :=
        run_bind_error (run_bind_error hargs)
      obtain ⟨e, rfl⟩ := (returns_of_error hrun).mp hret
      rw [after_of_error hrun]
      have hkeeps := upkeep_encodeArguments (R := Upkeep) (b := b₁) ctx 0 p.declared
      by_cases hsettled : b₁.Settled ctx
      · rw [← after_of_error hargs]
        exact .inl (hkeeps.ready ⟨hsettled, hcap⟩)
      · exact .inr ⟨p, b₁, e, b₂, hplan, hsettled, hargs⟩

/-- The arguments that a dispatch gives. -/
def Dispatch.args : Dispatch → List Value
  | .message _ _ m => m.args
  | .function _ args => args

/-- A plan passes the arguments on as they were given. -/
lemma args_of_plan {re : Reentry} {d : Dispatch} {p : Plan}
    (h : EStateM.run (plan re ctx d) b = .ok p b') : p.args = d.args := by
  cases d with
  | message route receiver m =>
    obtain ⟨t, b₁, -, h⟩ := run_bind_eq_ok.mp h
    obtain ⟨method, b₂, -, h⟩ := run_bind_eq_ok.mp h
    obtain ⟨s, b₃, -, h⟩ := run_bind_eq_ok.mp h
    split at h
    · cases h
    · obtain ⟨code, b₄, -, h⟩ := run_bind_eq_ok.mp h
      cases code with
      | none => cases h
      | some code => cases h; rfl
  | function f args =>
    simp only [plan] at h
    split at h
    · cases h
    · obtain ⟨s, b₁, -, h⟩ := run_bind_eq_ok.mp h
      cases h
      rfl

/-- A call without arguments is never given up: nothing can fail to be encoded. -/
lemma not_strands {re : Reentry} {d : Dispatch} (h : d.args = []) : ¬Strands re ctx d b := by
  rintro ⟨p, b₁, e, b₂, hplan, -, hargs⟩
  have hnone : p.declared = [] := by rw [Plan.declared, args_of_plan hplan, h, List.zip_nil_right]
  rw [hnone] at hargs
  cases hargs

/-- **A question** that the end of a call asks leaves nothing behind, at any depth. -/
lemma leaves_ask (depth : Nat) (r : ObjectRef) (name : String) (hb : Ready ctx b) :
    Leaves (Ready ctx) ((Reentry.within depth).ask ctx r name) b := by
  induction depth generalizing r name b with
  | zero => intro hret; cases hret
  | succ depth ih =>
    intro hret
    rcases ready_or_strands (fun r name b hb => ih r name hb) hb hret with h | h
    · exact h
    · exact absurd h (not_strands rfl)

/-- **What a call leaves in the slots**: a call that starts with empty slots and comes back ends with
empty slots exactly if it was not given up while something waited. -/
theorem settled_after_dispatch_iff {depth : Nat} {d : Dispatch} (hb : b.Settled ctx)
    (hcap : (b.contextAt ctx).capabilities.exceptions = true)
    (hret : returns (dispatch (.within depth) ctx d) b = true) :
    ((dispatch (.within depth) ctx d).after b).Settled ctx ↔
      ¬Strands (.within depth) ctx d b := by
  constructor
  · rintro hsettled ⟨p, b₁, e, b₂, hplan, hwaiting, hargs⟩
    have hrun : EStateM.run (dispatch (.within depth) ctx d) b = .error (.error e) b₂ := by
      unfold dispatch
      rw [run_bind_ok hplan]
      exact run_bind_error (run_bind_error hargs)
    rw [after_of_error hrun, ← after_of_error hargs,
      (upkeep_encodeArguments ctx 0 p.declared).settled_iff ctx] at hsettled
    exact hwaiting hsettled
  · intro hstrands
    rcases ready_or_strands (fun r name b hb => leaves_ask depth r name hb) ⟨hb, hcap⟩ hret with h | h
    · exact h.settled
    · exact absurd h hstrands

/-! ## A call that is given up -/

/-- A fresh bridge with one context. -/
def freshBridge : Bridge := (Bridge.openContext {} {} {}).2

/-- A class that fails when it is asked for a missing method, and an instance of it. -/
def brokenResolver : Act Value := do
  let p ← extend 0 (← classNamed? 0 "Object") "Leaky" 0
  p.addClassMethod "resolveInstanceMethod:" "B@::" (.fail (.ivarNotFound "fuse"))
  let p ← p.register
  send 0 p.classRef { selector := "new" }

/-- The state after the class was built. -/
def brokenBridge : Bridge := brokenResolver.after freshBridge

/-- The instance, told a selector that it has no method for, with a number for an object. -/
def brokenMessage : Dispatch :=
  .message .direct ⟨4, 0x40000000000, false⟩ { selector := "foo:", args := [.int 1] }

/-- The slots before and after a call that is given up. -/
theorem settled_after_dispatch_iff_broken :
    (brokenBridge.Settled 0 ∧ (brokenBridge.contextAt 0).capabilities.exceptions = true ∧
      returns (dispatch (.within nestingLimit) 0 brokenMessage) brokenBridge = true) ∧
    (((dispatch (.within nestingLimit) 0 brokenMessage).after brokenBridge).Settled 0 ↔
      ¬Strands (.within nestingLimit) 0 brokenMessage brokenBridge) := by
  have hsettled : brokenBridge.Settled 0 := by decide +kernel
  have hcap : (brokenBridge.contextAt 0).capabilities.exceptions = true := by decide +kernel
  have hret : returns (dispatch (.within nestingLimit) 0 brokenMessage) brokenBridge = true := by
    decide +kernel
  exact ⟨⟨hsettled, hcap, hret⟩, settled_after_dispatch_iff hsettled hcap hret⟩

/-- **A failure that stays behind**: the call starts with empty slots and comes back, and the failure
of the host body that was asked for the method waits for a later call. -/
theorem not_settled_after_dispatch :
    brokenBridge.Settled 0 ∧ (brokenBridge.contextAt 0).capabilities.exceptions = true ∧
      returns (dispatch (.within nestingLimit) 0 brokenMessage) brokenBridge = true ∧
      ((dispatch (.within nestingLimit) 0 brokenMessage).after brokenBridge).pending 0 =
        some (.ivarNotFound "fuse") := by
  decide +kernel

end MessageBridge.Act
