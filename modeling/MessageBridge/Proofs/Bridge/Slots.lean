import MessageBridge.Proofs.Bridge.Step

/-!
# The two slots

A failure of a host body waits in the context that registered the body, and a raised exception waits
in the object space, until a call is ended. This module says which steps touch these two slots, and
that code which is called ends with a result or at a fault, never with an error of its own: whatever
fails inside is left in a slot.

## Main definitions

* `Bridge.pending` — the failure that waits in a context.
* `Bridge.Settled` — nothing waits, neither in the context nor in the object space.
* `Act.FaultsOnly` — the action ends well or at a fault.

## Main results

* `Upkeep.pending_eq`, `Upkeep.raised_eq` — record keeping leaves both slots alone.
* `Step.capabilities_eq`, `Step.size_eq` — no code changes what a context may do, or how many contexts
  there are.
* `Step.layouts_suffix` — no code makes a context forget layouts.
* `Act.faultsOnly_within` — called code never ends with an error.
-/

namespace MessageBridge

namespace Bridge

/-- The failure of a host body that waits in a context. -/
def pending (b : Bridge) (ctx : ContextId) : Option Error := (b.contextAt ctx).pendingError

/-- **Settled**: no failure waits in the context and no exception in the object space. -/
structure Settled (b : Bridge) (ctx : ContextId) : Prop where
  pending : b.pending ctx = none
  raised : b.space.raised = 0

instance (b : Bridge) (ctx : ContextId) : Decidable (b.Settled ctx) :=
  decidable_of_iff (b.pending ctx = none ∧ b.space.raised = 0)
    ⟨fun h => ⟨h.1, h.2⟩, fun h => ⟨h.pending, h.raised⟩⟩

/-- What forgets no layouts of one context forgets none of any. -/
lemma layouts_suffix_modify {f : Context → Context}
    (hf : ∀ x, x.translator.layouts <:+ (f x).translator.layouts) (b : Bridge) (i ctx : ContextId) :
    (b.contextAt ctx).translator.layouts <:+
      (({ b with contexts := b.contexts.modify i f } : Bridge).contextAt ctx).translator.layouts := by
  simp only [contextAt, Array.getElem?_modify]
  split
  · cases b.contexts[ctx]? with
    | none => exact List.suffix_refl _
    | some x => exact hf x
  · exact List.suffix_refl _

end Bridge

/-! ## What record keeping leaves alone -/

namespace Upkeep

variable {b b' : Bridge}

/-- A context changes in its records only. -/
lemma view_contextAt {γ : Type} (view : Context → γ)
    (hview : ∀ c selectors tracked frames translator retained, view { c with
      selectors, tracked, frames, translator, retained } = view c)
    (h : Upkeep b b') (ctx : ContextId) : view (b'.contextAt ctx) = view (b.contextAt ctx) := by
  cases h with
  | intern | store | cache => rfl
  | learning h =>
    cases h with
    | lend => rfl
    | learn i layout =>
      exact b.view_contextAt_modify view
        (fun c => hview c c.selectors c.tracked c.frames _ c.retained) i ctx
  | remember i =>
    exact b.view_contextAt_modify view
      (fun c => hview c _ c.tracked c.frames c.translator c.retained) i ctx
  | refer i a isClass =>
    refine Eq.trans (Bridge.view_contextAt_modify view (fun c => ?_) _ i ctx) rfl
    exact hview c c.selectors _ c.frames c.translator c.retained
  | keepFrame i key s =>
    exact b.view_contextAt_modify view
      (fun c => hview c c.selectors c.tracked _ c.translator c.retained) i ctx
  | retain i blocks =>
    exact b.view_contextAt_modify view
      (fun c => hview c c.selectors c.tracked c.frames c.translator _) i ctx

lemma pending_eq (h : Upkeep b b') (ctx : ContextId) : b'.pending ctx = b.pending ctx :=
  h.view_contextAt Context.pendingError (fun _ _ _ _ _ _ => rfl) ctx

lemma raised_eq (h : Upkeep b b') : b'.space.raised = b.space.raised := by
  cases h with
  | learning h => cases h <;> rfl
  | intern | remember | refer | store | cache | keepFrame | retain => rfl

lemma hosted_eq (h : Upkeep b b') : b'.hosted = b.hosted := by
  cases h with
  | learning h => cases h <;> rfl
  | intern | remember | refer | store | cache | keepFrame | retain => rfl

/-- **Layouts** that a context knows are not forgotten. -/
lemma layouts_suffix (h : Upkeep b b') (ctx : ContextId) :
    (b.contextAt ctx).translator.layouts <:+ (b'.contextAt ctx).translator.layouts := by
  cases h with
  | learning h =>
    cases h with
    | lend => exact List.suffix_refl _
    | learn i layout => exact b.layouts_suffix_modify (by exact fun _ => List.suffix_cons _ _) i ctx
  | intern | store | cache => exact List.suffix_refl _
  | remember i | keepFrame i | retain i | refer i =>
    exact b.layouts_suffix_modify (by exact fun _ => List.suffix_refl _) i ctx

end Upkeep

namespace Step

variable {b b' : Bridge}

lemma layouts_suffix (h : Step b b') (ctx : ContextId) :
    (b.contextAt ctx).translator.layouts <:+ (b'.contextAt ctx).translator.layouts := by
  cases h with
  | upkeep h => exact h.layouts_suffix ctx
  | space | host | trace => exact List.suffix_refl _
  | pending i g => exact b.layouts_suffix_modify (by exact fun _ => List.suffix_refl _) i ctx

lemma capabilities_eq (h : Step b b') (ctx : ContextId) :
    (b'.contextAt ctx).capabilities = (b.contextAt ctx).capabilities := by
  cases h with
  | upkeep h => exact h.view_contextAt Context.capabilities (fun _ _ _ _ _ _ => rfl) ctx
  | space | host | trace => rfl
  | pending i g =>
    refine b.view_contextAt_modify Context.capabilities (fun c => ?_) i ctx
    rfl

/-- No code opens or closes contexts. -/
lemma size_eq (h : Step b b') : b'.contexts.size = b.contexts.size := by
  cases h with
  | upkeep h =>
    cases h with
    | learning h =>
      cases h with
      | lend => rfl
      | learn => exact Array.size_modify
    | intern | store | cache => rfl
    | remember | refer | keepFrame | retain => exact Array.size_modify
  | space | host | trace => rfl
  | pending => exact Array.size_modify

end Step

namespace Act

variable {α β : Type} {b b' : Bridge} {x : Act α}

/-- An action of record keeping leaves settled what is settled, and nothing else. -/
lemma Moves.settled_iff (h : Moves Upkeep x b) (ctx : ContextId) :
    (x.after b).Settled ctx ↔ b.Settled ctx := by
  have hp : (x.after b).pending ctx = b.pending ctx :=
    h.keeps (·.pending ctx) fun _ _ hstep => hstep.pending_eq ctx
  have hr : (x.after b).space.raised = b.space.raised :=
    h.keeps (·.space.raised) fun _ _ hstep => hstep.raised_eq
  refine ⟨fun hs => ⟨?_, ?_⟩, fun hs => ⟨?_, ?_⟩⟩
  · rw [← hp, hs.pending]
  · rw [← hr, hs.raised]
  · rw [hp, hs.pending]
  · rw [hr, hs.raised]

lemma Moves.capabilities_eq (h : Moves Step x b) (ctx : ContextId) :
    ((x.after b).contextAt ctx).capabilities = (b.contextAt ctx).capabilities :=
  h.keeps (fun b => (b.contextAt ctx).capabilities) fun _ _ hstep => hstep.capabilities_eq ctx

lemma Moves.layouts_suffix (h : Moves Step x b) (ctx : ContextId) :
    (b.contextAt ctx).translator.layouts <:+ ((x.after b).contextAt ctx).translator.layouts := by
  have hsteps : Relation.ReflTransGen Step b (x.after b) := h
  generalize x.after b = b' at hsteps
  induction hsteps with
  | refl => exact List.suffix_refl _
  | tail _ hstep ih => exact ih.trans (hstep.layouts_suffix ctx)

/-! ## Code that is called never fails -/

/-- **Faults only**: the action ends well, or at a fault. -/
def FaultsOnly (x : Act α) (b : Bridge) : Prop :=
  ∀ stop b', EStateM.run x b = .error stop b' → ∃ g, stop = .fault g

namespace FaultsOnly

lemma of_ok {a : α} (h : EStateM.run x b = .ok a b') : FaultsOnly x b := by
  intro stop b₁ hstop
  rw [h] at hstop
  cases hstop

lemma bind {f : α → Act β} (hx : FaultsOnly x b)
    (hf : ∀ a b₁, EStateM.run x b = .ok a b₁ → FaultsOnly (f a) b₁) :
    FaultsOnly (x >>= f) b := by
  intro stop b' hstop
  rcases run_bind_eq_error.mp hstop with h | ⟨a, b₁, ha, h⟩
  · exact hx stop b' h
  · exact hf a b₁ ha stop b' h

lemma ite {c : Prop} [Decidable c] {y : Act α} (hx : c → FaultsOnly x b)
    (hy : ¬c → FaultsOnly y b) : FaultsOnly (if c then x else y) b := by
  split
  · next h => exact hx h
  · next h => exact hy h

end FaultsOnly

lemma faultsOnly_pure (a : α) : FaultsOnly (pure a) b := .of_ok rfl

lemma faultsOnly_fault (g : Fault) : FaultsOnly (fault g : Act α) b := by
  intro stop b' h
  cases h
  exact ⟨g, rfl⟩

lemma faultsOnly_require (g : Fault) (a : Option α) : FaultsOnly (require g a) b := by
  cases a with
  | some a => exact faultsOnly_pure a
  | none => exact faultsOnly_fault g

lemma faultsOnly_get : FaultsOnly (get : Act Bridge) b := .of_ok rfl

lemma faultsOnly_fromSpace (g : ObjectSpace → α) : FaultsOnly (fromSpace g) b := .of_ok rfl

lemma faultsOnly_readSpace (g : ObjectSpace → Option α) : FaultsOnly (readSpace g) b :=
  faultsOnly_require _ _

lemma faultsOnly_onSpace (g : ObjectSpace → α × ObjectSpace) : FaultsOnly (onSpace g) b :=
  .of_ok (run_onSpace g)

lemma faultsOnly_intern (name : String) : FaultsOnly (intern name) b :=
  (faultsOnly_onSpace _).bind fun _ _ _ => .ite (fun _ => faultsOnly_pure _) fun _ =>
    faultsOnly_fault _

lemma faultsOnly_tryOnSpace (g : ObjectSpace → Option (α × ObjectSpace)) :
    FaultsOnly (tryOnSpace g) b :=
  (faultsOnly_readSpace g).bind fun _ _ _ => .of_ok rfl

lemma faultsOnly_changeSpace (g : ObjectSpace → Option ObjectSpace) :
    FaultsOnly (changeSpace g) b :=
  (faultsOnly_readSpace g).bind fun _ _ _ => .of_ok rfl

lemma faultsOnly_wrap (ctx : ContextId) (a : Address) : FaultsOnly (wrap ctx a) b := by
  refine .ite (fun _ => faultsOnly_pure _) fun _ => (FaultsOnly.of_ok (run_cached? ctx a)).bind
    fun r b₁ _ => ?_
  split
  · exact faultsOnly_pure _
  · exact (faultsOnly_readSpace _).bind fun _ _ _ => (FaultsOnly.of_ok rfl).bind fun _ _ _ =>
      faultsOnly_pure _

lemma faultsOnly_readAt (a : Address) (g : ObjectSpace → Option α) :
    FaultsOnly (if a = 0 then return none else return some (← readSpace g)) b :=
  .ite (fun _ => faultsOnly_pure _) fun _ =>
    (faultsOnly_readSpace g).bind fun _ _ _ => faultsOnly_pure _

lemma faultsOnly_textAt (a : Address) : FaultsOnly (textAt a) b :=
  .ite (fun _ => faultsOnly_pure _) fun _ =>
    (faultsOnly_readSpace _).bind fun _ _ _ => faultsOnly_pure _

lemma faultsOnly_lookupAbove (receiver : Address) (start : Option ClassId)
    (sel : Option Selector) : FaultsOnly (lookupAbove receiver start sel) b := by
  unfold lookupAbove
  split
  · exact .ite (fun _ => faultsOnly_pure _) fun _ =>
      (faultsOnly_onSpace _).bind fun _ _ _ => faultsOnly_pure _
  · exact faultsOnly_pure _

section Calls

variable {re : Reentry} (hre : ∀ code c b, FaultsOnly (re.invoke code c) b)
include hre

lemma faultsOnly_lookupImplementation (receiver : Address) (sel : Option Selector) :
    FaultsOnly (lookupImplementation re receiver sel) b := by
  have hresolve (c : ClassId) (s : Selector) (b : Bridge) :
      FaultsOnly (resolveMissing re c receiver s) b := by
    refine FaultsOnly.bind ?_ fun question b₁ _ => ?_
    · exact (faultsOnly_fromSpace _).bind fun _ _ _ => (faultsOnly_intern _).bind fun _ _ _ =>
        .ite (fun _ => faultsOnly_pure _) fun _ => (faultsOnly_readSpace _).bind fun _ _ _ =>
          (faultsOnly_fromSpace _).bind fun _ _ _ => faultsOnly_pure _
    · split
      · exact faultsOnly_pure _
      · exact (hre _ _ b₁).bind fun _ _ _ => (faultsOnly_require _ _).bind fun _ _ _ =>
          faultsOnly_pure _
  unfold lookupImplementation
  split
  · exact faultsOnly_pure _
  · refine .ite (fun _ => faultsOnly_pure _) fun _ => (faultsOnly_readSpace _).bind fun c b₁ _ =>
      (faultsOnly_onSpace _).bind fun imp b₂ _ => ?_
    split
    · exact faultsOnly_pure _
    · exact (hresolve c _ b₂).bind fun _ _ _ => .ite
        (fun _ => (faultsOnly_onSpace _).bind fun _ _ _ => faultsOnly_pure _) fun _ =>
          faultsOnly_pure _

lemma faultsOnly_findCode (ctx : ContextId) (t : Target) : FaultsOnly (findCode re ctx t) b :=
  .ite (fun _ => (faultsOnly_lookupAbove _ _ _).bind fun _ _ _ => faultsOnly_pure _) fun _ =>
    (FaultsOnly.of_ok (run_context ctx)).bind fun _ _ _ => .ite
      (fun _ => (faultsOnly_lookupImplementation hre _ _).bind fun _ _ _ => faultsOnly_pure _)
      fun _ => faultsOnly_pure _

lemma faultsOnly_sendAt (receiver sel : Address) : FaultsOnly (sendAt re receiver sel) b := by
  refine (faultsOnly_readAt sel _).bind fun s b₁ _ =>
    (faultsOnly_lookupImplementation hre receiver s).bind fun code b₂ _ =>
      (hre code _ b₂).bind fun bytes b₃ _ => ?_
  split
  · exact faultsOnly_pure _
  · exact faultsOnly_pure _

lemma faultsOnly_runRoutine (routine : Routine) (r : Registers) :
    FaultsOnly (runRoutine re routine r) b := by
  have hword (i : Nat) (b : Bridge) : FaultsOnly (require .unwrittenWord (r.word? i)) b :=
    faultsOnly_require _ _
  have hnew (a : Address) (b : Bridge) : FaultsOnly (instantiate a) b := by
    refine (faultsOnly_readAt a _).bind fun c b₁ _ => ?_
    split
    · exact faultsOnly_onSpace _
    · exact faultsOnly_pure _
  refine (hword 0 b).bind fun receiver b₁ _ => ?_
  cases routine with
  | itself | hash | resolveNothing => exact faultsOnly_pure _
  | classOf => exact (faultsOnly_readAt receiver _).bind fun _ _ _ => faultsOnly_pure _
  | superclassOf | superclassOfClass =>
    exact (faultsOnly_readAt receiver _).bind fun _ _ _ => (faultsOnly_fromSpace _).bind
      fun _ _ _ => faultsOnly_pure _
  | isIdentical => exact (hword 2 b₁).bind fun _ _ _ => faultsOnly_pure _
  | respondsTo | instancesRespondTo =>
    exact (faultsOnly_readAt receiver _).bind fun _ b₂ _ => (hword 2 b₂).bind fun _ _ _ =>
      (faultsOnly_fromSpace _).bind fun _ _ _ => faultsOnly_pure _
  | isKindOf =>
    exact (faultsOnly_readSpace _).bind fun _ _ _ => (faultsOnly_fromSpace _).bind fun _ b₃ _ =>
      (hword 2 b₃).bind fun _ _ _ => faultsOnly_pure _
  | isMemberOf =>
    exact (faultsOnly_readAt receiver _).bind fun _ b₂ _ => (hword 2 b₂).bind fun _ _ _ =>
      faultsOnly_pure _
  | perform => exact (hword 2 b₁).bind fun sel _ _ => faultsOnly_sendAt hre receiver sel
  | dispose =>
    exact .ite (fun _ => (faultsOnly_changeSpace _).bind fun _ _ _ => faultsOnly_pure _) fun _ =>
      faultsOnly_pure _
  | newInstance => exact (hnew receiver b₁).bind fun _ _ _ => faultsOnly_pure _
  | newInitialized =>
    exact (hnew receiver b₁).bind fun a _ _ => (faultsOnly_intern _).bind fun sel _ _ =>
      faultsOnly_sendAt hre a sel.address
  | version =>
    refine (faultsOnly_readAt receiver _).bind fun c b₂ _ => ?_
    split
    · exact (faultsOnly_fromSpace _).bind fun _ _ _ => faultsOnly_pure _
    · exact (faultsOnly_pure _).bind fun _ _ _ => faultsOnly_pure _
  | newException =>
    refine (hword 2 b₁).bind fun name b₂ _ => (hword 3 b₂).bind fun reason b₃ _ =>
      (faultsOnly_readAt receiver _).bind fun c b₄ _ => ?_
    split
    · exact faultsOnly_pure _
    · exact (faultsOnly_textAt name).bind fun _ _ _ => (faultsOnly_textAt reason).bind
        fun _ _ _ => (faultsOnly_tryOnSpace _).bind fun _ _ _ => faultsOnly_pure _
  | exceptionName | exceptionReason =>
    exact (faultsOnly_readSpace _).bind fun _ _ _ => faultsOnly_pure _
  | raise | disposeException =>
    exact (faultsOnly_changeSpace _).bind fun _ _ _ => faultsOnly_pure _

omit hre in
/-- A host body that fails or breaks off is no failure of the code that ran it. -/
lemma faultsOnly_runHosted (h : Hosted) (c : Call) : FaultsOnly (runHosted re h c) b := by
  refine (FaultsOnly.of_ok (run_context h.context)).bind fun x b₁ _ =>
    .ite (fun _ => faultsOnly_pure _) fun _ => FaultsOnly.bind ?_ fun _ _ _ => faultsOnly_pure _
  intro stop b' hstop
  rw [run_tryCatch] at hstop
  cases hr : EStateM.run (respond re h (c.arguments h.signature)) b₁ with
  | ok a b₂ => rw [hr] at hstop; cases hstop
  | error stop₁ b₂ =>
    rw [hr] at hstop
    cases stop₁ with
    | error e => cases hstop
    | panic text => cases hstop
    | fault g => cases hstop; exact ⟨g, rfl⟩

/-- **Called code** ends with a result or at a fault. -/
lemma faultsOnly_invokeVia (code : Implementation) (c : Call) :
    FaultsOnly (invokeVia re code c) b := by
  cases code with
  | nilMethod | constant value => exact faultsOnly_pure _
  | forwarding =>
    exact (faultsOnly_require _ _).bind fun _ _ _ => (faultsOnly_require _ _).bind fun sel _ _ =>
      (faultsOnly_readAt sel _).bind fun _ _ _ => FaultsOnly.bind
        (faultsOnly_get.bind fun _ _ _ => (faultsOnly_readSpace _).bind fun _ _ _ =>
          faultsOnly_get.bind fun _ _ _ => faultsOnly_changeSpace _) fun _ _ _ => faultsOnly_pure _
  | routine routine =>
    exact (faultsOnly_runRoutine hre routine _).bind fun _ _ _ => faultsOnly_pure _
  | receiver | successor => exact (faultsOnly_require _ _).bind fun _ _ _ => faultsOnly_pure _
  | hosted index =>
    refine faultsOnly_get.bind fun x b₁ _ => ?_
    split
    · exact faultsOnly_runHosted _ c
    · exact faultsOnly_fault _
  | library f =>
    exact faultsOnly_get.bind fun _ _ _ => (faultsOnly_require _ _).bind fun _ _ _ =>
      faultsOnly_pure _
  | «variable» => exact faultsOnly_fault _

end Calls

/-- **Called code** ends with a result or at a fault, at every depth of nesting. -/
lemma faultsOnly_within (depth : Nat) (code : Implementation) (c : Call) (b : Bridge) :
    FaultsOnly ((Reentry.within depth).invoke code c) b := by
  induction depth generalizing code c b with
  | zero => exact faultsOnly_fault _
  | succ depth ih => exact faultsOnly_invokeVia ih code c

end Act

end MessageBridge
