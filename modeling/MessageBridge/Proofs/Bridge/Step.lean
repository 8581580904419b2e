import MessageBridge.Bridge.Execution
import MessageBridge.Proofs.Bridge.Types
import MessageBridge.Proofs.Encoding.Denoted
import MessageBridge.Proofs.Space.Growth

/-!
# Steps of running code

Native code and host bodies can do more than keep records: they write memory, change classes, raise
exceptions, add host bodies, write to the trace, and leave failures behind. This module says once what
one step of any code can be, and shows that a whole call takes no other steps, however deep it is
nested.

## Main definitions

* `Step` — one step of running code.
* `Running` — a relation that has the steps of running code and those of settling a signature.
* `Reentry.Moves` — calls from inside a call take only steps of `R`.

## Main results

* `Body.moves_eval` — a host body takes only the steps of code, and so only those of any relation that
  is `Running`.
* `Act.moves_invokeVia`, `Act.moves_dispatch` — so does any code that is called, and any call.
* `Reentry.moves_within` — at any depth of nesting.
-/

namespace MessageBridge

/-- **Step**: one step of running code. What contexts may do, what they know about types and whether
they live is not among the things that code can change. -/
inductive Step : Bridge → Bridge → Prop
  /-- A step of record keeping. -/
  | upkeep {b b' : Bridge} (h : Upkeep b b') : Step b b'
  /-- The object space grows into another one. -/
  | space {b : Bridge} {space : ObjectSpace} (h : b.space.Grows space) : Step b { b with space }
  /-- A host body is added. -/
  | host {b : Bridge} (h : Hosted) : Step b { b with hosted := b.hosted.push h }
  /-- The trace grows. -/
  | trace {b : Bridge} (v : Value) : Step b { b with trace := v :: b.trace }
  /-- The failure that waits in a context becomes another one. -/
  | pending {b : Bridge} (ctx : ContextId) (g : Context → Option Error) :
      Step b { b with contexts := b.contexts.modify ctx fun c => { c with pendingError := g c } }

/-- **Minds**: the selector is in the table, or a context remembers it. -/
def Bridge.Minds (b : Bridge) (sel : Selector) : Prop :=
  sel.index < b.space.selectors.names.size ∨ ∃ ctx, ∃ e ∈ (b.contextAt ctx).selectors, e.2 = sel

/-- **Running**: a relation that has every step of running code, where the steps that keep a signature
need not be there, but only what settles the signature of a call as a whole. -/
class Running (R : Bridge → Bridge → Prop) : Prop extends Recording R where
  space : ∀ {b : Bridge} {space}, b.space.Changes space → R b { b with space }
  /-- A method is declared for a selector that is known, with the type string of a signature. -/
  define : ∀ {b : Bridge} {classes : ClassTable},
    (∀ sel, classes.Declares sel → b.space.classes.Declares sel ∨ b.Minds sel) →
      (∀ types, classes.Types types → b.space.classes.Types types ∨ Signature.Written types) →
        R b { b with space := b.space.withClasses classes }
  host : ∀ {b : Bridge} (h : Hosted), R b { b with hosted := b.hosted.push h }
  trace : ∀ {b : Bridge} (v : Value), R b { b with trace := v :: b.trace }
  pending : ∀ {b : Bridge} (ctx : ContextId) (g : Context → Option Error),
    R b { b with contexts := b.contexts.modify ctx fun c => { c with pendingError := g c } }
  message : ∀ ctx method m b, Act.Moves R (Act.messageFrame ctx method m) b
  function : ∀ ctx (f : Function) b,
    Act.Moves R (Act.frame ctx ("fn " ++ f.signature.encoding) (pure f.signature)) b

/-- **Moves**: calls from inside a call take only steps of `R`. -/
structure Reentry.Moves (R : Bridge → Bridge → Prop) (re : Reentry) : Prop where
  invoke : ∀ code c b, Act.Moves R (re.invoke code c) b
  ask : ∀ ctx r name b, Act.Moves R (re.ask ctx r name) b

namespace Act

variable {α : Type} {R : Bridge → Bridge → Prop} {b : Bridge} {x : Act α}

lemma Moves.toStep (h : Moves Upkeep x b) : Moves Step x b := h.mono fun _ _ => .upkeep

instance : Running Step where
  of_upkeep h _ _ _ := .upkeep h
  space h := .space h.grows
  define _ _ := .space ⟨id, .refl _⟩
  host := .host
  trace := .trace
  pending := .pending
  message ctx method m _ := (upkeep_messageFrame ctx method m).toStep
  function ctx _ _ := (upkeep_frame ctx _ fun _ => moves_pure _).toStep

/-! ## Changes to the object space -/

lemma moves_onSpace [Running R] {g : ObjectSpace → α × ObjectSpace}
    (hg : ∀ s : ObjectSpace, s.Changes (g s).2) : Moves R (onSpace g) b :=
  .of_step (Running.space (hg b.space))

lemma moves_tryOnSpace [Running R] {g : ObjectSpace → Option (α × ObjectSpace)}
    (hg : ∀ (s : ObjectSpace) (r : α × ObjectSpace), g s = some r → s.Changes r.2) :
    Moves R (tryOnSpace g) b := by
  refine (moves_readSpace g).bind fun r b₁ h => ?_
  obtain ⟨hr, rfl⟩ := run_readSpace_eq_ok.mp h
  exact Moves.bind (.of_step (Running.space (hg _ r hr))) fun _ _ _ => moves_pure _

lemma Moves.changeSpace (hspace : ∀ b space, b.space.Changes space → R b { b with space })
    {g : ObjectSpace → Option ObjectSpace}
    (hg : ∀ s s', g s = some s' → s.Changes s') : Moves R (changeSpace g) b := by
  refine (moves_readSpace g).bind fun s b₁ h => ?_
  obtain ⟨hs, rfl⟩ := run_readSpace_eq_ok.mp h
  exact .of_step (hspace _ s (hg _ s hs))

lemma moves_changeSpace [Running R] {g : ObjectSpace → Option ObjectSpace}
    (hg : ∀ s s', g s = some s' → s.Changes s') : Moves R (changeSpace g) b :=
  .changeSpace (fun _ _ h => Running.space h) hg

lemma moves_throw [Running R] (a : Address) :
    Moves R (changeSpace fun s => some (s.throw a)) b := by
  refine moves_changeSpace fun s s' h => ?_
  cases h
  exact s.changes_throw a

/-- A change of the classes alone, which declares nothing new. -/
lemma moves_changeClasses [Running R] {g : ObjectSpace → ClassTable}
    (hg : b.space.classes.Encloses (g b.space)) :
    Moves R (changeSpace fun s => some (s.withClasses (g s))) b :=
  .of_step (Running.space (ObjectSpace.changes_withClasses hg))

/-! ## What host bodies do -/

lemma moves_findIvar (r : ObjectRef) (name : String) :
    Moves R (findIvar r name) b := by
  refine (moves_checkName name).bind fun _ b₁ _ => (moves_readSpace _).bind fun c b₂ _ =>
    (moves_fromSpace _).bind fun i b₃ _ => ?_
  split
  · exact moves_pure _
  · exact moves_fail _

lemma upkeep_ivar [Recording R] (ctx : ContextId) (r : ObjectRef) (name : String) :
    Moves R (ivar ctx r name) b :=
  Moves.bind
    ((moves_findIvar r name).bind fun _ _ _ =>
      (upkeep_withStructs ctx _).bind fun _ _ _ =>
        (moves_readSpace _).bind fun _ _ _ => moves_pure _)
    fun _ _ _ => upkeep_decode ctx _ _

lemma moves_setIvar [Running R] (ctx : ContextId) (r : ObjectRef) (name : String) (v : Value) :
    Moves R (setIvar ctx r name v) b :=
  (moves_findIvar r name).bind fun _ _ _ =>
    (upkeep_withStructs ctx _).bind fun _ b₂ _ =>
      (upkeep_encode ctx 0 _ _ v b₂).bind fun _ _ _ =>
        (moves_changeSpace fun _ _ => ObjectSpace.changes_write?).bind fun _ _ _ =>
          upkeep_retain ctx _

lemma moves_className (r : ObjectRef) : Moves R (className r) b :=
  (moves_readSpace _).bind fun _ _ _ => moves_fromSpace _

lemma moves_makeImplementation [Running R] (ctx : ContextId) (selector : String)
    (signature : Signature) (body : Body) :
    Moves R (makeImplementation ctx selector signature body) b :=
  .ite (fun _ => moves_get.bind fun _ _ _ =>
    Moves.bind (.of_step (Running.host ⟨ctx, selector, signature, body⟩))
      fun _ _ _ => moves_pure _)
    fun _ => moves_fail _

/-- The selector of a name is known from then on. -/
lemma minds_of_selector {name : String} {sel : Selector} {b' : Bridge}
    (h : EStateM.run (selector ctx name) b = .ok sel b') : b'.Minds sel := by
  unfold selector at h
  rw [run_bind_ok (run_context ctx)] at h
  split at h
  · next hlookup =>
    cases h
    obtain ⟨l₁, l₂, hmem, -⟩ := List.lookup_eq_some_iff.mp hlookup
    refine .inr ⟨ctx, (name, sel), ?_, rfl⟩
    rw [hmem]
    exact List.mem_append_right _ List.mem_cons_self
  · obtain ⟨_, b₁, -, h⟩ := run_bind_eq_ok.mp h
    obtain ⟨sel', b₂, hintern, h⟩ := run_bind_eq_ok.mp h
    obtain ⟨rfl, rfl, -⟩ := run_intern_eq_ok.mp hintern
    cases h
    exact .inl (SelectorTable.index_intern_lt _ name)

/-- New code leaves the object space and the contexts as they are. -/
lemma minds_of_makeImplementation {selector : String} {signature : Signature} {body : Body}
    {imp : Implementation} {sel : Selector} {b' : Bridge}
    (h : EStateM.run (makeImplementation ctx selector signature body) b = .ok imp b')
    (hsel : b.Minds sel) : b'.Minds sel := by
  unfold makeImplementation at h
  split at h
  · cases h
    exact hsel
  · cases h

lemma moves_addMethodTo [Running R] (ctx : ContextId) (target : ObjectRef)
    (className name types : String) (body : Body) :
    Moves R (addMethodTo ctx target className name types body) b := by
  refine (upkeep_withStructs ctx _).bind fun signature b₁ hsignature =>
    (upkeep_selector ctx name).bind fun sel b₂ hsel => (moves_checkName _).bind fun _ b₃ hcheck =>
      (moves_makeImplementation ctx name signature body).bind fun imp b₄ himp =>
        (moves_readSpace _).bind fun c b₅ hc => (moves_fromSpace _).bind fun classes b₆ hclasses => ?_
  obtain ⟨-, rfl⟩ := run_checkName_eq_ok hcheck
  have hminds := minds_of_makeImplementation himp (minds_of_selector hsel)
  obtain ⟨-, rfl⟩ := run_readSpace_eq_ok.mp hc
  rw [run_fromSpace] at hclasses
  obtain ⟨hadd, rfl⟩ := EStateM.Result.ok.inj hclasses
  split
  · refine .of_step (Running.define (fun x hx => ?_) fun x hx => ?_)
    · rcases ClassTable.declares_of_addMethod? hadd hx with hold | rfl
      · exact .inl hold
      · exact .inr hminds
    · refine (ClassTable.types_of_addMethod? hadd hx).imp id fun heq => ?_
      exact heq ▸ ⟨_, types, signature, ok_of_run_withStructs hsignature, rfl⟩
  · exact moves_fail _

lemma moves_addMethod [Running R] (ctx : ContextId) (target : ObjectRef) (name types : String)
    (body : Body) : Moves R (addMethod ctx target name types body) b :=
  (moves_className target).bind fun _ _ _ => moves_addMethodTo ctx target _ name types body

lemma upkeep_named [Referring R] (ctx : ContextId) (name : String) : Moves R (named ctx name) b := by
  refine moves_get.bind fun c b₁ _ => ?_
  split
  · exact moves_pure _
  · refine (upkeep_classNamed? ctx name).bind fun r b₂ _ => ?_
    split
    · exact moves_pure _
    · exact moves_fail _

lemma upkeep_layoutOf [Recording R] (ctx : ContextId) (encoding : String) :
    Moves R (layoutOf ctx encoding) b := by
  refine (upkeep_withStructs ctx _).bind fun d b₁ _ => ?_
  split
  · exact moves_pure _
  · exact moves_fail _

end Act

namespace Literal

variable {R : Bridge → Bridge → Prop} {layoutOf : String → Act Layout} {named : String → Act Value}

mutual

/-- The value of a literal takes the steps of reading layouts and names. -/
theorem moves_eval (hl : ∀ e b, Act.Moves R (layoutOf e) b) (hn : ∀ n b, Act.Moves R (named n) b)
    (l : Literal) (b : Bridge) : Act.Moves R (l.eval layoutOf named) b := by
  cases l with
  | nil | bool | int | uint | float | selector | str | pointer =>
    unfold Literal.eval
    exact Act.moves_pure _
  | named name => unfold Literal.eval; exact hn name b
  | struct encoding fields =>
    unfold Literal.eval
    exact (hl encoding b).bind fun _ b₁ _ =>
      (moves_evalAll hl hn fields b₁).bind fun _ _ _ => Act.moves_pure _

theorem moves_evalAll (hl : ∀ e b, Act.Moves R (layoutOf e) b)
    (hn : ∀ n b, Act.Moves R (named n) b) (ls : List Literal) (b : Bridge) :
    Act.Moves R (Literal.evalAll layoutOf named ls) b := by
  cases ls with
  | nil => unfold Literal.evalAll; exact Act.moves_pure _
  | cons l ls =>
    unfold Literal.evalAll
    exact (moves_eval hl hn l b).bind fun _ b₁ _ =>
      (moves_evalAll hl hn ls b₁).bind fun _ _ _ => Act.moves_pure _

end

end Literal

namespace Act

variable {R : Bridge → Bridge → Prop} {b : Bridge}

lemma upkeep_evalLiteral [Recording R] (ctx : ContextId) (l : Literal) :
    Moves R (evalLiteral ctx l) b :=
  Literal.moves_eval (fun e _ => upkeep_layoutOf ctx e)
    (fun n _ => (upkeep_named ctx n).bind fun _ _ _ => moves_pure _) l b

/-! ## Calls -/

lemma moves_takePendingError [Running R] (ctx : ContextId) : Moves R (takePendingError ctx) b :=
  (moves_context ctx).bind fun _ _ _ =>
    Moves.bind (.of_step (Running.pending ctx fun _ => none)) fun _ _ _ => moves_pure _

lemma moves_takeException [Running R] (ctx : ContextId) : Moves R (takeException ctx) b :=
  (moves_context ctx).bind fun _ _ _ =>
    .ite (fun _ => (moves_onSpace ObjectSpace.changes_takeRaised).bind fun _ _ _ =>
      upkeep_wrap ctx _) fun _ => moves_pure _

section Calls

variable [Running R] {re : Reentry} (hre : re.Moves R)
include hre

lemma moves_exceptionText (ctx : ContextId) (exception : ObjectRef) (name : String) :
    Moves R (exceptionText re ctx exception name) b := by
  have hask (r : ObjectRef) (name : String) (b : Bridge) :
      Moves R (orNone (re.ask ctx r name)) b :=
    (hre.ask ctx r name b).map.recover fun _ _ _ => moves_pure _
  refine (upkeep_respondsTo ctx exception name).bind fun known b₁ _ =>
    .ite (fun _ => (hask exception name b₁).bind fun answer b₂ _ => ?_) fun _ => moves_pure _
  split
  · exact moves_pure _
  · exact (hask _ _ b₂).bind fun _ _ _ => moves_pure _
  · exact moves_pure _

lemma moves_complete (ctx : ContextId) (ret : Descriptor) (result : Option (List UInt8)) :
    Moves R (complete re ctx ret result) b := by
  refine (moves_takePendingError ctx).bind fun pending b₁ _ => ?_
  split
  · exact (moves_takeException ctx).bind fun _ _ _ => moves_fail _
  · refine (moves_takeException ctx).bind fun exception b₂ _ => ?_
    split
    · exact (moves_exceptionText hre ctx _ _).bind fun _ _ _ =>
        (moves_exceptionText hre ctx _ _).bind fun _ _ _ => moves_fail _
    · exact .ite (fun _ => moves_pure _) fun _ =>
        (moves_require _ _).bind fun _ _ _ => upkeep_decodeResult ctx ret _

lemma moves_callCode (ctx : ContextId) (s : Signature) (code : Implementation)
    (words : List UInt64) (args : List Value) :
    Moves R (callCode re ctx s code words args) b :=
  (upkeep_encodeArguments ctx 0 _).bind fun _ b₁ _ => (hre.invoke code _ b₁).bind
    fun _ _ _ => (upkeep_retain ctx _).bind fun _ _ _ => moves_pure _

/-- Asking for a missing method is a call like any other. -/
lemma moves_resolveMissing (c : ClassId) (receiver : Address) (sel : Selector) :
    Moves R (resolveMissing re c receiver sel) b := by
  refine (upkeep_resolverCall c receiver sel).bind fun question b₁ _ => ?_
  split
  · exact moves_pure _
  · exact (hre.invoke _ _ b₁).bind fun _ _ _ => (moves_require _ _).bind fun _ _ _ => moves_pure _

lemma moves_lookupImplementation (receiver : Address) (sel : Option Selector) :
    Moves R (lookupImplementation re receiver sel) b := by
  unfold lookupImplementation
  split
  · exact moves_pure _
  · refine .ite (fun _ => moves_pure _) fun _ => (moves_readSpace _).bind fun c b₁ _ =>
      (upkeep_lookupImp c _).bind fun imp b₂ _ => ?_
    split
    · exact moves_pure _
    · exact (moves_resolveMissing hre c receiver _).bind fun _ _ _ =>
        .ite (fun _ => (upkeep_lookupImp c _).bind fun _ _ _ => moves_pure _) fun _ =>
          moves_pure _

lemma moves_findCode (ctx : ContextId) (t : Target) : Moves R (findCode re ctx t) b :=
  .ite (fun _ => (upkeep_lookupAbove _ _ _).bind fun _ _ _ => moves_pure _) fun _ =>
    (moves_context ctx).bind fun _ _ _ => .ite
      (fun _ => (moves_lookupImplementation hre _ _).bind fun _ _ _ => moves_pure _) fun _ =>
        moves_pure _

lemma moves_plan (ctx : ContextId) (d : Dispatch) : Moves R (plan re ctx d) b := by
  cases d with
  | message route receiver m =>
    refine (upkeep_target ctx receiver route m.selector).bind fun t b₁ _ =>
      (moves_fromSpace _).bind fun method b₂ _ =>
        (Running.message ctx method m _).bind fun s b₃ _ =>
          .ite (fun _ => moves_fail _) fun _ => (moves_findCode hre ctx t).bind fun code b₄ _ => ?_
    split
    · exact moves_fail _
    · exact moves_pure _
  | function f args =>
    exact .ite (fun _ => moves_fail _) fun _ =>
      (Running.function ctx f _).bind fun _ _ _ => moves_pure _

/-- **A call** takes only the steps of code. -/
lemma moves_dispatch (ctx : ContextId) (d : Dispatch) : Moves R (dispatch re ctx d) b :=
  (moves_plan hre ctx d).bind fun _ _ _ =>
    (moves_callCode hre ctx _ _ _ _).bind fun _ _ _ => moves_complete hre ctx _ _

end Calls

end Act

/-! ## Host bodies -/

namespace Body

open Act

variable {R : Bridge → Bridge → Prop}

mutual

/-- **A host body** takes only the steps of code, whatever it does. -/
theorem moves_eval [Running R] {a : Activation} (hre : a.reentry.Moves R) (body : Body)
    (b : Bridge) : Moves R (body.eval a) b := by
  cases body with
  | literal l => unfold Body.eval; exact upkeep_evalLiteral a.context l
  | receiver => unfold Body.eval; exact moves_pure _
  | argument i => unfold Body.eval; exact moves_pure _
  | ivar name => unfold Body.eval; exact upkeep_ivar a.context a.receiver name
  | setIvar name e =>
    unfold Body.eval
    exact (moves_eval hre e b).bind fun v _ _ =>
      (moves_setIvar a.context a.receiver name v).bind fun _ _ _ => moves_pure _
  | add e f | addFloat e f | equal e f =>
    unfold Body.eval
    exact (moves_eval hre e b).bind fun _ b₁ _ =>
      (moves_eval hre f b₁).bind fun _ _ _ => moves_pure _
  | concat es | seq es =>
    unfold Body.eval
    exact (moves_evalAll hre es b).bind fun _ _ _ => moves_pure _
  | cond c e f =>
    unfold Body.eval
    exact (moves_eval hre c b).bind fun _ b₁ _ =>
      .ite (fun _ => moves_eval hre e b₁) fun _ => moves_eval hre f b₁
  | log e =>
    unfold Body.eval
    exact (moves_eval hre e b).bind fun v _ _ =>
      Moves.bind (.of_step (Running.trace v)) fun _ _ _ => moves_pure _
  | send e selector es =>
    unfold Body.eval
    refine (moves_eval hre e b).bind fun v b₁ _ => (moves_evalAll hre es b₁).bind fun args b₂ _ => ?_
    split
    · exact moves_dispatch hre a.context _
    · exact moves_pure _
  | superOf className selector es =>
    unfold Body.eval
    exact (upkeep_named a.context className).bind fun _ b₁ _ =>
      (moves_evalAll hre es b₁).bind fun _ _ _ => moves_dispatch hre a.context _
  | superSend selector es =>
    unfold Body.eval
    exact (moves_evalAll hre es b).bind fun _ _ _ => moves_dispatch hre a.context _
  | field e name =>
    unfold Body.eval
    exact (moves_eval hre e b).bind fun _ _ _ => moves_pure _
  | withField e name f =>
    unfold Body.eval
    exact (moves_eval hre e b).bind fun _ b₁ _ =>
      (moves_eval hre f b₁).bind fun _ _ _ => moves_pure _
  | attempt e =>
    unfold Body.eval
    exact (moves_eval hre e b).recover fun _ _ _ => moves_pure _
  | throw e =>
    unfold Body.eval
    exact (moves_eval hre e b).bind fun _ _ _ =>
      (moves_throw _).bind fun _ _ _ => moves_pure _
  | define selector types body =>
    unfold Body.eval
    exact .ite (fun _ => (moves_addMethod _ _ _ _ _).bind fun _ _ _ => moves_pure _) fun _ =>
      moves_pure _
  | defineClass selector types body =>
    unfold Body.eval
    refine .ite (fun _ => (upkeep_classOf a.context a.receiver).bind fun k b₁ _ => ?_)
      fun _ => moves_pure _
    split
    · exact (moves_addMethod _ _ _ _ _).bind fun _ _ _ => moves_pure _
    · exact moves_pure _
  | fail e => unfold Body.eval; exact moves_fail e
  | panic text => unfold Body.eval; exact moves_panic text

theorem moves_evalAll [Running R] {a : Activation} (hre : a.reentry.Moves R)
    (bodies : List Body) (b : Bridge) : Moves R (Body.evalAll a bodies) b := by
  cases bodies with
  | nil => unfold Body.evalAll; exact moves_pure _
  | cons e es =>
    unfold Body.evalAll
    exact (moves_eval hre e b).bind fun _ b₁ _ =>
      (moves_evalAll hre es b₁).bind fun _ _ _ => moves_pure _

end

end Body

namespace Act

variable {R : Bridge → Bridge → Prop} {b : Bridge} {re : Reentry}

lemma upkeep_decodeArguments [Referring R] (ctx : ContextId)
    (args : List (Descriptor × Option (List UInt8))) :
    Moves R (decodeArguments ctx args) b := by
  induction args generalizing b with
  | nil => exact moves_pure _
  | cons arg args ih =>
    exact (moves_require _ _).bind fun _ _ _ => (upkeep_decode ctx _ _).bind fun _ _ _ =>
      ih.bind fun _ _ _ => moves_pure _

lemma upkeep_encodeResult [Referring R] (ctx : ContextId) (ret : Descriptor) (v : Value) :
    Moves R (encodeResult ctx ret v) b := by
  refine .ite (fun _ => moves_pure _) fun _ => ?_
  split
  · split
    · exact moves_pure _
    · exact moves_fail _
  · exact (upkeep_encode ctx 0 ret _ v b).bind fun _ _ _ =>
      (upkeep_retain ctx _).bind fun _ _ _ => moves_pure _

/-- Looking a class or a selector up by its address only reads. -/
lemma moves_readAt {α : Type} (a : Address) (g : ObjectSpace → Option α) :
    Moves R (if a = 0 then return none else return some (← readSpace g)) b :=
  .ite (fun _ => moves_pure _) fun _ => (moves_readSpace _).bind fun _ _ _ => moves_pure _

lemma moves_textAt (a : Address) : Moves R (textAt a) b :=
  .ite (fun _ => moves_pure _) fun _ => (moves_readSpace _).bind fun _ _ _ => moves_pure _

lemma moves_instantiate [Running R] (a : Address) : Moves R (instantiate a) b := by
  refine (moves_readAt a _).bind fun c b₁ _ => ?_
  split
  · exact moves_onSpace fun s => s.changes_createInstance _ 0
  · exact moves_pure _

lemma moves_hasMethod (c : Option ClassId) (sel : Address) : Moves R (hasMethod c sel) b :=
  moves_fromSpace _

lemma moves_superOf (c : Option ClassId) : Moves R (superOf c) b :=
  moves_fromSpace _

/-- The code that stands in for missing code changes the object space, and nothing else. -/
lemma moves_forwarding (hspace : ∀ b space, b.space.Changes space → R b { b with space })
    (c : Call) :
    Moves R (invokeVia re .forwarding c) b := by
  have hraise (receiver : Address) (sel : Option Selector) (b : Bridge) :
      Moves R (raiseUnrecognized receiver sel) b :=
    moves_get.bind fun _ _ _ => (moves_readSpace _).bind fun _ _ _ => moves_get.bind fun _ _ _ =>
      .changeSpace hspace fun _ _ => ObjectSpace.changes_raise?
  exact (moves_require _ _).bind fun receiver _ _ => (moves_require _ _).bind fun sel _ _ =>
    (moves_readAt sel _).bind fun s b₁ _ => (hraise receiver s b₁).bind fun _ _ _ => moves_pure _

section Running

variable [Running R] (hre : re.Moves R)
include hre

lemma moves_respond (h : Hosted) (slots : List (Option (List UInt8))) :
    Moves R (respond re h slots) b := by
  refine (moves_require _ _).bind fun address b₁ _ =>
    (upkeep_wrap h.context _).bind fun receiver b₂ _ => ?_
  split
  · exact moves_fail _
  · exact (upkeep_decodeArguments h.context _).bind fun _ b₃ _ =>
      (Body.moves_eval hre h.body b₃).bind fun _ _ _ => upkeep_encodeResult h.context _ _

lemma moves_runHosted (h : Hosted) (c : Call) : Moves R (runHosted re h c) b := by
  have hfailed (e : Error) (zero : List UInt8) (b : Bridge) : Moves R (do
      modifyContext h.context (·.recordFailure e)
      return zero) b :=
    Moves.bind (.of_step (Running.pending h.context fun x => (x.recordFailure e).pendingError))
      fun _ _ _ => moves_pure _
  refine (moves_context h.context).bind fun x b₁ _ => .ite (fun _ => moves_pure _) fun _ =>
    ((moves_respond hre h _).tryCatch fun stop b₂ _ => ?_).bind fun _ _ _ => moves_pure _
  cases stop with
  | error e => exact hfailed e _ b₂
  | panic text => exact hfailed (.callback h.selector text) _ b₂
  | fault g => exact .of_after rfl

lemma moves_sendAt (receiver sel : Address) : Moves R (sendAt re receiver sel) b := by
  refine (moves_readAt sel _).bind fun s b₁ _ =>
    (moves_lookupImplementation hre receiver s).bind fun code b₂ _ =>
      (hre.invoke code _ b₂).bind fun bytes b₃ _ => ?_
  split
  · exact moves_pure _
  · exact moves_pure _

/-- **A routine** takes only the steps of code. -/
lemma moves_runRoutine (routine : Routine) (r : Registers) :
    Moves R (runRoutine re routine r) b := by
  have hword (i : Nat) (b : Bridge) : Moves R (require .unwrittenWord (r.word? i)) b :=
    moves_require _ _
  refine (hword 0 b).bind fun receiver b₁ _ => ?_
  cases routine with
  | itself | hash | resolveNothing => exact moves_pure _
  | classOf => exact (moves_readAt receiver _).bind fun _ _ _ => moves_pure _
  | superclassOf | superclassOfClass =>
    exact (moves_readAt receiver _).bind fun c _ _ => (moves_superOf c).bind fun _ _ _ =>
      moves_pure _
  | isIdentical => exact (hword 2 b₁).bind fun _ _ _ => moves_pure _
  | respondsTo | instancesRespondTo =>
    exact (moves_readAt receiver _).bind fun c b₂ _ => (hword 2 b₂).bind fun sel _ _ =>
      (moves_hasMethod c sel).bind fun _ _ _ => moves_pure _
  | isKindOf =>
    exact (moves_readSpace _).bind fun c b₂ _ => (moves_fromSpace _).bind fun _ b₃ _ =>
      (hword 2 b₃).bind fun _ _ _ => moves_pure _
  | isMemberOf =>
    exact (moves_readAt receiver _).bind fun _ b₂ _ => (hword 2 b₂).bind fun _ _ _ => moves_pure _
  | perform => exact (hword 2 b₁).bind fun sel _ _ => moves_sendAt hre receiver sel
  | dispose =>
    exact .ite (fun _ => (moves_changeSpace fun _ _ => ObjectSpace.changes_dispose?).bind
      fun _ _ _ => moves_pure _) fun _ =>
      moves_pure _
  | newInstance => exact (moves_instantiate receiver).bind fun _ _ _ => moves_pure _
  | newInitialized =>
    exact (moves_instantiate receiver).bind fun a _ _ => (upkeep_intern _).bind fun sel _ _ =>
      moves_sendAt hre a sel.address
  | version =>
    refine (moves_readAt receiver _).bind fun c b₂ _ => ?_
    split
    · exact (moves_fromSpace _).bind fun _ _ _ => moves_pure _
    · exact (moves_pure _).bind fun _ _ _ => moves_pure _
  | newException =>
    refine (hword 2 b₁).bind fun name b₂ _ => (hword 3 b₂).bind fun reason b₃ _ =>
      (moves_readAt receiver _).bind fun c b₄ _ => ?_
    split
    · exact moves_pure _
    · exact (moves_textAt name).bind fun _ b₅ _ => (moves_textAt reason).bind fun _ b₆ _ =>
        (moves_tryOnSpace fun _ _ => ObjectSpace.changes_newException?).bind fun _ _ _ => moves_pure _
  | exceptionName | exceptionReason =>
    exact (moves_readSpace _).bind fun _ _ _ => moves_pure _
  | raise => exact (moves_throw receiver).bind fun _ _ _ => moves_pure _
  | disposeException =>
    exact (moves_changeSpace fun _ _ => ObjectSpace.changes_disposeException?).bind fun _ _ _ =>
      moves_pure _

/-- **Any code** that is called takes only the steps of code. -/
lemma moves_invokeVia (code : Implementation) (c : Call) : Moves R (invokeVia re code c) b := by
  cases code with
  | nilMethod | constant value => exact moves_pure _
  | forwarding => exact moves_forwarding (fun _ _ h => Running.space h) c
  | routine routine => exact (moves_runRoutine hre routine _).bind fun _ _ _ => moves_pure _
  | receiver | successor => exact (moves_require _ _).bind fun _ _ _ => moves_pure _
  | hosted index =>
    refine moves_get.bind fun x b₁ _ => ?_
    split
    · exact moves_runHosted hre _ c
    · exact moves_fault _
  | library f =>
    exact moves_get.bind fun _ _ _ => (moves_require _ _).bind fun _ _ _ => moves_pure _
  | «variable» => exact moves_fault _

end Running

end Act

/-- **Any nesting**: calls from inside a call take only the steps of code, at every depth. -/
theorem Reentry.moves_within {R : Bridge → Bridge → Prop} [Running R] (depth : Nat) :
    (Reentry.within depth).Moves R := by
  induction depth with
  | zero => exact ⟨fun _ _ _ => Act.moves_fault _, fun _ _ _ _ => Act.moves_fault _⟩
  | succ depth ih =>
    exact ⟨fun code c _ => Act.moves_invokeVia ih code c,
      fun ctx _ _ _ => Act.moves_dispatch ih ctx _⟩

end MessageBridge
