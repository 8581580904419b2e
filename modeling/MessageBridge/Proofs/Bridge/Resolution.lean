import MessageBridge.Proofs.Bridge.Lifecycle

/-!
# What names stand for

A context that is asked what a name stands for remembers the answer. The classes, the metadata and the
libraries from which the answer was taken go on changing, and the answer does not change with them. A
failure is not remembered: every call looks again at what there is, until one of them is answered.

## Main definitions

* `Bridge.resolved?` — the names that a context remembers, with what they stand for.
* `Act.consult` — what the metadata says about a name, kind by kind.
* `Earliest`, `Consults` — the same by what the sources know: within a kind the earliest one counts.
* `Act.AnswersNow` — how a call ends that looks at what there is.
* `Errand`, `Errand.firstAnswer?` — the runs of a host, and the first answer about a name in them.

## Main results

* `Act.run_resolveNow` — classes come first, and then the metadata.
* `Act.answersNow_resolve` — a name that is not remembered is looked up as things are.
* `Errand.lookup_perform`, `Errand.exists_lookup_run` — what a step and a run leave to remember.
* `Errand.resolution_stable` — whole runs: the first answer is the answer from then on.
-/

namespace MessageBridge

variable {b b' : Bridge} {ctx : ContextId} {name : String} {r : Resolved}
  {memo : List (String × Resolved)}

/-! ## What is remembered -/

namespace Bridge

/-- The names that a context remembers, with what they stand for, if there is the context. -/
def resolved? (b : Bridge) (ctx : ContextId) : Option (List (String × Resolved)) :=
  b.contexts[ctx]?.map Context.resolved

/-- The state after a context remembered what a name stands for. -/
def settle (b : Bridge) (ctx : ContextId) (name : String) (r : Resolved) : Bridge :=
  { b with contexts := b.contexts.modify ctx fun c => { c with resolved := (name, r) :: c.resolved } }

lemma resolved_contextAt (h : b.resolved? ctx = some memo) : (b.contextAt ctx).resolved = memo := by
  obtain ⟨c, hc, rfl⟩ := Option.map_eq_some_iff.mp h
  rw [contextAt, hc, Option.getD_some]

lemma resolved?_settle_self (h : b.resolved? ctx = some memo) :
    (b.settle ctx name r).resolved? ctx = some ((name, r) :: memo) := by
  obtain ⟨c, hc, rfl⟩ := Option.map_eq_some_iff.mp h
  rw [resolved?, settle, Array.getElem?_modify, if_pos rfl, hc]
  rfl

lemma resolved?_settle_of_ne {i : ContextId} (h : i ≠ ctx) :
    (b.settle i name r).resolved? ctx = b.resolved? ctx := by
  rw [resolved?, settle, Array.getElem?_modify, if_neg h, resolved?]

/-- **The same naming**: every context remembers the same answers and has the same metadata. -/
structure SameNaming (b b' : Bridge) : Prop where
  resolved? : b'.resolved? = b.resolved?
  sources : ∀ ctx, (b'.contextAt ctx).sources = (b.contextAt ctx).sources

namespace SameNaming

lemma refl (b : Bridge) : b.SameNaming b := ⟨rfl, fun _ => rfl⟩

lemma trans {b₁ : Bridge} (h : b.SameNaming b₁) (h' : b₁.SameNaming b') : b.SameNaming b' :=
  ⟨h'.resolved?.trans h.resolved?, fun ctx => (h'.sources ctx).trans (h.sources ctx)⟩

instance : Std.Refl SameNaming := ⟨refl⟩

instance : IsTrans Bridge SameNaming := ⟨fun _ _ _ => trans⟩

lemma of_contexts (h : b'.contexts = b.contexts) : b.SameNaming b' where
  resolved? := by
    funext ctx
    rw [Bridge.resolved?, h, Bridge.resolved?]
  sources ctx := by rw [contextAt, h, contextAt]

/-- A change of one context that concerns neither. -/
lemma of_modify {f : Context → Context}
    (hf : ∀ c, (f c).resolved = c.resolved ∧ (f c).sources = c.sources) (b : Bridge) (i : ContextId) :
    b.SameNaming { b with contexts := b.contexts.modify i f } where
  resolved? := funext fun ctx => b.view?_modify Context.resolved (fun c => (hf c).1) i ctx
  sources ctx := b.view_contextAt_modify Context.sources (fun c => (hf c).2) i ctx

lemma of_learning (h : Learning b b') : b.SameNaming b' := by
  cases h with
  | lend => exact .of_contexts rfl
  | learn i layout => exact .of_modify (by exact fun _ => ⟨rfl, rfl⟩) b i

lemma of_upkeep (h : Upkeep b b') : b.SameNaming b' := by
  cases h with
  | learning h => exact .of_learning h
  | intern | store | cache => exact .of_contexts rfl
  | remember i | keepFrame i | retain i => exact .of_modify (by exact fun _ => ⟨rfl, rfl⟩) b i
  | refer i a isClass =>
    have hcount : b.SameNaming { b with
        nextSerial := b.nextSerial + 1
        space := { b.space with
          associations := b.space.associations.set a (.context i) b.nextSerial } } := .of_contexts rfl
    exact hcount.trans (.of_modify (f := (·.track ⟨b.nextSerial, a, isClass⟩))
      (fun _ => ⟨rfl, rfl⟩) _ i)

/-- **Running code** changes neither answers nor metadata. -/
instance : Running SameNaming where
  of_upkeep h _ _ _ := .of_upkeep h
  space _ := .of_contexts rfl
  define _ _ := .of_contexts rfl
  host _ := .of_contexts rfl
  trace _ := .of_contexts rfl
  pending i _ := .of_modify (by exact fun _ => ⟨rfl, rfl⟩) _ i
  message i method m _ := Act.moves_messageFrame
    (fun b _ _ => .of_modify (by exact fun _ => ⟨rfl, rfl⟩) b i)
    (fun m _ => (Act.learning_methodTypes i m).mono fun _ _ => .of_learning) method m
  function i _ _ := Act.moves_frame
    (fun b _ _ => .of_modify (by exact fun _ => ⟨rfl, rfl⟩) b i) _ fun _ => Act.moves_pure _

end SameNaming

end Bridge

/-! ## Looking a name up -/

namespace Act

/-- What the sources say about a name, kind by kind. -/
def consult (ctx : ContextId) (name : String) (sources : List Metadata) : Act Resolved :=
  match sources.findSome? (·.constant? name) with
  | some c => return .constant (← constantValue ctx name c)
  | none =>
    match sources.findSome? (·.enumerator? name) with
    | some value => pure (.enumerator value)
    | none =>
      match sources.findSome? (·.function? name) with
      | some type => return .function (← functionNamed ctx name type)
      | none => fail (.unresolvedName name)

/-- **Classes come first**, and then what the metadata says. -/
lemma run_resolveNow (ctx : ContextId) (name : String) (b : Bridge) :
    EStateM.run (resolveNow ctx name) b =
      match EStateM.run (classNamed? ctx name) b with
      | .ok (some c) b₁ => .ok (.classRef c) b₁
      | .ok none b₁ => EStateM.run (consult ctx name (b.contextAt ctx).sources) b₁
      | .error stop b₁ => .error stop b₁ := by
  unfold resolveNow
  cases hclass : EStateM.run (classNamed? ctx name) b with
  | error stop b₁ => rw [run_bind_error hclass]
  | ok c b₁ =>
    rw [run_bind_ok hclass]
    cases c with
    | some c => rfl
    | none =>
      have hmoves : Moves Bridge.SameNaming (classNamed? ctx name) b := upkeep_classNamed? ctx name
      have hsources := hmoves.step.sources ctx
      rw [after_of_ok hclass] at hsources
      simp only
      rw [run_bind_ok (run_context ctx), hsources, consult]
      generalize (b.contextAt ctx).sources = sources
      cases sources.findSome? (·.constant? name) with
      | some c => rfl
      | none =>
        cases sources.findSome? (·.enumerator? name) with
        | some value => rfl
        | none => cases sources.findSome? (·.function? name) <;> rfl

/-- **A name that is remembered** stands for what it did, and nothing happens. -/
lemma run_resolve_of_some (hmemo : b.resolved? ctx = some memo) (h : memo.lookup name = some r) :
    EStateM.run (resolve ctx name) b = .ok r b := by
  unfold resolve
  rw [run_bind_ok (run_context ctx), Bridge.resolved_contextAt hmemo, h]
  rfl

/-- **A name that is not remembered** is looked up, and an answer is remembered. -/
lemma run_resolve_of_none (hmemo : b.resolved? ctx = some memo) (h : memo.lookup name = none) :
    EStateM.run (resolve ctx name) b =
      match EStateM.run (resolveNow ctx name) b with
      | .ok r b₁ => .ok r (b₁.settle ctx name r)
      | .error stop b₁ => .error stop b₁ := by
  unfold resolve
  rw [run_bind_ok (run_context ctx), Bridge.resolved_contextAt hmemo, h]
  simp only
  cases hrun : EStateM.run (resolveNow ctx name) b with
  | ok r b₁ => rw [run_bind_ok hrun]; rfl
  | error stop b₁ => rw [run_bind_error hrun]

lemma resolved?_of_resolveNow (ctx : ContextId) (name : String) (b : Bridge) :
    ((resolveNow ctx name).after b).resolved? = b.resolved? :=
  (upkeep_resolveNow (R := Bridge.SameNaming) ctx name).step.resolved?

end Act

/-! ## What the sources know -/

/-- **Earliest**: what the first of the sources knows that knows anything. -/
def Earliest {β : Type} (know : Metadata → Option β) (sources : List Metadata) (x : β) : Prop :=
  ∃ before s after, sources = before ++ s :: after ∧ know s = some x ∧ ∀ t ∈ before, know t = none

/-- **Consults**: what is done for a name that is no class. Constants come first, then enumerators,
and then functions; within a kind the earliest source counts. -/
inductive Consults (ctx : ContextId) (name : String) (sources : List Metadata) : Act Resolved → Prop
  | constant {c : Constant} (h : Earliest (·.constant? name) sources c) :
      Consults ctx name sources (do return .constant (← Act.constantValue ctx name c))
  | enumerator {value : Int64} (hconstant : ∀ s ∈ sources, s.constant? name = none)
      (h : Earliest (·.enumerator? name) sources value) :
      Consults ctx name sources (pure (.enumerator value))
  | function {type : FunctionType} (hconstant : ∀ s ∈ sources, s.constant? name = none)
      (henumerator : ∀ s ∈ sources, s.enumerator? name = none)
      (h : Earliest (·.function? name) sources type) :
      Consults ctx name sources (do return .function (← Act.functionNamed ctx name type))
  | unknown (hconstant : ∀ s ∈ sources, s.constant? name = none)
      (henumerator : ∀ s ∈ sources, s.enumerator? name = none)
      (hfunction : ∀ s ∈ sources, s.function? name = none) :
      Consults ctx name sources (Act.fail (.unresolvedName name))

lemma earliest_iff {β : Type} {know : Metadata → Option β} {sources : List Metadata} {x : β} :
    Earliest know sources x ↔ sources.findSome? know = some x :=
  List.findSome?_eq_some_iff.symm

/-- **What is done** is settled by what the sources know. -/
lemma consults_iff {sources : List Metadata} {x : Act Resolved} :
    Consults ctx name sources x ↔ x = Act.consult ctx name sources := by
  unfold Act.consult
  constructor
  · intro h
    cases h with
    | constant h => rw [earliest_iff.mp h]
    | enumerator hconstant h =>
      rw [List.findSome?_eq_none_iff.mpr hconstant, earliest_iff.mp h]
    | function hconstant henumerator h =>
      rw [List.findSome?_eq_none_iff.mpr hconstant, List.findSome?_eq_none_iff.mpr henumerator,
        earliest_iff.mp h]
    | unknown hconstant henumerator hfunction =>
      rw [List.findSome?_eq_none_iff.mpr hconstant, List.findSome?_eq_none_iff.mpr henumerator,
        List.findSome?_eq_none_iff.mpr hfunction]
  · rintro rfl
    split
    · next h => exact .constant (earliest_iff.mpr h)
    · next hconstant =>
      rw [List.findSome?_eq_none_iff] at hconstant
      split
      · next h => exact .enumerator hconstant (earliest_iff.mpr h)
      · next henumerator =>
        rw [List.findSome?_eq_none_iff] at henumerator
        split
        · next h => exact .function hconstant henumerator (earliest_iff.mpr h)
        · next hfunction =>
          exact .unknown hconstant henumerator (List.findSome?_eq_none_iff.mp hfunction)

namespace Act

/-- **Looks up**: how looking a name up ends, by what there is in the state. -/
inductive LooksUp (ctx : ContextId) (name : String) (b : Bridge) :
    EStateM.Result Stop Bridge Resolved → Prop
  /-- The name is that of a class. -/
  | ofClass {c : ObjectRef} {b₁ : Bridge}
      (hclass : EStateM.run (classNamed? ctx name) b = .ok (some c) b₁) :
      LooksUp ctx name b (.ok (.classRef c) b₁)
  /-- It is not, and the metadata is consulted. -/
  | ofSources {x : Act Resolved} {b₁ : Bridge}
      (hclass : EStateM.run (classNamed? ctx name) b = .ok none b₁)
      (hx : Consults ctx name (b.contextAt ctx).sources x) : LooksUp ctx name b (EStateM.run x b₁)
  /-- Looking for a class stops. -/
  | stopped {stop : Stop} {b₁ : Bridge}
      (hclass : EStateM.run (classNamed? ctx name) b = .error stop b₁) :
      LooksUp ctx name b (.error stop b₁)

lemma looksUp_resolveNow (ctx : ContextId) (name : String) (b : Bridge) :
    LooksUp ctx name b (EStateM.run (resolveNow ctx name) b) := by
  rw [run_resolveNow]
  cases hclass : EStateM.run (classNamed? ctx name) b with
  | error stop b₁ => exact .stopped hclass
  | ok c b₁ =>
    cases c with
    | some c => exact .ofClass hclass
    | none => exact .ofSources hclass (consults_iff.mpr rfl)

/-- An answer is remembered, and a failure is not. -/
def settled (ctx : ContextId) (name : String) :
    EStateM.Result Stop Bridge Resolved → EStateM.Result Stop Bridge Resolved
  | .ok r b => .ok r (b.settle ctx name r)
  | .error stop b => .error stop b

/-- **Answers now**: asked for the name, the context answers from what there is in the state, and
remembers the answer. If it fails, all contexts remember what they did. -/
structure AnswersNow (ctx : ContextId) (name : String) (b : Bridge) : Prop where
  ends : ∃ result, LooksUp ctx name b result ∧
    EStateM.run (resolve ctx name) b = settled ctx name result
  fails : ∀ stop b', EStateM.run (resolve ctx name) b = .error stop b' → b'.resolved? = b.resolved?

/-- **A name that is not remembered** is looked up. -/
lemma answersNow_resolve (hmemo : b.resolved? ctx = some memo) (h : memo.lookup name = none) :
    AnswersNow ctx name b := by
  have hrun := run_resolve_of_none hmemo h
  refine ⟨⟨_, looksUp_resolveNow ctx name b, hrun⟩, fun stop b' hstop => ?_⟩
  rw [hrun] at hstop
  split at hstop
  · cases hstop
  · next hnow =>
    cases hstop
    rw [← after_of_error hnow, resolved?_of_resolveNow]

end Act

/-! ## Runs -/

/-- **Errands**: what a host does, in any context and in any order. -/
inductive Errand where
  | openContext (config : Config) (capabilities : Capabilities)
  | dropContext (ctx : ContextId)
  | resolve (ctx : ContextId) (name : String)
  | extend (ctx : ContextId) (parent : Option ObjectRef) (name : String) (extra : UInt64)
  /-- A pending class is filled or registered. -/
  | serve (p : PendingClass) (q : PendingRequest)
  | registerStruct (ctx : ContextId) (encoding : String)
  | addMetadata (ctx : ContextId) (m : Metadata)
  | addLibrary (ctx : ContextId) (l : NativeLibrary)
  | loadLibrary (ctx : ContextId) (path : String)
  /-- A message or a call of a function, within which calls are nested at most so many times. -/
  | call (ctx : ContextId) (depth : Nat) (d : Act.Dispatch)

namespace Errand

open Act Bridge

/-- The state that the errand leaves behind, however it ends. -/
def perform (b : Bridge) : Errand → Bridge
  | openContext config capabilities => (b.openContext config capabilities).2
  | dropContext ctx => b.dropContext ctx
  | resolve ctx name => (Act.resolve ctx name).after b
  | extend ctx parent name extra => (Act.extend ctx parent name extra).after b
  | serve p q => (p.serve q).after b
  | registerStruct ctx encoding => (Act.registerStruct ctx encoding).after b
  | addMetadata ctx m => (Act.addMetadata ctx m).after b
  | addLibrary ctx l => (Act.addLibrary ctx l).after b
  | loadLibrary ctx path => (Act.loadLibrary ctx path).after b
  | call ctx depth d => (dispatch (.within depth) ctx d).after b

/-- What the context answers about the name, if the errand is to ask it and it answers. -/
def answer? (ctx : ContextId) (name : String) (b : Bridge) : Errand → Option Resolved
  | resolve i n =>
    if i = ctx ∧ n = name then
      match EStateM.run (Act.resolve i n) b with
      | .ok r _ => some r
      | .error _ _ => none
    else none
  | _ => none

/-- The state after the errands. -/
def run (b : Bridge) : List Errand → Bridge
  | [] => b
  | e :: es => run (e.perform b) es

/-- **The first answer** of the context about the name. -/
def firstAnswer? (ctx : ContextId) (name : String) (b : Bridge) : List Errand → Option Resolved
  | [] => none
  | e :: es => (e.answer? ctx name b).or (firstAnswer? ctx name (e.perform b) es)

/-! ### One errand -/

lemma resolved?_openContext (config : Config) (capabilities : Capabilities)
    (hmemo : b.resolved? ctx = some memo) :
    (b.openContext config capabilities).2.resolved? ctx = some memo := by
  obtain ⟨c, hc, rfl⟩ := Option.map_eq_some_iff.mp hmemo
  obtain ⟨hctx, -⟩ := Array.getElem?_eq_some_iff.mp hc
  rw [Bridge.resolved?, Bridge.openContext, Array.getElem?_push, if_neg (Nat.ne_of_lt hctx), hc,
    Option.map_some]

/-- Filling and registering classes leaves all answers as they are. -/
lemma resolved?_serve (p : PendingClass) (q : PendingRequest) (b : Bridge) :
    ((p.serve q).after b).resolved? = b.resolved? := by
  have hmoves : Moves SameNaming (p.serve q) b := by
    cases q with
    | addMethod selector types body =>
      exact (moves_addPendingMethod p selector types body).bind fun _ _ _ => moves_pure _
    | addClassMethod selector types body =>
      exact (moves_addClassMethod p selector types body).bind fun _ _ _ => moves_pure _
    | addIvar name encoding size exponent =>
      exact (moves_addIvar p name encoding size exponent).bind fun _ _ _ => moves_pure _
    | addProtocol protocol => exact (moves_addProtocol p protocol).bind fun _ _ _ => moves_pure _
    | register =>
      exact moves_register_of p fun b i _ => .of_modify (by exact fun _ => ⟨rfl, rfl⟩) b i
  exact hmoves.step.resolved?

/-- What is asked in other contexts is remembered in other contexts. -/
lemma resolved?_resolve_of_ne {i : ContextId} (hi : i ≠ ctx) (n : String) (b : Bridge) :
    ((Act.resolve i n).after b).resolved? ctx = b.resolved? ctx := by
  have hnow := congrFun (resolved?_of_resolveNow i n b) ctx
  unfold Act.resolve
  rcases after_bind (context i) _ b with hafter | ⟨c, b₁, hrun, hafter⟩
  · rw [hafter, after_of_ok (run_context i)]
  · cases hrun
    rw [hafter]
    split
    · rfl
    · rcases after_bind (resolveNow i n) _ b with hafter | ⟨r, b₂, hrun, hafter⟩
      · rw [hafter, hnow]
      · rw [after_of_ok hrun] at hnow
        rw [hafter, ← hnow]
        exact resolved?_settle_of_ne hi

/-- An errand that does not ask the context leaves what it remembers as it is. -/
lemma resolved?_perform {e : Errand} (he : ∀ n, e ≠ .resolve ctx n)
    (hmemo : b.resolved? ctx = some memo) : (e.perform b).resolved? ctx = some memo := by
  have hkeep {b' : Bridge} (h : b'.resolved? = b.resolved?) : b'.resolved? ctx = some memo :=
    (congrFun h ctx).trans hmemo
  cases e with
  | openContext config capabilities => exact resolved?_openContext config capabilities hmemo
  | dropContext i =>
    exact hkeep (funext fun j => b.view?_modify Context.resolved (by exact fun _ => rfl) i j)
  | resolve i n =>
    have hi : i ≠ ctx := fun h => he n (by rw [h])
    exact (resolved?_resolve_of_ne hi n b).trans hmemo
  | extend i parent n extra =>
    exact hkeep (moves_extend (R := SameNaming) i parent n extra).step.resolved?
  | serve p q => exact hkeep (resolved?_serve p q b)
  | registerStruct i encoding =>
    exact hkeep (upkeep_registerStruct (R := SameNaming) i encoding).step.resolved?
  | addMetadata i m | addLibrary i l =>
    exact hkeep (funext fun j => b.view?_modify Context.resolved (by exact fun _ => rfl) i j)
  | loadLibrary i path =>
    refine hkeep ?_
    change ((ofExcept (NativeLibrary.openFile path) >>= _ : Act NativeLibrary).after b).resolved? = _
    rcases NativeLibrary.openFile path with _ | l
    · rfl
    · exact funext fun j => b.view?_modify Context.resolved (by exact fun _ => rfl) i j
  | call i depth d => exact hkeep (moves_call (R := SameNaming) depth i d).step.resolved?

/-- What the context is not asked it does not answer. -/
lemma answer?_eq_none {e : Errand} (he : ∀ n, e ≠ .resolve ctx n) (name : String) (b : Bridge) :
    e.answer? ctx name b = none := by
  cases e with
  | resolve i n =>
    rw [answer?, if_neg]
    rintro ⟨rfl, -⟩
    exact he n rfl
  | _ => rfl

/-- **Asking** adds the answer to what the context remembers, if it is a new one. -/
lemma lookup_resolve (n name : String) (hmemo : b.resolved? ctx = some memo) :
    ∃ memo', ((Act.resolve ctx n).after b).resolved? ctx = some memo' ∧
      memo'.lookup name = (memo.lookup name).or ((resolve ctx n).answer? ctx name b) := by
  cases hn : memo.lookup n with
  | some r =>
    have hrun := run_resolve_of_some hmemo hn
    refine ⟨memo, by rwa [after_of_ok hrun], ?_⟩
    rw [answer?]
    by_cases heq : n = name
    · subst heq
      rw [hn, Option.some_or]
    · rw [if_neg fun h => heq h.2, Option.or_none]
  | none =>
    have hrun := run_resolve_of_none hmemo hn
    have hnow := congrFun (resolved?_of_resolveNow ctx n b) ctx
    cases hfound : EStateM.run (resolveNow ctx n) b with
    | ok r b₁ =>
      rw [hfound] at hrun
      rw [after_of_ok hfound, hmemo] at hnow
      refine ⟨(n, r) :: memo, by rw [after_of_ok hrun]; exact resolved?_settle_self hnow, ?_⟩
      rw [answer?, hrun, List.lookup_cons]
      by_cases heq : n = name
      · subst heq
        rw [beq_self_eq_true, if_pos ⟨rfl, rfl⟩, hn]
        rfl
      · rw [beq_false_of_ne (Ne.symm heq), if_neg fun h => heq h.2, Option.or_none]
    | error stop b₁ =>
      rw [hfound] at hrun
      rw [after_of_error hfound, hmemo] at hnow
      refine ⟨memo, by rwa [after_of_error hrun], ?_⟩
      rw [answer?, hrun]
      simp only [ite_self, Option.or_none]

/-- **One errand** adds at most its own answer to what the context remembers. -/
lemma lookup_perform (e : Errand) (name : String) (hmemo : b.resolved? ctx = some memo) :
    ∃ memo', (e.perform b).resolved? ctx = some memo' ∧
      memo'.lookup name = (memo.lookup name).or (e.answer? ctx name b) := by
  by_cases he : ∃ n, e = .resolve ctx n
  · obtain ⟨n, rfl⟩ := he
    exact lookup_resolve n name hmemo
  · have hother : ∀ n, e ≠ .resolve ctx n := fun n hn => he ⟨n, hn⟩
    exact ⟨memo, resolved?_perform hother hmemo, by rw [answer?_eq_none hother, Option.or_none]⟩

/-! ### Whole runs -/

/-- **A run** leaves to remember what was remembered, or else the first answer. -/
lemma exists_lookup_run (es : List Errand) (name : String) (hmemo : b.resolved? ctx = some memo) :
    ∃ memo', (run b es).resolved? ctx = some memo' ∧
      memo'.lookup name = (memo.lookup name).or (firstAnswer? ctx name b es) := by
  induction es generalizing b memo with
  | nil => exact ⟨memo, hmemo, by rw [firstAnswer?, Option.or_none]⟩
  | cons e es ih =>
    obtain ⟨memo₁, hmemo₁, hlookup₁⟩ := e.lookup_perform name hmemo
    obtain ⟨memo₂, hmemo₂, hlookup₂⟩ := ih hmemo₁
    exact ⟨memo₂, hmemo₂, by rw [hlookup₂, hlookup₁, firstAnswer?, Option.or_assoc]⟩

/-- **Resolution is stable**: whatever a host does after a context was opened, the context answers
about a name what it answered first, and nothing happens. Until there is a first answer, each call
answers from the classes and the metadata of the moment, and a failure is not remembered. -/
theorem resolution_stable (start : Bridge) (config : Config) (capabilities : Capabilities)
    (es : List Errand) (name : String) :
    let ctx := (start.openContext config capabilities).1
    let opened := (start.openContext config capabilities).2
    match firstAnswer? ctx name opened es with
    | some r => EStateM.run (Act.resolve ctx name) (run opened es) = .ok r (run opened es)
    | none => AnswersNow ctx name (run opened es) := by
  intro ctx opened
  have hopened : opened.resolved? ctx = some [] := by
    simp [ctx, opened, Bridge.resolved?, Bridge.openContext]
  obtain ⟨memo, hmemo, hlookup⟩ := exists_lookup_run es name hopened
  rw [List.lookup_nil, Option.none_or] at hlookup
  split
  · next r hfirst => exact run_resolve_of_some hmemo (hlookup.trans hfirst)
  · next hfirst => exact answersNow_resolve hmemo (hlookup.trans hfirst)

end Errand

end MessageBridge
