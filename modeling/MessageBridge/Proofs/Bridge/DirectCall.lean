import MessageBridge.Proofs.Bridge.Indifference
import MessageBridge.Proofs.Bridge.Interning

/-!
# Calling a method without sending a message

The code of a method can be called as a function, with the receiver and the selector as its first
arguments. A message finds the same code by looking the selector up, passes the receiver and the selector
as words, and settles the signature under the type string of the method instead of under a text of its own.
This module shows that both come to the same call, with the same receiver, selector and arguments, from
states that differ in nothing but kept signatures and lent buffers, so that they end the same way.

A message does one thing that a direct call does not: the class of the receiver remembers the code that was
looked up. The two are compared with the selector looked up before the direct call as well.

## Main definitions

* `Act.callMethod` — calls the code of a method as a function.
* `Act.Callable` — a method that can be called both ways.
* `Likeness.since` — states are alike until a layout is learned.

## Main results

* `Act.Callable.exists_calls` — both ways come to the same call of the code.
* `Act.direct_call_agrees` — both ways end the same.
* `Act.direct_call_remembers_nothing` — a direct call leaves out what a class would remember.
-/

namespace MessageBridge

/-- The state after a class looked a selector up. -/
def Bridge.lookedUp (b : Bridge) (c : ClassId) (sel : Selector) : Bridge :=
  { b with space := b.space.withClasses (b.space.classes.lookup c sel).2 }

/-- Nothing is said any more once the context knows more layouts than in the given state. Until then,
states are alike that differ in nothing but the signatures that the context keeps, and lent buffers. -/
def Likeness.since (ctx : ContextId) (b : Bridge) : Likeness where
  alike x y := x.unframed ctx = y.unframed ctx
  lost x := (b.contextAt ctx).translator.layouts.length < (x.contextAt ctx).translator.layouts.length

namespace Act

variable {re : Reentry} {ctx : ContextId} {b b' : Bridge} {r : ObjectRef} {c : ClassId} {m : MethodRef}
  {name : String} {sel : Selector} {s : Signature} {imp : Implementation} {args : List Value}

/-! ## The two ways to call a method -/

/-- Has a class look a name up. The context remembers the selector, and the class remembers the code. -/
def lookUp (ctx : ContextId) (c : ClassId) (name : String) : Act Unit := do
  let sel ← selector ctx name
  let _ ← lookupImp c sel

/-- Calls the code of a method as a function, with the receiver and the selector as its first
arguments. -/
def callMethod (ctx : ContextId) (m : MethodRef) (r : ObjectRef) (name : String) (args : List Value) :
    Act Value := do
  match ← implementationOf ctx m with
  | some f => callFunction ctx f (.object r :: .selector name :: args)
  | none => fail (.unresolvedName name)

/-- What both ways come to: the code is called with the receiver, the selector and the arguments, of which
the first is in the given position. -/
def callWith (re : Reentry) (ctx : ContextId) (s : Signature) (code : Implementation) (r : ObjectRef)
    (sel : Selector) (args : List Value) (index : Nat) : Act Value := do
  let (slots, blocks) ← encodeArguments ctx index (s.declared.zip args)
  let result ← re.invoke code ⟨s, wordBytes r.address :: wordBytes sel.address :: slots⟩
  retain ctx blocks
  complete re ctx s.ret result

lemma run_planMessage_of_found {t : Target} {message : Message}
    (hm : b.space.classes.findMethod? t.start t.sel = some m) :
    EStateM.run (planMessage re ctx t message) b =
      EStateM.run (methodFrame ctx m >>= planWith re ctx t message) b := by
  unfold planMessage
  rw [run_bind_ok (run_fromSpace _), hm]
  rfl

section Moving

variable {R : Bridge → Bridge → Prop} [Running R] (hre : re.Moves R)
include hre

lemma moves_planWith {t : Target} {message : Message} : Moves R (planWith re ctx t message s) b := by
  refine .ite (fun _ => moves_fail _) fun _ => (moves_findCode hre ctx t).bind fun code b₁ _ => ?_
  cases code with
  | none => exact moves_fail _
  | some code => exact moves_pure _

lemma moves_carryOut {p : Plan} : Moves R (carryOut re ctx p) b :=
  (moves_callCode hre ctx _ _ _ _).bind fun _ _ _ => moves_complete hre ctx _ _

end Moving

/-! ## Arguments -/

lemma writeWord_slot (a : Address) : writeWord (slot wordSize) a = wordBytes a := by
  have hlength : (wordBytes a).length = 8 := rfl
  rw [writeWord, overwriteBytes, List.take_zero, List.nil_append, Nat.zero_add, hlength]
  exact List.append_nil _

/-- A method starts with the receiver and the selector. -/
lemma exists_args_of_isMethod (h : s.isMethod = true) : ∃ d e, s.args = d :: e :: s.declared ∧
    (∃ name, d.shape = .object name) ∧ e.shape = .selector := by
  have hdeclared : s.declared = s.args.drop 2 := if_pos h
  unfold Signature.isMethod at h
  split at h
  · next d e rest hargs =>
    rw [Bool.and_eq_true] at h
    refine ⟨d, e, by rw [hdeclared, hargs]; rfl, ?_, ?_⟩
    · have hobject := h.1
      unfold Signature.isObject at hobject
      split at hobject
      · next name hshape => exact ⟨name, hshape⟩
      · cases hobject
    · have hselector := h.2
      unfold Signature.isSelector at hselector
      split at hselector
      · next hshape => exact hshape
      · cases hselector
  · cases h

/-- **Sending** passes the receiver and the selector as words. -/
lemma run_carryOut_words (h : s.isMethod = true) :
    EStateM.run (carryOut re ctx ⟨s, imp, [r.address, sel.address], args⟩) b =
      EStateM.run (callWith re ctx s imp r sel args 0) b := by
  have hdeclared : s.args.drop 2 = s.declared := (if_pos h).symm
  simp only [carryOut, callCode, callWith, bind_assoc, pure_bind, List.length_cons, List.length_nil,
    hdeclared]
  rfl

/-- **Calling directly** writes the receiver and the selector like all other arguments. -/
lemma run_carryOut_values (h : s.isMethod = true)
    (hsel : EStateM.run (selector ctx name) b = .ok sel b) :
    EStateM.run (carryOut re ctx ⟨s, imp, [], .object r :: .selector name :: args⟩) b =
      EStateM.run (callWith re ctx s imp r sel args 2) b := by
  obtain ⟨d, e, hargs, ⟨className, hd⟩, he⟩ := exists_args_of_isMethod h
  have hdsize : d.size = wordSize := by rw [Descriptor.size, hd]; rfl
  have hesize : e.size = wordSize := by rw [Descriptor.size, he]; rfl
  have hobject : EStateM.run (encode ctx 0 d (slot d.size) (.object r)) b =
      .ok (wordBytes r.address, []) b := by
    rw [hdsize, ← writeWord_slot]
    unfold encode
    simp only [hd]
    rfl
  have hselector : EStateM.run (encode ctx 1 e (slot e.size) (.selector name)) b =
      .ok (wordBytes sel.address, []) b := by
    rw [hesize, ← writeWord_slot]
    unfold encode
    simp only [he]
    rw [run_bind_ok hsel]
    rfl
  have hall : encodeArguments ctx 0 (s.args.zip (.object r :: .selector name :: args)) = do
      let first ← encode ctx 0 d (slot d.size) (.object r)
      let second ← encode ctx 1 e (slot e.size) (.selector name)
      let rest ← encodeArguments ctx 2 (s.declared.zip args)
      return (first.1 :: second.1 :: rest.1, first.2 ++ (second.2 ++ rest.2)) := by
    rw [hargs]
    simp only [List.zip_cons_cons, encodeArguments, bind_assoc, pure_bind]
  simp only [carryOut, callCode, callWith, bind_assoc, pure_bind, List.length_nil, List.drop_zero,
    List.map_nil, List.nil_append]
  rw [hall]
  simp only [bind_assoc, pure_bind]
  rw [run_bind_ok hobject, run_bind_ok hselector]
  rfl

/-- **Both ways** come to the same when they start in twins. -/
lemma relates_callWith {k : KeptSignature} (hre : re.Blind k) (i j : Nat) :
    Relates k.likeness Stop.Similar (callWith re ctx s imp r sel args i)
      (callWith re ctx s imp r sel args j) := by
  have hgives : GivesAlike k.likeness Stop.Similar ctx :=
    ⟨fun name => (blind_checkName name).similar, fun name => (blind_selector ctx name).similar,
      fun size bytes => (blind_keepBlock size bytes).similar⟩
  exact (relates_encodeArguments hgives _).bind fun _ => (hre.invoke imp _).similar.bind fun _ =>
    (blind_retain ctx _).similar.bind fun _ => (blind_complete hre ctx _ _).similar

/-! ## Methods that can be called both ways -/

/-- **Callable**: whatever a host has done, a message of the name finds the method in the class of the
object, which does not remember other code than that of the method. The context can look code up and read
type strings. If it knows layouts, what it keeps for the method is what its type string denotes, and what
it keeps for functions with the text of its signature is the signature. -/
structure Callable (ctx : ContextId) (r : ObjectRef) (name : String) (c : ClassId) (m : MethodRef)
    (method : Method) (imp : Implementation) (b : Bridge) : Prop where
  reached : Relation.ReflTransGen HostTyping default b
  intact : b.Intact
  room : b.space.selectors.names.size < Selector.maxCount
  opened : ctx < b.contexts.size
  valid : Text.hasNul name = false
  live : b.Live r
  isa : b.space.isa? r.address = some c
  found : b.space.classes.findMethod? c m.selector = some m
  selector : b.space.selectors.name m.selector = name
  record : b.space.classes.method? m = some method
  code : method.implementation? = some imp
  fresh : ¬ b.Stale r m
  lookup : (b.contextAt ctx).capabilities.lookup = true
  typed : (b.contextAt ctx).capabilities.typed = true
  current : (b.contextAt ctx).translator.layouts ≠ [] →
    ∀ s, (b.contextAt ctx).frames.lookup method.types = some s →
      (b.contextAt ctx).translator.denoted? method.types = some s
  function : ∀ s s', (b.contextAt ctx).translator.denoted? method.types = some s →
    (b.contextAt ctx).frames.lookup s.functionKey = some s' → s' = s
  short : ∀ s, (b.contextAt ctx).translator.denoted? method.types = some s →
    s.args.length < 0x100000000

/-- **Remembered**: the context remembers the selector of the method. -/
def Remembered (ctx : ContextId) (name : String) (m : MethodRef) (b : Bridge) : Prop :=
  (b.contextAt ctx).selectors.lookup name = some m.selector

lemma Remembered.run_selector (h : Remembered ctx name m b) :
    EStateM.run (Act.selector ctx name) b = .ok m.selector b := by
  unfold Act.selector
  rw [run_bind_ok (run_context ctx), show (b.contextAt ctx).selectors.lookup name = _ from h]
  rfl

namespace Callable

variable {method : Method} (h : Callable ctx r name c m method imp b)
include h

/-- A context that does not remember the selector of the method gets the one that there is, and remembers
it from then on. -/
lemma run_selector_of_none (hnone : (b.contextAt ctx).selectors.lookup name = none) :
    EStateM.run (Act.selector ctx name) b = .ok m.selector { b with
      contexts := b.contexts.modify ctx fun x =>
        { x with selectors := (name, m.selector) :: x.selectors } } := by
  have hnamed := HostChange.named_of_start (HostTyping.change_of_run h.reached)
  have hmem := hnamed.declares m.selector (ClassTable.declares_of_mem_methodsAlong
    (List.mem_of_find?_eq_some ((ClassTable.find?_methodsAlong ..).trans h.found)))
  have hsame : b.space.intern name = (m.selector, b.space) := by
    rw [ObjectSpace.intern, ← h.selector, hnamed.distinct.intern_name hmem]
  have hcheck : EStateM.run (checkName name) b = .ok () b := by
    rw [checkName, h.valid]
    rfl
  have hintern : EStateM.run (intern name) b = .ok m.selector b := by
    refine run_intern_eq_ok.mpr ?_
    rw [hsame]
    exact ⟨rfl, rfl, Nat.lt_trans hmem h.room⟩
  unfold Act.selector
  rw [run_bind_ok (run_context ctx), hnone]
  simp only
  rw [run_bind_ok hcheck, run_bind_ok hintern]
  rfl

/-- **The context gets the selector** of the method, and only remembers it. -/
lemma exists_selector : ∃ b₁, EStateM.run (Act.selector ctx name) b = .ok m.selector b₁ ∧
    Callable ctx r name c m method imp b₁ ∧ Remembered ctx name m b₁ ∧
      b₁.space = b.space ∧ (b₁.contextAt ctx).translator = (b.contextAt ctx).translator := by
  cases hlookup : (b.contextAt ctx).selectors.lookup name with
  | some sel =>
    have hrun : EStateM.run (Act.selector ctx name) b = .ok sel b := by
      unfold Act.selector
      rw [run_bind_ok (run_context ctx), hlookup]
      rfl
    have hnamed := HostChange.named_of_start (HostTyping.change_of_run h.reached)
    have hbeq := name_beq_of_selector hnamed hrun (ClassTable.declares_of_mem_methodsAlong
      (List.mem_of_find?_eq_some ((ClassTable.find?_methodsAlong ..).trans h.found)))
    rw [h.selector, beq_self_eq_true] at hbeq
    obtain rfl : m.selector = sel := eq_of_beq hbeq.symm
    exact ⟨b, hrun, h, hlookup, rfl, rfl⟩
  | none =>
    have hrun := h.run_selector_of_none hlookup
    have hview {γ : Type} (view : Context → γ)
        (hview : ∀ x : Context, view { x with selectors := (name, m.selector) :: x.selectors } = view x)
        (i : ContextId) : view (({ b with contexts := b.contexts.modify ctx fun x =>
          { x with selectors := (name, m.selector) :: x.selectors } } : Bridge).contextAt i) =
            view (b.contextAt i) := b.view_contextAt_modify view hview ctx i
    have htranslator := hview Context.translator (fun _ => rfl) ctx
    have hframes := hview Context.frames (fun _ => rfl) ctx
    have hcapabilities := hview Context.capabilities (fun _ => rfl) ctx
    refine ⟨_, hrun, ?_, ?_, rfl, htranslator⟩
    · exact {
        reached := h.reached.trans ((upkeep_selector ctx name).of_ok hrun)
        intact := h.intact.congr rfl fun i a => by
          simp only [Bridge.current?, hview Context.tracked (fun _ => rfl) i]
        room := h.room
        opened := Nat.lt_of_lt_of_eq h.opened Array.size_modify.symm
        valid := h.valid
        live := h.live.congr rfl rfl
        isa := h.isa
        found := h.found
        selector := h.selector
        record := h.record
        code := h.code
        fresh := h.fresh
        lookup := hcapabilities ▸ h.lookup
        typed := hcapabilities ▸ h.typed
        current := by
          rw [htranslator, hframes]
          exact h.current
        function := by
          rw [htranslator, hframes]
          exact h.function
        short := by
          rw [htranslator]
          exact h.short }
    · rw [Remembered, Bridge.contextAt_modify_self h.opened]
      exact List.lookup_cons_self

/-- A signature that is kept for the method is what its type string denotes. -/
lemma denoted?_of_kept (hkept : (b.contextAt ctx).frames.lookup method.types = some s) :
    (b.contextAt ctx).translator.denoted? method.types = some s := by
  by_cases hlayouts : (b.contextAt ctx).translator.layouts = []
  · exact (HostTyping.candid_of_start h.reached).denoted? h.typed hlayouts
      (fun s heq => HostTyping.not_types_functionKey h.reached s
        ⟨m.owner, method, List.mem_of_find?_eq_some h.record, heq⟩) h.short hkept
  · exact h.current hlayouts s hkept

omit h in
/-- What the context keeps for the method, if its type string denotes the signature. -/
def kept (ctx : ContextId) (method : Method) (s : Signature) (b : Bridge) : KeptSignature :=
  ⟨ctx, method.types, s, (b.contextAt ctx).translator.layouts.length⟩

lemma suits (hs : (b.contextAt ctx).translator.denoted? method.types = some s) :
    (kept ctx method s b).Suits b where
  context := h.opened
  typed := h.typed
  known := Nat.le_refl _
  denoted := hs
  short := h.short s hs
  types := HostTyping.not_types_functionKey h.reached s

/-- The signature of the method is settled under its type string. -/
lemma run_methodFrame : EStateM.run (methodFrame ctx m) b =
    EStateM.run (frame ctx method.types (methodTypes ctx m)) b := by
  unfold methodFrame
  rw [run_bind_ok (run_typeString m), if_pos h.typed, h.record]
  rfl

/-- **The signature that is settled** for a message is the one that the type string denotes. -/
lemma exists_run_methodFrame (hs : (b.contextAt ctx).translator.denoted? method.types = some s) :
    ∃ b₂, EStateM.run (methodFrame ctx m) b = .ok s b₂ ∧ (kept ctx method s b).Twins b₂ b := by
  rw [h.run_methodFrame]
  have hrefl := KeptSignature.Twins.refl (h.suits hs)
  cases hkept : (b.contextAt ctx).frames.lookup method.types with
  | some s' =>
    obtain rfl : s' = s := Option.some.inj ((h.denoted?_of_kept hkept).symm.trans hs)
    exact ⟨b, run_frame_of_some hkept _, hrefl⟩
  | none =>
    obtain ⟨loans, hrun⟩ := exists_run_methodTypes (m := m) (by rw [h.record]; rfl) hs
    refine ⟨_, by rw [run_frame_of_none hkept, run_bind_ok hrun]; rfl, ?_⟩
    exact (hrefl.lend loans b.loans).keepLeft hkept

end Callable

/-! ## Both ways, step by step -/

/-- Twins stay twins when a class looks a selector up in both. -/
lemma twins_lookedUp {k : KeptSignature} (h : k.Twins b b') (c : ClassId) (sel : Selector) :
    k.Twins (b.lookedUp c sel) (b'.lookedUp c sel) :=
  twins_space (g := fun s => s.withClasses (s.classes.lookup c sel).2) h
    (ObjectSpace.changes_withClasses (.lookup b.space.classes c sel)).encloses

/-- A direct call works the signature out, and then calls a function. -/
lemma run_callMethod {method : Method} (hm : b.space.classes.method? m = some method)
    (hcode : method.implementation? = some imp) (r : ObjectRef) (name : String) (args : List Value) :
    EStateM.run (callMethod ctx m r name args) b = EStateM.run (methodTypes ctx m >>= fun s =>
      methodName m >>= fun n =>
        callFunction ctx ⟨n, imp, s⟩ (.object r :: .selector name :: args)) b := by
  have hmethod : EStateM.run (methodOf m) b = .ok (some method) b := congrArg (EStateM.Result.ok · b) hm
  unfold callMethod implementationOf
  rw [bind_assoc, run_bind_ok hmethod, Option.bind_some, hcode, functionFor, bind_assoc]
  rfl

/-- A function is called with its signature, unless another one is kept under its text. -/
lemma exists_run_plan_function {k : KeptSignature} (h : k.Twins b b')
    (hkept : ∀ s, (b'.contextAt k.context).frames.lookup k.signature.functionKey = some s →
      s = k.signature) (re : Reentry) (name : String) (imp : Implementation)
    (hcount : k.signature.args.length = args.length) :
    ∃ b₁, EStateM.run (plan re k.context (.function ⟨name, imp, k.signature⟩ args)) b' =
      .ok ⟨k.signature, imp, [], args⟩ b₁ ∧ k.Twins b b₁ := by
  have hplan : plan re k.context (.function ⟨name, imp, k.signature⟩ args) = do
      let s ← frame k.context k.signature.functionKey (pure k.signature)
      return ⟨s, imp, [], args⟩ := if_neg (not_not.mpr hcount)
  rw [hplan]
  cases hlookup : (b'.contextAt k.context).frames.lookup k.signature.functionKey with
  | some s =>
    obtain rfl := hkept s hlookup
    exact ⟨b', by rw [run_bind_ok (run_frame_of_some hlookup _)]; rfl, h⟩
  | none =>
    refine ⟨_, by rw [run_bind_ok ((run_frame_of_none hlookup _).trans rfl)]; rfl, ?_⟩
    exact h.keepFunction k.signature

namespace Callable

variable {method : Method} (h : Callable ctx r name c m method imp b)
include h

/-- A message settles the signature, and then plans the call with it. -/
lemma run_send (hsel : EStateM.run (Act.selector ctx name) b = .ok m.selector b')
    (hspace : b'.space = b.space) (args : List Value) :
    EStateM.run (send ctx r ⟨name, args⟩) b = EStateM.run (methodFrame ctx m >>= fun s =>
      planWith (.within nestingLimit) ctx ⟨r, m.selector, c, false⟩ ⟨name, args⟩ s >>=
        carryOut (.within nestingLimit) ctx) b' := by
  have hplan := (run_plan_direct h.intact h.live h.isa hsel (congrArg ObjectSpace.classes hspace)
    (congrArg ObjectSpace.memory hspace) (.within nestingLimit) args).trans
      (run_planMessage_of_found (m := m) (by rw [hspace]; exact h.found))
  unfold send sendVia dispatch
  rw [run_bind_congr hplan, bind_assoc]

/-- A call whose arguments fit is planned with the code of the method, which the class looks up. -/
lemma run_planWith (htwins : (kept ctx method s b).Twins b' b)
    (hfits : s.declared.length = args.length) :
    EStateM.run (planWith re ctx ⟨r, m.selector, c, false⟩ ⟨name, args⟩ s) b' =
      .ok ⟨s, imp, [r.address, m.selector.address], args⟩ (b'.lookedUp c m.selector) := by
  have himp := fst_lookup_of_not_stale h.isa h.found h.fresh (by rw [h.record]; exact h.code)
  have hlookup : (b'.contextAt ctx).capabilities.lookup = true := by
    have hcontext := Bridge.contextAt_eq_of_unframed htwins.unframed ctx
    exact (congrArg (·.capabilities.lookup) hcontext :).trans h.lookup
  have hfind : EStateM.run (findCode re ctx ⟨r, m.selector, c, false⟩) b' =
      .ok (some imp) (b'.lookedUp c m.selector) := by
    rw [run_findCode (b := b') rfl h.live.address (htwins.space ▸ h.isa) (htwins.space ▸ himp),
      if_pos hlookup]
    rfl
  unfold planWith
  rw [if_neg (not_not.mpr hfits), run_bind_ok hfind]
  rfl

/-- A direct call whose arguments fit comes to a call of the code of the method. -/
lemma exists_run_callMethod (hs : (b.contextAt ctx).translator.denoted? method.types = some s)
    (hfits : s.declared.length = args.length) (hremembered : Remembered ctx name m b)
    (htwins : (kept ctx method s b).Twins b' (b.lookedUp c m.selector)) :
    ∃ y, EStateM.run (callMethod ctx m r name args) (b.lookedUp c m.selector) =
      EStateM.run (callWith (.within nestingLimit) ctx s imp r m.selector args 2) y ∧
        (kept ctx method s b).Twins b' y := by
  have hmethod := Translator.isMethod_of_denoted? hs
  have hrecord : (b.lookedUp c m.selector).space.classes.method? m = some method := by
    rw [← ClassTable.method?_bare, show (b.lookedUp c m.selector).space.classes.bare = _ from
      ClassTable.bare_lookup .., ClassTable.method?_bare, h.record]
  obtain ⟨loans, htypes⟩ : ∃ loans, EStateM.run (methodTypes ctx m) (b.lookedUp c m.selector) =
      .ok s { b.lookedUp c m.selector with loans } := exists_run_methodTypes (by rw [hrecord]; rfl) hs
  have hname : EStateM.run (methodName m) { b.lookedUp c m.selector with loans } =
      .ok name { b.lookedUp c m.selector with loans } := by
    rw [methodName, run_fromSpace]
    exact congrArg (EStateM.Result.ok · _) h.selector
  obtain ⟨d, e, hargs, -, -⟩ := exists_args_of_isMethod hmethod
  have hlength : s.args.length = args.length + 2 := by rw [hargs, ← hfits]; rfl
  obtain ⟨y, hplan, hy⟩ := exists_run_plan_function (htwins.lend b'.loans loans)
    (fun s' hs' => h.function s s' hs hs') (.within nestingLimit) name imp
    (show s.args.length = (Value.object r :: .selector name :: args).length from hlength)
  have hselectors : Remembered ctx name m y := by
    have hcontext := Bridge.contextAt_eq_of_unframed (htwins.unframed.symm.trans hy.unframed) ctx
    have heq : (y.contextAt ctx).selectors = (b.contextAt ctx).selectors :=
      (congrArg Context.selectors hcontext :).symm
    rw [Remembered, heq]
    exact hremembered
  refine ⟨y, ?_, hy⟩
  rw [run_callMethod hrecord h.code, run_bind_ok htypes, run_bind_ok hname]
  exact (run_bind_ok hplan).trans (run_carryOut_values hmethod hselectors.run_selector)

/-- **Where the number of arguments fits**, a message and a direct call come to the same call of the code,
from twins, if the class of the object looks the selector up before the direct call. -/
lemma exists_calls (hs : (b.contextAt ctx).translator.denoted? method.types = some s)
    (hfits : s.declared.length = args.length) :
    ∃ x y, (kept ctx method s b).Twins x y ∧
      EStateM.run (send ctx r ⟨name, args⟩) b =
        EStateM.run (callWith (.within nestingLimit) ctx s imp r m.selector args 0) x ∧
      EStateM.run (do lookUp ctx c name; callMethod ctx m r name args) b =
        EStateM.run (callWith (.within nestingLimit) ctx s imp r m.selector args 2) y := by
  obtain ⟨b₁, hsel, h₁, hremembered, hspace, htranslator⟩ := h.exists_selector
  have hk : kept ctx method s b₁ = kept ctx method s b := by rw [kept, kept, htranslator]
  rw [← htranslator] at hs
  rw [← hk]
  obtain ⟨b₂, hframe, htwins⟩ := h₁.exists_run_methodFrame hs
  obtain ⟨y, hcall, hy⟩ := h₁.exists_run_callMethod hs hfits hremembered
    (twins_lookedUp htwins c m.selector)
  have hlook : EStateM.run (lookUp ctx c name) b = .ok () (b₁.lookedUp c m.selector) := by
    unfold lookUp
    rw [run_bind_ok hsel, run_bind_ok (run_lookupImp c m.selector)]
    rfl
  refine ⟨b₂.lookedUp c m.selector, y, hy, ?_, ?_⟩
  · rw [h.run_send hsel hspace, run_bind_ok hframe, run_bind_ok (h₁.run_planWith htwins hfits),
      run_carryOut_words (Translator.isMethod_of_denoted? hs)]
  · rw [run_bind_ok hlook, hcall]

/-- The signature that is worked out is what the type string denotes, or the context learned a layout. -/
lemma denoted?_or_lost (htypes : EStateM.run (methodTypes ctx m) b = .ok s b') :
    (b.contextAt ctx).translator.denoted? method.types = some s ∨ (Likeness.since ctx b).lost b' := by
  have htypestring : (b.space.classes.method? m).map Method.types = some method.types := by
    rw [h.record]
    rfl
  have hdenoted := denoted?_of_run_methodTypes htypestring htypes
  have hsuffix := ((learning_methodTypes ctx m).mono fun _ _ => Upkeep.learning).toStep.layouts_suffix
    (b := b) ctx
  rw [after_of_ok htypes] at hsuffix
  rcases Nat.lt_or_ge (b.contextAt ctx).translator.layouts.length
    (b'.contextAt ctx).translator.layouts.length with hlost | hle
  · exact .inr hlost
  · have hlayouts := hsuffix.eq_of_length (Nat.le_antisymm hsuffix.length_le hle)
    rw [show (b.contextAt ctx).translator = (b'.contextAt ctx).translator from
      congrArg Translator.mk hlayouts]
    exact .inl hdenoted

/-- **The signature that is settled** is worked out like that of the code, unless a layout is learned on
the way. -/
lemma matching_methodFrame : Matching (.since ctx b) Eq (EStateM.run (methodFrame ctx m) b)
    (EStateM.run (methodTypes ctx m) b) := by
  cases hs : (b.contextAt ctx).translator.denoted? method.types with
  | some s =>
    obtain ⟨b₂, hframe, htwins⟩ := h.exists_run_methodFrame hs
    obtain ⟨loans, htypes⟩ := exists_run_methodTypes (m := m) (by rw [h.record]; rfl) hs
    rw [hframe, htypes]
    exact .ok (htwins.lend b₂.loans loans).unframed
  | none =>
    have hnone : (b.contextAt ctx).frames.lookup method.types = none := by
      refine Option.eq_none_iff_forall_ne_some.mpr fun s hkept => ?_
      rw [h.denoted?_of_kept hkept] at hs
      cases hs
    rw [h.run_methodFrame, run_frame_of_none hnone]
    cases htypes : EStateM.run (methodTypes ctx m) b with
    | error stop b₂ =>
      rw [run_bind_error htypes]
      exact .error rfl rfl
    | ok s b₂ =>
      have hlost := (h.denoted?_or_lost htypes).resolve_left (by rw [hs]; nofun)
      rw [run_bind_ok htypes]
      exact .lost (Nat.lt_of_lt_of_le hlost
        (Bridge.layouts_suffix_modify (by exact fun _ => List.suffix_refl _) b₂ ctx ctx).length_le) hlost

/-- **Where the number of arguments does not fit**, neither a message nor a direct call gets to the code. -/
lemma matching_of_misfit (args : List Value)
    (hmisfit : ∀ s, (b.contextAt ctx).translator.denoted? method.types = some s →
      s.declared.length ≠ args.length) :
    Matching (.since ctx b) Stop.Similar (EStateM.run (send ctx r ⟨name, args⟩) b)
      (EStateM.run (do let _ ← Act.selector ctx name; callMethod ctx m r name args) b) := by
  obtain ⟨b₁, hsel, h₁, -, hspace, htranslator⟩ := h.exists_selector
  have hsince : Likeness.since ctx b = Likeness.since ctx b₁ := by
    rw [Likeness.since, Likeness.since, htranslator]
  have hstays {α : Type} {x : Act α} (hx : ∀ b, Moves Step x b) : Stays (Likeness.since ctx b₁).lost x :=
    .of_moves (fun _ _ hstep hlost => Nat.lt_of_lt_of_le hlost (hstep.layouts_suffix ctx).length_le) hx
  have hre : (Reentry.within nestingLimit).Moves Step := Reentry.moves_within nestingLimit
  have hplan (s : Signature) : Stays (Likeness.since ctx b₁).lost
      (planWith (.within nestingLimit) ctx ⟨r, m.selector, c, false⟩ ⟨name, args⟩ s >>=
        carryOut (.within nestingLimit) ctx) :=
    (hstays fun _ => moves_planWith hre).bind fun _ => hstays fun _ => moves_carryOut hre
  have hcall (s : Signature) : Stays (Likeness.since ctx b₁).lost (methodName m >>= fun n =>
      callFunction ctx ⟨n, imp, s⟩ (.object r :: .selector name :: args)) :=
    (hstays fun _ => moves_fromSpace _).bind fun _ => hstays fun _ => moves_call _ ctx _
  rw [h.run_send hsel hspace, run_bind_ok hsel, run_callMethod h₁.record h₁.code, hsince]
  refine (h₁.matching_methodFrame.mono fun stop _ heq => heq ▸ .refl stop).bind hplan hcall
    fun s b₂ c₂ _ htypes halike => ?_
  rcases h₁.denoted?_or_lost htypes with hs | hlost
  · rw [htranslator] at hs
    obtain ⟨d, e, hargs, -, -⟩ := exists_args_of_isMethod (Translator.isMethod_of_denoted? hs)
    have hlength : s.args.length = s.declared.length + 2 := by rw [hargs]; rfl
    have hspace₂ : c₂.space = b₁.space := by
      rw [← after_of_ok htypes, space_eq_of_learning (learning_methodTypes ctx m)]
    have hname : EStateM.run (methodName m) c₂ = .ok name c₂ := by
      rw [methodName, run_fromSpace, hspace₂, h₁.selector]
    have hrefused : EStateM.run (planWith (.within nestingLimit) ctx ⟨r, m.selector, c, false⟩
        ⟨name, args⟩ s) b₂ =
          .error (.error (.argumentCountMismatch name s.declared.length args.length)) b₂ := by
      rw [planWith, if_pos (hmisfit s hs)]
      rfl
    have hrefused' : EStateM.run (callFunction ctx ⟨name, imp, s⟩ (.object r :: .selector name :: args))
        c₂ = .error (.error
          (.argumentCountMismatch name (s.declared.length + 2) (args.length + 2))) c₂ := by
      have hne : s.args.length ≠ (Value.object r :: .selector name :: args).length := by
        rw [hlength]
        exact fun heq => hmisfit s hs (Nat.add_right_cancel heq)
      refine run_bind_error ?_
      rw [plan, if_pos hne, hlength]
      rfl
    rw [run_bind_error hrefused, run_bind_ok hname, hrefused']
    exact .error (.count _ _ _) halike
  · have hlost' : (Likeness.since ctx b₁).lost b₂ := Nat.lt_of_lt_of_eq hlost
      (congrArg (·.translator.layouts.length) (Bridge.contextAt_eq_of_unframed halike ctx) :).symm
    exact .lost (hplan s b₂ hlost') (hcall s c₂ hlost)

end Callable

/-! ## Direct calls and messages -/

/-- **Direct calls agree with messages.** Where the number of arguments fits, a message, and a direct call
after the class of the object looked the selector up, call the same code with the same receiver, selector
and arguments, and end the same way. Where it does not fit, or where the type string of the method denotes
nothing, a message and a direct call fail alike, and the message only gets its selector before. The states
that are left behind differ in nothing but kept signatures and lent buffers. Nothing is said if the context
learns the layout of a struct on the way. -/
theorem direct_call_agrees {method : Method} (h : Callable ctx r name c m method imp b)
    (args : List Value) :
    (∀ s, (b.contextAt ctx).translator.denoted? method.types = some s →
      s.declared.length = args.length →
        (∃ x y, x.unframed ctx = y.unframed ctx ∧
          EStateM.run (send ctx r ⟨name, args⟩) b =
            EStateM.run (callWith (.within nestingLimit) ctx s imp r m.selector args 0) x ∧
          EStateM.run (do lookUp ctx c name; callMethod ctx m r name args) b =
            EStateM.run (callWith (.within nestingLimit) ctx s imp r m.selector args 2) y) ∧
        Matching (.since ctx b) Stop.Similar (EStateM.run (send ctx r ⟨name, args⟩) b)
          (EStateM.run (do lookUp ctx c name; callMethod ctx m r name args) b)) ∧
    ((∀ s, (b.contextAt ctx).translator.denoted? method.types = some s →
      s.declared.length ≠ args.length) →
        Matching (.since ctx b) Stop.Similar (EStateM.run (send ctx r ⟨name, args⟩) b)
          (EStateM.run (do let _ ← selector ctx name; callMethod ctx m r name args) b)) := by
  refine ⟨fun s hs hfits => ?_, h.matching_of_misfit args⟩
  obtain ⟨x, y, htwins, hsend, hcall⟩ := h.exists_calls hs hfits
  refine ⟨⟨x, y, htwins.unframed, hsend, hcall⟩, ?_⟩
  rw [hsend, hcall]
  have hends : Matching (Callable.kept ctx method s b).likeness Stop.Similar
      (EStateM.run (callWith (.within nestingLimit) ctx s imp r m.selector args 0) x)
      (EStateM.run (callWith (.within nestingLimit) ctx s imp r m.selector args 2) y) :=
    (relates_callWith (Reentry.blind_within nestingLimit) 0 2).ends x y htwins
  exact hends.relax (fun _ _ halike => KeptSignature.Twins.unframed halike) fun _ hlost => hlost

/-! ## An instance that answers in both ways -/

/-- The method of the class of the instance. -/
def layeredMethod : MethodRef := ⟨⟨7⟩, (layeredBridge.space.intern "me").1⟩

lemma typing_layeredBridge : Relation.ReflTransGen HostTyping default layeredBridge :=
  .trans (.single (HostTyping.openContext default {} {})) moves_layeredScene

/-- The method is found for the instance, and nothing else is in the way of calling it. -/
lemma exists_callable_layered : ∃ method imp,
    Callable 0 layeredReceiver "me" ⟨7⟩ layeredMethod method imp layeredBridge ∧
      ∃ s, (layeredBridge.contextAt 0).translator.denoted? method.types = some s ∧
        s.declared = [] := by
  obtain ⟨method, hrecord⟩ := Option.isSome_iff_exists.mp
    (by decide +kernel : (layeredBridge.space.classes.method? layeredMethod).isSome = true)
  have htypes : (layeredBridge.space.classes.method? layeredMethod).all (fun m =>
      m.implementation?.isSome &&
      ((layeredBridge.contextAt 0).translator.denoted? m.types).any fun s =>
        decide (s.args.length < 0x100000000) && s.declared.isEmpty) = true := by decide +kernel
  rw [hrecord, Option.all_some, Bool.and_eq_true] at htypes
  obtain ⟨hcode, hdenoted⟩ := htypes
  obtain ⟨imp, hcode⟩ := Option.isSome_iff_exists.mp hcode
  obtain ⟨s, hs, htest⟩ := (Option.any_eq_true _ _).mp hdenoted
  rw [Bool.and_eq_true, decide_eq_true_eq, List.isEmpty_iff] at htest
  have hframes : (layeredBridge.contextAt 0).frames = [] :=
    List.isEmpty_iff.mp (by decide +kernel)
  have hlayouts : (layeredBridge.contextAt 0).translator.layouts = [] :=
    List.isEmpty_iff.mp (by decide +kernel)
  have hisa : layeredBridge.space.isa? layeredReceiver.address = some ⟨7⟩ := by decide +kernel
  have hremembers : (layeredBridge.space.classes.get ⟨7⟩).cache.find? layeredBridge.space.classes.epoch
      layeredMethod.selector = none := Option.isNone_iff_eq_none.mp (by decide +kernel)
  exact ⟨method, imp, {
    reached := typing_layeredBridge
    intact := intact_layeredBridge
    room := by decide +kernel
    opened := by decide +kernel
    valid := by decide +kernel
    live := live_layeredReceiver
    isa := hisa
    found := by decide +kernel
    selector := by decide +kernel
    record := hrecord
    code := hcode
    fresh := by
      rintro ⟨c, code, hc, hcode, -⟩
      obtain rfl : ⟨7⟩ = c := Option.some.inj (hisa.symm.trans hc)
      rw [hremembers] at hcode
      cases hcode
    lookup := by decide +kernel
    typed := by decide +kernel
    current := fun h => absurd hlayouts h
    function := by
      intro s s' _ hkept
      rw [hframes] at hkept
      cases hkept
    short := fun s' hs' => by
      obtain rfl := Option.some.inj (hs.symm.trans hs')
      exact htest.1 }, s, hs, htest.2⟩

/-- **The instance** answers alike in both ways, and an argument too many is refused in both. -/
theorem direct_call_agrees_layered : ∃ method imp s,
    Callable 0 layeredReceiver "me" ⟨7⟩ layeredMethod method imp layeredBridge ∧
    (layeredBridge.contextAt 0).translator.denoted? method.types = some s ∧ s.declared = [] ∧
    Matching (.since 0 layeredBridge) Stop.Similar
      (EStateM.run (send 0 layeredReceiver ⟨"me", []⟩) layeredBridge)
      (EStateM.run (do lookUp 0 ⟨7⟩ "me"; callMethod 0 layeredMethod layeredReceiver "me" [])
        layeredBridge) ∧
    Matching (.since 0 layeredBridge) Stop.Similar
      (EStateM.run (send 0 layeredReceiver ⟨"me", [.int 1]⟩) layeredBridge)
      (EStateM.run (do let _ ← selector 0 "me"; callMethod 0 layeredMethod layeredReceiver "me" [.int 1])
        layeredBridge) := by
  obtain ⟨method, imp, h, s, hs, hdeclared⟩ := exists_callable_layered
  obtain ⟨hfits, -⟩ := direct_call_agrees h []
  obtain ⟨-, hmisfit⟩ := direct_call_agrees h [.int 1]
  refine ⟨method, imp, s, h, hs, hdeclared, (hfits s hs (by rw [hdeclared]; rfl)).2, hmisfit ?_⟩
  intro s' hs'
  obtain rfl := Option.some.inj (hs.symm.trans hs')
  rw [hdeclared]
  decide

/-- **A direct call looks nothing up.** After a message the class of the instance remembers the code of the
method. After a direct call in the same state it remembers nothing, though both end with the same value
and no layout is known. -/
theorem direct_call_remembers_nothing :
    (∃ method imp, Callable 0 layeredReceiver "me" ⟨7⟩ layeredMethod method imp layeredBridge) ∧
    (layeredBridge.contextAt 0).translator.layouts = [] ∧
    ∃ v b₁, EStateM.run (send 0 layeredReceiver ⟨"me", []⟩) layeredBridge = .ok v b₁ ∧
      ∃ w b₂, EStateM.run (callMethod 0 layeredMethod layeredReceiver "me" []) layeredBridge =
          .ok w b₂ ∧ v.equals w = true ∧
        ((b₁.space.classes.get ⟨7⟩).cache.find? b₁.space.classes.epoch layeredMethod.selector).isSome ∧
        (b₂.space.classes.get ⟨7⟩).cache.find? b₂.space.classes.epoch layeredMethod.selector = none := by
  obtain ⟨method, imp, h, -⟩ := exists_callable_layered
  have hends : (send 0 layeredReceiver ⟨"me", []⟩).endsWith (fun v b₁ =>
      (callMethod 0 layeredMethod layeredReceiver "me" []).endsWith (fun w b₂ => v.equals w &&
        (((b₁.space.classes.get ⟨7⟩).cache.find? b₁.space.classes.epoch layeredMethod.selector).isSome &&
        ((b₂.space.classes.get ⟨7⟩).cache.find? b₂.space.classes.epoch
          layeredMethod.selector).isNone)) layeredBridge) layeredBridge = true := by decide +kernel
  obtain ⟨v, b₁, hsend, htest⟩ := exists_of_endsWith hends
  obtain ⟨w, b₂, hcall, htest⟩ := exists_of_endsWith htest
  simp only [Bool.and_eq_true, Option.isNone_iff_eq_none] at htest
  obtain ⟨hequals, hsome, hnone⟩ := htest
  exact ⟨⟨method, imp, h⟩, List.isEmpty_iff.mp (by decide +kernel), v, b₁, hsend, w, b₂, hcall, hequals,
    hsome, hnone⟩

end Act

end MessageBridge
