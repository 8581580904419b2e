import MessageBridge.Proofs.Bridge.Failure
import MessageBridge.Proofs.Bridge.Introspection

/-!
# Messages that are rejected

A message can be rejected before any code is called for it: there may be no class to start at, no signature
to call with, another number of arguments than the signature has, or an argument that cannot be passed. By
then names were looked up, types were read, and the arguments before the bad one were written to memory.
This module shows that a message that is rejected only adds to such records, and leaves alone all else.

An error does not say by itself that there were no effects. Code that is called hands on the errors of the
messages that it sends, and a class that is asked for missing code can do anything before the arguments are
looked at.

## Main definitions

* `Context.Enriched` — a context remembers more.
* `Bridge.Unaffected` — nothing but records is different.
* `Act.Rejected` — why a message is rejected.
* `Act.AsksFirst` — code is called to look the code for a message up.

## Main results

* `Act.rejected_of_root`, `Act.rejected_of_deny` — messages for which there is no method are rejected.
* `Act.not_asksFirst_of_not_asks` — code that is found at once is not asked for.
* `Act.rejected_unaffected` — a message that is rejected has no effect, and a message that fails is rejected
  unless code is called for it.
* `Act.fails_with_effects` — messages that fail and have effects.
-/

namespace MessageBridge

/-- **Enriched**: the context remembers more selectors, layouts and signatures, and maybe other references.
All else is as before. -/
structure Context.Enriched (x x' : Context) : Prop where
  eq : x' = { x with
    selectors := x'.selectors, tracked := x'.tracked, translator := x'.translator, frames := x'.frames }
  selectors : x.selectors <:+ x'.selectors
  layouts : x.translator.layouts <:+ x'.translator.layouts
  frames : x.frames <:+ x'.frames

namespace Context.Enriched

variable {x x' x'' : Context}

lemma refl (x : Context) : x.Enriched x :=
  ⟨rfl, List.suffix_refl _, List.suffix_refl _, List.suffix_refl _⟩

lemma trans (h : x.Enriched x') (h' : x'.Enriched x'') : x.Enriched x'' where
  eq := h'.eq.trans (congrArg (fun x : Context => { x with
    selectors := x''.selectors, tracked := x''.tracked, translator := x''.translator,
    frames := x''.frames }) h.eq)
  selectors := h.selectors.trans h'.selectors
  layouts := h.layouts.trans h'.layouts
  frames := h.frames.trans h'.frames

end Context.Enriched

namespace Bridge

/-- **Unaffected**: there are more selectors, more blocks of memory and other caches, contexts remember more,
and classes that had no good reference may have one. All else is as before: classes with their methods and
instance variables, protocols, the blocks that there were, the raised exception, and what waits in contexts,
was resolved or is kept by them. -/
structure Unaffected (b b' : Bridge) : Prop where
  eq : b' = { b with
    space := b'.space, contexts := b'.contexts, nextSerial := b'.nextSerial, loans := b'.loans }
  space : b'.space = { b.space with
    selectors := b'.space.selectors, classes := b'.space.classes,
    associations := b'.space.associations, memory := b'.space.memory }
  classes : b'.space.classes.bare = b.space.classes.bare
  blocks : b.space.memory.blocks <:+ b'.space.memory.blocks
  selectors : b.space.selectors.Extends b'.space.selectors
  words : ∀ a key, b'.space.associations.get? a (.word key) = b.space.associations.get? a (.word key)
  references : ∀ ctx a, b'.current? ctx a = b.current? ctx a ∨
    b.current? ctx a = none ∧ ∃ c, b.space.classes.Has c ∧ a = c.address
  size : b'.contexts.size = b.contexts.size
  contexts : ∀ ctx, (b.contextAt ctx).Enriched (b'.contextAt ctx)

namespace Unaffected

variable {b b' b'' : Bridge}

lemma refl (b : Bridge) : b.Unaffected b :=
  ⟨rfl, rfl, rfl, List.suffix_refl _, .refl _, fun _ _ => rfl, fun _ _ => .inl rfl, rfl,
    fun _ => .refl _⟩

/-- The classes of the table are those that it had. -/
lemma has_iff (h : b.Unaffected b') (c : ClassId) : b'.space.classes.Has c ↔ b.space.classes.Has c := by
  have hsize := congrArg (·.records.size) h.classes
  simp only [ClassTable.bare, Array.size_map] at hsize
  rw [ClassTable.Has, hsize, ClassTable.Has]

lemma trans (h : b.Unaffected b') (h' : b'.Unaffected b'') : b.Unaffected b'' where
  eq := h'.eq.trans (congrArg (fun b : Bridge => { b with
    space := b''.space, contexts := b''.contexts, nextSerial := b''.nextSerial,
    loans := b''.loans }) h.eq)
  space := h'.space.trans (congrArg (fun s : ObjectSpace => { s with
    selectors := b''.space.selectors, classes := b''.space.classes,
    associations := b''.space.associations, memory := b''.space.memory }) h.space)
  classes := h'.classes.trans h.classes
  blocks := h.blocks.trans h'.blocks
  selectors := h.selectors.trans h'.selectors
  words a key := (h'.words a key).trans (h.words a key)
  references ctx a := by
    rcases h'.references ctx a with heq' | ⟨hnone', c, hc, hac⟩
    · rw [heq']
      exact h.references ctx a
    · rcases h.references ctx a with heq | hnew
      · exact .inr ⟨heq ▸ hnone', c, (h.has_iff c).mp hc, hac⟩
      · exact .inr hnew
  size := h'.size.trans h.size
  contexts ctx := (h.contexts ctx).trans (h'.contexts ctx)

/-- A run of such steps is one. -/
lemma of_steps (h : Relation.ReflTransGen Unaffected b b') : b.Unaffected b' := by
  induction h with
  | refl => exact .refl b
  | tail _ hstep ih => exact ih.trans hstep

/-- More selectors, other caches and more blocks. -/
lemma of_space {space : ObjectSpace} (hspace : space = { b.space with
      selectors := space.selectors, classes := space.classes, memory := space.memory })
    (hclasses : space.classes.bare = b.space.classes.bare)
    (hblocks : b.space.memory.blocks <:+ space.memory.blocks)
    (hselectors : b.space.selectors.Extends space.selectors) : b.Unaffected { b with space } := by
  have hassociations : space.associations = b.space.associations := congrArg (·.associations) hspace
  refine ⟨rfl, ?_, hclasses, hblocks, hselectors, fun a key => ?_, fun ctx a => .inl ?_, rfl,
    fun _ => .refl _⟩
  · exact hspace.trans (by rw [hassociations])
  · exact congrArg (·.get? a (.word key)) hassociations
  · rw [current?, current?, hassociations]
    rfl

/-- One context remembers more. -/
lemma of_context {f : Context → Context} (hf : ∀ x : Context, x.Enriched (f x))
    (htracked : ∀ x, (f x).tracked = x.tracked) (ctx : ContextId) :
    b.Unaffected { b with contexts := b.contexts.modify ctx f } := by
  refine ⟨rfl, rfl, rfl, List.suffix_refl _, .refl _, fun _ _ => rfl, fun i a => .inl ?_,
    Array.size_modify, fun i => ?_⟩
  · rw [current?, b.view_contextAt_modify Context.tracked htracked, current?]
  · simp only [contextAt, Array.getElem?_modify]
    split
    · cases b.contexts[i]? with
      | none => exact .refl _
      | some x => exact hf x
    · exact .refl _

lemma of_learning (h : Learning b b') : b.Unaffected b' := by
  cases h with
  | lend loans =>
    exact ⟨rfl, rfl, rfl, List.suffix_refl _, .refl _, fun _ _ => rfl, fun _ _ => .inl rfl, rfl,
      fun _ => .refl _⟩
  | learn ctx layout =>
    exact of_context (by exact fun _ => ⟨rfl, List.suffix_refl _, List.suffix_cons _ _, List.suffix_refl _⟩)
      (by exact fun _ => rfl) ctx

lemma keepFrame (ctx : ContextId) (key : String) (s : Signature) :
    b.Unaffected { b with contexts := b.contexts.modify ctx fun c =>
      { c with frames := (key, s) :: c.frames } } :=
  of_context (by exact fun _ => ⟨rfl, List.suffix_refl _, List.suffix_refl _, List.suffix_cons _ _⟩)
    (by exact fun _ => rfl) ctx

/-- A class that has no good reference gets one. -/
lemma newRef {ctx : ContextId} {c : ClassId} (hc : b.space.classes.Has c)
    (hnone : b.current? ctx c.address = none) (isClass : Bool) :
    b.Unaffected ((Act.newRef ctx c.address isClass).after b) := by
  rw [Act.after_newRef]
  refine ⟨rfl, rfl, rfl, List.suffix_refl _, .refl _, fun a key => ?_, fun i a => ?_, Array.size_modify,
    fun i => ?_⟩
  · exact AssociationTable.get?_set_of_ne (by simp) _
  · by_cases hkey : (a, AssociationKey.context i) = (c.address, .context ctx)
    · cases hkey
      exact .inr ⟨hnone, c, hc, rfl⟩
    · exact .inl (current?_newRef_of_ne hkey)
  · simp only [contextAt, Array.getElem?_modify]
    split
    · cases b.contexts[i]? with
      | none => exact .refl _
      | some x => exact ⟨rfl, List.suffix_refl _, List.suffix_refl _, List.suffix_refl _⟩
    · exact .refl _

end Unaffected

/-- **Preparing a call** has no effect. -/
instance : Preparing Unaffected where
  intern name := .of_space rfl rfl (List.suffix_refl _) (.intern _ name)
  remember ctx _ _ _ _ _ _ h := by
    subst h
    exact .of_context (by exact fun _ => ⟨rfl, List.suffix_cons _ _, List.suffix_refl _, List.suffix_refl _⟩)
      (by exact fun _ => rfl) ctx
  store h := by
    obtain ⟨-, -, rfl⟩ := Memory.allocate_eq_some h
    exact .of_space rfl rfl (List.suffix_cons _ _) (.refl _)
  referClass ctx _ _ isClass hisa hnone _ := by
    obtain ⟨a, -, ha⟩ := Option.bind_eq_some_iff.mp hisa
    exact .newRef (ClassTable.has_of_ofAddress? ha) (EStateM.Result.ok.inj hnone).1 isClass
  cache c sel := .of_space rfl (ClassTable.bare_lookup _ c sel) (List.suffix_refl _) (.refl _)

end Bridge

namespace Act

variable {re : Reentry} {ctx : ContextId} {route : Route} {r : ObjectRef} {m : Message} {t : Target}
  {s : Signature} {e : Error} {b b₁ b' : Bridge}

/-! ## Code that is found without calling other code -/

/-- **Calls out**: to look the code up is to ask the class of the receiver for it, which calls code. -/
def Target.CallsOut (t : Target) (b : Bridge) : Prop :=
  t.isSuper = false ∧ ∃ imp c b', Asked t.receiver.address t.sel b imp c b'

/-- Where code is found at once, none is called to find it. -/
lemma Target.not_callsOut_of_not_asks (h : ¬t.Asks b) : ¬t.CallsOut b := by
  rintro ⟨hdirect, imp, c, b', hasked⟩
  obtain ⟨k, b₁, hisa, hlookup, -⟩ := hasked.asks
  exact h ⟨hdirect, hasked.receiver_ne, k, hisa, (EStateM.Result.ok.inj hlookup).1⟩

/-- The code for a receiver, without calling other code. -/
def codeAtOnce (receiver : Address) (sel : Selector) : Act Implementation := do
  if receiver = 0 then return .nilMethod
  let c ← readSpace (·.isa? receiver)
  match ← lookupImp c sel with
  | some imp => return imp
  | none =>
    let _ ← resolverCall c receiver sel
    return .forwarding

/-- The code for a message, without calling other code. -/
def findAtOnce (ctx : ContextId) (t : Target) : Act (Option Implementation) := do
  if t.isSuper then return some (← lookupAbove t.receiver.address (some t.start) (some t.sel))
  else if (← context ctx).capabilities.lookup then
    return some (← codeAtOnce t.receiver.address t.sel)
  else return none

lemma moves_findAtOnce {R : Bridge → Bridge → Prop} [Preparing R] : Moves R (findAtOnce ctx t) b := by
  have hcode (b : Bridge) : Moves R (codeAtOnce t.receiver.address t.sel) b := by
    refine .ite (fun _ => moves_pure _) fun _ => (moves_readSpace _).bind fun c _ _ =>
      (upkeep_lookupImp c t.sel).bind fun imp _ _ => ?_
    cases imp with
    | some imp => exact moves_pure _
    | none => exact (upkeep_resolverCall c _ t.sel).bind fun _ _ _ => moves_pure _
  exact .ite (fun _ => (upkeep_lookupAbove _ _ _).bind fun _ _ _ => moves_pure _) fun _ =>
    (moves_context ctx).bind fun _ b₁ _ => .ite
      (fun _ => (hcode b₁).bind fun _ _ _ => moves_pure _) fun _ => moves_pure _

/-- **Where no code is called to find it**, the code is found whatever code would do. -/
lemma run_findCode_of_not_callsOut (h : ¬t.CallsOut b) (re : Reentry) :
    EStateM.run (findCode re ctx t) b = EStateM.run (findAtOnce ctx t) b := by
  unfold findCode findAtOnce
  split
  · rfl
  next hsuper =>
  refine run_bind_alike rfl fun x b₁ hx => ?_
  cases hx
  split
  · refine run_bind_congr ?_ _
    unfold lookupImplementation codeAtOnce
    by_cases hnull : t.receiver.address = 0
    · simp only [if_pos hnull]
    · simp only [if_neg hnull]
      refine run_bind_alike rfl fun k b₁ hrun => run_bind_alike rfl fun imp b₂ hlookup => ?_
      obtain ⟨hisa, rfl⟩ := run_readSpace_eq_ok.mp hrun
      cases imp with
      | some imp => rfl
      | none =>
        simp only [resolveMissing, bind_assoc]
        refine run_bind_alike rfl fun call b₃ hcall => ?_
        cases call with
        | none => rfl
        | some call =>
          exact absurd ⟨by simpa using hsuper, _, _, _, hnull, k, b₂, hisa, hlookup, hcall⟩ h
  · rfl

/-- Which contexts cannot look which code up. -/
lemma run_findCode_eq_ok_none : EStateM.run (findCode re ctx t) b = .ok none b' ↔
    t.isSuper = false ∧ (b.contextAt ctx).capabilities.lookup = false ∧ b' = b := by
  refine ⟨fun h => ?_, ?_⟩
  · have heq := eq_of_findCode_eq_none h
    unfold findCode at h
    split at h
    · obtain ⟨code, b₁, -, h⟩ := run_bind_eq_ok.mp h
      cases h
    · next hsuper =>
      rw [run_bind_ok (run_context ctx)] at h
      split at h
      · obtain ⟨code, b₁, -, h⟩ := run_bind_eq_ok.mp h
        cases h
      · next hlookup => exact ⟨by simpa using hsuper, by simpa using hlookup, heq⟩
  · rintro ⟨hsuper, hlookup, rfl⟩
    unfold findCode
    rw [if_neg (by rw [hsuper]; decide), run_bind_ok (run_context ctx), if_neg (by rw [hlookup]; decide)]
    rfl

/-! ## What is settled before the code is looked up -/

/-- The target of a message, and the signature to call with. -/
def settleMessage (ctx : ContextId) (route : Route) (r : ObjectRef) (m : Message) :
    Act (Target × Signature) := do
  let t ← target ctx r route m.selector
  let method ← fromSpace (·.classes.findMethod? t.start t.sel)
  return (t, ← messageFrame ctx method m)

lemma plan_message_eq : plan re ctx (.message route r m) =
    settleMessage ctx route r m >>= fun x => planWith re ctx x.1 m x.2 := by
  have hplan : plan re ctx (.message route r m) = target ctx r route m.selector >>= fun t =>
      fromSpace (·.classes.findMethod? t.start t.sel) >>= fun method =>
        messageFrame ctx method m >>= planWith re ctx t m := rfl
  rw [hplan]
  simp only [settleMessage, bind_assoc, pure_bind]

/-- What a planned call was planned from. -/
lemma exists_of_run_plan {p : Plan} (h : EStateM.run (plan re ctx (.message route r m)) b = .ok p b') :
    ∃ t s b₁ code, EStateM.run (settleMessage ctx route r m) b = .ok (t, s) b₁ ∧
      s.declared.length = m.args.length ∧ EStateM.run (findCode re ctx t) b₁ = .ok (some code) b' ∧
        p = ⟨s, code, [t.receiver.address, t.sel.address], m.args⟩ := by
  rw [plan_message_eq] at h
  obtain ⟨⟨t, s⟩, b₁, hsettle, h⟩ := run_bind_eq_ok.mp h
  simp only [planWith] at h
  split at h
  · cases h
  · next hcount =>
    obtain ⟨code, b₂, hcode, h⟩ := run_bind_eq_ok.mp h
    cases code with
    | none => cases h
    | some code =>
      cases h
      exact ⟨t, s, b₁, code, hsettle, not_not.mp hcount, hcode, rfl⟩

/-- Settling has no effect. -/
lemma unaffected_settleMessage : Moves Bridge.Unaffected (settleMessage ctx route r m) b :=
  (upkeep_target ctx r route m.selector).bind fun _ _ _ => (moves_fromSpace _).bind fun method _ _ =>
    (moves_messageFrame (fun _ key s => .keepFrame ctx key s)
      (fun m _ => (learning_methodTypes ctx m).mono fun _ _ => .of_learning) method m).bind
      fun _ _ _ => moves_pure _

/-! ## Messages that are rejected -/

/-- **Rejected**: a message fails before code is called for it. -/
inductive Rejected (ctx : ContextId) (route : Route) (r : ObjectRef) (m : Message) (b : Bridge) :
    Error → Bridge → Prop
  /-- There is no class to start at, or no signature to call with. -/
  | unsettled {e : Error} {b' : Bridge}
      (hsettle : EStateM.run (settleMessage ctx route r m) b = .error (.error e) b') :
      Rejected ctx route r m b e b'
  /-- The signature has another number of arguments. -/
  | count {t : Target} {s : Signature} {b' : Bridge}
      (hsettle : EStateM.run (settleMessage ctx route r m) b = .ok (t, s) b')
      (hcount : s.declared.length ≠ m.args.length) :
      Rejected ctx route r m b (.argumentCountMismatch m.selector s.declared.length m.args.length) b'
  /-- The context cannot look code up. -/
  | lookup {t : Target} {s : Signature} {b' : Bridge}
      (hsettle : EStateM.run (settleMessage ctx route r m) b = .ok (t, s) b')
      (hcount : s.declared.length = m.args.length) (hdirect : t.isSuper = false)
      (hlookup : (b'.contextAt ctx).capabilities.lookup = false) :
      Rejected ctx route r m b (.unrecognizedSelector m.selector) b'
  /-- An argument cannot be passed to code that is found without calling other code. -/
  | argument {t : Target} {s : Signature} {code : Implementation} {e : Error} {b₁ b₂ b' : Bridge}
      (hsettle : EStateM.run (settleMessage ctx route r m) b = .ok (t, s) b₁)
      (hcount : s.declared.length = m.args.length) (hout : ¬t.CallsOut b₁)
      (hcode : EStateM.run (findAtOnce ctx t) b₁ = .ok (some code) b₂)
      (hargs : EStateM.run (encodeArguments ctx 0
        (Plan.declared ⟨s, code, [t.receiver.address, t.sel.address], m.args⟩)) b₂ =
          .error (.error e) b') : Rejected ctx route r m b e b'

/-- **Asks first**: code is called to look the code for a message up. -/
def AsksFirst (ctx : ContextId) (route : Route) (r : ObjectRef) (m : Message) (b : Bridge) : Prop :=
  ∃ t s b₁, EStateM.run (settleMessage ctx route r m) b = .ok (t, s) b₁ ∧
    s.declared.length = m.args.length ∧ (b₁.contextAt ctx).capabilities.lookup = true ∧ t.CallsOut b₁

/-- **At the root**: there is nothing above the class that the search should start above. -/
lemma rejected_of_root {origin : Option ClassId} {sel : Selector}
    (htarget : EStateM.run (target ctx r route m.selector) b =
      EStateM.run (targetAbove ctx r origin m.selector) b₁)
    (hsel : EStateM.run (selector ctx m.selector) b₁ = .ok sel b')
    (hroot : (origin.bind fun c => (b'.space.classes.get c).superclass?) = none) :
    Rejected ctx route r m b (.unrecognizedSelector m.selector) b' := by
  refine .unsettled (run_bind_error (htarget.trans ?_))
  unfold targetAbove
  rw [run_bind_ok hsel, run_bind_ok (run_fromSpace _), hroot]
  rfl

/-- **No method**, where the context assumes none. -/
lemma rejected_of_deny (htarget : EStateM.run (target ctx r route m.selector) b = .ok t b')
    (hnone : b'.space.classes.findMethod? t.start t.sel = none)
    (hdeny : (b'.contextAt ctx).config.fallback = .deny) :
    Rejected ctx route r m b (.unrecognizedSelector m.selector) b' := by
  refine .unsettled ((run_bind_ok htarget).trans ((run_bind_ok (run_fromSpace _)).trans (run_bind_error ?_)))
  rw [hnone]
  simp only [messageFrame, assumedFrame]
  rw [run_bind_ok (run_context ctx), if_pos hdeny]
  rfl

/-- **Code that is found at once** is not asked for. -/
lemma not_asksFirst_of_not_asks (hsettle : EStateM.run (settleMessage ctx route r m) b = .ok (t, s) b')
    (hasks : ¬t.Asks b') : ¬AsksFirst ctx route r m b := by
  rintro ⟨t', s', b₁, hsettle', -, -, hout⟩
  cases hsettle.symm.trans hsettle'
  exact Target.not_callsOut_of_not_asks hasks hout

namespace Rejected

/-- **Where a rejected message fails**, whatever code would do: when its call is planned, or when its
arguments are encoded. -/
lemma run_plan (h : Rejected ctx route r m b e b') (re : Reentry) :
    EStateM.run (plan re ctx (.message route r m)) b = .error (.error e) b' ∨
      ∃ p b₁, EStateM.run (plan re ctx (.message route r m)) b = .ok p b₁ ∧
        EStateM.run (encodeArguments ctx 0 p.declared) b₁ = .error (.error e) b' := by
  rw [plan_message_eq]
  cases h with
  | unsettled hsettle => exact .inl (run_bind_error hsettle)
  | count hsettle hcount =>
    left
    rw [run_bind_ok hsettle, planWith, if_pos hcount]
    rfl
  | lookup hsettle hcount hdirect hlookup =>
    left
    rw [run_bind_ok hsettle, planWith, if_neg (not_not.mpr hcount),
      run_bind_ok (run_findCode_eq_ok_none.mpr ⟨hdirect, hlookup, rfl⟩)]
    rfl
  | argument hsettle hcount hout hcode hargs =>
    rw [← run_findCode_of_not_callsOut hout re] at hcode
    refine .inr ⟨_, _, ?_, hargs⟩
    rw [run_bind_ok hsettle, planWith, if_neg (not_not.mpr hcount), run_bind_ok hcode]
    rfl

/-- **It fails** with the error. -/
lemma run_dispatch (h : Rejected ctx route r m b e b') (re : Reentry) :
    EStateM.run (dispatch re ctx (.message route r m)) b = .error (.error e) b' := by
  rcases h.run_plan re with hplan | ⟨p, b₁, hplan, hargs⟩
  · exact run_bind_error hplan
  · exact (run_bind_ok hplan).trans (run_bind_error (run_bind_error hargs))

/-- **Its code is not called.** -/
lemma not_calls (h : Rejected ctx route r m b e b') (re : Reentry) (waiting : ContextId → Option Error) :
    ¬Calls re ctx (.message route r m) b waiting := by
  rintro ⟨p, b₁, result, b₂, hplan, hcall, -⟩
  rcases h.run_plan re with hplan' | ⟨p', b₃, hplan', hargs⟩
  · cases hplan.symm.trans hplan'
  · cases hplan.symm.trans hplan'
    cases hcall.symm.trans (run_bind_error hargs)

/-- **Its code is not asked for.** -/
lemma not_asksFirst (h : Rejected ctx route r m b e b') : ¬AsksFirst ctx route r m b := by
  rintro ⟨t, s, b₁, hsettle, hcount, hlookup, hout⟩
  cases h with
  | unsettled hsettle' => cases hsettle.symm.trans hsettle'
  | count hsettle' hcount' =>
    cases hsettle.symm.trans hsettle'
    exact hcount' hcount
  | lookup hsettle' _ _ hlookup' =>
    cases hsettle.symm.trans hsettle'
    cases hlookup.symm.trans hlookup'
  | argument hsettle' _ hout' =>
    cases hsettle.symm.trans hsettle'
    exact hout' hout

/-- **It has no effect.** -/
lemma unaffected (h : Rejected ctx route r m b e b') : b.Unaffected b' := by
  cases h with
  | unsettled hsettle => exact .of_steps (unaffected_settleMessage.of_error hsettle)
  | count hsettle | lookup hsettle => exact .of_steps (unaffected_settleMessage.of_ok hsettle)
  | argument hsettle _ _ hcode hargs =>
    have hsettled : b.Unaffected _ := .of_steps (unaffected_settleMessage.of_ok hsettle)
    exact (hsettled.trans (.of_steps (moves_findAtOnce.of_ok hcode))).trans
      (.of_steps ((upkeep_encodeArguments ctx 0 _).of_error hargs))

end Rejected

/-- **A message that fails is rejected** if code is neither called for it nor asked for. -/
lemma rejected_of_dispatch {depth : Nat}
    (h : EStateM.run (dispatch (.within depth) ctx (.message route r m)) b = .error (.error e) b')
    (hcalls : ∀ waiting, ¬Calls (.within depth) ctx (.message route r m) b waiting)
    (hasks : ¬AsksFirst ctx route r m b) : Rejected ctx route r m b e b' := by
  rcases run_bind_eq_error.mp h with hplan | ⟨p, b₁, hplan, hcarry⟩
  · rw [plan_message_eq] at hplan
    rcases run_bind_eq_error.mp hplan with hsettle | ⟨⟨t, s⟩, b₁, hsettle, hplan⟩
    · exact .unsettled hsettle
    simp only [planWith] at hplan
    split at hplan
    · next hcount =>
      cases hplan
      exact .count hsettle hcount
    · next hcount =>
      -- no code that is called to find the code ends with an error of its own
      rcases run_bind_eq_error.mp hplan with hcode | ⟨code, b₂, hcode, hplan⟩
      · obtain ⟨g, hg⟩ := faultsOnly_findCode (faultsOnly_within depth) ctx t _ _ hcode
        cases hg
      · cases code with
        | some code => cases hplan
        | none =>
          cases hplan
          obtain ⟨hdirect, hlookup, rfl⟩ := run_findCode_eq_ok_none.mp hcode
          exact .lookup hsettle (not_not.mp hcount) hdirect hlookup
  rcases run_bind_eq_error.mp hcarry with hcall | ⟨result, b₂, hcall, -⟩
  · rcases run_bind_eq_error.mp hcall with hargs | ⟨args, b₂, hargs, hinvoke⟩
    · obtain ⟨t, s, b₂, code, hsettle, hcount, hcode, rfl⟩ := exists_of_run_plan hplan
      have hout : ¬t.CallsOut b₂ := fun hout => by
        cases hlookup : (b₂.contextAt ctx).capabilities.lookup with
        | true => exact hasks ⟨t, s, b₂, hsettle, hcount, hlookup, hout⟩
        | false => cases hcode.symm.trans (run_findCode_eq_ok_none.mpr ⟨hout.1, hlookup, rfl⟩)
      rw [run_findCode_of_not_callsOut hout] at hcode
      exact .argument hsettle hcount hout hcode hargs
    · rcases run_bind_eq_error.mp hinvoke with hinvoke | ⟨result, b₃, -, hretain⟩
      · obtain ⟨g, hg⟩ := faultsOnly_within depth _ _ _ _ _ hinvoke
        cases hg
      · cases hretain
  · exact absurd ⟨p, b₁, result, b₂, hplan, hcall, rfl⟩ (hcalls _)

/-- **A message that is rejected has no effect.** Only records are different afterwards, and no code was
called: the message fails in the same way whatever code would do. A message that fails is rejected just if
code is neither called for it, which hands on errors of its own, nor asked for, which might do anything. -/
theorem rejected_unaffected (depth : Nat) :
    (Rejected ctx route r m b e b' ↔
      EStateM.run (dispatch (.within depth) ctx (.message route r m)) b = .error (.error e) b' ∧
        (∀ waiting, ¬Calls (.within depth) ctx (.message route r m) b waiting) ∧
        ¬AsksFirst ctx route r m b) ∧
    (Rejected ctx route r m b e b' → b.Unaffected b' ∧
      ∀ re, EStateM.run (dispatch re ctx (.message route r m)) b = .error (.error e) b') := by
  refine ⟨⟨fun h => ?_, ?_⟩, fun h => ⟨h.unaffected, h.run_dispatch⟩⟩
  · exact ⟨h.run_dispatch _, h.not_calls _, h.not_asksFirst⟩
  · rintro ⟨hfails, hcalls, hasks⟩
    exact rejected_of_dispatch hfails hcalls hasks

/-! ## An object that sends messages to itself -/

/-- A class of objects that set a variable and then send themselves a message with an argument too many.
It installs a method when it is asked for code, though never the one that it is asked for. -/
def holderScene : Act (Option ObjectRef) := do
  let p ← extend 0 none "Holder" 0
  p.addIvar "isa" "#" none none
  p.addIvar "x" "q" none none
  p.addMethod "plain" "q@:" (.literal (.int 1))
  p.addMethod "mark" "q@:"
    (.seq [.setIvar "x" (.literal (.int 7)), .send .receiver "plain" [.literal (.int 1)]])
  p.addMethod "take" "v@:*q" .receiver
  p.addClassMethod "resolveInstanceMethod:" "B@::"
    (.seq [.define "found" "q@:" (.literal (.int 1)), .literal (.bool false)])
  let p ← p.register
  createInstance 0 p.classRef 0

/-- The state with an instance of the class. -/
def holderBridge : Bridge := holderScene.after freshBridge

/-- The instance. -/
def holder : ObjectRef := ⟨3, 0x40000000000, false⟩

/-- A message with two arguments, the second of which is no number. -/
def takeMessage : Message := ⟨"take", [.str "text", .nil]⟩

/-- The text was already written to memory when the other argument turned out to be no number. -/
theorem rejected_unaffected_take : ∃ b',
    Rejected 0 .direct holder takeMessage holderBridge (.argumentTypeMismatch 1 "q" "nil") b' ∧
      holderBridge.Unaffected b' ∧
      ∀ re, EStateM.run (dispatch re 0 (.message .direct holder takeMessage)) holderBridge =
        .error (.error (.argumentTypeMismatch 1 "q" "nil")) b' := by
  have hends : (settleMessage 0 .direct holder takeMessage).endsWith (fun x b₁ =>
      x.2.declared.length == 2 && ((b₁.space.isa? x.1.receiver.address).all fun c =>
        (b₁.space.classes.lookup c x.1.sel).1.isSome) &&
      (findAtOnce 0 x.1).endsWith (fun code b₂ => code.any fun code =>
        (encodeArguments 0 0 (Plan.declared
          ⟨x.2, code, [x.1.receiver.address, x.1.sel.address], takeMessage.args⟩)).failsWith
            (· == .argumentTypeMismatch 1 "q" "nil") b₂) b₁) holderBridge = true := by
    decide +kernel
  obtain ⟨⟨t, s⟩, b₁, hsettle, htest⟩ := exists_of_endsWith hends
  simp only [Bool.and_eq_true, beq_iff_eq, Option.all_eq_true] at htest
  obtain ⟨⟨hcount, hfound⟩, htest⟩ := htest
  obtain ⟨found, b₂, hcode, htest⟩ := exists_of_endsWith htest
  obtain ⟨code, rfl, htest⟩ := (Option.any_eq_true _ _).mp htest
  obtain ⟨e, b', hargs, he⟩ := exists_of_failsWith htest
  obtain rfl := eq_of_beq he
  have hasks : ¬t.Asks b₁ := by
    rintro ⟨-, -, c, hisa, hnone⟩
    have hsome := hfound c hisa
    rw [hnone] at hsome
    cases hsome
  have h : Rejected 0 .direct holder takeMessage holderBridge _ b' :=
    .argument hsettle hcount (Target.not_callsOut_of_not_asks hasks) hcode hargs
  exact ⟨b', h, (rejected_unaffected 0).2 h⟩

/-- The state in which the method for the message has no code any more. -/
def emptiedBridge : Bridge :=
  { holderBridge with
    space := (holderBridge.space.replaceMethod (some ⟨5⟩) (some (holderBridge.space.intern "take").1) none
      "v@:*q").2 }

/-- **Errors that come with effects**: the message is told that an argument is too many of a message that
its code sent, after the code set a variable. And where the method for a message has no code, the class is
asked for some before an argument is found to be no number, and it has installed another method. -/
theorem fails_with_effects :
    (∃ b', EStateM.run (dispatch (.within nestingLimit) 0 (.message .direct holder ⟨"mark", []⟩))
        holderBridge = .error (.error (.argumentCountMismatch "plain" 0 1)) b' ∧
      ¬holderBridge.Unaffected b') ∧
    ∃ t s b₁ b', EStateM.run (settleMessage 0 .direct holder takeMessage) emptiedBridge = .ok (t, s) b₁ ∧
      (b₁.space.classes.findMethod? t.start t.sel).isSome ∧
      EStateM.run (dispatch (.within nestingLimit) 0 (.message .direct holder takeMessage)) emptiedBridge =
        .error (.error (.argumentTypeMismatch 1 "q" "nil")) b' ∧
      ¬emptiedBridge.Unaffected b' := by
  refine ⟨?_, ?_⟩
  · have hfails : (dispatch (.within nestingLimit) 0 (.message .direct holder ⟨"mark", []⟩)).failsWith
        (· == .argumentCountMismatch "plain" 0 1) holderBridge = true := by decide +kernel
    obtain ⟨e, b', hrun, he⟩ := exists_of_failsWith hfails
    obtain rfl := eq_of_beq he
    refine ⟨b', hrun, fun h => ?_⟩
    have hblocks := h.blocks.map Block.stored
    rw [← after_of_error hrun] at hblocks
    exact absurd hblocks (by decide +kernel)
  · have hsettle : (settleMessage 0 .direct holder takeMessage).endsWith (fun x b₁ =>
        (b₁.space.classes.findMethod? x.1.start x.1.sel).isSome) emptiedBridge = true := by decide +kernel
    have hfails : (dispatch (.within nestingLimit) 0 (.message .direct holder takeMessage)).failsWith
        (· == .argumentTypeMismatch 1 "q" "nil") emptiedBridge = true := by decide +kernel
    obtain ⟨⟨t, s⟩, b₁, hsettle, hfound⟩ := exists_of_endsWith hsettle
    obtain ⟨e, b', hrun, he⟩ := exists_of_failsWith hfails
    obtain rfl := eq_of_beq he
    refine ⟨t, s, b₁, b', hsettle, hfound, hrun, fun h => ?_⟩
    have hmethods := congrArg (fun t : ClassTable => (t.get ⟨5⟩).methods.length) h.classes
    simp only [ClassTable.get_bare, ClassRecord.bare] at hmethods
    rw [← after_of_error hrun] at hmethods
    exact absurd hmethods (by decide +kernel)

end Act

end MessageBridge
