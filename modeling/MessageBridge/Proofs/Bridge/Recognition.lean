import MessageBridge.Proofs.Bridge.Transparency
import MessageBridge.Proofs.Space.Coherence

/-!
# Messages without a method

A message for which there is no method gets the code that stands in for missing code, which raises
an exception, and the call ends with that exception. So a message that ends with a value had a
method, whatever the policy of the context is and whatever the class did when it was asked for one.
This module says where this breaks down. A class may still remember code that its chain has no
method for any more: what it remembers is dropped when methods change or a class is moved, but not
when an instance variable of the class itself is written that lies on its superclass. And the
stand-in raises nothing where no exception can be made.

## Main definitions

* `ClassTable.Implements` — a class on the chain has a method with an implementation.
* `ClassTable.Outlived` — code is remembered that the chain does not implement.
* `Act.Finds` — a look-up finds the code for a target.
* `Act.Chooses` — a message chooses its code.
* `Act.Recognized` — some class on the chain implements a message when its code is chosen.

## Main results

* `ObjectSpace.Ran.not_outlived` — requests that change classes and methods leave nothing outlived.
* `Act.recognized_iff` — a message that ends with a value is recognized, unless its code was
  outlived or no exception could be made.
* `Act.not_recognized_orphan` — a message that ends with a value and is not recognized.
-/

namespace MessageBridge

namespace ClassTable

variable {t : ClassTable} {c : ClassId} {sel : Selector} {imp : Implementation} {n : Nat}

/-- **Implements**: some class on the chain has a method for the selector, with an implementation. -/
def Implements (t : ClassTable) (c : ClassId) (sel : Selector) : Prop :=
  ∃ d ∈ t.chain c, (((t.get d).method? sel).bind Method.implementation?).isSome = true

instance (t : ClassTable) (c : ClassId) (sel : Selector) : Decidable (t.Implements c sel) :=
  List.decidableBEx _ (t.chain c)

/-- **Outlived**: the class remembers code for the selector, and no class on its chain implements
it. -/
structure Outlived (t : ClassTable) (c : ClassId) (sel : Selector) (imp : Implementation) : Prop where
  remembered : (t.get c).cache.find? t.epoch sel = some (some imp)
  gone : ¬t.Implements c sel

/-- What a walk finds is implemented. -/
lemma implements_of_walk (h : t.walk c sel = some imp) : t.Implements c sel := by
  rw [walk_eq] at h
  obtain ⟨m, hm, himp⟩ := Option.bind_eq_some_iff.mp h
  obtain ⟨d, hd, hm⟩ := List.exists_of_findSome?_eq_some hm
  refine ⟨d, hd, ?_⟩
  rw [hm, Option.bind_some, himp, Option.isSome_some]

/-- What a look-up finds is implemented or outlived. -/
lemma implements_or_outlived (h : (t.lookup c sel).1 = some imp) :
    t.Implements c sel ∨ t.Outlived c sel imp := by
  by_cases himp : t.Implements c sel
  · exact .inl himp
  · refine .inr ⟨?_, himp⟩
    unfold lookup at h
    split at h
    · next found hfind =>
      obtain rfl : found = some imp := h
      exact hfind
    · -- what was not remembered was found by a walk
      split at h
      · next m hm =>
        have hwalk : t.walk c sel = some imp := by
          rw [walk, hm]
          exact h
        exact absurd (implements_of_walk hwalk) himp
      · cases h

/-- **Where what is remembered is current**, nothing is outlived. -/
lemma Coherent.not_outlived (h : t.Coherent n) : ¬t.Outlived c sel imp := fun ho =>
  ho.gone (implements_of_walk (h.current c sel _ ho.remembered))

end ClassTable

namespace ObjectSpace

variable {s s' : ObjectSpace}

/-- Requests that change classes and methods leave nothing outlived. -/
lemma Ran.not_outlived {n : Nat} {c : ClassId} {sel : Selector} {imp : Implementation} (h : Ran s n)
    (hn : n < 2 ^ 64) : ¬s.classes.Outlived c sel imp :=
  (h.coherent hn).not_outlived

/-- **Can raise**: there is the class of exceptions, and room for an instance of it. -/
def CanRaise (s : ObjectSpace) : Prop :=
  ∃ c, s.classes.lookupClass? "Exception" = some c ∧ (s.createInstance c 0).1 ≠ 0

/-- The address of a new exception is that of the new instance. -/
lemma address_newException? {c : ClassId} {texts : List (Option (List UInt8))} {a : Address}
    (h : s.newException? c texts = some (a, s')) : a = (s.createInstance c 0).1 := by
  simp only [newException?] at h
  split at h
  · cases h
    rfl
  · obtain ⟨s₁, -, h⟩ := Option.bind_eq_some_iff.mp h
    cases h
    rfl

/-- **Raising** leaves an exception to be taken, where one can be made. -/
lemma raised_of_raise? {name reason : String} (hcan : s.CanRaise)
    (h : s.raise? name reason = some s') : s'.raised ≠ 0 := by
  obtain ⟨c, hc, hroom⟩ := hcan
  rw [raise?, hc] at h
  obtain ⟨⟨a, s₁⟩, hnew, h⟩ := Option.bind_eq_some_iff.mp h
  rw [← address_newException? hnew] at hroom
  cases h
  rw [if_neg hroom]
  exact hroom

end ObjectSpace

namespace Act

variable {re : Reentry} {ctx : ContextId} {b b' : Bridge} {t : Target} {v : Value}

/-! ## The code that stands in for missing code -/

/-- The stand-in raises an exception, where one can be made. -/
lemma raised_of_forwarding (re : Reentry) {c : Call} {r : Option (List UInt8)}
    (hcan : b.space.CanRaise) (h : EStateM.run (invokeVia re .forwarding c) b = .ok r b') :
    b'.space.raised ≠ 0 := by
  obtain ⟨receiver, b₁, hreceiver, h₁⟩ := run_bind_eq_ok.mp h
  obtain ⟨a, b₂, ha, h₂⟩ := run_bind_eq_ok.mp h₁
  obtain ⟨sel, b₃, hsel, h₃⟩ := run_bind_eq_ok.mp h₂
  obtain ⟨u, b₄, hraise, h₄⟩ := run_bind_eq_ok.mp h₃
  cases h₄
  -- up to here the state has only been read
  have hread : b₃ = b := by
    rw [← after_of_ok hsel, ← (run_require_eq_ok.mp hreceiver).2, ← (run_require_eq_ok.mp ha).2]
    exact (moves_readAt (R := fun _ _ => False) a _).keeps id fun _ _ => False.elim
  obtain ⟨b₅, b₆, hb₅, h₅⟩ := run_bind_eq_ok.mp hraise
  cases hb₅
  obtain ⟨k, b₇, hk, h₆⟩ := run_bind_eq_ok.mp h₅
  obtain ⟨-, rfl⟩ := run_readSpace_eq_ok.mp hk
  obtain ⟨b₈, b₉, hb₈, h₇⟩ := run_bind_eq_ok.mp h₆
  cases hb₈
  obtain ⟨s, b₁₀, hs, h₈⟩ := run_bind_eq_ok.mp h₇
  obtain ⟨hs, rfl⟩ := run_readSpace_eq_ok.mp hs
  cases h₈
  subst hread
  exact ObjectSpace.raised_of_raise? hcan hs

/-- **The stand-in never ends a call well**, where an exception can be made and taken. -/
lemma exists_not_canRaise {depth : Nat} {p : Plan} (hcode : p.code = .forwarding)
    (hcap : (b.contextAt ctx).capabilities.exceptions = true)
    (h : EStateM.run (carryOut (.within depth) ctx p) b = .ok v b') :
    ∃ r b₁, EStateM.run (encodeArguments ctx 0 p.declared) b = .ok r b₁ ∧ ¬b₁.space.CanRaise := by
  obtain ⟨result, b₂, hcall, hcomplete⟩ := run_bind_eq_ok.mp h
  have hquiet := quiet_of_run_complete hcomplete
  obtain ⟨r, b₁, hargs, -⟩ := run_bind_eq_ok.mp hcall
  refine ⟨r, b₁, hargs, fun hcan => ?_⟩
  have hcap₂ : (b₂.contextAt ctx).capabilities.exceptions = true := by
    rw [← after_of_ok hcall, (moves_callCode (Reentry.moves_within depth) ctx _ _ _ _).capabilities_eq,
      hcap]
  rw [run_callCode hargs, hcode] at hcall
  obtain ⟨bytes, b₃, hinvoke, hcall⟩ := run_bind_eq_ok.mp hcall
  have hretain : b₂.space.raised = b₃.space.raised := by
    obtain ⟨u, b₄, hretain, hcall⟩ := run_bind_eq_ok.mp hcall
    cases hcall
    cases hretain
    exact (Upkeep.retain (b := b₃) ctx r.2).raised_eq
  cases depth with
  | zero => cases hinvoke
  | succ depth =>
    exact raised_of_forwarding (.within depth) hcan hinvoke (hretain ▸ hquiet.raised hcap₂)

/-! ## Finding code -/

/-- **Finds**: a look-up in the class finds the code for the target, in the second state. This is the
class above which the search starts, or the class of the receiver, before or after it was asked to
install a method. -/
inductive Finds (re : Reentry) (t : Target) (b : Bridge) : ClassId → Implementation → Bridge → Prop
  | above {code : Implementation} (hsuper : t.isSuper = true)
      (hfound : (b.space.classes.lookup t.start t.sel).1 = some code) : Finds re t b t.start code b
  | direct {c : ClassId} {code : Implementation} (hdirect : t.isSuper = false)
      (hisa : b.space.isa? t.receiver.address = some c)
      (hfound : (b.space.classes.lookup c t.sel).1 = some code) : Finds re t b c code b
  | installed {c : ClassId} {code : Implementation} {b₁ b₂ : Bridge} (hdirect : t.isSuper = false)
      (hisa : b.space.isa? t.receiver.address = some c)
      (hmissing : EStateM.run (lookupImp c t.sel) b = .ok none b₁)
      (hanswer : EStateM.run (resolveMissing re c t.receiver.address t.sel) b₁ = .ok true b₂)
      (hfound : (b₂.space.classes.lookup c t.sel).1 = some code) : Finds re t b c code b₂

/-- A look-up answers what the table answers. -/
lemma run_lookupImp (c : ClassId) (sel : Selector) :
    EStateM.run (lookupImp c sel) b = .ok (b.space.classes.lookup c sel).1
      { b with space := b.space.withClasses (b.space.classes.lookup c sel).2 } := rfl

/-- What was found is what the table answers. -/
lemma Finds.found {c : ClassId} {code : Implementation} {b₁ : Bridge} (h : Finds re t b c code b₁) :
    (b₁.space.classes.lookup c t.sel).1 = some code := by
  cases h with
  | above _ hfound | direct _ _ hfound | installed _ _ _ _ hfound => exact hfound

/-- The last look-up for a target is in one class and in one state. -/
lemma Finds.unique {c c' : ClassId} {code code' : Implementation} {b₁ b₂ : Bridge}
    (h : Finds re t b c code b₁) (h' : Finds re t b c' code' b₂) : c = c' ∧ b₁ = b₂ := by
  cases h with
  | above hsuper =>
    cases h' with
    | above => exact ⟨rfl, rfl⟩
    | direct hdirect | installed hdirect => exact absurd (hsuper.symm.trans hdirect) (by decide)
  | direct hdirect hisa hfound =>
    cases h' with
    | above hsuper => exact absurd (hsuper.symm.trans hdirect) (by decide)
    | direct _ hisa' =>
      cases hisa.symm.trans hisa'
      exact ⟨rfl, rfl⟩
    | installed _ hisa' hmissing =>
      cases hisa.symm.trans hisa'
      cases hfound.symm.trans (EStateM.Result.ok.inj hmissing).1
  | installed hdirect hisa hmissing hanswer =>
    cases h' with
    | above hsuper => exact absurd (hsuper.symm.trans hdirect) (by decide)
    | direct _ hisa' hfound' =>
      cases hisa.symm.trans hisa'
      cases hfound'.symm.trans (EStateM.Result.ok.inj hmissing).1
    | installed _ hisa' hmissing' hanswer' =>
      cases hisa.symm.trans hisa'
      cases hmissing.symm.trans hmissing'
      cases hanswer.symm.trans hanswer'
      exact ⟨rfl, rfl⟩

/-- **The code for a target** was found, or it is the stand-in. -/
lemma finds_or_forwarding {code : Implementation} (ht : t.receiver.address ≠ 0)
    (h : EStateM.run (findCode re ctx t) b = .ok (some code) b') :
    (∃ c b₁, Finds re t b c code b₁) ∨ code = .forwarding := by
  unfold findCode at h
  split at h
  · next hsuper =>
    obtain ⟨imp, b₁, h₁, h₂⟩ := run_bind_eq_ok.mp h
    cases h₂
    simp only [lookupAbove, if_neg ht] at h₁
    rw [run_bind_ok (run_lookupImp _ _)] at h₁
    cases h₁
    cases hfound : (b.space.classes.lookup t.start t.sel).1 with
    | none => exact .inr rfl
    | some imp => exact .inl ⟨_, _, .above hsuper hfound⟩
  · next hdirect =>
    rw [run_bind_ok (run_context ctx)] at h
    split at h
    · obtain ⟨imp, b₁, h₁, h₂⟩ := run_bind_eq_ok.mp h
      cases h₂
      simp only [lookupImplementation, if_neg ht] at h₁
      obtain ⟨c, b₂, hread, h₃⟩ := run_bind_eq_ok.mp h₁
      obtain ⟨hisa, rfl⟩ := run_readSpace_eq_ok.mp hread
      have hinstance : t.isSuper = false := by simpa using hdirect
      obtain ⟨found, b₃, hfound, h₄⟩ := run_bind_eq_ok.mp h₃
      cases found with
      | some imp =>
        cases h₄
        exact .inl ⟨c, b₂, .direct hinstance hisa (EStateM.Result.ok.inj hfound).1⟩
      | none =>
        obtain ⟨installed, b₄, hanswer, h₅⟩ := run_bind_eq_ok.mp h₄
        cases installed with
        | false =>
          cases h₅
          exact .inr rfl
        | true =>
          rw [if_pos rfl, run_bind_ok (run_lookupImp _ _)] at h₅
          cases h₅
          cases hagain : (b₄.space.classes.lookup c t.sel).1 with
          | none => exact .inr rfl
          | some imp => exact .inl ⟨c, b₄, .installed hinstance hisa hfound hanswer hagain⟩
    · cases h

/-! ## Recognized messages -/

section Message

variable {route : Route} {receiver : ObjectRef} {m : Message}

/-- **Chooses**: the call for a message is planned with the code, which a look-up for the selector
in the class found in the second state, after the target and the signature were settled. -/
def Chooses (re : Reentry) (ctx : ContextId) (route : Route) (receiver : ObjectRef) (m : Message)
    (b : Bridge) (c : ClassId) (sel : Selector) (code : Implementation) (b' : Bridge) : Prop :=
  (∃ p b₁, EStateM.run (plan re ctx (.message route receiver m)) b = .ok p b₁ ∧ p.code = code) ∧
    ∃ t b₁ s b₂, EStateM.run (target ctx receiver route m.selector) b = .ok t b₁ ∧
      EStateM.run (messageFrame ctx (b₁.space.classes.findMethod? t.start t.sel) m) b₁ = .ok s b₂ ∧
      t.sel = sel ∧ Finds re t b₂ c code b'

/-- **Recognized**: when the code of the message is chosen, some class on the chain implements it. -/
def Recognized (re : Reentry) (ctx : ContextId) (route : Route) (receiver : ObjectRef) (m : Message)
    (b : Bridge) : Prop :=
  ∃ c sel code b', Chooses re ctx route receiver m b c sel code b' ∧
    b'.space.classes.Implements c sel

/-- **Outdated**: the code that is chosen for the message is only remembered. -/
def Outdated (re : Reentry) (ctx : ContextId) (route : Route) (receiver : ObjectRef) (m : Message)
    (b : Bridge) : Prop :=
  ∃ c sel code b', Chooses re ctx route receiver m b c sel code b' ∧
    b'.space.classes.Outlived c sel code

/-- **Dropped**: no code is found for the message, and the stand-in is called where no exception can
be made. -/
def Dropped (re : Reentry) (ctx : ContextId) (route : Route) (receiver : ObjectRef) (m : Message)
    (b : Bridge) : Prop :=
  (∀ c sel code b', ¬Chooses re ctx route receiver m b c sel code b') ∧
    ∃ p b₁ r b₂, EStateM.run (plan re ctx (.message route receiver m)) b = .ok p b₁ ∧
      p.code = .forwarding ∧ EStateM.run (encodeArguments ctx 0 p.declared) b₁ = .ok r b₂ ∧
      ¬b₂.space.CanRaise

/-- The code of a message is chosen in one class and in one state. -/
lemma Chooses.unique {c c' : ClassId} {sel sel' : Selector} {code code' : Implementation}
    {b₁ b₂ : Bridge} (h : Chooses re ctx route receiver m b c sel code b₁)
    (h' : Chooses re ctx route receiver m b c' sel' code' b₂) : c = c' ∧ sel = sel' ∧ b₁ = b₂ := by
  obtain ⟨-, t, b₃, s, b₄, htarget, hframe, rfl, hfinds⟩ := h
  obtain ⟨-, t', b₅, s', b₆, htarget', hframe', rfl, hfinds'⟩ := h'
  cases htarget.symm.trans htarget'
  cases hframe.symm.trans hframe'
  exact ⟨(hfinds.unique hfinds').1, rfl, (hfinds.unique hfinds').2⟩

lemma Chooses.found {c : ClassId} {sel : Selector} {code : Implementation}
    (h : Chooses re ctx route receiver m b c sel code b') :
    (b'.space.classes.lookup c sel).1 = some code := by
  obtain ⟨-, t, b₁, s, b₂, -, -, rfl, hfinds⟩ := h
  exact hfinds.found

/-- **The code of a planned message** was chosen, or it is the stand-in. -/
lemma chooses_or_forwarding {p : Plan} (hreceiver : receiver.address ≠ 0)
    (h : EStateM.run (plan re ctx (.message route receiver m)) b = .ok p b') :
    (∃ c sel b₁, Chooses re ctx route receiver m b c sel p.code b₁) ∨ p.code = .forwarding := by
  obtain ⟨t, b₁, ht, h₁⟩ := run_bind_eq_ok.mp h
  obtain ⟨method, b₂, hmethod, h₂⟩ := run_bind_eq_ok.mp h₁
  cases hmethod
  obtain ⟨s, b₃, hs, h₃⟩ := run_bind_eq_ok.mp h₂
  split at h₃
  · cases h₃
  · obtain ⟨code, b₄, hcode, h₄⟩ := run_bind_eq_ok.mp h₃
    cases code with
    | none => cases h₄
    | some code =>
      cases h₄
      have hnull : t.receiver.address ≠ 0 := by rwa [receiver_of_target ht]
      refine (finds_or_forwarding hnull hcode).imp ?_ id
      rintro ⟨c, b₅, hfinds⟩
      exact ⟨c, t.sel, b₅, ⟨_, _, h, rfl⟩, t, b₁, s, b₃, ht, hs, rfl, hfinds⟩

/-- A message whose code is found at once, in a class whose chain does not implement it, is not
recognized. -/
lemma not_recognized {b₁ b₂ : Bridge} {s : Signature} {c : ClassId}
    (htarget : EStateM.run (target ctx receiver route m.selector) b = .ok t b₁)
    (hframe : EStateM.run (messageFrame ctx (b₁.space.classes.findMethod? t.start t.sel) m) b₁ =
      .ok s b₂)
    (hdirect : t.isSuper = false) (hisa : b₂.space.isa? t.receiver.address = some c)
    (hfound : (b₂.space.classes.lookup c t.sel).1.isSome = true)
    (hgone : ¬b₂.space.classes.Implements c t.sel) : ¬Recognized re ctx route receiver m b := by
  rintro ⟨c', sel, code, b', ⟨-, t', b₃, s', b₄, htarget', hframe', rfl, hfinds⟩, himplements⟩
  cases htarget.symm.trans htarget'
  cases hframe.symm.trans hframe'
  obtain ⟨code', hcode'⟩ := Option.isSome_iff_exists.mp hfound
  obtain ⟨rfl, rfl⟩ := hfinds.unique (.direct hdirect hisa hcode')
  exact hgone himplements

/-- **A message that ends with a value** is recognized, unless its code was outdated or its exception
was dropped. This holds for every policy and for whatever the class does when it is asked for the
method. -/
theorem recognized_iff {depth : Nat} (hreceiver : receiver.address ≠ 0)
    (hcap : (b.contextAt ctx).capabilities.exceptions = true)
    (h : EStateM.run (dispatch (.within depth) ctx (.message route receiver m)) b = .ok v b') :
    Recognized (.within depth) ctx route receiver m b ↔
      ¬Outdated (.within depth) ctx route receiver m b ∧
        ¬Dropped (.within depth) ctx route receiver m b := by
  obtain ⟨p, b₁, hplan, hrun⟩ := run_bind_eq_ok.mp h
  have hcap₁ : (b₁.contextAt ctx).capabilities.exceptions = true := by
    rw [← after_of_ok hplan,
      (moves_plan (Reentry.moves_within depth) ctx (.message route receiver m)).capabilities_eq, hcap]
  constructor
  · rintro ⟨c, sel, code, b₂, hchooses, himplements⟩
    refine ⟨?_, fun hdropped => hdropped.1 _ _ _ _ hchooses⟩
    rintro ⟨c', sel', code', b₃, hchooses', houtlived⟩
    obtain ⟨rfl, rfl, rfl⟩ := hchooses.unique hchooses'
    exact houtlived.gone himplements
  · rintro ⟨houtdated, hdropped⟩
    by_cases hchosen : ∃ c sel code b₂,
        Chooses (.within depth) ctx route receiver m b c sel code b₂
    · obtain ⟨c, sel, code, b₂, hchooses⟩ := hchosen
      refine ⟨c, sel, code, b₂, hchooses, ?_⟩
      exact (ClassTable.implements_or_outlived hchooses.found).resolve_right fun houtlived =>
        houtdated ⟨c, sel, code, b₂, hchooses, houtlived⟩
    · -- nothing was found, so that the stand-in was called
      have hcode : p.code = .forwarding := by
        refine (chooses_or_forwarding hreceiver hplan).resolve_left ?_
        rintro ⟨c, sel, b₂, hchooses⟩
        exact hchosen ⟨c, sel, p.code, b₂, hchooses⟩
      obtain ⟨r, b₂, hargs, hcan⟩ := exists_not_canRaise hcode hcap₁ hrun
      refine absurd ⟨fun c sel code b₃ hchooses => ?_, p, b₁, r, b₂, hplan, hcode, hargs, hcan⟩ hdropped
      exact hchosen ⟨c, sel, code, b₃, hchooses⟩

end Message

/-! ## A class that is moved in memory -/

/-- The instance of the class below. -/
def orphanReceiver : ObjectRef := ⟨3, 0x40000000000, false⟩

/-- A class below a new root, whose instance variables lie where a class has its class and its
superclass. The root has a method that an instance of the class is told once. Then the instance
variable of the class itself that lies on its superclass is set to nothing. -/
def orphanScene : Act Value := do
  let upper ← extend 0 none "Upper" 0
  upper.addIvar "isa" "#" none none
  upper.addIvar "above" "#" none none
  upper.addMethod "me" "@@:" .receiver
  let upper ← upper.register
  let orphan ← extend 0 (some upper.classRef) "Orphan" 0
  let orphan ← orphan.register
  let _ ← createInstance 0 orphan.classRef 0
  let v ← send 0 orphanReceiver { selector := "me" }
  setIvar 0 orphan.classRef "above" .nil
  return v

/-- The state after that. -/
def orphanBridge : Bridge := orphanScene.after freshBridge

lemma reachable_orphanBridge : orphanBridge.Reachable := by
  have hopened : freshBridge.Reachable := Bridge.Reachable.start.step (.openContext {} {})
  refine hopened.of_moves ?_
  exact (moves_extend 0 none _ 0).toHost.bind fun upper _ _ =>
    (moves_addIvar upper _ _ _ _).toHost.bind fun _ _ _ =>
      (moves_addIvar upper _ _ _ _).toHost.bind fun _ _ _ =>
        (moves_addPendingMethod upper _ _ _).toHost.bind fun _ _ _ =>
          (moves_register upper).bind fun upper _ _ =>
            (moves_extend 0 (some upper.classRef) _ 0).toHost.bind fun orphan _ _ =>
              (moves_register orphan).bind fun orphan _ _ =>
                (moves_createInstance 0 _ 0).toHost.bind fun _ _ _ =>
                  (moves_call _ 0 _).bind fun _ _ _ =>
                    (moves_setIvar 0 _ _ _).toHost.bind fun _ _ _ => moves_pure _

/-- The message, which the instance is told again. -/
def orphanMessage : Dispatch := .message .direct orphanReceiver { selector := "me" }

/-- A message that ends with a value, though its code was outdated. -/
theorem recognized_iff_orphan :
    (orphanReceiver.address ≠ 0 ∧ (orphanBridge.contextAt 0).capabilities.exceptions = true ∧
      ∃ v b', EStateM.run (dispatch (.within nestingLimit) 0 orphanMessage) orphanBridge = .ok v b') ∧
    (Recognized (.within nestingLimit) 0 .direct orphanReceiver { selector := "me" } orphanBridge ↔
      ¬Outdated (.within nestingLimit) 0 .direct orphanReceiver { selector := "me" } orphanBridge ∧
        ¬Dropped (.within nestingLimit) 0 .direct orphanReceiver { selector := "me" }
          orphanBridge) := by
  have hreceiver : orphanReceiver.address ≠ 0 := by decide
  have hcap : (orphanBridge.contextAt 0).capabilities.exceptions = true := by decide +kernel
  have hends : (dispatch (.within nestingLimit) 0 orphanMessage).endsWith (fun _ _ => true)
      orphanBridge = true := by decide +kernel
  obtain ⟨v, b', hrun, -⟩ := exists_of_endsWith hends
  exact ⟨⟨hreceiver, hcap, v, b', hrun⟩, recognized_iff hreceiver hcap hrun⟩

/-- Where the search for the code of the message starts, once its signature is settled. -/
def orphanTarget : Act Target := do
  let t ← target 0 orphanReceiver .direct "me"
  let method ← fromSpace (·.classes.findMethod? t.start t.sel)
  let _ ← messageFrame 0 method { selector := "me" }
  return t

/-- **A message that is not recognized** ends with a value: nothing on the chain of the class
implements it any more, and the class still remembers the code. -/
theorem not_recognized_orphan :
    orphanBridge.Reachable ∧ orphanReceiver.address ≠ 0 ∧
      (orphanBridge.contextAt 0).capabilities.exceptions = true ∧
      (∃ v b', EStateM.run (dispatch (.within nestingLimit) 0 orphanMessage) orphanBridge =
        .ok v b' ∧ v.equals (.object orphanReceiver) = true) ∧
      ¬Recognized (.within nestingLimit) 0 .direct orphanReceiver { selector := "me" }
        orphanBridge := by
  have hends : (dispatch (.within nestingLimit) 0 orphanMessage).endsWith
      (fun v _ => v.equals (.object orphanReceiver)) orphanBridge = true := by decide +kernel
  refine ⟨reachable_orphanBridge, by decide, by decide +kernel, exists_of_endsWith hends, ?_⟩
  have hsearch : orphanTarget.endsWith (fun t b => !t.isSuper &&
      (b.space.isa? t.receiver.address).any fun c =>
        (b.space.classes.lookup c t.sel).1.isSome && !decide (b.space.classes.Implements c t.sel))
      orphanBridge = true := by decide +kernel
  obtain ⟨t, b, hrun, htest⟩ := exists_of_endsWith hsearch
  obtain ⟨t', b₁, htarget, h₁⟩ := run_bind_eq_ok.mp hrun
  obtain ⟨method, b₂, hmethod, h₂⟩ := run_bind_eq_ok.mp h₁
  cases hmethod
  obtain ⟨s, b₃, hframe, h₃⟩ := run_bind_eq_ok.mp h₂
  cases h₃
  simp only [Bool.and_eq_true, Bool.not_eq_true', Option.any_eq_true, decide_eq_false_iff_not] at htest
  obtain ⟨hdirect, c, hisa, hfound, hgone⟩ := htest
  exact not_recognized htarget hframe hdirect hisa hfound hgone


end Act

end MessageBridge
