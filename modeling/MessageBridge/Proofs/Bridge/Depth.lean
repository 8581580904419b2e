import MessageBridge.Bridge.Execution
import MessageBridge.Proofs.Act.Basic

/-!
# The depth of nesting

How deep calls can be nested is a bound on what they may take, and not a part of what they do. This
module shows that an action that is not nested too deeply ends the same way wherever calls may be nested
deeper, so that one can speak of how an action ends without saying how deep it goes.

## Main definitions

* `Act.Exhausts` — an action is nested too deeply.
* `Act.Deepens` — an action ends as another one does, where that one is not nested too deeply.
* `Reentry.Deepens` — so does each call from inside a call.
* `Act.ComesTo` — how an action ends at some depth of nesting.

## Main results

* `Act.deepens_dispatch` — calls end the same way where calls inside them do.
* `Reentry.deepens_within` — so they do at greater depths.
* `Act.ComesTo.unique` — an action comes to one end only.
* `Act.comesTo_bind` — what sequences come to.
-/

namespace MessageBridge

namespace Act

variable {α β : Type} {x y : Act α} {f g : α → Act β} {b b₁ : Bridge}

/-! ## Nesting too deeply -/

/-- The end of an action that is nested too deeply. -/
def Exhausted : EStateM.Result Stop Bridge α → Prop
  | .error (.fault .depthExceeded) _ => True
  | _ => False

/-- **Exhausts**: the action is nested too deeply. -/
def Exhausts (x : Act α) (b : Bridge) : Prop := Exhausted (EStateM.run x b)

lemma exhausts_iff :
    Exhausts x b ↔ ∃ b', EStateM.run x b = .error (.fault .depthExceeded) b' := by
  unfold Exhausts Exhausted
  split
  · next b' h => exact iff_of_true trivial ⟨b', h⟩
  · next h => exact iff_of_false id (not_exists.mpr h)

lemma not_exhausts_of_ok {a : α} (h : EStateM.run x b = .ok a b₁) : ¬Exhausts x b := by
  rw [Exhausts, h]
  exact id

/-- A sequence is nested too deeply where its first part is. -/
lemma Exhausts.bind (h : Exhausts x b) (f : α → Act β) : Exhausts (x >>= f) b := by
  obtain ⟨b', hrun⟩ := exhausts_iff.mp h
  exact exhausts_iff.mpr ⟨b', run_bind_error hrun⟩

lemma exhausts_bind_iff {a : α} (h : EStateM.run x b = .ok a b₁) :
    Exhausts (x >>= f) b ↔ Exhausts (f a) b₁ := by
  rw [Exhausts, Exhausts, run_bind_ok h]

/-! ## Nesting deeper -/

/-- **Deepens**: where the first action is not nested too deeply, the second one ends in the same way. -/
def Deepens (x y : Act α) : Prop :=
  ∀ b, ¬Exhausts x b → EStateM.run y b = EStateM.run x b

namespace Deepens

@[refl] lemma refl (x : Act α) : Deepens x x := fun _ _ => rfl

lemma trans {z : Act α} (hxy : Deepens x y) (hyz : Deepens y z) : Deepens x z := by
  intro b hx
  have hy := hxy b hx
  rw [hyz b (by rwa [Exhausts, hy]), hy]

/-- What is nested too deeply says nothing. -/
lemma of_exhausts (h : ∀ b, Exhausts x b) : Deepens x y := fun b hx => absurd (h b) hx

lemma bind (hxy : Deepens x y) (hfg : ∀ a, Deepens (f a) (g a)) : Deepens (x >>= f) (y >>= g) := by
  intro b hne
  refine run_bind_alike (hxy b fun hx => hne (hx.bind f)) fun a b₁ hrun => hfg a b₁ fun hf => ?_
  exact hne ((exhausts_bind_iff hrun).mpr hf)

/-- The second part of a sequence is nested deeper. -/
lemma andThen (x : Act α) (hfg : ∀ a, Deepens (f a) (g a)) : Deepens (x >>= f) (x >>= g) :=
  (refl x).bind hfg

lemma map (hxy : Deepens x y) (h : α → β) : Deepens (h <$> x) (h <$> y) := by
  rw [map_eq_pure_bind, map_eq_pure_bind]
  exact hxy.bind fun _ => refl _

lemma ite {c : Prop} [Decidable c] {x' y' : Act α} (hx : Deepens x y) (hy : Deepens x' y') :
    Deepens (if c then x else x') (if c then y else y') := by
  split
  · exact hx
  · exact hy

/-- Handlers that leave alone what is nested too deeply. -/
lemma tryCatch {handle : Stop → Act α} (hxy : Deepens x y)
    (hhandle : handle (.fault .depthExceeded) = throw (.fault .depthExceeded)) :
    Deepens (tryCatch x handle) (tryCatch y handle) := by
  intro b hne
  have hx : ¬Exhausts x b := by
    intro hx
    obtain ⟨b', hrun⟩ := exhausts_iff.mp hx
    refine hne (exhausts_iff.mpr ⟨b', ?_⟩)
    rw [run_tryCatch, hrun]
    simp only [hhandle]
    rfl
  rw [run_tryCatch, run_tryCatch, hxy b hx]

lemma recover {handle : Error → Act α} (hxy : Deepens x y) :
    Deepens (recover x handle) (Act.recover y handle) :=
  hxy.tryCatch rfl

end Deepens

end Act

/-- **Deepens**: calls from inside a call that are not nested too deeply end in the same way. -/
structure Reentry.Deepens (re re' : Reentry) : Prop where
  invoke : ∀ code c, Act.Deepens (re.invoke code c) (re'.invoke code c)
  ask : ∀ ctx r name, Act.Deepens (re.ask ctx r name) (re'.ask ctx r name)

namespace Act

variable {re re' : Reentry} (hre : re.Deepens re')
include hre

/-! ## Calls -/

lemma deepens_exceptionText (ctx : ContextId) (exception : ObjectRef) (name : String) :
    Deepens (exceptionText re ctx exception name) (exceptionText re' ctx exception name) := by
  have hask (r : ObjectRef) (name : String) :
      Deepens (orNone (re.ask ctx r name)) (orNone (re'.ask ctx r name)) :=
    ((hre.ask ctx r name).map _).recover
  refine .andThen _ fun known => .ite ((hask exception name).bind fun answer => ?_) (.refl _)
  split
  · exact .refl _
  · exact (hask _ _).bind fun _ => .refl _
  · exact .refl _

lemma deepens_complete (ctx : ContextId) (ret : Descriptor) (result : Option (List UInt8)) :
    Deepens (complete re ctx ret result) (complete re' ctx ret result) := by
  refine .andThen _ fun pending => ?_
  cases pending with
  | some e => exact .refl _
  | none =>
    refine .andThen _ fun exception => ?_
    cases exception with
    | some exception =>
      exact (deepens_exceptionText hre ctx _ _).bind fun _ =>
        (deepens_exceptionText hre ctx _ _).bind fun _ => .refl _
    | none => exact .refl _

lemma deepens_callCode (ctx : ContextId) (s : Signature) (code : Implementation)
    (words : List UInt64) (args : List Value) :
    Deepens (callCode re ctx s code words args) (callCode re' ctx s code words args) :=
  .andThen _ fun _ => (hre.invoke code _).bind fun _ => .refl _

lemma deepens_resolveMissing (c : ClassId) (receiver : Address) (sel : Selector) :
    Deepens (resolveMissing re c receiver sel) (resolveMissing re' c receiver sel) := by
  refine .andThen _ fun question => ?_
  cases question with
  | none => exact .refl _
  | some question => exact (hre.invoke _ _).bind fun _ => .refl _

lemma deepens_lookupImplementation (receiver : Address) (sel : Option Selector) :
    Deepens (lookupImplementation re receiver sel) (lookupImplementation re' receiver sel) := by
  cases sel with
  | none => exact .refl _
  | some sel =>
    refine .ite (.refl _) (.andThen _ fun c => .andThen _ fun imp => ?_)
    cases imp with
    | some imp => exact .refl _
    | none => exact (deepens_resolveMissing hre c receiver sel).bind fun _ => .refl _

lemma deepens_findCode (ctx : ContextId) (t : Target) :
    Deepens (findCode re ctx t) (findCode re' ctx t) :=
  .ite (.refl _) (.andThen _ fun _ =>
    .ite ((deepens_lookupImplementation hre _ _).bind fun _ => .refl _) (.refl _))

lemma deepens_plan (ctx : ContextId) (d : Dispatch) : Deepens (plan re ctx d) (plan re' ctx d) := by
  cases d with
  | message route receiver m =>
    exact .andThen _ fun t => .andThen _ fun method => .andThen _ fun s =>
      .ite (.refl _) ((deepens_findCode hre ctx t).bind fun _ => .refl _)
  | function f args => exact .refl _

/-- **A call** ends the same way where the calls inside it do. -/
lemma deepens_dispatch (ctx : ContextId) (d : Dispatch) :
    Deepens (dispatch re ctx d) (dispatch re' ctx d) :=
  (deepens_plan hre ctx d).bind fun _ =>
    (deepens_callCode hre ctx _ _ _ _).bind fun _ => deepens_complete hre ctx _ _

end Act

/-! ## Host bodies -/

namespace Body

open Act

variable {re re' : Reentry}

mutual

/-- **A host body** has the same value where the calls inside it end the same way. -/
theorem deepens_eval (hre : re.Deepens re') (ctx : ContextId) (r : ObjectRef) (args : List Value)
    (body : Body) :
    Deepens (body.eval ⟨re, ctx, r, args⟩) (body.eval ⟨re', ctx, r, args⟩) := by
  cases body with
  | literal | receiver | argument | ivar | define | defineClass | fail | panic =>
    unfold Body.eval
    exact .refl _
  | setIvar name e | log e | field e name | throw e =>
    unfold Body.eval
    exact (deepens_eval hre ctx r args e).bind fun _ => .refl _
  | add e f | addFloat e f | equal e f | withField e name f =>
    unfold Body.eval
    exact (deepens_eval hre ctx r args e).bind fun _ =>
      (deepens_eval hre ctx r args f).bind fun _ => .refl _
  | concat es | seq es =>
    unfold Body.eval
    exact (deepens_evalAll hre ctx r args es).bind fun _ => .refl _
  | cond c e f =>
    unfold Body.eval
    exact (deepens_eval hre ctx r args c).bind fun _ =>
      .ite (deepens_eval hre ctx r args e) (deepens_eval hre ctx r args f)
  | send e selector es =>
    unfold Body.eval
    refine (deepens_eval hre ctx r args e).bind fun v =>
      (deepens_evalAll hre ctx r args es).bind fun vs => ?_
    split
    · exact deepens_dispatch hre ctx _
    · exact .refl _
  | superOf className selector es =>
    unfold Body.eval
    exact .andThen _ fun _ => (deepens_evalAll hre ctx r args es).bind fun _ => deepens_dispatch hre ctx _
  | superSend selector es =>
    unfold Body.eval
    exact (deepens_evalAll hre ctx r args es).bind fun _ => deepens_dispatch hre ctx _
  | attempt e =>
    unfold Body.eval
    exact (deepens_eval hre ctx r args e).recover

theorem deepens_evalAll (hre : re.Deepens re') (ctx : ContextId) (r : ObjectRef) (args : List Value)
    (bodies : List Body) :
    Deepens (Body.evalAll ⟨re, ctx, r, args⟩ bodies) (Body.evalAll ⟨re', ctx, r, args⟩ bodies) := by
  cases bodies with
  | nil => unfold Body.evalAll; exact .refl _
  | cons e es =>
    unfold Body.evalAll
    exact (deepens_eval hre ctx r args e).bind fun _ =>
      (deepens_evalAll hre ctx r args es).bind fun _ => .refl _

end

end Body

/-! ## Running code -/

namespace Act

section Code

variable {re re' : Reentry} (hre : re.Deepens re')
include hre

lemma deepens_runHosted (h : Hosted) (c : Call) :
    Deepens (runHosted re h c) (runHosted re' h c) := by
  have hrespond : Deepens (respond re h (c.arguments h.signature))
      (respond re' h (c.arguments h.signature)) := by
    refine .andThen _ fun address => .andThen _ fun receiver => ?_
    cases receiver with
    | none => exact .refl _
    | some receiver =>
      exact .andThen _ fun args =>
        (Body.deepens_eval hre h.context receiver args h.body).bind fun _ => .refl _
  refine .andThen _ fun _ => .ite (.refl _) (.bind ?_ fun _ => .refl _)
  exact hrespond.tryCatch rfl

lemma deepens_sendAt (receiver sel : Address) :
    Deepens (sendAt re receiver sel) (sendAt re' receiver sel) :=
  .andThen _ fun s => (deepens_lookupImplementation hre receiver s).bind fun _ =>
    (hre.invoke _ _).bind fun _ => .refl _

/-- Only the routines that send a message depend on calls inside them. -/
lemma deepens_runRoutine (routine : Routine) (r : MessageBridge.Registers) :
    Deepens (runRoutine re routine r) (runRoutine re' routine r) := by
  refine .andThen _ fun receiver => ?_
  cases routine with
  | perform => exact .andThen _ fun _ => deepens_sendAt hre receiver _
  | newInitialized => exact .andThen _ fun _ => .andThen _ fun _ => deepens_sendAt hre _ _
  | _ => exact .refl _

/-- **Any code** ends the same way where the calls inside it do. -/
lemma deepens_invokeVia (code : Implementation) (c : Call) :
    Deepens (invokeVia re code c) (invokeVia re' code c) := by
  cases code with
  | routine routine => exact (deepens_runRoutine hre routine _).bind fun _ => .refl _
  | hosted index =>
    refine .andThen _ fun x => ?_
    cases x.hosted[index]? with
    | some h => exact deepens_runHosted hre h c
    | none => exact .refl _
  | _ => exact .refl _

end Code

end Act

namespace Reentry

lemma deepens_within_succ (depth : Nat) : (within depth).Deepens (within (depth + 1)) := by
  induction depth with
  | zero =>
    have h {α : Type} (b : Bridge) : Act.Exhausts (Act.fault .depthExceeded : Act α) b := trivial
    exact ⟨fun _ _ => .of_exhausts h, fun _ _ _ => .of_exhausts h⟩
  | succ depth ih =>
    exact ⟨Act.deepens_invokeVia ih, fun ctx _ _ => Act.deepens_dispatch ih ctx _⟩

/-- **Deeper nesting** changes nothing for calls that are not nested too deeply. -/
theorem deepens_within {depth depth' : Nat} (h : depth ≤ depth') :
    (within depth).Deepens (within depth') := by
  induction h with
  | refl => exact ⟨fun _ _ => .refl _, fun _ _ _ => .refl _⟩
  | step _ ih =>
    exact ⟨fun code c => (ih.invoke code c).trans ((deepens_within_succ _).invoke code c),
      fun ctx r name => (ih.ask ctx r name).trans ((deepens_within_succ _).ask ctx r name)⟩

end Reentry

/-! ## What actions come to -/

namespace Act

variable {α β : Type} {x : Reentry → Act α} {f : α → Reentry → Act β} {b b₁ : Bridge}
  {r r' : EStateM.Result Stop Bridge α}

/-- **Deepening**: with calls that may be nested deeper, the action ends as it does where it is not
nested too deeply. -/
def Deepening (x : Reentry → Act α) : Prop := ∀ re re', re.Deepens re' → Deepens (x re) (x re')

/-- **Comes to**: the action ends like this, when calls may be nested as deeply as they have to. -/
def ComesTo (x : Reentry → Act α) (b : Bridge) (r : EStateM.Result Stop Bridge α) : Prop :=
  ∃ depth, ∀ k, depth ≤ k → EStateM.run (x (.within k)) b = r ∧ ¬Exhausted r

lemma deepening_dispatch (ctx : ContextId) (d : Dispatch) : Deepening (dispatch · ctx d) :=
  fun _ _ h => deepens_dispatch h ctx d

lemma deepening_exceptionText (ctx : ContextId) (r : ObjectRef) (name : String) :
    Deepening (exceptionText · ctx r name) := fun _ _ h => deepens_exceptionText h ctx r name

/-- Where the action is not nested too deeply, it ends as it always does. -/
lemma Deepening.comesTo (hx : Deepening x) {depth : Nat} (h : ¬Exhausts (x (.within depth)) b) :
    ComesTo x b (EStateM.run (x (.within depth)) b) :=
  ⟨depth, fun _ hk => ⟨hx _ _ (Reentry.deepens_within hk) b h, h⟩⟩

lemma Deepening.comesTo_ok (hx : Deepening x) {depth : Nat} {a : α}
    (h : EStateM.run (x (.within depth)) b = .ok a b₁) : ComesTo x b (.ok a b₁) :=
  h ▸ hx.comesTo (not_exhausts_of_ok h)

namespace ComesTo

lemma of_const {x : Act α} (h : EStateM.run x b = r) (hr : ¬Exhausted r) :
    ComesTo (fun _ => x) b r := ⟨0, fun _ _ => ⟨h, hr⟩⟩

/-- **One end only**: at great depths the action ends in one way. -/
theorem unique (h : ComesTo x b r) (h' : ComesTo x b r') : r = r' := by
  obtain ⟨depth, h⟩ := h
  obtain ⟨depth', h'⟩ := h'
  rw [← (h (max depth depth') (Nat.le_max_left _ _)).1, (h' _ (Nat.le_max_right _ _)).1]

lemma bind {a : α} {r : EStateM.Result Stop Bridge β} (hx : ComesTo x b (.ok a b₁))
    (hf : ComesTo (f a) b₁ r) : ComesTo (fun re => x re >>= fun a => f a re) b r := by
  obtain ⟨depth, hx⟩ := hx
  obtain ⟨depth', hf⟩ := hf
  refine ⟨max depth depth', fun k hk => ?_⟩
  obtain ⟨hk, hk'⟩ := Nat.max_le.mp hk
  rw [run_bind_ok (hx k hk).1]
  exact hf k hk'

/-- At every depth the action ends like this, or is nested too deeply. -/
lemma run_eq (hx : Deepening x) (h : ComesTo x b r) {depth : Nat}
    (hne : ¬Exhausts (x (.within depth)) b) : EStateM.run (x (.within depth)) b = r :=
  (hx.comesTo hne).unique h

end ComesTo

end Act

end MessageBridge
