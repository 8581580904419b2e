import MessageBridge.Bridge.Basic
import Mathlib.Logic.Relation

/-!
# Runs of actions

What an action does in one state: how it ends, and through which steps the state gets to the one
that it leaves behind. Steps are a relation `R` on states. An action whose every run is made of steps
of `R` keeps whatever a single step of `R` keeps.

## Main definitions

* `Bridge.contextAt` — the state of a context.
* `Act.after` — the state that an action leaves behind, however it ends.
* `Act.Moves` — the action gets from one state to the one it leaves behind in steps of `R`.

## Main results

* `Act.run_bind_eq_ok`, `Act.run_bind_eq_error` — how a sequence of two actions ends.
* `Act.Moves.bind`, `Act.Moves.recover` — the steps of a composed action are those of its parts.
* `Act.Moves.keeps` — what every step keeps is kept by the action.
-/

namespace MessageBridge

namespace Bridge

/-- The state of a context. -/
def contextAt (b : Bridge) (ctx : ContextId) : Context := b.contexts[ctx]?.getD default

lemma contextAt_modify_of_ne {b : Bridge} {i ctx : ContextId} (h : i ≠ ctx)
    (f : Context → Context) :
    ({ b with contexts := b.contexts.modify i f } : Bridge).contextAt ctx = b.contextAt ctx := by
  simp only [contextAt, Array.getElem?_modify, if_neg h]

lemma contextAt_modify_self {b : Bridge} {ctx : ContextId} (h : ctx < b.contexts.size)
    (f : Context → Context) :
    ({ b with contexts := b.contexts.modify ctx f } : Bridge).contextAt ctx =
      f (b.contextAt ctx) := by
  simp only [contextAt, Array.getElem?_modify, if_true, Array.getElem?_eq_getElem h]
  rfl

/-- Changes of contexts that do not concern each other can be made in any order. -/
lemma modify_comm {f g : Context → Context} {i j : ContextId} (h : i = j → ∀ c, g (f c) = f (g c))
    (contexts : Array Context) :
    (contexts.modify i f).modify j g = (contexts.modify j g).modify i f := by
  refine Array.ext_getElem? fun k => ?_
  simp only [Array.getElem?_modify]
  by_cases hi : i = k
  · by_cases hj : j = k
    · simp only [if_pos hi, if_pos hj, Option.map_map]
      exact Option.map_congr fun c _ => h (hi.trans hj.symm) c
    · simp only [if_pos hi, if_neg hj]
  · simp only [if_neg hi]

/-- What a change of a context keeps is kept, whichever context it is done to. -/
lemma view?_modify {γ : Type} (view : Context → γ) {f : Context → Context}
    (hf : ∀ c, view (f c) = view c) (b : Bridge) (i ctx : ContextId) :
    (b.contexts.modify i f)[ctx]?.map view = b.contexts[ctx]?.map view := by
  rw [Array.getElem?_modify]
  split
  · rw [Option.map_map]
    exact Option.map_congr fun c _ => hf c
  · rfl

lemma view_contextAt_modify {γ : Type} (view : Context → γ) {f : Context → Context}
    (hf : ∀ c, view (f c) = view c) (b : Bridge) (i ctx : ContextId) :
    view (({ b with contexts := b.contexts.modify i f } : Bridge).contextAt ctx) =
      view (b.contextAt ctx) := by
  have h := congrArg (·.getD (view default)) (b.view?_modify view hf i ctx)
  simpa only [contextAt, Option.getD_map] using h

end Bridge

namespace Act

variable {α β : Type} {b b' : Bridge} {x : Act α} {f : α → Act β}

/-! ## How actions end -/

section Runs

@[simp] lemma run_fail (e : Error) : EStateM.run (fail e : Act α) b = .error (.error e) b := rfl

@[simp] lemma run_fault (g : Fault) : EStateM.run (fault g : Act α) b = .error (.fault g) b := rfl

@[simp] lemma run_panic (text : String) :
    EStateM.run (panic text : Act α) b = .error (.panic text) b := rfl

@[simp] lemma run_throwStop (stop : Stop) :
    EStateM.run (throw stop : Act α) b = .error stop b := rfl

@[simp] lemma run_require_some (g : Fault) (a : α) :
    EStateM.run (require g (some a)) b = .ok a b := rfl

@[simp] lemma run_require_none (g : Fault) :
    EStateM.run (require g (none : Option α)) b = .error (.fault g) b := rfl

@[simp] lemma run_context (ctx : ContextId) :
    EStateM.run (context ctx) b = .ok (b.contextAt ctx) b := rfl

@[simp] lemma run_modifyContext (ctx : ContextId) (g : Context → Context) :
    EStateM.run (modifyContext ctx g) b = .ok () { b with contexts := b.contexts.modify ctx g } :=
  rfl

@[simp] lemma run_fromSpace (g : ObjectSpace → α) :
    EStateM.run (fromSpace g) b = .ok (g b.space) b := rfl

@[simp] lemma run_setSpace (s : ObjectSpace) :
    EStateM.run (setSpace s) b = .ok () { b with space := s } := rfl

@[simp] lemma run_onSpace (g : ObjectSpace → α × ObjectSpace) :
    EStateM.run (onSpace g) b = .ok (g b.space).1 { b with space := (g b.space).2 } := rfl

/-- A reading of the object space ends with what is there, or at a fault. -/
lemma run_readSpace (g : ObjectSpace → Option α) :
    EStateM.run (readSpace g) b = EStateM.run (require .badAccess (g b.space)) b := rfl

lemma run_require_eq_ok {g : Fault} {o : Option α} {a : α} :
    EStateM.run (require g o) b = .ok a b' ↔ o = some a ∧ b' = b := by
  cases o with
  | some a' =>
    rw [run_require_some]
    constructor
    · rintro ⟨⟩
      exact ⟨rfl, rfl⟩
    · rintro ⟨⟨⟩, rfl⟩
      rfl
  | none => simp

lemma run_readSpace_eq_ok {g : ObjectSpace → Option α} {a : α} :
    EStateM.run (readSpace g) b = .ok a b' ↔ g b.space = some a ∧ b' = b := by
  rw [run_readSpace, run_require_eq_ok]

lemma run_ofExcept_eq_ok {r : Except Error α} {a : α} :
    EStateM.run (ofExcept r) b = .ok a b' ↔ r = .ok a ∧ b' = b := by
  cases r with
  | ok a' =>
    constructor
    · rintro ⟨⟩
      exact ⟨rfl, rfl⟩
    · rintro ⟨⟨⟩, rfl⟩
      rfl
  | error e =>
    constructor
    · intro h
      cases h
    · rintro ⟨h, -⟩
      cases h

/-- **How a sequence ends well**: both parts end well, one after the other. -/
lemma run_bind_eq_ok {r : β} :
    EStateM.run (x >>= f) b = .ok r b' ↔
      ∃ a b₁, EStateM.run x b = .ok a b₁ ∧ EStateM.run (f a) b₁ = .ok r b' := by
  rw [EStateM.run_bind]
  cases EStateM.run x b with
  | ok a b₁ =>
    refine ⟨fun h => ⟨a, b₁, rfl, h⟩, ?_⟩
    rintro ⟨_, _, ⟨rfl, rfl⟩, h⟩
    exact h
  | error stop b₁ => simp

/-- **How a sequence stops**: in its first part, or in its second part after the first one ended
well. -/
lemma run_bind_eq_error {stop : Stop} :
    EStateM.run (x >>= f) b = .error stop b' ↔
      EStateM.run x b = .error stop b' ∨
        ∃ a b₁, EStateM.run x b = .ok a b₁ ∧ EStateM.run (f a) b₁ = .error stop b' := by
  rw [EStateM.run_bind]
  cases EStateM.run x b with
  | ok a b₁ =>
    refine ⟨fun h => .inr ⟨a, b₁, rfl, h⟩, ?_⟩
    rintro (h | ⟨_, _, ⟨rfl, rfl⟩, h⟩)
    · cases h
    · exact h
  | error stop b₁ => simp

lemma run_bind_ok {a : α} {b₁ : Bridge} (h : EStateM.run x b = .ok a b₁) :
    EStateM.run (x >>= f) b = EStateM.run (f a) b₁ := by
  rw [EStateM.run_bind, h]

lemma run_bind_error {stop : Stop} {b₁ : Bridge} (h : EStateM.run x b = .error stop b₁) :
    EStateM.run (x >>= f) b = .error stop b₁ := by
  rw [EStateM.run_bind, h]

/-- Actions that run alike go on alike. -/
lemma run_bind_congr {y : Act α} (h : EStateM.run x b = EStateM.run y b') (f : α → Act β) :
    EStateM.run (x >>= f) b = EStateM.run (y >>= f) b' := by
  rw [EStateM.run_bind, EStateM.run_bind, h]

/-- Sequences run alike if their parts do. -/
lemma run_bind_alike {y : Act α} {g : α → Act β} (h : EStateM.run x b = EStateM.run y b)
    (hfg : ∀ a b₁, EStateM.run y b = .ok a b₁ → EStateM.run (f a) b₁ = EStateM.run (g a) b₁) :
    EStateM.run (x >>= f) b = EStateM.run (y >>= g) b := by
  rw [EStateM.run_bind, EStateM.run_bind, h]
  cases hy : EStateM.run y b with
  | ok a b₁ => exact hfg a b₁ hy
  | error stop b₁ => rfl

/-- A handled action ends like the action itself, or like the handler in the state that the action
left behind. -/
lemma run_tryCatch (x : Act α) (handle : Stop → Act α) :
    EStateM.run (tryCatch x handle) b =
      match EStateM.run x b with
      | .ok a b₁ => .ok a b₁
      | .error stop b₁ => EStateM.run (handle stop) b₁ := by
  change EStateM.tryCatch x handle b = _
  unfold EStateM.tryCatch
  cases h : x b with
  | ok a b₁ => rw [EStateM.run, h]
  | error stop b₁ => rw [EStateM.run, h]; rfl

/-- Only errors are recovered from. -/
lemma run_recover (x : Act α) (handle : Error → Act α) :
    EStateM.run (recover x handle) b =
      match EStateM.run x b with
      | .ok a b₁ => .ok a b₁
      | .error (.error e) b₁ => EStateM.run (handle e) b₁
      | .error stop b₁ => .error stop b₁ := by
  unfold recover
  rw [run_tryCatch]
  cases EStateM.run x b with
  | ok a b₁ => rfl
  | error stop b₁ => cases stop <;> rfl

end Runs

/-! ## The state left behind -/

/-- The state that an action leaves behind, however it ends. -/
def after (x : Act α) (b : Bridge) : Bridge :=
  match EStateM.run x b with
  | .ok _ b' => b'
  | .error _ b' => b'

lemma after_of_ok {a : α} (h : EStateM.run x b = .ok a b') : x.after b = b' := by
  rw [after, h]

lemma after_of_error {stop : Stop} (h : EStateM.run x b = .error stop b') : x.after b = b' := by
  rw [after, h]

/-- A sequence ends where its first part ends, or where its second part ends after the first one ended
well. -/
lemma after_bind {β : Type} (x : Act α) (f : α → Act β) (b : Bridge) :
    (x >>= f).after b = x.after b ∨
      ∃ a b₁, EStateM.run x b = .ok a b₁ ∧ (x >>= f).after b = (f a).after b₁ := by
  cases h : EStateM.run x b with
  | ok a b₁ => exact .inr ⟨a, b₁, rfl, by rw [after, run_bind_ok h, after]⟩
  | error stop b₁ => exact .inl (by rw [after_of_error (run_bind_error h), after_of_error h])

/-! ## Runs that can be checked -/

/-- Whether the action ends well in the state, with a result and a state that pass a test. -/
def endsWith (x : Act α) (test : α → Bridge → Bool) (b : Bridge) : Bool :=
  match EStateM.run x b with
  | .ok a b' => test a b'
  | .error _ _ => false

lemma exists_of_endsWith {test : α → Bridge → Bool} (h : x.endsWith test b = true) :
    ∃ a b', EStateM.run x b = .ok a b' ∧ test a b' = true := by
  unfold endsWith at h
  cases hrun : EStateM.run x b with
  | ok a b' => exact ⟨a, b', rfl, by rwa [hrun] at h⟩
  | error stop b' => rw [hrun] at h; cases h

/-- Whether the action fails in the state, with an error that passes a test. -/
def failsWith (x : Act α) (test : Error → Bool) (b : Bridge) : Bool :=
  match EStateM.run x b with
  | .error (.error e) _ => test e
  | _ => false

lemma exists_of_failsWith {test : Error → Bool} (h : x.failsWith test b = true) :
    ∃ e b', EStateM.run x b = .error (.error e) b' ∧ test e = true := by
  unfold failsWith at h
  split at h
  · next e b' hrun => exact ⟨e, b', hrun, h⟩
  · cases h

/-! ## Steps -/

section Moves

variable {R S : Bridge → Bridge → Prop}

/-- What every step keeps is kept by a run of steps. -/
lemma view_eq_of_reflTransGen {γ : Type} (view : Bridge → γ)
    (hR : ∀ b₁ b₂, R b₁ b₂ → view b₂ = view b₁) (h : Relation.ReflTransGen R b b') :
    view b' = view b := by
  induction h with
  | refl => rfl
  | tail _ hstep ih => rw [hR _ _ hstep, ih]

/-- **Moves**: the action gets from a state to the one that it leaves behind in steps of `R`. -/
def Moves (R : Bridge → Bridge → Prop) (x : Act α) (b : Bridge) : Prop :=
  Relation.ReflTransGen R b (x.after b)

namespace Moves

/-- An action that leaves the state as it is takes no step. -/
lemma of_after (h : x.after b = b) : Moves R x b := by
  rw [Moves, h]

/-- An action that changes the state by one step of `R`. -/
lemma of_step (h : R b (x.after b)) : Moves R x b := .single h

lemma of_ok {a : α} (h : Moves R x b) (hx : EStateM.run x b = .ok a b') :
    Relation.ReflTransGen R b b' := by
  rwa [Moves, after_of_ok hx] at h

lemma of_error {stop : Stop} (h : Moves R x b) (hx : EStateM.run x b = .error stop b') :
    Relation.ReflTransGen R b b' := by
  rwa [Moves, after_of_error hx] at h

/-- Where every step of `R` is one of `S`, so is every run. -/
lemma mono (hRS : ∀ b₁ b₂, R b₁ b₂ → S b₁ b₂) (h : Moves R x b) : Moves S x b :=
  Relation.ReflTransGen.mono hRS _ _ h

/-- Where many steps are one, and none is one as well, the action takes one. -/
lemma step [Std.Refl R] [IsTrans Bridge R] (h : Moves R x b) : R b (x.after b) := by
  rwa [Moves, Relation.reflTransGen_eq_self] at h

/-- What every step of `R` keeps is kept by the action. -/
lemma keeps {γ : Type} (view : Bridge → γ) (hR : ∀ b₁ b₂, R b₁ b₂ → view b₂ = view b₁)
    (h : Moves R x b) : view (x.after b) = view b :=
  view_eq_of_reflTransGen view hR h

/-- **A sequence** takes the steps of both parts. -/
lemma bind (hx : Moves R x b)
    (hf : ∀ a b₁, EStateM.run x b = .ok a b₁ → Moves R (f a) b₁) : Moves R (x >>= f) b := by
  cases h : EStateM.run x b with
  | ok a b₁ =>
    have hafter : (x >>= f).after b = (f a).after b₁ := by rw [after, run_bind_ok h, after]
    rw [Moves, hafter]
    exact (hx.of_ok h).trans (hf a b₁ h)
  | error stop b₁ =>
    rw [Moves, after_of_error (run_bind_error h)]
    exact hx.of_error h

/-- **A handled action** takes its own steps and those of the handler. -/
lemma tryCatch {handle : Stop → Act α} (hx : Moves R x b)
    (hh : ∀ stop b₁, EStateM.run x b = .error stop b₁ → Moves R (handle stop) b₁) :
    Moves R (tryCatch x handle) b := by
  cases h : EStateM.run x b with
  | ok a b₁ =>
    have hrun : EStateM.run (MonadExcept.tryCatch x handle) b = .ok a b₁ := by rw [run_tryCatch, h]
    rw [Moves, after_of_ok hrun]
    exact hx.of_ok h
  | error stop b₁ =>
    have hafter : (MonadExcept.tryCatch x handle : Act α).after b = (handle stop).after b₁ := by
      rw [after, run_tryCatch, h, after]
    rw [Moves, hafter]
    exact (hx.of_error h).trans (hh stop b₁ h)

lemma recover {handle : Error → Act α} (hx : Moves R x b)
    (hh : ∀ e b₁, EStateM.run x b = .error (.error e) b₁ → Moves R (handle e) b₁) :
    Moves R (recover x handle) b := by
  refine hx.tryCatch fun stop b₁ hstop => ?_
  cases stop with
  | error e => exact hh e b₁ hstop
  | panic text => exact .of_after rfl
  | fault g => exact .of_after rfl

/-- An action is a sequence of itself and a last part that only wraps its result. -/
lemma map {g : α → β} (hx : Moves R x b) : Moves R (g <$> x) b := by
  rw [map_eq_pure_bind]
  exact hx.bind fun a b₁ _ => .of_after rfl

/-- A condition without effects. -/
lemma ite {c : Prop} [Decidable c] {y : Act α} (hx : c → Moves R x b) (hy : ¬c → Moves R y b) :
    Moves R (if c then x else y) b := by
  split
  · next h => exact hx h
  · next h => exact hy h

/-- A list of actions, from the left. -/
lemma mapM {γ : Type} {g : γ → Act α} (hg : ∀ c b, Moves R (g c) b) (cs : List γ) (b : Bridge) :
    Moves R (cs.mapM g) b := by
  induction cs generalizing b with
  | nil => exact .of_after rfl
  | cons c cs ih =>
    rw [List.mapM_cons]
    refine (hg c b).bind fun a b₁ _ => (ih b₁).bind fun as b₂ _ => .of_after rfl

end Moves

/-! ## Actions that read -/

@[simp] lemma moves_pure (a : α) : Moves R (pure a) b := .of_after rfl

@[simp] lemma moves_fail (e : Error) : Moves R (fail e : Act α) b := .of_after rfl

@[simp] lemma moves_fault (g : Fault) : Moves R (fault g : Act α) b := .of_after rfl

@[simp] lemma moves_panic (text : String) : Moves R (panic text : Act α) b := .of_after rfl

@[simp] lemma moves_get : Moves R (get : Act Bridge) b := .of_after rfl

@[simp] lemma moves_context (ctx : ContextId) : Moves R (context ctx) b := .of_after rfl

@[simp] lemma moves_fromSpace (g : ObjectSpace → α) : Moves R (fromSpace g) b := .of_after rfl

@[simp] lemma moves_require (g : Fault) (a : Option α) : Moves R (require g a) b := by
  cases a <;> exact .of_after rfl

@[simp] lemma moves_readSpace (g : ObjectSpace → Option α) : Moves R (readSpace g) b := by
  unfold readSpace
  exact moves_get.bind fun c b₁ _ => moves_require _ _

@[simp] lemma moves_ofExcept (e : Except Error α) : Moves R (ofExcept e) b := by
  cases e <;> exact .of_after rfl

end Moves

end Act

end MessageBridge
