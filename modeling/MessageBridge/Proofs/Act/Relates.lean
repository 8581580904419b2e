import MessageBridge.Proofs.Act.Basic

/-!
# Actions side by side

Two states may differ in something that actions do not see, or see without its making a difference to
how they end. This module runs actions in two such states at once. If each part of an action ends the
same way in both, and leaves behind states that differ in as little, so does the whole.

An action may also do something after which nothing can be said any more, as long as it does so in both
states. States after which nothing is said are lost, and stay so.

## Main definitions

* `Likeness` — which states are alike, and which are lost.
* `Act.Matching` — two ends are the same, in states that are alike.
* `Act.Stays` — an action does not lead out of some states.
* `Act.Relates` — from states that are alike, two actions end the same way.
* `Act.Blind` — an action does not see what states that are alike differ in.

## Main results

* `Act.Relates.bind` — sequences end the same way if their parts do.
-/

namespace MessageBridge

/-- **Likeness**: which pairs of states are alike, and after which states nothing is said any more. -/
structure Likeness where
  alike : Bridge → Bridge → Prop
  lost : Bridge → Prop

namespace Act

variable {α β : Type} {E : Likeness} {S T : Stop → Stop → Prop} {x y : Act α} {f g : α → Act β}

/-- The state at an end. -/
def stateOf : EStateM.Result Stop Bridge α → Bridge
  | .ok _ b => b
  | .error _ b => b

lemma stateOf_run (x : Act α) (b : Bridge) : stateOf (EStateM.run x b) = x.after b := rfl

/-- **Matching**: both actions ended well with the same result, or both stopped, for reasons that count
as the same; and the states that they left behind are alike. Or these states are lost. -/
inductive Matching (E : Likeness) (S : Stop → Stop → Prop) :
    EStateM.Result Stop Bridge α → EStateM.Result Stop Bridge α → Prop
  | ok {a : α} {b c : Bridge} (h : E.alike b c) : Matching E S (.ok a b) (.ok a c)
  | error {stop stop' : Stop} {b c : Bridge} (hstop : S stop stop') (h : E.alike b c) :
      Matching E S (.error stop b) (.error stop' c)
  | lost {r r' : EStateM.Result Stop Bridge α} (h : E.lost (stateOf r)) (h' : E.lost (stateOf r')) :
      Matching E S r r'

/-! ## Staying -/

/-- **Stays**: from the states in question, the action gets to no others. -/
def Stays (p : Bridge → Prop) (x : Act α) : Prop := ∀ b, p b → p (x.after b)

namespace Stays

variable {p : Bridge → Prop}

lemma of_after (h : ∀ b, x.after b = b) : Stays p x := fun b hb => by rwa [h]

/-- No step leads out. -/
lemma of_moves {R : Bridge → Bridge → Prop} (hR : ∀ b b', R b b' → p b → p b')
    (h : ∀ b, Moves R x b) : Stays p x := by
  intro b hb
  have hmoves : Relation.ReflTransGen R b (x.after b) := h b
  generalize x.after b = b' at hmoves
  induction hmoves with
  | refl => exact hb
  | tail _ hstep ih => exact hR _ _ hstep ih

lemma bind (hx : Stays p x) (hf : ∀ a, Stays p (f a)) : Stays p (x >>= f) := by
  intro b hb
  have hafter := hx b hb
  rcases after_bind x f b with h | ⟨a, b₁, hrun, h⟩
  · rwa [h]
  · rw [after_of_ok hrun] at hafter
    rw [h]
    exact hf a b₁ hafter

lemma ite {c : Prop} [Decidable c] (hx : Stays p x) (hy : Stays p y) :
    Stays p (if c then x else y) := by
  split
  · exact hx
  · exact hy

end Stays

/-- **Relates**: from states that are alike, the two actions end in matching ways, and what is lost stays
lost. -/
structure Relates (E : Likeness) (S : Stop → Stop → Prop) (x y : Act α) : Prop where
  ends : ∀ b c, E.alike b c → Matching E S (EStateM.run x b) (EStateM.run y c)
  left : Stays E.lost x
  right : Stays E.lost y

/-- **Blind**: the action does not see what states that are alike differ in. -/
abbrev Blind (E : Likeness) (x : Act α) : Prop := Relates E Eq x x

/-! ## Two actions -/

namespace Matching

variable {r r' : EStateM.Result Stop Bridge α} {F : Likeness}

lemma mono (hS : ∀ s t, S s t → T s t) (h : Matching E S r r') : Matching E T r r' := by
  cases h with
  | ok h => exact .ok h
  | error hstop h => exact .error (hS _ _ hstop) h
  | lost h h' => exact .lost h h'

/-- Likeness that asks for less. -/
lemma relax (h : Matching E S r r') (hE : ∀ b c, E.alike b c → F.alike b c)
    (hlost : ∀ b, E.lost b → F.lost b) : Matching F S r r' := by
  cases h with
  | ok h => exact .ok (hE _ _ h)
  | error hstop h => exact .error hstop (hE _ _ h)
  | lost h h' => exact .lost (hlost _ h) (hlost _ h')

lemma swap (hE : ∀ {b c}, E.alike b c → E.alike c b) (h : Matching E Eq r r') :
    Matching E Eq r' r := by
  cases h with
  | ok h => exact .ok (hE h)
  | error hstop h => exact .error hstop.symm (hE h)
  | lost h h' => exact .lost h' h

/-- Where the first parts of two sequences end well, the second ones run from what they leave behind. -/
lemma bind {b c : Bridge} (hx : Matching E S (EStateM.run x b) (EStateM.run y c))
    (hf : ∀ a, Stays E.lost (f a)) (hg : ∀ a, Stays E.lost (g a))
    (hends : ∀ a b₁ c₁, EStateM.run x b = .ok a b₁ → EStateM.run y c = .ok a c₁ → E.alike b₁ c₁ →
      Matching E S (EStateM.run (f a) b₁) (EStateM.run (g a) c₁)) :
    Matching E S (EStateM.run (x >>= f) b) (EStateM.run (y >>= g) c) := by
  -- what is lost after the first part is lost after the sequence
  have hlost {x : Act α} {f : α → Act β} (hf : ∀ a, Stays E.lost (f a)) {b : Bridge}
      (h : E.lost (stateOf (EStateM.run x b))) : E.lost (stateOf (EStateM.run (x >>= f) b)) := by
    rw [stateOf_run] at h ⊢
    rcases after_bind x f b with hafter | ⟨a, b₁, hrun, hafter⟩
    · rwa [hafter]
    · rw [after_of_ok hrun] at h
      rw [hafter]
      exact hf a b₁ h
  generalize hb : EStateM.run x b = r, hc : EStateM.run y c = r' at hx
  cases hx with
  | ok h =>
    rw [run_bind_ok hb, run_bind_ok hc]
    exact hends _ _ _ hb hc h
  | error hstop h =>
    rw [run_bind_error hb, run_bind_error hc]
    exact .error hstop h
  | lost h h' => exact .lost (hlost hf (hb ▸ h)) (hlost hg (hc ▸ h'))

end Matching

namespace Relates

lemma mono (hS : ∀ s t, S s t → T s t) (h : Relates E S x y) : Relates E T x y :=
  ⟨fun b c hE => (h.ends b c hE).mono hS, h.left, h.right⟩

lemma pure (a : α) : Relates E S (Pure.pure a) (Pure.pure a) :=
  ⟨fun _ _ hE => .ok hE, .of_after fun _ => rfl, .of_after fun _ => rfl⟩

lemma throw {stop stop' : Stop} (h : S stop stop') :
    Relates E S (MonadExcept.throw stop : Act α) (MonadExcept.throw stop') :=
  ⟨fun _ _ hE => .error h hE, .of_after fun _ => rfl, .of_after fun _ => rfl⟩

/-- **Sequences** end the same way if their parts do. -/
lemma bind (hx : Relates E S x y) (hf : ∀ a, Relates E S (f a) (g a)) :
    Relates E S (x >>= f) (y >>= g) where
  ends b c hE := (hx.ends b c hE).bind (fun a => (hf a).left) (fun a => (hf a).right)
    fun a b₁ c₁ _ _ h => (hf a).ends b₁ c₁ h
  left := hx.left.bind fun a => (hf a).left
  right := hx.right.bind fun a => (hf a).right

lemma ite {p : Prop} [Decidable p] {x' y' : Act α} (hx : Relates E S x y)
    (hy : Relates E S x' y') : Relates E S (if p then x else x') (if p then y else y') := by
  split
  · exact hx
  · exact hy

lemma modify {g g' : Bridge → Bridge} (hg : ∀ b c, E.alike b c → E.alike (g b) (g' c))
    (hlost : ∀ b, E.lost b → E.lost (g b)) (hlost' : ∀ b, E.lost b → E.lost (g' b)) :
    Relates E S (modify g : Act Unit) (modify g') :=
  ⟨fun b c hE => .ok (hg b c hE), hlost, hlost'⟩

end Relates

/-! ## One action -/

namespace Blind

/-- It is enough to know how the action ends. -/
lemma of_ends (hstays : Stays E.lost x)
    (h : ∀ b c, E.alike b c → Matching E Eq (EStateM.run x b) (EStateM.run x c)) : Blind E x :=
  ⟨h, hstays, hstays⟩

lemma pure (a : α) : Blind E (Pure.pure a) := Relates.pure a

lemma throw (stop : Stop) : Blind E (MonadExcept.throw stop : Act α) := Relates.throw rfl

lemma fail (e : Error) : Blind E (Act.fail e : Act α) := throw _

lemma fault (g : Fault) : Blind E (Act.fault g : Act α) := throw _

lemma panic (text : String) : Blind E (Act.panic text : Act α) := throw _

lemma bind (hx : Blind E x) (hf : ∀ a, Blind E (f a)) : Blind E (x >>= f) := Relates.bind hx hf

/-- The second part may rely on what is so of every result of the first one. -/
lemma bind_of {p : α → Prop} (hx : Blind E x) (hp : ∀ a b b', EStateM.run x b = .ok a b' → p a)
    (hf : ∀ a, p a → Blind E (f a)) : Blind E (x >>= f) := by
  have hlost (b : Bridge) (h : E.lost (x.after b)) : E.lost ((x >>= f).after b) := by
    rcases after_bind x f b with hafter | ⟨a, b₁, hrun, hafter⟩
    · rwa [hafter]
    · rw [after_of_ok hrun] at h
      rw [hafter]
      exact (hf a (hp a b b₁ hrun)).left b₁ h
  refine of_ends (fun b hb => hlost b (hx.left b hb)) fun b c hE => ?_
  have hmatch := hx.ends b c hE
  generalize hb : EStateM.run x b = r, hc : EStateM.run x c = r' at hmatch
  cases hmatch with
  | ok h =>
    rw [run_bind_ok hb, run_bind_ok hc]
    exact (hf _ (hp _ _ _ hb)).ends _ _ h
  | error hstop h =>
    rw [run_bind_error hb, run_bind_error hc]
    exact .error hstop h
  | lost h h' => exact .lost (hlost b (hb ▸ h :)) (hlost c (hc ▸ h' :))

lemma ite {p : Prop} [Decidable p] (hx : Blind E x) (hy : Blind E y) :
    Blind E (if p then x else y) := Relates.ite hx hy

lemma map {f : α → β} (hx : Blind E x) : Blind E (f <$> x) := by
  rw [map_eq_pure_bind]
  exact hx.bind fun _ => pure _

lemma ofExcept (e : Except Error α) : Blind E (Act.ofExcept e) := by
  cases e with
  | ok a => exact pure a
  | error e => exact fail e

lemma require (g : Fault) (o : Option α) : Blind E (Act.require g o) := by
  cases o with
  | some a => exact pure a
  | none => exact fault g

lemma tryCatch {handle : Stop → Act α} (hx : Blind E x) (hhandle : ∀ stop, Blind E (handle stop)) :
    Blind E (MonadExcept.tryCatch x handle) := by
  have hafter (b : Bridge) (h : E.lost (x.after b)) :
      E.lost ((MonadExcept.tryCatch x handle : Act α).after b) := by
    rw [← stateOf_run, run_tryCatch]
    cases hrun : EStateM.run x b with
    | ok a b₁ => rwa [after_of_ok hrun] at h
    | error stop b₁ =>
      rw [after_of_error hrun] at h
      exact (hhandle stop).left b₁ h
  refine of_ends (fun b hb => hafter b (hx.left b hb)) fun b c hE => ?_
  have hmatch := hx.ends b c hE
  generalize hb : EStateM.run x b = r, hc : EStateM.run x c = r' at hmatch
  cases hmatch with
  | ok h =>
    rw [run_tryCatch, run_tryCatch, hb, hc]
    exact .ok h
  | error hstop h =>
    subst hstop
    rw [run_tryCatch, run_tryCatch, hb, hc]
    exact (hhandle _).ends _ _ h
  | lost h h' => exact .lost (hafter b (hb ▸ h :)) (hafter c (hc ▸ h' :))

lemma recover {handle : Error → Act α} (hx : Blind E x) (hhandle : ∀ e, Blind E (handle e)) :
    Blind E (Act.recover x handle) := by
  refine hx.tryCatch fun stop => ?_
  cases stop with
  | error e => exact hhandle e
  | panic text => exact throw _
  | fault g => exact throw _

lemma mapM {f : α → Act β} (hf : ∀ a, Blind E (f a)) (as : List α) : Blind E (as.mapM f) := by
  induction as with
  | nil => exact pure _
  | cons a as ih =>
    rw [List.mapM_cons]
    exact (hf a).bind fun _ => ih.bind fun _ => pure _

/-- An action may see of the state what states that are alike have in common. -/
lemma get {f : Bridge → Act α} (hf : ∀ b c, E.alike b c → f b = f c) (hf' : ∀ b, Blind E (f b)) :
    Blind E (MonadState.get >>= f) := by
  have hrun (b : Bridge) : EStateM.run (MonadState.get >>= f) b = EStateM.run (f b) b := rfl
  refine of_ends (fun b hb => (hf' b).left b hb) fun b c hE => ?_
  rw [hrun, hrun, hf b c hE]
  exact (hf' c).ends b c hE

lemma modify {g : Bridge → Bridge} (hg : ∀ b c, E.alike b c → E.alike (g b) (g c))
    (hlost : ∀ b, E.lost b → E.lost (g b)) : Blind E (modify g : Act Unit) :=
  Relates.modify hg hlost hlost

end Blind

end Act

end MessageBridge
