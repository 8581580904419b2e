import MessageBridge.Proofs.Bridge.Upkeep
import MessageBridge.Proofs.Space.ClassTable

/-!
# What types depend on

The signature that the type string of a method denotes in a context depends on the methods of the
classes, and on the layouts and the metadata that the context knows. It depends on nothing else in the
state, and working it out twice gives the same signature, although the first time may load layouts.

## Main definitions

* `Act.Alike` — the action ends the same way in states that look the same.
* `Act.Denotes` — the signature that the type string of a method denotes.
* `Bridge.typing` — what types depend on.

## Main results

* `Act.alike_methodTypes` — types depend on nothing else.
* `Act.run_withStructs_again` — a translation that succeeded needs no more layouts.
* `Act.denotes_of_run` — the signature that was worked out is the one that is denoted afterwards.
-/

namespace MessageBridge

namespace Act

variable {α β γ : Type} {view : Bridge → γ} {b b' c : Bridge} {x : Act α}

/-! ## Actions that see only part of the state -/

/-- How an action ends, with a view of the state that it leaves behind. -/
def seen (view : Bridge → γ) (x : Act α) (b : Bridge) : EStateM.Result Stop γ α :=
  match EStateM.run x b with
  | .ok a b' => .ok a (view b')
  | .error stop b' => .error stop (view b')

/-- **Alike**: in states that look the same, the action ends the same way, and leaves states behind
that look the same. -/
def Alike (view : Bridge → γ) (x : Act α) : Prop :=
  ∀ b c, view b = view c → seen view x b = seen view x c

namespace Alike

/-- An action that ends well in one state ends well in any state that looks the same. -/
lemma exists_run {a : α} (h : Alike view x) (hview : view b = view c)
    (hrun : EStateM.run x b = .ok a b') :
    ∃ c', EStateM.run x c = .ok a c' ∧ view b' = view c' := by
  have hseen := h b c hview
  simp only [seen, hrun] at hseen
  cases hc : EStateM.run x c with
  | ok a' c' =>
    rw [hc] at hseen
    obtain ⟨rfl, hview'⟩ := EStateM.Result.ok.inj hseen
    exact ⟨c', rfl, hview'⟩
  | error stop c' => rw [hc] at hseen; cases hseen

lemma bind {f : α → Act β} (hx : Alike view x) (hf : ∀ a, Alike view (f a)) :
    Alike view (x >>= f) := by
  intro b c hview
  have hseen := hx b c hview
  simp only [seen] at hseen
  cases hb : EStateM.run x b with
  | ok a b₁ =>
    obtain ⟨c₁, hc, hview₁⟩ := hx.exists_run hview hb
    have hnext := hf a b₁ c₁ hview₁
    simpa only [seen, run_bind_ok hb, run_bind_ok hc] using hnext
  | error stop b₁ =>
    cases hc : EStateM.run x c with
    | ok a c₁ => rw [hb, hc] at hseen; cases hseen
    | error stop' c₁ =>
      rw [hb, hc] at hseen
      obtain ⟨rfl, hview'⟩ := EStateM.Result.error.inj hseen
      simp only [seen, run_bind_error hb, run_bind_error hc, hview']

lemma pure (a : α) : Alike view (Pure.pure a) := by
  intro b c hview
  exact congrArg (EStateM.Result.ok a) hview

lemma throw (stop : Stop) : Alike view (MonadExcept.throw stop : Act α) := by
  intro b c hview
  exact congrArg (EStateM.Result.error stop) hview

lemma fail (e : Error) : Alike view (Act.fail e : Act α) := throw _

lemma fault (g : Fault) : Alike view (Act.fault g : Act α) := throw _

lemma ofExcept (e : Except Error α) : Alike view (Act.ofExcept e) := by
  cases e with
  | ok a => exact pure a
  | error e => exact fail e

lemma ite {p : Prop} [Decidable p] {y : Act α} (hx : Alike view x) (hy : Alike view y) :
    Alike view (if p then x else y) := by
  split
  · exact hx
  · exact hy

lemma mapM {δ : Type} {f : δ → Act α} (hf : ∀ d, Alike view (f d)) (ds : List δ) :
    Alike view (ds.mapM f) := by
  induction ds with
  | nil => exact pure _
  | cons d ds ih =>
    rw [List.mapM_cons]
    exact (hf d).bind fun _ => ih.bind fun _ => pure _

lemma fromSpace {g : ObjectSpace → α} (hg : ∀ b c, view b = view c → g b.space = g c.space) :
    Alike view (Act.fromSpace g) := by
  intro b c hview
  simp only [seen, run_fromSpace, hg b c hview, hview]

/-- An action may read from a context what the view shows of it. -/
lemma context {ctx : ContextId} {f : Context → Act α}
    (hf : ∀ b c, view b = view c →
      f (b.contextAt ctx) = f (c.contextAt ctx))
    (hf' : ∀ x, Alike view (f x)) : Alike view (Act.context ctx >>= f) := by
  intro b c hview
  have hnext := hf' (c.contextAt ctx) b c hview
  simpa only [seen, run_bind_ok (run_context ctx), hf b c hview] using hnext

lemma modifyContext {ctx : ContextId} {g : Context → Context}
    (hg : ∀ b c, view b = view c → view { b with contexts := b.contexts.modify ctx g } =
      view { c with contexts := c.contexts.modify ctx g }) :
    Alike view (Act.modifyContext ctx g) := by
  intro b c hview
  exact congrArg (EStateM.Result.ok ()) (hg b c hview)

/-- Lent buffers do not show. -/
lemma borrowing (hlend : ∀ b loans, view { b with loans } = view b) (hx : Alike view x) :
    Alike view (Act.borrowing x) := by
  have hrun (b : Bridge) : seen view (Act.borrowing x) b =
      seen view x { b with loans := b.loans.lend.2 } := by
    simp only [seen, Act.borrowing]
    rw [run_bind_ok (show EStateM.run get b = .ok b b from rfl),
      run_bind_ok (show EStateM.run (modify _) b = .ok () { b with loans := b.loans.lend.2 }
        from rfl)]
    cases h : EStateM.run x { b with loans := b.loans.lend.2 } with
    | ok a b₁ =>
      rw [run_bind_ok h]
      exact congrArg (EStateM.Result.ok a) (hlend b₁ _)
    | error stop b₁ => rw [run_bind_error h]
  intro b c hview
  rw [hrun, hrun]
  exact hx _ _ ((hlend b _).trans (hview.trans (hlend c _).symm))

end Alike

/-! ## The tokens of a method -/

section Tokens

variable (hclasses : ∀ b c, view b = view c → b.space.classes.bare = c.space.classes.bare)
include hclasses

lemma alike_typeTokens (m : MethodRef) : Alike view (typeTokens m) := by
  refine Alike.bind (.fromSpace fun b c hview => ?_) fun method => ?_
  · rw [← ClassTable.method?_bare, hclasses b c hview, ClassTable.method?_bare]
  · split
    · exact .pure _
    · exact .pure _
    · exact .fault _

omit hclasses in
lemma alike_borrowText (hlend : ∀ b loans, view { b with loans } = view b)
    (text : Option String) : Alike view (borrowText text) := by
  unfold borrowText
  split
  · exact .borrowing hlend (.pure _)
  · exact .pure _

variable (hlend : ∀ b loans, view { b with loans } = view b)
include hlend

lemma alike_returnType (m : MethodRef) : Alike view (returnType m) :=
  (alike_typeTokens hclasses m).bind fun _ => alike_borrowText hlend _

lemma alike_argumentTypes (m : MethodRef) : Alike view (argumentTypes m) := by
  have hone (index : Nat) : Alike view (argumentType m index) :=
    .ite ((alike_typeTokens hclasses m).bind fun _ => alike_borrowText hlend _) (.pure _)
  exact ((alike_typeTokens hclasses m).bind fun _ => .pure _).bind fun n =>
    (Alike.mapM hone (List.range n)).bind fun _ => .pure _

end Tokens

end Act

/-! ## Types in a context -/

/-- **Typing**: what types depend on, which is the layouts and the metadata of the context, whether it
can read type strings, and the methods of the classes. -/
def Bridge.typing (b : Bridge) (ctx : ContextId) :
    Option (Translator × List Metadata × Bool) × ClassTable :=
  (b.contexts[ctx]?.map fun c => (c.translator, c.sources, c.capabilities.typed),
    b.space.classes.bare)

namespace Act

variable {α : Type} {b b' c : Bridge} {ctx : ContextId} {x : Act α}

/-- The state of a context, as far as types depend on it. -/
lemma eq_of_typing (h : b.typing ctx = c.typing ctx) :
    (b.contextAt ctx).translator = (c.contextAt ctx).translator ∧
      (b.contextAt ctx).sources = (c.contextAt ctx).sources ∧
      (b.contextAt ctx).capabilities.typed =
        (c.contextAt ctx).capabilities.typed := by
  have h₁ := (Prod.mk.inj h).1
  unfold Bridge.contextAt
  cases hb : b.contexts[ctx]? with
  | none =>
    cases hc : c.contexts[ctx]? with
    | none => exact ⟨rfl, rfl, rfl⟩
    | some y => rw [hb, hc] at h₁; cases h₁
  | some x =>
    cases hc : c.contexts[ctx]? with
    | none => rw [hb, hc] at h₁; cases h₁
    | some y =>
      rw [hb, hc] at h₁
      simpa using h₁

lemma alike_structEncoding? (name : String) : Alike (·.typing ctx) (structEncoding? ctx name) :=
  .context (fun b c h => by rw [(eq_of_typing h).2.1]) fun _ => .pure _

/-- Translating again and again is alike if registering layouts is. -/
lemma alike_retrying {register : String → Act Layout}
    (hregister : ∀ e, Alike (·.typing ctx) (register e)) (f : Translator → Except Error α)
    (lookups : Nat) : Alike (·.typing ctx) (retrying register ctx f lookups) := by
  induction lookups with
  | zero => exact .context (fun b c h => by rw [(eq_of_typing h).1]) fun _ => .ofExcept _
  | succ lookups ih =>
    refine .context (fun b c h => by rw [(eq_of_typing h).1]) fun x => ?_
    split
    · refine (alike_structEncoding? _).bind fun found => ?_
      split
      · exact (hregister _).bind fun _ => ih
      · exact .fail _
    · exact .ofExcept _

lemma alike_registerWithin (depth : Nat) (encoding : String) :
    Alike (·.typing ctx) (registerWithin ctx depth encoding) := by
  induction depth generalizing encoding with
  | zero => exact .fault _
  | succ depth ih =>
    refine (alike_retrying ih _ _).bind fun layout => Alike.bind (.modifyContext ?_) fun _ => .pure _
    intro b c h
    have h' : (b.contexts[ctx]?.map fun c => (c.translator, c.sources, c.capabilities.typed)) =
      c.contexts[ctx]?.map fun c => (c.translator, c.sources, c.capabilities.typed) :=
      (Prod.mk.inj h).1
    simp only [Bridge.typing, Array.getElem?_modify, if_true, Option.map_map]
    refine Prod.ext ?_ (Prod.mk.inj h).2
    have hmap := congrArg (Option.map fun t : Translator × List Metadata × Bool =>
      (t.1.insert layout, t.2)) h'
    rw [Option.map_map, Option.map_map] at hmap
    exact hmap

lemma alike_withStructs (f : Translator → Except Error α) :
    Alike (·.typing ctx) (withStructs ctx f) := by
  refine Alike.bind (.context (fun b c h => ?_) fun _ => .pure _) fun depth =>
    alike_retrying (alike_registerWithin depth) f _
  rw [(eq_of_typing h).2.1]

lemma alike_typeString (m : MethodRef) : Alike (·.typing ctx) (typeString ctx m) := by
  refine .context (fun b c h => by rw [(eq_of_typing h).2.2]) fun _ => .ite ?_ (.pure _)
  refine Alike.bind (.fromSpace fun b c h => ?_) fun _ => .pure _
  rw [← ClassTable.method?_bare, (Prod.mk.inj h).2, ClassTable.method?_bare]

/-- **The types of a method** depend on nothing else. -/
lemma alike_methodTypes (m : MethodRef) : Alike (·.typing ctx) (methodTypes ctx m) := by
  have hlend (b : Bridge) (loans : Loans) :
      ({ b with loans } : Bridge).typing ctx = b.typing ctx := rfl
  have hclasses (b c : Bridge) (h : b.typing ctx = c.typing ctx) :
      b.space.classes.bare = c.space.classes.bare := (Prod.mk.inj h).2
  refine (alike_returnType hclasses hlend m).bind fun ret => ?_
  split
  · exact (alike_argumentTypes hclasses hlend m).bind fun _ => alike_withStructs _
  · exact (alike_typeString m).bind fun _ => .fail _

/-! ## The signature of a method -/

/-- **Denotes**: the type string of the method, translated in the context, gives the signature. -/
def Denotes (ctx : ContextId) (m : MethodRef) (s : Signature) (b : Bridge) : Prop :=
  ∃ b', EStateM.run (methodTypes ctx m) b = .ok s b'

/-- The signature that the type string of the method denotes, if it denotes one. -/
def denoted? (ctx : ContextId) (m : MethodRef) (b : Bridge) : Option Signature :=
  match EStateM.run (methodTypes ctx m) b with
  | .ok s _ => some s
  | .error _ _ => none

lemma denotes_iff {m : MethodRef} {s : Signature} :
    Denotes ctx m s b ↔ denoted? ctx m b = some s := by
  unfold Denotes denoted?
  cases EStateM.run (methodTypes ctx m) b with
  | ok s' b' => simp
  | error stop b' => simp

instance (ctx : ContextId) (m : MethodRef) (s : Signature) (b : Bridge) :
    Decidable (Denotes ctx m s b) := decidable_of_iff _ denotes_iff.symm

/-- A type string denotes at most one signature. -/
lemma Denotes.unique {m : MethodRef} {s s' : Signature} (h : Denotes ctx m s b)
    (h' : Denotes ctx m s' b) : s = s' := by
  rw [denotes_iff] at h h'
  exact Option.some.inj (h.symm.trans h')

/-- The signature is the same in states in which types depend on the same. -/
lemma Denotes.congr {m : MethodRef} {s : Signature} (h : b.typing ctx = c.typing ctx)
    (hb : Denotes ctx m s b) : Denotes ctx m s c := by
  obtain ⟨b', hrun⟩ := hb
  obtain ⟨c', hrun', -⟩ := (alike_methodTypes m).exists_run h hrun
  exact ⟨c', hrun'⟩

/-- If translating again and again succeeded in the end, the translation succeeds with the layouts that are
known afterwards. -/
lemma ok_of_run_retrying {register : String → Act Layout} {f : Translator → Except Error α}
    {lookups : Nat} {a : α} (h : EStateM.run (retrying register ctx f lookups) b = .ok a b') :
    f (b'.contextAt ctx).translator = .ok a := by
  induction lookups generalizing b with
  | zero =>
    unfold retrying at h
    rw [run_bind_ok (run_context ctx)] at h
    obtain ⟨hf, rfl⟩ := run_ofExcept_eq_ok.mp h
    exact hf
  | succ lookups ih =>
    unfold retrying at h
    rw [run_bind_ok (run_context ctx)] at h
    split at h
    · obtain ⟨found, b₁, -, h⟩ := run_bind_eq_ok.mp h
      split at h
      · obtain ⟨layout, b₂, -, h⟩ := run_bind_eq_ok.mp h
        exact ih h
      · cases h
    · obtain ⟨hf, rfl⟩ := run_ofExcept_eq_ok.mp h
      exact hf

/-- A translation that succeeds with the layouts that are known needs no others. -/
lemma run_retrying_of_ok {register : String → Act Layout} {f : Translator → Except Error α}
    {a : α} (h : f (b.contextAt ctx).translator = .ok a) (lookups : Nat) :
    EStateM.run (retrying register ctx f lookups) b = .ok a b := by
  cases lookups with
  | zero =>
    unfold retrying
    rw [run_bind_ok (run_context ctx), h]
    rfl
  | succ lookups =>
    unfold retrying
    rw [run_bind_ok (run_context ctx), h]
    rfl

/-- A translation that succeeded succeeds with the layouts that are known afterwards. -/
lemma ok_of_run_withStructs {f : Translator → Except Error α} {a : α}
    (h : EStateM.run (withStructs ctx f) b = .ok a b') : f (b'.contextAt ctx).translator = .ok a := by
  obtain ⟨depth, b₁, -, h⟩ := run_bind_eq_ok.mp h
  exact ok_of_run_retrying h

/-- A translation that succeeds with the layouts that are known loads nothing. -/
lemma run_withStructs_of_ok {f : Translator → Except Error α} {a : α}
    (h : f (b.contextAt ctx).translator = .ok a) : EStateM.run (withStructs ctx f) b = .ok a b := by
  have hdepth : ∃ depth, EStateM.run (loadingDepth ctx) b = .ok depth b := ⟨_, rfl⟩
  obtain ⟨depth, hdepth⟩ := hdepth
  rw [withStructs, run_bind_ok hdepth]
  exact run_retrying_of_ok h _

/-- **Translating again** with the same layouts gives the same, and loads nothing. -/
lemma run_withStructs_again {f : Translator → Except Error α} {a : α}
    (h : EStateM.run (withStructs ctx f) b = .ok a b')
    (hc : (c.contextAt ctx).translator = (b'.contextAt ctx).translator) :
    EStateM.run (withStructs ctx f) c = .ok a c :=
  run_withStructs_of_ok (hc ▸ ok_of_run_withStructs h)

/-- Reading types leaves the object space alone. -/
lemma space_eq_of_learning (h : Moves Learning x b) : (x.after b).space = b.space :=
  h.keeps (·.space) fun _ _ hstep => by cases hstep <;> rfl

/-- **Working out a signature** makes it the one that is denoted. -/
lemma denotes_of_run {m : MethodRef} {s : Signature}
    (h : EStateM.run (methodTypes ctx m) b = .ok s b') : Denotes ctx m s b' := by
  have hspace : b'.space = b.space := by
    rw [← after_of_ok h, space_eq_of_learning (learning_methodTypes ctx m)]
  obtain ⟨ret, b₁, hret, h⟩ := run_bind_eq_ok.mp h
  cases ret with
  | none =>
    obtain ⟨key, b₂, -, h⟩ := run_bind_eq_ok.mp h
    cases h
  | some ret =>
    obtain ⟨args, b₂, hargs, hs⟩ := run_bind_eq_ok.mp h
    -- The tokens depend on the methods of the classes only, and these are still the same.
    let bare (b : Bridge) : ClassTable := b.space.classes.bare
    have halike : Alike bare (returnType m) := alike_returnType (fun _ _ h => h) (fun _ _ => rfl) m
    have halike' : Alike bare (argumentTypes m) :=
      alike_argumentTypes (fun _ _ h => h) (fun _ _ => rfl) m
    have hbare : bare b = bare b' :=
      congrArg (fun s : ObjectSpace => s.classes.bare) hspace.symm
    obtain ⟨c₁, hret', hclasses⟩ := halike.exists_run hbare hret
    obtain ⟨c₂, hargs', -⟩ := halike'.exists_run hclasses hargs
    -- Reading them again does not touch what the context knows.
    have hcontexts : c₂.contexts = b'.contexts := by
      have h₁ := (moves_returnType (R := fun b c => c.contexts = b.contexts) (fun _ => rfl)
        (b := b') m).keeps (·.contexts) fun _ _ h => h
      have h₂ := (moves_argumentTypes (R := fun b c => c.contexts = b.contexts) (fun _ => rfl)
        (b := c₁) m).keeps (·.contexts) fun _ _ h => h
      rw [after_of_ok hret'] at h₁
      rw [after_of_ok hargs'] at h₂
      rw [h₂, h₁]
    refine ⟨c₂, ?_⟩
    unfold methodTypes methodSignature
    rw [run_bind_ok hret', run_bind_ok hargs']
    exact run_withStructs_again hs (by rw [Bridge.contextAt, hcontexts, ← Bridge.contextAt])

end Act

end MessageBridge
