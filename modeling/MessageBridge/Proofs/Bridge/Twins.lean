import MessageBridge.Proofs.Act.Relates
import MessageBridge.Proofs.Bridge.Keeping

/-!
# States that differ in the signatures that are kept

A method can be called by sending a message, and as a function. A message keeps the signature of the
method under the type string of the method, and a function under a text of its own. So the two leave
behind states that differ in which signatures a context keeps, and in the buffers that were lent while
the type string was read. If what is kept for the method is what its type string denotes, it does not
matter whether it is kept: it would be built again. This module says what such states have in common.

## Main definitions

* `KeptSignature` — the signature that a context keeps for the type string of a method.
* `Bridge.unframed` — a state without the signatures that a context keeps, and without lent buffers.
* `KeptSignature.Suits` — the type string denotes the signature, and goes on doing so.
* `KeptSignature.Twins` — two states that differ in whether the signature is kept.

## Main results

* `KeptSignature.Twins.frame` — settling on a signature ends the same way in both states.
-/

namespace MessageBridge

/-! ## States without what is kept for calls -/

namespace Context

/-- The context without the signatures that it keeps. -/
def unframed (c : Context) : Context := { c with frames := [] }

/-- What a context reads type strings with. -/
def reading (c : Context) : Translator × Bool := (c.translator, c.capabilities.typed)

end Context

namespace Bridge

variable {b c : Bridge} {ctx : ContextId}

/-- **Unframed**: the state without the signatures that the context keeps, and without lent buffers. -/
def unframed (b : Bridge) (ctx : ContextId) : Bridge :=
  { b with
    contexts := b.contexts.modify ctx Context.unframed
    loans := {} }

/-- What does not concern the signatures of a context does not concern the state without them. -/
lemma unframed_modify {f : Context → Context} (i : ContextId)
    (hf : i = ctx → ∀ x, (f x).unframed = f x.unframed) (b : Bridge) :
    ({ b with contexts := b.contexts.modify i f } : Bridge).unframed ctx =
      { b.unframed ctx with contexts := (b.unframed ctx).contexts.modify i f } := by
  rw [unframed, modify_comm hf]
  rfl

/-- A signature that the context keeps is not in the state without them. -/
lemma unframed_keepFrame (b : Bridge) (ctx : ContextId) (key : String) (s : Signature) :
    ({ b with contexts := b.contexts.modify ctx fun x =>
      { x with frames := (key, s) :: x.frames } } : Bridge).unframed ctx = b.unframed ctx := by
  have hcontexts : (b.contexts.modify ctx fun x => { x with frames := (key, s) :: x.frames }).modify ctx
      Context.unframed = b.contexts.modify ctx Context.unframed := by
    refine Array.ext_getElem? fun j => ?_
    simp only [Array.getElem?_modify]
    split
    · rw [Option.map_map]
      rfl
    · rfl
  rw [unframed, hcontexts]
  rfl

/-- The contexts of states that are the same without the signatures of one of them. -/
lemma contextAt_unframed (b : Bridge) (ctx i : ContextId) :
    (b.unframed ctx).contextAt i = if i = ctx then (b.contextAt i).unframed else b.contextAt i := by
  unfold contextAt unframed
  simp only [Array.getElem?_modify, eq_comm (a := ctx)]
  split
  · cases b.contexts[i]? <;> rfl
  · rfl

section Equal

variable (h : b.unframed ctx = c.unframed ctx)
include h

lemma contextAt_eq_of_unframed (i : ContextId) :
    (b.contextAt i).unframed = (c.contextAt i).unframed := by
  have heq := congrArg (·.contextAt i) h
  simp only [contextAt_unframed] at heq
  split at heq
  · exact heq
  · rw [heq]

lemma contextAt_eq_of_ne {i : ContextId} (hi : i ≠ ctx) : b.contextAt i = c.contextAt i := by
  have heq := congrArg (·.contextAt i) h
  simpa only [contextAt_unframed, if_neg hi] using heq

lemma size_contexts_of_unframed : b.contexts.size = c.contexts.size := by
  have heq := congrArg (·.contexts.size) h
  simpa [unframed] using heq

lemma space_eq_of_unframed : b.space = c.space := (congrArg Bridge.space h :)

end Equal

end Bridge

/-! ## Twins -/

/-- A signature that a context keeps for a method, under the type string of the method, and the number of
layouts that the context knows. -/
structure KeptSignature where
  context : ContextId
  types : String
  signature : Signature
  known : Nat

namespace KeptSignature

variable {k : KeptSignature} {b c b' c' : Bridge} {i : ContextId} {key : String} {s : Signature}

/-- **Suits**: the type string denotes the signature in the context, which can read type strings. No
method has a type string that could be mistaken for the text under which a function of the signature is
kept. -/
structure Suits (k : KeptSignature) (b : Bridge) : Prop where
  context : k.context < b.contexts.size
  typed : (b.contextAt k.context).capabilities.typed = true
  known : k.known ≤ (b.contextAt k.context).translator.layouts.length
  denoted : (b.contextAt k.context).translator.denoted? k.types = some k.signature
  short : k.signature.args.length < 0x100000000
  types : ¬ b.space.classes.Types k.signature.functionKey

/-- What the two states keep under a key is the same, or it is the signature where it is kept. -/
def Agrees (k : KeptSignature) (key : String) (o o' : Option Signature) : Prop :=
  o = o' ∨ key = k.types ∧ (∀ s ∈ o, s = k.signature) ∧ ∀ s ∈ o', s = k.signature

/-- **Twins**: the two states are the same, apart from lent buffers, from the signatures that are kept for
functions, and from whether the signature of the method is kept. -/
structure Twins (k : KeptSignature) (b c : Bridge) : Prop where
  suits : k.Suits b
  unframed : b.unframed k.context = c.unframed k.context
  kept : ∀ key, key ≠ k.signature.functionKey →
    k.Agrees key ((b.contextAt k.context).frames.lookup key) ((c.contextAt k.context).frames.lookup key)

/-- **Outgrown**: the context learned a layout since. The type string may denote another signature now. -/
def Outgrown (k : KeptSignature) (b : Bridge) : Prop :=
  k.known < (b.contextAt k.context).translator.layouts.length

/-- Twins are alike, until a layout is learned. -/
def likeness (k : KeptSignature) : Likeness := ⟨k.Twins, k.Outgrown⟩

namespace Suits

/-- Whether the signature suits depends on the classes and on what types depend on. -/
lemma of_eq (h : k.Suits b) (hsize : b'.contexts.size = b.contexts.size)
    (hreading : (b'.contextAt k.context).reading = (b.contextAt k.context).reading)
    (htypes : b'.space.classes.Types k.signature.functionKey →
      b.space.classes.Types k.signature.functionKey) : k.Suits b' where
  context := hsize ▸ h.context
  typed := (congrArg (·.2) hreading :).trans h.typed
  known := by
    have htranslator : (b'.contextAt k.context).translator = (b.contextAt k.context).translator :=
      congrArg (·.1) hreading
    rw [htranslator]
    exact h.known
  denoted := (congrArg (·.1.denoted? k.types) hreading :).trans h.denoted
  short := h.short
  types hmem := h.types (htypes hmem)

end Suits

/-- A context that forgets no layouts. -/
lemma Outgrown.modify {f : Context → Context} (h : k.Outgrown b) (i : ContextId)
    (hf : ∀ x, x.translator.layouts <:+ (f x).translator.layouts) :
    k.Outgrown { b with contexts := b.contexts.modify i f } :=
  Nat.lt_of_lt_of_le h (b.layouts_suffix_modify hf i k.context).length_le

namespace Twins

lemma refl (h : k.Suits b) : k.Twins b b := ⟨h, rfl, fun _ _ => .inl rfl⟩

lemma space (h : k.Twins b c) : b.space = c.space := Bridge.space_eq_of_unframed h.unframed

lemma suits_right (h : k.Twins b c) : k.Suits c :=
  h.suits.of_eq (Bridge.size_contexts_of_unframed h.unframed).symm
    (congrArg Context.reading (Bridge.contextAt_eq_of_unframed h.unframed _).symm :)
    fun htypes => by rwa [h.space]

lemma symm (h : k.Twins b c) : k.Twins c b where
  suits := h.suits_right
  unframed := h.unframed.symm
  kept key hkey := (h.kept key hkey).imp Eq.symm fun ⟨htypes, hb, hc⟩ => ⟨htypes, hc, hb⟩

/-- Lending buffers. -/
lemma lend (h : k.Twins b c) (loans loans' : Loans) :
    k.Twins { b with loans } { c with loans := loans' } where
  suits := h.suits.of_eq rfl rfl id
  unframed := h.unframed
  kept := h.kept

/-- A change of what is not kept in contexts. -/
lemma map {g : Bridge → Bridge} (h : k.Twins b c)
    (hg : ∀ x, (g x).unframed k.context = g (x.unframed k.context))
    (hcontexts : ∀ x, (g x).contexts = x.contexts)
    (htypes : (g b).space.classes.Types k.signature.functionKey →
      b.space.classes.Types k.signature.functionKey) : k.Twins (g b) (g c) where
  suits := h.suits.of_eq (congrArg Array.size (hcontexts b))
    (by rw [Bridge.contextAt, hcontexts, ← Bridge.contextAt]) htypes
  unframed := by rw [hg, hg, h.unframed]
  kept key hkey := by
    simp only [Bridge.contextAt, hcontexts]
    exact h.kept key hkey

/-- A change of one context, which for that of the method leaves alone what types depend on and the
signatures that are kept. -/
lemma modify {f : Context → Context} (h : k.Twins b c) (hf : i = k.context → ∀ x,
    (f x).unframed = f x.unframed ∧ (f x).frames = x.frames ∧ (f x).reading = x.reading) :
    k.Twins { b with contexts := b.contexts.modify i f }
      { c with contexts := c.contexts.modify i f } := by
  have hview {γ : Type} (view : Context → γ) (hf : i = k.context → ∀ x, view (f x) = view x)
      (b : Bridge) : view (({ b with contexts := b.contexts.modify i f } : Bridge).contextAt
        k.context) = view (b.contextAt k.context) := by
    by_cases hi : i = k.context
    · exact b.view_contextAt_modify view (hf hi) i k.context
    · rw [Bridge.contextAt_modify_of_ne hi]
  refine ⟨h.suits.of_eq Array.size_modify (hview Context.reading (fun hi x => (hf hi x).2.2) b)
    id, ?_, fun key hkey => ?_⟩
  · rw [Bridge.unframed_modify i fun hi x => (hf hi x).1,
      Bridge.unframed_modify i fun hi x => (hf hi x).1, h.unframed]
  · rw [hview Context.frames (fun hi x => (hf hi x).2.1) b,
      hview Context.frames (fun hi x => (hf hi x).2.1) c]
    exact h.kept key hkey

/-- The signatures that a context keeps after it got one more. -/
lemma frames_keepFrame {x : Bridge} (hx : k.context < x.contexts.size) (key : String) (s : Signature) :
    (({ x with contexts := x.contexts.modify k.context fun c =>
      { c with frames := (key, s) :: c.frames } } : Bridge).contextAt k.context).frames =
        (key, s) :: (x.contextAt k.context).frames := by
  rw [Bridge.contextAt_modify_self hx]

/-- Keeping a signature leaves alone what types depend on. -/
lemma suits_keepFrame (h : k.Suits b) (key : String) (s : Signature) :
    k.Suits { b with contexts := b.contexts.modify k.context fun c =>
      { c with frames := (key, s) :: c.frames } } :=
  h.of_eq Array.size_modify
    (b.view_contextAt_modify Context.reading (by exact fun _ => rfl) _ _) id

/-- The same signature is kept in both states. -/
lemma keepFrame (h : k.Twins b c) (i : ContextId) (key : String) (s : Signature) :
    k.Twins { b with contexts := b.contexts.modify i fun x => { x with frames := (key, s) :: x.frames } }
      { c with contexts := c.contexts.modify i fun x =>
        { x with frames := (key, s) :: x.frames } } := by
  by_cases hi : i = k.context
  · subst hi
    refine ⟨suits_keepFrame h.suits key s, ?_, fun key' hkey' => ?_⟩
    · rw [Bridge.unframed_keepFrame, Bridge.unframed_keepFrame, h.unframed]
    · rw [frames_keepFrame h.suits.context, frames_keepFrame h.suits_right.context, List.lookup_cons,
        List.lookup_cons]
      split
      · exact .inl rfl
      · exact h.kept key' hkey'
  · exact h.modify fun hi' => absurd hi' hi

/-- The signature of the method is kept in one of the states. -/
lemma keepLeft (h : k.Twins b c) (hnone : (b.contextAt k.context).frames.lookup k.types = none) :
    k.Twins { b with contexts := b.contexts.modify k.context fun x =>
      { x with frames := (k.types, k.signature) :: x.frames } } c := by
  refine ⟨suits_keepFrame h.suits _ _, ?_, fun key hkey => ?_⟩
  · rw [Bridge.unframed_keepFrame, h.unframed]
  · have hkept := h.kept key hkey
    rw [frames_keepFrame h.suits.context, List.lookup_cons]
    by_cases htypes : key = k.types
    · subst htypes
      rw [beq_self_eq_true]
      refine .inr ⟨rfl, fun s hs => (Option.some.inj hs).symm, fun s hs => ?_⟩
      rcases hkept with heq | ⟨-, -, hc⟩
      · rw [← heq, hnone] at hs
        cases hs
      · exact hc s hs
    · rw [beq_false_of_ne htypes]
      exact hkept

/-- A signature is kept for a function in the second state. -/
lemma keepFunction (h : k.Twins b c) (s : Signature) :
    k.Twins b { c with contexts := c.contexts.modify k.context fun x =>
      { x with frames := (k.signature.functionKey, s) :: x.frames } } := by
  refine ⟨h.suits, ?_, fun key hkey => ?_⟩
  · rw [Bridge.unframed_keepFrame, h.unframed]
  · rw [frames_keepFrame h.suits_right.context, List.lookup_cons, beq_false_of_ne hkey]
    exact h.kept key hkey

/-! ### Settling on a signature -/

section Settling

open Act

variable {ctx : ContextId} {build : Act Signature}

/-- A signature that is kept in one state, and built and kept in the other one. -/
lemma matching_of_kept (h : k.Twins b c) (hb : (b.contextAt k.context).frames.lookup k.types = none)
    (hc : (c.contextAt k.context).frames.lookup k.types = some k.signature) {loans : Loans}
    (hbuild : EStateM.run build b = .ok k.signature { b with loans }) :
    Matching k.likeness Eq (EStateM.run (Act.frame k.context k.types build) b)
      (EStateM.run (Act.frame k.context k.types build) c) := by
  rw [run_frame_of_none hb, run_frame_of_some hc, run_bind_ok hbuild]
  exact .ok ((h.lend loans c.loans).keepLeft hb)

/-- **Settling on a signature** ends the same way in both states, if the signature is not that of a
function, and if what is built under the type string of the method is what the string denotes. -/
theorem frame (h : k.Twins b c) (hkey : ctx = k.context → key ≠ k.signature.functionKey)
    (hbuild : Blind k.likeness build) (hdenoted : ctx = k.context → key = k.types →
      ∀ x, x = b ∨ x = c → ∃ loans, EStateM.run build x = .ok k.signature { x with loans }) :
    Matching k.likeness Eq (EStateM.run (Act.frame ctx key build) b)
      (EStateM.run (Act.frame ctx key build) c) := by
  have hrest : Blind k.likeness (build >>= fun s =>
      modifyContext ctx (fun x => { x with frames := (key, s) :: x.frames }) >>= fun _ => pure s) :=
    hbuild.bind fun s => Blind.bind (.modify (fun _ _ h => h.keepFrame ctx key s) fun _ h =>
      Outgrown.modify h ctx (by exact fun _ => List.suffix_refl _)) fun _ => .pure s
  -- where the same is kept, the same is used, or the same is built and kept
  have hsame (heq : (b.contextAt ctx).frames.lookup key = (c.contextAt ctx).frames.lookup key) :
      Matching k.likeness Eq (EStateM.run (Act.frame ctx key build) b)
        (EStateM.run (Act.frame ctx key build) c) := by
    cases hc : (c.contextAt ctx).frames.lookup key with
    | some s =>
      rw [run_frame_of_some (heq.trans hc), run_frame_of_some hc]
      exact .ok h
    | none =>
      rw [run_frame_of_none (heq.trans hc), run_frame_of_none hc]
      exact hrest.ends b c h
  by_cases hctx : ctx = k.context
  · subst hctx
    rcases h.kept key (hkey rfl) with heq | ⟨rfl, hb, hc⟩
    · exact hsame heq
    · obtain ⟨loans, hbuildb⟩ := hdenoted rfl rfl b (.inl rfl)
      obtain ⟨loans', hbuildc⟩ := hdenoted rfl rfl c (.inr rfl)
      cases hkeptb : (b.contextAt k.context).frames.lookup k.types with
      | none =>
        cases hkeptc : (c.contextAt k.context).frames.lookup k.types with
        | none => exact hsame (hkeptb.trans hkeptc.symm)
        | some s => exact h.matching_of_kept hkeptb (hc s hkeptc ▸ hkeptc) hbuildb
      | some s =>
        cases hkeptc : (c.contextAt k.context).frames.lookup k.types with
        | none =>
          have hmatch := h.symm.matching_of_kept hkeptc (hb s hkeptb ▸ hkeptb) hbuildc
          exact hmatch.swap fun h => h.symm
        | some s' => exact hsame (by rw [hkeptb, hkeptc, hb s hkeptb, hc s' hkeptc])
  · exact hsame (by rw [Bridge.contextAt_eq_of_ne h.unframed hctx])

end Settling

end Twins

end KeptSignature

end MessageBridge
