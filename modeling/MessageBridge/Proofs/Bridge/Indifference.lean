import MessageBridge.Proofs.Bridge.CallShape
import MessageBridge.Proofs.Bridge.Steadiness
import MessageBridge.Proofs.Bridge.Twins
import MessageBridge.Proofs.Marshal.SideBySide

/-!
# Code does not see which signatures are kept

Whatever code does, it ends the same way in two states that differ in whether the signature of a method
is kept, and leaves behind two states that differ in no more than that. It may send messages to the same
method, which keeps the signature in both states; it may change classes, run in other contexts, raise
exceptions and fail.

## Main results

* `Act.blind_messageFrame` — settling on the signature of a message ends the same way.
* `Body.blind_eval` — so does a host body.
* `Act.blind_invokeVia`, `Act.blind_dispatch` — so does any code that is called, and any message.
* `Reentry.blind_within` — at any depth of nesting.
-/

namespace MessageBridge

open KeptSignature

/-- **Blind**: calls from inside a call end the same way in twins. -/
structure Reentry.Blind (k : KeptSignature) (re : Reentry) : Prop where
  invoke : ∀ code c, Act.Blind k.likeness (re.invoke code c)
  ask : ∀ ctx r name, Act.Blind k.likeness (re.ask ctx r name)

namespace Act

variable {α β : Type} {k : KeptSignature} {b c : Bridge} {x : Act α} {ctx : ContextId}

/-! ## Access to the state -/

/-- An action that reads the state goes on alike if it reads what twins have in common. -/
lemma blind_get {f : Bridge → Act α} (hf : ∀ b c, k.Twins b c → f b = f c)
    (hf' : ∀ b, Blind k.likeness (f b)) : Blind k.likeness (get >>= f) := .get hf hf'

lemma blind_fromSpace (g : ObjectSpace → α) : Blind k.likeness (fromSpace g) :=
  .of_ends (.of_after fun _ => rfl) fun b c h => by
    rw [run_fromSpace, run_fromSpace, h.space]
    exact .ok h

lemma blind_readSpace (g : ObjectSpace → Option α) : Blind k.likeness (readSpace g) :=
  blind_get (fun _ _ h => by rw [h.space]) fun _ => .require _ _

/-- A change of the object space in which no method is declared anew. -/
lemma twins_space {g : ObjectSpace → ObjectSpace} (h : k.Twins b c)
    (hg : b.space.classes.Encloses (g b.space).classes) :
    k.Twins { b with space := g b.space } { c with space := g c.space } :=
  h.map (g := fun b => { b with space := g b.space }) (fun _ => rfl) (fun _ => rfl) hg.types

lemma blind_onSpace {g : ObjectSpace → α × ObjectSpace} (hg : ∀ s : ObjectSpace, s.Changes (g s).2) :
    Blind k.likeness (onSpace g) :=
  .of_ends (fun _ h => h) fun b c h => by
    rw [run_onSpace, run_onSpace, h.space]
    exact .ok (h.space ▸ twins_space (g := fun s => (g s).2) h (hg b.space).encloses)

lemma blind_tryOnSpace {g : ObjectSpace → Option (α × ObjectSpace)}
    (hg : ∀ (s : ObjectSpace) (r : α × ObjectSpace), g s = some r → s.Changes r.2) :
    Blind k.likeness (tryOnSpace g) := by
  have hread := blind_readSpace (k := k) g
  have hset (r : α × ObjectSpace) : Stays k.likeness.lost (do setSpace r.2; return r.1) := fun _ h => h
  refine .of_ends (hread.left.bind hset) fun b c h => (hread.ends b c h).bind hset hset
    fun r b₁ c₁ hb _ h₁ => ?_
  obtain ⟨hg', rfl⟩ := run_readSpace_eq_ok.mp hb
  exact .ok (twins_space (g := fun _ => r.2) h₁ (hg _ r hg').encloses)

lemma blind_changeSpace {g : ObjectSpace → Option ObjectSpace}
    (hg : ∀ s s', g s = some s' → s.Changes s') : Blind k.likeness (changeSpace g) := by
  have hread := blind_readSpace (k := k) g
  have hset (s : ObjectSpace) : Stays k.likeness.lost (setSpace s) := fun _ h => h
  refine .of_ends (hread.left.bind hset) fun b c h => (hread.ends b c h).bind hset hset
    fun s b₁ c₁ hb _ h₁ => ?_
  obtain ⟨hg', rfl⟩ := run_readSpace_eq_ok.mp hb
  exact .ok (twins_space (g := fun _ => s) h₁ (hg _ s hg').encloses)

/-- What a context is asked for, apart from the signatures that it keeps. -/
lemma blind_context {f : Context → Act α} (hf : ∀ x, f x = f x.unframed)
    (hf' : ∀ x, Blind k.likeness (f x)) : Blind k.likeness (context ctx >>= f) := by
  have hcontext : Stays k.likeness.lost (context ctx) := fun _ h => h
  refine .of_ends (hcontext.bind fun x => (hf' x).left) fun b c h => ?_
  rw [run_bind_ok (run_context ctx), run_bind_ok (run_context ctx), hf (b.contextAt ctx),
    hf (c.contextAt ctx), Bridge.contextAt_eq_of_unframed h.unframed]
  exact (hf' _).ends b c h

/-- A change of a context that leaves alone what types depend on and the signatures that are kept. -/
lemma blind_modifyContext {f : Context → Context} (hf : ∀ x,
    (f x).unframed = f x.unframed ∧ (f x).frames = x.frames ∧ (f x).reading = x.reading) :
    Blind k.likeness (modifyContext ctx f) :=
  .modify (fun _ _ h => h.modify fun _ => hf) fun _ h => h.modify ctx fun x =>
    (congrArg (·.1.layouts) (hf x).2.2 : (f x).translator.layouts = x.translator.layouts) ▸
      List.suffix_refl _

/-! ## Handles -/

lemma blind_checkName (name : String) : Blind k.likeness (checkName name) := .ite (.fail _) (.pure _)

lemma blind_intern (name : String) : Blind k.likeness (intern name) :=
  (blind_onSpace fun s => s.changes_intern name).bind fun _ => .ite (.pure _) (.fault _)

lemma blind_selector (ctx : ContextId) (name : String) : Blind k.likeness (selector ctx name) := by
  refine blind_context (fun _ => rfl) fun x => ?_
  split
  · exact .pure _
  · exact (blind_checkName name).bind fun _ => (blind_intern name).bind fun _ =>
      (blind_modifyContext (by exact fun _ => ⟨rfl, rfl, rfl⟩)).bind fun _ => .pure _

lemma blind_newRef (ctx : ContextId) (a : Address) (isClass : Bool) :
    Blind k.likeness (newRef ctx a isClass) := by
  have hcount (serial : Nat) : Blind k.likeness (modify fun b => { b with
      nextSerial := b.nextSerial + 1
      space := { b.space with
        associations := b.space.associations.set a (.context ctx) serial } } : Act Unit) :=
    .modify (fun b c h => h.map (g := fun b => { b with
      nextSerial := b.nextSerial + 1
      space := { b.space with associations := b.space.associations.set a (.context ctx) serial } })
      (fun _ => rfl) (fun _ => rfl) id) fun _ h => h
  refine blind_get (fun b c h => ?_) fun b => (hcount b.nextSerial).bind fun _ =>
    (blind_modifyContext (by exact fun _ => ⟨rfl, rfl, rfl⟩)).bind fun _ => .pure _
  have hserial : b.nextSerial = c.nextSerial := (congrArg Bridge.nextSerial h.unframed :)
  rw [hserial]

lemma readsAlike (ctx : ContextId) : ReadsAlike k.likeness ctx where
  space := blind_fromSpace
  read := blind_readSpace
  cached _ := (blind_fromSpace _).bind fun _ => blind_context (fun _ => rfl) fun _ => .pure _
  newRef := blind_newRef ctx

/-- The same reference is given out. -/
lemma blind_wrap (ctx : ContextId) (a : Address) : Blind k.likeness (wrap ctx a) :=
  (readsAlike ctx).wrap a

lemma blind_wrapClass (ctx : ContextId) (a : Address) : Blind k.likeness (wrapClass ctx a) :=
  (readsAlike ctx).wrapClass a

lemma blind_classOf (ctx : ContextId) (r : ObjectRef) : Blind k.likeness (classOf ctx r) :=
  (blind_readSpace _).bind fun _ => blind_wrapClass ctx _

lemma blind_classNamed? (ctx : ContextId) (name : String) : Blind k.likeness (classNamed? ctx name) := by
  refine blind_context (fun _ => rfl) fun x => ?_
  split
  · exact .pure _
  · refine (blind_checkName name).bind fun _ => (blind_fromSpace _).bind fun c => ?_
    split
    · exact blind_wrapClass ctx _
    · exact .pure _

lemma blind_respondsTo (ctx : ContextId) (r : ObjectRef) (name : String) :
    Blind k.likeness (respondsTo ctx r name) :=
  (blind_selector ctx name).bind fun _ => (blind_readSpace _).bind fun _ => blind_fromSpace _

lemma blind_lookupImp (c : ClassId) (sel : Selector) : Blind k.likeness (lookupImp c sel) :=
  blind_onSpace fun s => ObjectSpace.changes_withClasses (.lookup s.classes c sel)

/-! ## Types -/

lemma relates_lend (g g' : Bridge → Loans) : Relates k.likeness Eq
    (modify fun b => { b with loans := g b } : Act Unit) (modify fun b => { b with loans := g' b }) :=
  .modify (fun _ _ h => h.lend _ _) (fun _ h => h) fun _ h => h

/-- Which buffer is lent makes no difference. -/
lemma blind_borrowing (hx : Blind k.likeness x) : Blind k.likeness (borrowing x) := by
  have hloan (loans loans' : Loans) (buffer buffer' : Nat) : Relates k.likeness Eq
      (do
        modify (fun b => { b with loans })
        let a ← x
        modify (fun b => { b with loans := b.loans.takeBack buffer })
        return a)
      (do
        modify (fun b => { b with loans := loans' })
        let a ← x
        modify (fun b => { b with loans := b.loans.takeBack buffer' })
        return a) :=
    (relates_lend (fun _ => loans) fun _ => loans').bind fun _ => Relates.bind hx fun a =>
      (relates_lend (fun b => b.loans.takeBack buffer) fun b => b.loans.takeBack buffer').bind
        fun _ => .pure a
  exact ⟨fun b c h => (hloan _ _ b.loans.lend.1 c.loans.lend.1).ends b c h,
    fun b h => (hloan _ b.loans.lend.2 _ b.loans.lend.1).left b h,
    fun b h => (hloan _ b.loans.lend.2 _ b.loans.lend.1).left b h⟩

lemma blind_borrowText (text : Option String) : Blind k.likeness (borrowText text) := by
  cases text with
  | some t => exact blind_borrowing (.pure _)
  | none => exact .pure _

lemma blind_typeTokens (m : MethodRef) : Blind k.likeness (typeTokens m) := by
  refine Blind.bind (blind_fromSpace _) fun method => ?_
  split
  · exact .pure _
  · exact .pure _
  · exact .fault _

lemma blind_returnType (m : MethodRef) : Blind k.likeness (returnType m) :=
  (blind_typeTokens m).bind fun _ => blind_borrowText _

lemma blind_argumentTypes (m : MethodRef) : Blind k.likeness (argumentTypes m) := by
  have hone (index : Nat) : Blind k.likeness (argumentType m index) :=
    .ite ((blind_typeTokens m).bind fun _ => blind_borrowText _) (.pure _)
  exact ((blind_typeTokens m).bind fun _ => .pure _).bind fun n =>
    (Blind.mapM hone (List.range n)).bind fun _ => .pure _

lemma blind_typeString (ctx : ContextId) (m : MethodRef) : Blind k.likeness (typeString ctx m) :=
  blind_context (fun _ => rfl) fun _ => .ite (Blind.bind (blind_fromSpace _) fun _ => .pure _) (.pure _)

/-- Translating again and again ends alike if registering layouts does. -/
lemma blind_retrying {register : String → Act Layout} (hregister : ∀ e, Blind k.likeness (register e))
    (ctx : ContextId) (f : Translator → Except Error α) (lookups : Nat) :
    Blind k.likeness (retrying register ctx f lookups) := by
  induction lookups with
  | zero => exact blind_context (fun _ => rfl) fun _ => .ofExcept _
  | succ lookups ih =>
    refine blind_context (fun _ => rfl) fun x => ?_
    split
    · refine Blind.bind (blind_context (fun _ => rfl) fun _ => .pure _) fun found => ?_
      split
      · exact (hregister _).bind fun _ => ih
      · exact .fail _
    · exact .ofExcept _

/-- The context of the method outgrows the signature with the first layout that it learns. -/
lemma blind_learn (ctx : ContextId) (layout : Layout) : Blind k.likeness
    (modifyContext ctx fun c => { c with translator := c.translator.insert layout }) := by
  have hstays : Stays k.likeness.lost
      (modifyContext ctx fun c => { c with translator := c.translator.insert layout }) :=
    fun _ h => Outgrown.modify h ctx (by exact fun _ => List.suffix_cons _ _)
  refine .of_ends hstays fun b c h => ?_
  rw [run_modifyContext, run_modifyContext]
  by_cases hctx : ctx = k.context
  · subst hctx
    have hlost {b : Bridge} (hb : k.Suits b) : k.Outgrown { b with
        contexts := b.contexts.modify k.context fun c =>
          { c with translator := c.translator.insert layout } } := by
      rw [Outgrown, Bridge.contextAt_modify_self hb.context]
      exact Nat.lt_succ_of_le hb.known
    exact .lost (hlost h.suits) (hlost h.suits_right)
  · exact .ok (h.modify fun hi => absurd hi hctx)

lemma blind_registerWithin (ctx : ContextId) (depth : Nat) (encoding : String) :
    Blind k.likeness (registerWithin ctx depth encoding) := by
  induction depth generalizing encoding with
  | zero => exact .fault _
  | succ depth ih =>
    exact (blind_retrying ih ctx _ _).bind fun layout => (blind_learn ctx layout).bind fun _ => .pure _

/-- **A translation** goes alike, or the context of the method learns a layout. -/
lemma blind_withStructs (ctx : ContextId) (f : Translator → Except Error α) :
    Blind k.likeness (withStructs ctx f) :=
  Blind.bind (blind_context (fun _ => rfl) fun _ => .pure _) fun depth =>
    blind_retrying (blind_registerWithin ctx depth) ctx f _

lemma blind_methodTypes (ctx : ContextId) (m : MethodRef) : Blind k.likeness (methodTypes ctx m) := by
  refine (blind_returnType m).bind fun ret => ?_
  split
  · exact (blind_argumentTypes m).bind fun _ => blind_withStructs ctx _
  · exact (blind_typeString ctx m).bind fun _ => .fail _

/-! ## Signatures -/

/-- Settling on the signature of a message forgets no layouts. -/
lemma stays_messageFrame (ctx : ContextId) (method : Option MethodRef) (m : Message) :
    Stays k.likeness.lost (messageFrame ctx method m) :=
  .of_moves (R := Upkeep) (fun _ _ hstep h => Nat.lt_of_lt_of_le h (hstep.layouts_suffix _).length_le) fun _ =>
    upkeep_messageFrame ctx method m

/-- **The signature of a method** is settled alike. Under the type string of the method whose signature is
kept, what is built is what is kept. -/
lemma blind_methodFrame (ctx : ContextId) (m : MethodRef) : Blind k.likeness (methodFrame ctx m) := by
  refine .of_ends (stays_messageFrame ctx (some m) ⟨"", []⟩) fun b c (h : k.Twins b c) => ?_
  have hspace := h.space
  have htyped : (b.contextAt ctx).capabilities.typed = (c.contextAt ctx).capabilities.typed :=
    (congrArg (·.capabilities.typed) (Bridge.contextAt_eq_of_unframed h.unframed ctx) :)
  unfold methodFrame
  rw [run_bind_ok (run_typeString m), run_bind_ok (run_typeString m), ← hspace, ← htyped]
  cases hkey : (if (b.contextAt ctx).capabilities.typed then
      (b.space.classes.method? m).map Method.types else none) with
  | some key =>
    split at hkey
    · obtain ⟨method, hm, rfl⟩ := Option.map_eq_some_iff.mp hkey
      refine h.frame (fun _ heq => ?_) (blind_methodTypes ctx m) fun hctx htypes x hx => ?_
      · exact h.suits.types ⟨m.owner, method, List.mem_of_find?_eq_some hm, heq⟩
      · subst hctx
        rcases hx with rfl | rfl
        · exact exists_run_methodTypes hkey (htypes ▸ h.suits.denoted)
        · exact exists_run_methodTypes (hspace ▸ hkey) (htypes ▸ h.suits_right.denoted)
    · cases hkey
  | none =>
    have hkeep (s : Signature) : Stays k.likeness.lost (frame ctx s.encoding (pure s)) :=
      .of_moves (R := Upkeep) (fun _ _ hstep h => Nat.lt_of_lt_of_le h (hstep.layouts_suffix _).length_le) fun _ =>
        upkeep_frame ctx _ fun _ => moves_pure _
    refine ((blind_methodTypes ctx m).ends b c h).bind hkeep hkeep fun s b₁ c₁ hb _ h₁ => ?_
    -- in the context of the method, there is no method that could denote anything
    have hctx : ctx ≠ k.context := by
      rintro rfl
      rw [if_pos h.suits.typed] at hkey
      have hnone := denoted?_eq_none (Option.map_eq_none_iff.mp hkey) k.context
      rw [denoted?, hb] at hnone
      cases hnone
    exact Twins.frame h₁ (fun h => absurd h hctx) (.pure _) fun h => absurd h hctx

/-- The text under which an assumed signature is kept is not that of a function. -/
lemma encoding_assumed_ne_functionKey (n : Nat) (s : Signature) :
    (Signature.assumed n).encoding ≠ s.functionKey := fun heq => by
  have hhead := congrArg (·.toList.head?) heq
  simp [Signature.encoding, Signature.assumed, Signature.functionKey, String.toList_join,
    Descriptor.object, Descriptor.encoding] at hhead

lemma blind_assumedFrame (ctx : ContextId) (m : Message) : Blind k.likeness (assumedFrame ctx m) := by
  have hframe (n : Nat) : Blind k.likeness
      (frame ctx (Signature.assumed n).encoding (pure (Signature.assumed n))) := by
    refine .of_ends (.of_moves (R := Upkeep) (fun _ _ hstep h => Nat.lt_of_lt_of_le h (hstep.layouts_suffix _).length_le) fun _ =>
      upkeep_frame ctx _ fun _ => moves_pure _) fun b c (h : k.Twins b c) => ?_
    refine h.frame (fun _ => encoding_assumed_ne_functionKey _ _) (.pure _) fun _ htypes x _ =>
      ⟨x.loans, ?_⟩
    rw [Translator.eq_assumed_of_denoted? (htypes ▸ h.suits.denoted) h.suits.short]
    rfl
  exact blind_context (fun _ => rfl) fun _ => .ite (.fail _) (hframe _)

/-- **The signature of a message** is settled alike. -/
lemma blind_messageFrame (ctx : ContextId) (method : Option MethodRef) (m : Message) :
    Blind k.likeness (messageFrame ctx method m) := by
  cases method with
  | some method => exact blind_methodFrame ctx method
  | none => exact blind_assumedFrame ctx m

/-! ## Values as bytes -/

lemma blind_keepBlock (size : Nat) (bytes : List UInt8) : Blind k.likeness (keepBlock size bytes) :=
  blind_tryOnSpace fun s r h => by
    obtain ⟨⟨a, memory⟩, hmemory, rfl⟩ := Option.map_eq_some_iff.mp h
    exact .of_memory (.allocate hmemory)

lemma blind_retain (ctx : ContextId) (blocks : List Address) : Blind k.likeness (retain ctx blocks) :=
  blind_modifyContext (by exact fun _ => ⟨rfl, rfl, rfl⟩)

/-- Names are checked, selectors are given out and bytes are stored alike in twins. -/
lemma givesAlike_twins (ctx : ContextId) : GivesAlike k.likeness Eq ctx :=
  ⟨blind_checkName, blind_selector ctx, blind_keepBlock⟩

lemma blind_encode (ctx : ContextId) (index : Nat) (d : Descriptor) (out : List UInt8) (v : Value) :
    Blind k.likeness (encode ctx index d out v) :=
  relates_encode (givesAlike_twins ctx) (fun _ _ => rfl) d out v

lemma blind_decodeShape (ctx : ContextId) (bytes : List UInt8) (s : Shape) :
    Blind k.likeness (decodeShape ctx bytes s) :=
  (readsAlike ctx).decodeShape bytes s

lemma blind_decodeResult (ctx : ContextId) (d : Descriptor) (bytes : List UInt8) :
    Blind k.likeness (decodeResult ctx d bytes) := by
  unfold decodeResult
  split
  · exact .pure _
  · exact blind_decodeShape ctx bytes d.shape

/-! ## What host bodies do -/

lemma blind_findIvar (r : ObjectRef) (name : String) : Blind k.likeness (findIvar r name) := by
  refine (blind_checkName name).bind fun _ => (blind_readSpace _).bind fun c =>
    (blind_fromSpace _).bind fun i => ?_
  split
  · exact .pure _
  · exact .fail _

lemma blind_ivar (ctx : ContextId) (r : ObjectRef) (name : String) : Blind k.likeness (ivar ctx r name) :=
  Blind.bind ((blind_findIvar r name).bind fun _ => (blind_withStructs ctx _).bind fun _ =>
    (blind_readSpace _).bind fun _ => .pure _) fun _ => blind_decodeShape ctx _ _

lemma blind_setIvar (ctx : ContextId) (r : ObjectRef) (name : String) (v : Value) :
    Blind k.likeness (setIvar ctx r name v) :=
  (blind_findIvar r name).bind fun _ => (blind_withStructs ctx _).bind fun _ =>
    (blind_encode ctx 0 _ _ v).bind fun _ =>
      (blind_changeSpace fun _ _ => ObjectSpace.changes_write?).bind fun _ => blind_retain ctx _

lemma blind_className (r : ObjectRef) : Blind k.likeness (className r) :=
  (blind_readSpace _).bind fun _ => blind_fromSpace _

lemma blind_makeImplementation (ctx : ContextId) (selector : String) (signature : Signature)
    (body : Body) : Blind k.likeness (makeImplementation ctx selector signature body) := by
  have hpush (h : Hosted) : Blind k.likeness
      (modify fun b => { b with hosted := b.hosted.push h } : Act Unit) :=
    .modify (fun b c htwins => htwins.map (g := fun b => { b with hosted := b.hosted.push h })
      (fun _ => rfl) (fun _ => rfl) id) fun _ h => h
  refine .ite (blind_get (fun b c h => ?_) fun b => (hpush _).bind fun _ => .pure _) (.fail _)
  have hhosted : b.hosted = c.hosted := (congrArg Bridge.hosted h.unframed :)
  rw [hhosted]

/-- A method is declared alike, if its type string is no text of a function. -/
lemma blind_declare {c : ClassId} {sel : Selector} {imp : Implementation} {types : String} {e : Error}
    (htypes : types ≠ k.signature.functionKey) : Blind k.likeness (do
      match ← fromSpace (·.classes.addMethod? c sel imp types) with
      | some classes => changeSpace (fun s => some (s.withClasses classes))
      | none => fail e) := by
  refine .of_ends (fun b h => ?_) fun b c' (h : k.Twins b c') => ?_
  · rw [after, run_bind_ok (run_fromSpace _)]
    cases b.space.classes.addMethod? c sel imp types with
    | none => exact h
    | some classes => exact h
  · rw [run_bind_ok (run_fromSpace _), run_bind_ok (run_fromSpace _), ← h.space]
    cases hadd : b.space.classes.addMethod? c sel imp types with
    | none => exact (Blind.fail e).ends _ _ h
    | some classes =>
      refine .ok (h.map (g := fun b => { b with space := b.space.withClasses classes }) (fun _ => rfl)
        (fun _ => rfl) fun hkey => ?_)
      exact (ClassTable.types_of_addMethod? hadd hkey).resolve_right fun heq => htypes heq.symm

/-- **Adding a method** ends alike: its type string is no text of a function. -/
lemma blind_addMethodTo (ctx : ContextId) (target : ObjectRef) (className name types : String)
    (body : Body) : Blind k.likeness (addMethodTo ctx target className name types body) :=
  Blind.bind_of (p := fun signature => Signature.Written signature.encoding) (blind_withStructs ctx _)
    (fun signature _ _ h => ⟨_, types, signature, ok_of_run_withStructs h, rfl⟩)
    fun signature hwritten => (blind_selector ctx name).bind fun _ => (blind_checkName _).bind fun _ =>
      (blind_makeImplementation ctx name signature body).bind fun _ => (blind_readSpace _).bind fun _ =>
        blind_declare (hwritten.ne_functionKey _)

lemma blind_addMethod (ctx : ContextId) (target : ObjectRef) (name types : String) (body : Body) :
    Blind k.likeness (addMethod ctx target name types body) :=
  (blind_className target).bind fun _ => blind_addMethodTo ctx target _ name types body

lemma blind_named (ctx : ContextId) (name : String) : Blind k.likeness (named ctx name) := by
  refine blind_get (fun b c h => ?_) fun b => ?_
  · have hnames : b.names = c.names := (congrArg Bridge.names h.unframed :)
    rw [hnames]
  · split
    · exact .pure _
    · refine (blind_classNamed? ctx name).bind fun r => ?_
      split
      · exact .pure _
      · exact .fail _

lemma blind_layoutOf (ctx : ContextId) (encoding : String) : Blind k.likeness (layoutOf ctx encoding) := by
  refine (blind_withStructs ctx _).bind fun d => ?_
  split
  · exact .pure _
  · exact .fail _

end Act

namespace Literal

variable {k : KeptSignature} {layoutOf : String → Act Layout} {named : String → Act Value}

mutual

/-- A literal is read alike if layouts and names are. -/
theorem blind_eval (hl : ∀ e, Act.Blind k.likeness (layoutOf e)) (hn : ∀ n, Act.Blind k.likeness (named n))
    (l : Literal) : Act.Blind k.likeness (l.eval layoutOf named) := by
  cases l with
  | nil | bool | int | uint | float | selector | str | pointer =>
    unfold Literal.eval
    exact .pure _
  | named name => unfold Literal.eval; exact hn name
  | struct encoding fields =>
    unfold Literal.eval
    exact (hl encoding).bind fun _ => (blind_evalAll hl hn fields).bind fun _ => .pure _

theorem blind_evalAll (hl : ∀ e, Act.Blind k.likeness (layoutOf e)) (hn : ∀ n, Act.Blind k.likeness (named n))
    (ls : List Literal) : Act.Blind k.likeness (Literal.evalAll layoutOf named ls) := by
  cases ls with
  | nil => unfold Literal.evalAll; exact .pure _
  | cons l ls =>
    unfold Literal.evalAll
    exact (blind_eval hl hn l).bind fun _ => (blind_evalAll hl hn ls).bind fun _ => .pure _

end

end Literal

/-! ## Calls -/

namespace Act

variable {α : Type} {k : KeptSignature} {ctx : ContextId} {re : Reentry}

lemma blind_takePendingError (ctx : ContextId) : Blind k.likeness (takePendingError ctx) :=
  blind_context (fun _ => rfl) fun _ =>
    (blind_modifyContext (by exact fun _ => ⟨rfl, rfl, rfl⟩)).bind fun _ => .pure _

lemma blind_takeException (ctx : ContextId) : Blind k.likeness (takeException ctx) :=
  blind_context (fun _ => rfl) fun _ =>
    .ite ((blind_onSpace ObjectSpace.changes_takeRaised).bind fun _ => blind_wrap ctx _) (.pure _)

lemma blind_encodeArguments (ctx : ContextId) (index : Nat) (args : List (Descriptor × Value)) :
    Blind k.likeness (encodeArguments ctx index args) := by
  induction args generalizing index with
  | nil => exact .pure _
  | cons arg args ih =>
    exact (blind_encode ctx index _ _ _).bind fun _ => (ih _).bind fun _ => .pure _

lemma blind_lookupAbove (receiver : Address) (start : Option ClassId) (sel : Option Selector) :
    Blind k.likeness (lookupAbove receiver start sel) := by
  unfold lookupAbove
  split
  · exact .ite (.pure _) ((blind_lookupImp _ _).bind fun _ => .pure _)
  · exact .pure _

lemma blind_superOrigin (ctx : ContextId) (receiver c : ObjectRef) :
    Blind k.likeness (superOrigin ctx receiver c) := by
  refine .ite ((blind_classOf ctx c).bind fun k => ?_) ((blind_readSpace _).bind fun _ => .pure _)
  split
  · exact (blind_readSpace _).bind fun _ => .pure _
  · exact .pure _

lemma blind_targetAbove (ctx : ContextId) (receiver : ObjectRef) (origin : Option ClassId)
    (name : String) : Blind k.likeness (targetAbove ctx receiver origin name) := by
  refine (blind_selector ctx name).bind fun sel => (blind_fromSpace _).bind fun c => ?_
  split
  · exact .fail _
  · exact .pure _

lemma blind_target (ctx : ContextId) (receiver : ObjectRef) (route : Route) (name : String) :
    Blind k.likeness (target ctx receiver route name) := by
  cases route with
  | direct =>
    have hclass : Blind k.likeness (receiverClass receiver) :=
      .ite ((blind_readSpace _).bind fun _ => blind_fromSpace _) (blind_readSpace _)
    exact (blind_selector ctx name).bind fun _ => hclass.bind fun _ => .pure _
  | super => exact (blind_readSpace _).bind fun _ => blind_targetAbove ctx receiver _ name
  | superOf c =>
    exact (blind_superOrigin ctx receiver c).bind fun _ => blind_targetAbove ctx receiver _ name

section Calls

variable (hre : re.Blind k)
include hre

lemma blind_exceptionText (ctx : ContextId) (exception : ObjectRef) (name : String) :
    Blind k.likeness (exceptionText re ctx exception name) := by
  have hask (r : ObjectRef) (name : String) : Blind k.likeness (orNone (re.ask ctx r name)) :=
    (hre.ask ctx r name).map.recover fun _ => .pure _
  refine (blind_respondsTo ctx exception name).bind fun known =>
    .ite ((hask exception name).bind fun answer => ?_) (.pure _)
  split
  · exact .pure _
  · exact (hask _ _).bind fun _ => .pure _
  · exact .pure _

/-- **Ending a call** goes alike. -/
lemma blind_complete (ctx : ContextId) (ret : Descriptor) (result : Option (List UInt8)) :
    Blind k.likeness (complete re ctx ret result) := by
  refine (blind_takePendingError ctx).bind fun pending => ?_
  split
  · exact (blind_takeException ctx).bind fun _ => .fail _
  · refine (blind_takeException ctx).bind fun exception => ?_
    split
    · exact (blind_exceptionText hre ctx _ _).bind fun _ =>
        (blind_exceptionText hre ctx _ _).bind fun _ => .fail _
    · exact .ite (.pure _) ((Blind.require _ _).bind fun _ => blind_decodeResult ctx ret _)

lemma blind_callCode (ctx : ContextId) (s : Signature) (code : Implementation) (words : List UInt64)
    (args : List Value) : Blind k.likeness (callCode re ctx s code words args) :=
  (blind_encodeArguments ctx 0 _).bind fun _ => (hre.invoke code _).bind fun _ =>
    (blind_retain ctx _).bind fun _ => .pure _

lemma blind_resolveMissing (c : ClassId) (receiver : Address) (sel : Selector) :
    Blind k.likeness (resolveMissing re c receiver sel) := by
  have hcall : Blind k.likeness (resolverCall c receiver sel) :=
    (blind_fromSpace _).bind fun _ => (blind_intern _).bind fun _ => .ite (.pure _)
      ((blind_readSpace _).bind fun _ => (blind_fromSpace _).bind fun _ => .pure _)
  refine hcall.bind fun question => ?_
  split
  · exact .pure _
  · exact (hre.invoke _ _).bind fun _ => (Blind.require _ _).bind fun _ => .pure _

lemma blind_lookupImplementation (receiver : Address) (sel : Option Selector) :
    Blind k.likeness (lookupImplementation re receiver sel) := by
  unfold lookupImplementation
  split
  · exact .pure _
  · refine .ite (.pure _) ((blind_readSpace _).bind fun c => (blind_lookupImp c _).bind fun imp => ?_)
    split
    · exact .pure _
    · exact (blind_resolveMissing hre c receiver _).bind fun _ =>
        .ite ((blind_lookupImp c _).bind fun _ => .pure _) (.pure _)

lemma blind_findCode (ctx : ContextId) (t : Target) : Blind k.likeness (findCode re ctx t) :=
  .ite ((blind_lookupAbove _ _ _).bind fun _ => .pure _) (blind_context (fun _ => rfl) fun _ =>
    .ite ((blind_lookupImplementation hre _ _).bind fun _ => .pure _) (.pure _))

/-- **A message** ends alike. -/
theorem blind_dispatch (ctx : ContextId) (route : Route) (receiver : ObjectRef) (m : Message) :
    Blind k.likeness (dispatch re ctx (.message route receiver m)) := by
  have hplan : Blind k.likeness (plan re ctx (.message route receiver m)) := by
    refine (blind_target ctx receiver route m.selector).bind fun t => (blind_fromSpace _).bind fun method =>
      (blind_messageFrame ctx method m).bind fun s => .ite (.fail _)
        ((blind_findCode hre ctx t).bind fun code => ?_)
    split
    · exact .fail _
    · exact .pure _
  exact hplan.bind fun _ => (blind_callCode hre ctx _ _ _ _).bind fun _ => blind_complete hre ctx _ _

end Calls

end Act

/-! ## Host bodies -/

namespace Body

open Act

variable {k : KeptSignature}

mutual

/-- **A host body** ends alike, whatever it does. -/
theorem blind_eval {a : Activation} (hre : a.reentry.Blind k) (body : Body) :
    Blind k.likeness (body.eval a) := by
  cases body with
  | literal l =>
    unfold Body.eval
    exact Literal.blind_eval (blind_layoutOf a.context)
      (fun n => (blind_named a.context n).bind fun _ => .pure _) l
  | receiver => unfold Body.eval; exact .pure _
  | argument i => unfold Body.eval; exact .pure _
  | ivar name => unfold Body.eval; exact blind_ivar a.context a.receiver name
  | setIvar name e =>
    unfold Body.eval
    exact (blind_eval hre e).bind fun v => (blind_setIvar a.context a.receiver name v).bind fun _ => .pure _
  | add e f | addFloat e f | equal e f =>
    unfold Body.eval
    exact (blind_eval hre e).bind fun _ => (blind_eval hre f).bind fun _ => .pure _
  | concat es | seq es =>
    unfold Body.eval
    exact (blind_evalAll hre es).bind fun _ => .pure _
  | cond c e f =>
    unfold Body.eval
    exact (blind_eval hre c).bind fun _ => .ite (blind_eval hre e) (blind_eval hre f)
  | log e =>
    unfold Body.eval
    have hlog (v : Value) : Blind k.likeness (Act.log v) := .modify (fun b c (h : k.Twins b c) =>
      h.map (g := fun b => { b with trace := v :: b.trace }) (fun _ => rfl) (fun _ => rfl) id)
      fun _ h => h
    exact (blind_eval hre e).bind fun v => (hlog v).bind fun _ => .pure _
  | send e selector es =>
    unfold Body.eval
    refine (blind_eval hre e).bind fun v => (blind_evalAll hre es).bind fun args => ?_
    split
    · exact blind_dispatch hre a.context _ _ _
    · exact .pure _
  | superOf className selector es =>
    unfold Body.eval
    exact (blind_named a.context className).bind fun _ =>
      (blind_evalAll hre es).bind fun _ => blind_dispatch hre a.context _ _ _
  | superSend selector es =>
    unfold Body.eval
    exact (blind_evalAll hre es).bind fun _ => blind_dispatch hre a.context _ _ _
  | field e name =>
    unfold Body.eval
    exact (blind_eval hre e).bind fun _ => .pure _
  | withField e name f =>
    unfold Body.eval
    exact (blind_eval hre e).bind fun _ => (blind_eval hre f).bind fun _ => .pure _
  | attempt e =>
    unfold Body.eval
    exact (blind_eval hre e).recover fun _ => .pure _
  | throw e =>
    unfold Body.eval
    refine (blind_eval hre e).bind fun _ => (blind_changeSpace fun s s' h => ?_).bind fun _ => .pure _
    cases h
    exact s.changes_throw _
  | define selector types body =>
    unfold Body.eval
    exact .ite ((blind_addMethod _ _ _ _ _).bind fun _ => .pure _) (.pure _)
  | defineClass selector types body =>
    unfold Body.eval
    refine .ite ((blind_classOf a.context a.receiver).bind fun c => ?_) (.pure _)
    split
    · exact (blind_addMethod _ _ _ _ _).bind fun _ => .pure _
    · exact .pure _
  | fail e => unfold Body.eval; exact .fail e
  | panic text => unfold Body.eval; exact .panic text

theorem blind_evalAll {a : Activation} (hre : a.reentry.Blind k) (bodies : List Body) :
    Blind k.likeness (Body.evalAll a bodies) := by
  cases bodies with
  | nil => unfold Body.evalAll; exact .pure _
  | cons e es =>
    unfold Body.evalAll
    exact (blind_eval hre e).bind fun _ => (blind_evalAll hre es).bind fun _ => .pure _

end

end Body

/-! ## Running code -/

namespace Act

variable {α : Type} {k : KeptSignature} {re : Reentry}

lemma blind_decodeArguments (ctx : ContextId) (args : List (Descriptor × Option (List UInt8))) :
    Blind k.likeness (decodeArguments ctx args) := by
  induction args with
  | nil => exact .pure _
  | cons arg args ih =>
    exact (Blind.require _ _).bind fun _ => Blind.bind (blind_decodeShape ctx _ _) fun _ =>
      ih.bind fun _ => .pure _

lemma blind_encodeResult (ctx : ContextId) (ret : Descriptor) (v : Value) :
    Blind k.likeness (encodeResult ctx ret v) := by
  refine .ite (.pure _) ?_
  split
  · split
    · exact .pure _
    · exact .fail _
  · exact (blind_encode ctx 0 ret _ v).bind fun _ => (blind_retain ctx _).bind fun _ => .pure _

/-- Looking a class or a selector up by its address only reads. -/
lemma blind_readAt (a : Address) (g : ObjectSpace → Option α) :
    Blind k.likeness (if a = 0 then return none else return some (← readSpace g)) :=
  .ite (.pure _) ((blind_readSpace _).bind fun _ => .pure _)

lemma blind_textAt (a : Address) : Blind k.likeness (textAt a) :=
  .ite (.pure _) ((blind_readSpace _).bind fun _ => .pure _)

lemma blind_instantiate (a : Address) : Blind k.likeness (instantiate a) := by
  refine (blind_readAt a _).bind fun c => ?_
  split
  · exact blind_onSpace fun s => s.changes_createInstance _ 0
  · exact .pure _

section Running

variable (hre : re.Blind k)
include hre

lemma blind_respond (h : Hosted) (slots : List (Option (List UInt8))) :
    Blind k.likeness (respond re h slots) := by
  refine (Blind.require _ _).bind fun address => (blind_wrap h.context _).bind fun receiver => ?_
  split
  · exact .fail _
  · exact (blind_decodeArguments h.context _).bind fun _ =>
      (Body.blind_eval hre h.body).bind fun _ => blind_encodeResult h.context _ _

lemma blind_runHosted (h : Hosted) (c : Call) : Blind k.likeness (runHosted re h c) := by
  have hfailed (e : Error) (zero : List UInt8) : Blind k.likeness (do
      modifyContext h.context (·.recordFailure e)
      return zero) := (blind_modifyContext (by exact fun _ => ⟨rfl, rfl, rfl⟩)).bind fun _ => .pure _
  refine blind_context (fun _ => rfl) fun x => .ite (.pure _)
    (((blind_respond hre h _).tryCatch fun stop => ?_).bind fun _ => .pure _)
  cases stop with
  | error e => exact hfailed e _
  | panic text => exact hfailed (.callback h.selector text) _
  | fault g => exact .throw _

lemma blind_sendAt (receiver sel : Address) : Blind k.likeness (sendAt re receiver sel) := by
  refine (blind_readAt sel _).bind fun s => (blind_lookupImplementation hre receiver s).bind fun code =>
    (hre.invoke code _).bind fun bytes => ?_
  split
  · exact .pure _
  · exact .pure _

/-- **A routine** ends alike. -/
lemma blind_runRoutine (routine : Routine) (r : MessageBridge.Registers) :
    Blind k.likeness (runRoutine re routine r) := by
  have hword (i : Nat) : Blind k.likeness (require .unwrittenWord (r.word? i)) := .require _ _
  refine (hword 0).bind fun receiver => ?_
  cases routine with
  | itself | hash | resolveNothing => exact .pure _
  | classOf => exact (blind_readAt receiver _).bind fun _ => .pure _
  | superclassOf | superclassOfClass =>
    exact (blind_readAt receiver _).bind fun c => Blind.bind (blind_fromSpace _) fun _ => .pure _
  | isIdentical => exact (hword 2).bind fun _ => .pure _
  | respondsTo | instancesRespondTo =>
    exact (blind_readAt receiver _).bind fun c => (hword 2).bind fun sel =>
      Blind.bind (blind_fromSpace _) fun _ => .pure _
  | isKindOf =>
    exact (blind_readSpace _).bind fun c => (blind_fromSpace _).bind fun _ =>
      (hword 2).bind fun _ => .pure _
  | isMemberOf => exact (blind_readAt receiver _).bind fun _ => (hword 2).bind fun _ => .pure _
  | perform => exact (hword 2).bind fun sel => blind_sendAt hre receiver sel
  | dispose =>
    exact .ite ((blind_changeSpace fun _ _ => ObjectSpace.changes_dispose?).bind fun _ => .pure _) (.pure _)
  | newInstance => exact (blind_instantiate receiver).bind fun _ => .pure _
  | newInitialized =>
    exact (blind_instantiate receiver).bind fun a => (blind_intern _).bind fun sel =>
      blind_sendAt hre a sel.address
  | version =>
    refine (blind_readAt receiver _).bind fun c => ?_
    split
    · exact (blind_fromSpace _).bind fun _ => .pure _
    · exact Blind.bind (.pure _) fun _ => .pure _
  | newException =>
    refine (hword 2).bind fun name => (hword 3).bind fun reason => (blind_readAt receiver _).bind fun c => ?_
    split
    · exact .pure _
    · exact (blind_textAt name).bind fun _ => (blind_textAt reason).bind fun _ =>
        (blind_tryOnSpace fun _ _ => ObjectSpace.changes_newException?).bind fun _ => .pure _
  | exceptionName | exceptionReason => exact (blind_readSpace _).bind fun _ => .pure _
  | raise =>
    refine Blind.bind (blind_changeSpace fun s s' h => ?_) fun _ => .pure _
    cases h
    exact s.changes_throw _
  | disposeException =>
    exact (blind_changeSpace fun _ _ => ObjectSpace.changes_disposeException?).bind fun _ => .pure _

omit hre in
lemma blind_raiseUnrecognized (receiver : Address) (sel : Option Selector) :
    Blind k.likeness (raiseUnrecognized receiver sel) :=
  blind_get (fun _ _ h => by rw [h.space]) fun _ => (blind_readSpace _).bind fun _ =>
    blind_get (fun _ _ h => by rw [h.space]) fun _ =>
      blind_changeSpace fun _ _ => ObjectSpace.changes_raise?

/-- **Any code** that is called ends alike. -/
theorem blind_invokeVia (code : Implementation) (c : Call) : Blind k.likeness (invokeVia re code c) := by
  cases code with
  | nilMethod | constant value => exact .pure _
  | forwarding =>
    exact (Blind.require _ _).bind fun receiver => (Blind.require _ _).bind fun sel =>
      (blind_readAt sel _).bind fun s => (blind_raiseUnrecognized receiver s).bind fun _ => .pure _
  | routine routine => exact (blind_runRoutine hre routine _).bind fun _ => .pure _
  | receiver | successor => exact (Blind.require _ _).bind fun _ => .pure _
  | hosted index =>
    refine blind_get (fun b c h => ?_) fun b => ?_
    · have hhosted : b.hosted = c.hosted := (congrArg Bridge.hosted h.unframed :)
      rw [hhosted]
    · split
      · exact blind_runHosted hre _ c
      · exact .fault _
  | library f =>
    exact blind_get (fun _ _ h => by rw [h.space]) fun _ => (Blind.require _ _).bind fun _ => .pure _
  | «variable» => exact .fault _

end Running

end Act

/-- **Any nesting**: calls from inside a call end alike, at every depth. -/
theorem Reentry.blind_within {k : KeptSignature} (depth : Nat) : (Reentry.within depth).Blind k := by
  induction depth with
  | zero => exact ⟨fun _ _ => .fault _, fun _ _ _ => .fault _⟩
  | succ depth ih =>
    exact ⟨Act.blind_invokeVia ih, fun ctx r name => Act.blind_dispatch ih ctx .direct r _⟩

end MessageBridge
