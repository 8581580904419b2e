import MessageBridge.Bridge.Dispatch
import MessageBridge.Proofs.Act.Basic

/-!
# Upkeep

Much of what the bridge does between two calls of native code only keeps its own records: names get
selectors, objects get references, texts get blocks, and what was looked up is remembered. This
module says once what such a step can be. That preparing a call, encoding its arguments and decoding
its result take no other steps is then all that is needed to know what they leave alone.

## Main definitions

* `Learning` — one step of reading types.
* `Upkeep` — one step of record keeping.
* `Bridge.frames?` — the signatures that a context keeps.
* `Bridge.Asks` — a step after which contexts remember no selectors that they were not asked for.
* `Recording` — a relation that has the steps of record keeping, apart from those that keep a
  signature.
* `Borrowing` — a relation in which, besides, buffers are lent and taken back at once.
* `Noting` — a relation that has the steps of writing values.
* `Preparing` — a relation that has the steps of preparing a call, apart from those of settling on a
  signature.
* `Referring` — a relation that has the steps of preparing a call and ending it, with references that
  say rightly what they refer to.

## Main results

* `Act.upkeep_selector`, `Act.upkeep_wrap` — handles.
* `Act.learning_withStructs`, `Act.learning_methodTypes` — types.
* `Act.upkeep_encode`, `Act.upkeep_decode` — values as bytes.
* `Act.upkeep_messageFrame`, `Act.upkeep_encodeArguments`, `Act.upkeep_decodeResult` — the parts of a
  call that run no other code.
-/

namespace MessageBridge

/-- A buffer is lent and taken back at once. -/
def Loans.borrow (l : Loans) : Loans := l.lend.2.takeBack l.lend.1

/-- So is the buffer of a copied list. An empty list has no buffer. -/
def Loans.borrowFor {α : Type} (l : Loans) (items : List α) : Loans :=
  if items.isEmpty then l else l.borrow

/-- **Learning**: one step of reading types. Nothing but the lent buffers and the layouts that a
context knows can change. -/
inductive Learning : Bridge → Bridge → Prop
  /-- A buffer is lent or given back. -/
  | lend {b : Bridge} (loans : Loans) : Learning b { b with loans }
  /-- A context learns a layout. -/
  | learn {b : Bridge} (ctx : ContextId) (layout : Layout) :
      Learning b { b with contexts := b.contexts.modify ctx fun c =>
        { c with translator := c.translator.insert layout } }

/-- **Upkeep**: one step of record keeping. -/
inductive Upkeep : Bridge → Bridge → Prop
  /-- A step of reading types. -/
  | learning {b b' : Bridge} (h : Learning b b') : Upkeep b b'
  /-- A name gets a selector. -/
  | intern {b : Bridge} (name : String) : Upkeep b { b with space := (b.space.intern name).2 }
  /-- A context remembers the selector of a name. -/
  | remember {b : Bridge} (ctx : ContextId) {name : String} {sel : Selector}
      (hname : b.space.selectors.name sel = name) (hsel : sel.index < b.space.selectors.names.size)
      (hroom : sel.index < Selector.maxCount) :
      Upkeep b { b with contexts := b.contexts.modify ctx fun c =>
        { c with selectors := (name, sel) :: c.selectors } }
  /-- A context gives out a reference for an object that it has no good one for. -/
  | refer {b : Bridge} (ctx : ContextId) (a : Address) (isClass : Bool)
      (hnone : EStateM.run (Act.cached? ctx a) b = .ok none b) :
      Upkeep b ((Act.newRef ctx a isClass).after b)
  /-- Bytes get a block of their own. -/
  | store {b : Bridge} {size : Nat} {bytes : List UInt8} {a : Address} {memory : Memory}
      (h : b.space.memory.allocate size bytes = some (a, memory)) :
      Upkeep b { b with space := { b.space with memory } }
  /-- A class remembers what was found for a selector. -/
  | cache {b : Bridge} (c : ClassId) (sel : Selector) :
      Upkeep b { b with space := b.space.withClasses (b.space.classes.lookup c sel).2 }
  /-- A context keeps a signature under a key. -/
  | keepFrame {b : Bridge} (ctx : ContextId) (key : String) (s : Signature) :
      Upkeep b { b with contexts := b.contexts.modify ctx fun c =>
        { c with frames := (key, s) :: c.frames } }
  /-- A context keeps blocks. -/
  | retain {b : Bridge} (ctx : ContextId) (blocks : List Address) :
      Upkeep b { b with contexts := b.contexts.modify ctx fun c =>
        { c with retained := c.retained ++ blocks } }

/-! ## Relations that have the steps of record keeping -/

namespace Bridge

/-- The signatures that a context keeps, if there is the context. -/
def frames? (b : Bridge) (ctx : ContextId) : Option (List (String × Signature)) :=
  b.contexts[ctx]?.map Context.frames

/-- What leaves the signatures of every context alone does so when it is done to one of them. -/
lemma frames?_modify {f : Context → Context} (hf : ∀ c, (f c).frames = c.frames) (b : Bridge)
    (i : ContextId) :
    ({ b with contexts := b.contexts.modify i f } : Bridge).frames? = b.frames? :=
  funext fun ctx => b.view?_modify Context.frames hf i ctx

end Bridge

lemma Learning.frames?_eq {b b' : Bridge} (h : Learning b b') : b'.frames? = b.frames? := by
  cases h with
  | lend => rfl
  | learn i layout => exact b.frames?_modify (by exact fun _ => rfl) i

/-- **Asks**: the contexts remember the selectors that they did, or what happened is what happens when
one of them is asked for a selector. -/
def Bridge.Asks (b b' : Bridge) : Prop :=
  (∀ ctx, (b'.contextAt ctx).selectors = (b.contextAt ctx).selectors) ∨
    ∃ ctx name sel, EStateM.run (Act.selector ctx name) b = .ok sel b'

namespace Bridge.Asks

variable {b b' : Bridge}

/-- What leaves the selectors of every context alone does so when it is done to one of them. -/
lemma of_modify {f : Context → Context} (hf : ∀ c, (f c).selectors = c.selectors) (b : Bridge)
    (i : ContextId) : b.Asks { b with contexts := b.contexts.modify i f } :=
  .inl fun ctx => b.view_contextAt_modify Context.selectors hf i ctx

lemma of_learning (h : Learning b b') : b.Asks b' := by
  cases h with
  | lend => exact .inl fun _ => rfl
  | learn i layout => exact of_modify (by exact fun _ => rfl) b i

end Bridge.Asks

/-- **Recording**: a relation that has every step of record keeping, unless the step keeps a
signature, remembers a selector that was not asked for, or lends a buffer or takes it back. -/
class Recording (R : Bridge → Bridge → Prop) : Prop where
  of_upkeep : ∀ {b b'}, Upkeep b b' → b'.frames? = b.frames? → b.Asks b' → b'.loans = b.loans →
    R b b'

instance : Recording Upkeep := ⟨fun h _ _ _ => h⟩

/-- **Borrowing**: a relation that has those steps of record keeping, and in which buffers are lent and
taken back at once. -/
class Borrowing (R : Bridge → Bridge → Prop) : Prop extends Recording R where
  borrow : ∀ b : Bridge, R b { b with loans := b.loans.borrow }

instance : Borrowing Upkeep where
  borrow _ := .learning (.lend _)

/-- **Noting**: a relation that has the steps of writing values, in which names get selectors and bytes
get blocks. -/
class Noting (R : Bridge → Bridge → Prop) : Prop where
  intern : ∀ {b : Bridge} (name : String), R b { b with space := (b.space.intern name).2 }
  /-- A context remembers the selector of a name that it is asked for. -/
  remember : ∀ {b b' : Bridge} (ctx : ContextId) {name : String} {sel : Selector},
    b.space.selectors.name sel = name → sel.index < b.space.selectors.names.size →
      sel.index < Selector.maxCount → EStateM.run (Act.selector ctx name) b = .ok sel b' →
      b' = { b with contexts := b.contexts.modify ctx fun c =>
        { c with selectors := (name, sel) :: c.selectors } } → R b b'
  store : ∀ {b : Bridge} {size : Nat} {bytes : List UInt8} {a : Address} {memory : Memory},
    b.space.memory.allocate size bytes = some (a, memory) →
      R b { b with space := { b.space with memory } }

/-- **Preparing**: a relation that has the steps of writing values, those of giving out references for
the classes of objects, and those of remembering what was looked up. -/
class Preparing (R : Bridge → Bridge → Prop) : Prop extends Noting R where
  referClass : ∀ {b : Bridge} (ctx : ContextId) {a : Address} {c : ClassId} (isClass : Bool),
    b.space.isa? a = some c → EStateM.run (Act.cached? ctx c.address) b = .ok none b →
      b.space.isClass? c.address = some isClass → R b ((Act.newRef ctx c.address isClass).after b)
  cache : ∀ {b : Bridge} (c : ClassId) (sel : Selector),
    R b { b with space := b.space.withClasses (b.space.classes.lookup c sel).2 }

/-- **Referring**: a relation that has the steps of writing values, those of giving out references for
what is there, as classes just if they are for classes, and those of remembering what was looked up and
of keeping blocks. -/
class Referring (R : Bridge → Bridge → Prop) : Prop extends Noting R where
  refer : ∀ {b : Bridge} (ctx : ContextId) (a : Address) (isClass : Bool),
    EStateM.run (Act.cached? ctx a) b = .ok none b → b.space.isClass? a = some isClass →
      R b ((Act.newRef ctx a isClass).after b)
  cache : ∀ {b : Bridge} (c : ClassId) (sel : Selector),
    R b { b with space := b.space.withClasses (b.space.classes.lookup c sel).2 }
  retain : ∀ {b : Bridge} (ctx : ContextId) (blocks : List Address),
    R b { b with contexts := b.contexts.modify ctx fun c =>
      { c with retained := c.retained ++ blocks } }

instance {R : Bridge → Bridge → Prop} [Referring R] : Preparing R where
  referClass ctx _ _ isClass _ := Referring.refer ctx _ isClass
  cache := Referring.cache

instance {R : Bridge → Bridge → Prop} [Recording R] : Referring R where
  intern name := Recording.of_upkeep (.intern name) rfl (.inl fun _ => rfl) rfl
  remember ctx _ _ hname hsel hroom hask h := by
    subst h
    exact Recording.of_upkeep (.remember ctx hname hsel hroom)
      (Bridge.frames?_modify (by exact fun _ => rfl) _ ctx) (.inr ⟨_, _, _, hask⟩) rfl
  store h := Recording.of_upkeep (.store h) rfl (.inl fun _ => rfl) rfl
  refer ctx a isClass h _ := Recording.of_upkeep (.refer ctx a isClass h)
    (Bridge.frames?_modify (by exact fun _ => rfl) _ ctx)
    (.inl (Bridge.view_contextAt_modify Context.selectors (by exact fun _ => rfl) _ ctx)) rfl
  cache c sel := Recording.of_upkeep (.cache c sel) rfl (.inl fun _ => rfl) rfl
  retain ctx blocks := Recording.of_upkeep (.retain ctx blocks)
    (Bridge.frames?_modify (by exact fun _ => rfl) _ ctx) (.of_modify (by exact fun _ => rfl) _ ctx)
    rfl

/-- A context learns a layout. -/
lemma Recording.learn {R : Bridge → Bridge → Prop} [Recording R] (b : Bridge) (ctx : ContextId)
    (layout : Layout) : R b { b with contexts := b.contexts.modify ctx fun c =>
      { c with translator := c.translator.insert layout } } :=
  Recording.of_upkeep (.learning (.learn ctx layout)) (Learning.learn ctx layout).frames?_eq
    (.of_learning (.learn ctx layout)) rfl

namespace Act

variable {α β : Type} {R : Bridge → Bridge → Prop} {b : Bridge}

/-! ## Handles -/

lemma moves_checkName (name : String) : Moves R (checkName name) b :=
  .ite (fun _ => moves_fail _) fun _ => moves_pure _

lemma run_checkName_eq_ok {name : String} {u : Unit} {b' : Bridge}
    (h : EStateM.run (checkName name) b = .ok u b') : Text.hasNul name = false ∧ b' = b := by
  unfold checkName at h
  split at h
  · cases h
  · next hnul =>
    cases h
    exact ⟨by simpa using hnul, rfl⟩

/-- The selector of a name, if there is room for it. -/
lemma run_intern_eq_ok {name : String} {sel : Selector} {b' : Bridge} :
    EStateM.run (intern name) b = .ok sel b' ↔
      sel = (b.space.intern name).1 ∧ b' = { b with space := (b.space.intern name).2 } ∧
        sel.index < Selector.maxCount := by
  unfold intern
  rw [run_bind_ok (run_onSpace _)]
  split
  · next hroom =>
    constructor
    · rintro ⟨⟩
      exact ⟨rfl, rfl, hroom⟩
    · rintro ⟨rfl, rfl, -⟩
      rfl
  · next hroom =>
    constructor
    · rintro ⟨⟩
    · rintro ⟨rfl, -, h⟩
      exact absurd h hroom

/-- **After a name was interned**, a context that is asked for it remembers its selector and does nothing
else. -/
lemma run_selector_interned {ctx : ContextId} {name : String}
    (hnone : (b.contextAt ctx).selectors.lookup name = none) (hnul : Text.hasNul name = false)
    (hroom : (b.space.intern name).1.index < Selector.maxCount) :
    EStateM.run (selector ctx name) { b with space := (b.space.intern name).2 } =
      .ok (b.space.intern name).1 { b with
        space := (b.space.intern name).2
        contexts := b.contexts.modify ctx fun c =>
          { c with selectors := (name, (b.space.intern name).1) :: c.selectors } } := by
  have hagain : (b.space.intern name).2.intern name = b.space.intern name := by
    have hselectors := b.space.selectors.intern_intern name
    unfold ObjectSpace.intern
    simp only [hselectors]
  have hcheck (b : Bridge) : EStateM.run (checkName name) b = .ok () b := by
    rw [checkName, hnul]
    rfl
  unfold selector
  rw [run_bind_ok (run_context ctx)]
  have hstill : (Bridge.contextAt { b with space := (b.space.intern name).2 } ctx).selectors.lookup name =
      none := hnone
  rw [hstill]
  simp only
  rw [run_bind_ok (hcheck _), run_bind_ok (run_intern_eq_ok.mpr ⟨rfl, rfl, ?_⟩)]
  · simp only [hagain]
    rfl
  · rw [hagain]
    exact hroom

/-- Whether a reference is still good is only read. -/
lemma run_cached? (ctx : ContextId) (a : Address) :
    EStateM.run (cached? ctx a) b =
      .ok (((b.contextAt ctx).tracked.lookup a).filter fun r =>
        b.space.associations.get? a (.context ctx) == some r.serial) b := rfl

section Handles

lemma upkeep_intern [Noting R] (name : String) : Moves R (intern name) b :=
  Moves.bind (.of_step (Noting.intern name)) fun _ _ _ =>
    .ite (fun _ => moves_pure _) fun _ => moves_fault _

lemma upkeep_selector [Noting R] (ctx : ContextId) (name : String) :
    Moves R (selector ctx name) b := by
  unfold selector
  refine (moves_context ctx).bind fun c b₁ hc => ?_
  cases hc
  split
  · exact moves_pure _
  · next hnone =>
    refine (moves_checkName name).bind fun _ b₂ hcheck => (upkeep_intern name).bind fun sel b₃ h => ?_
    obtain ⟨hnul, rfl⟩ := run_checkName_eq_ok hcheck
    obtain ⟨rfl, rfl, hroom⟩ := run_intern_eq_ok.mp h
    exact Moves.bind (.of_step (Noting.remember ctx (SelectorTable.name_intern _ name)
      (SelectorTable.index_intern_lt _ name) hroom (run_selector_interned hnone hnul hroom) rfl))
      fun _ b₄ _ => moves_pure _

/-- A new reference is given out only where there is no good one. -/
lemma moves_wrap {ctx : ContextId} {a : Address} (hrefer : ∀ isClass,
    EStateM.run (cached? ctx a) b = .ok none b → b.space.isClass? a = some isClass →
      R b ((newRef ctx a isClass).after b)) : Moves R (wrap ctx a) b := by
  unfold wrap
  refine .ite (fun _ => moves_pure _) fun _ => ?_
  refine Moves.bind (.of_after rfl) fun r b₁ h => ?_
  have hb : b₁ = b := by rw [run_cached?] at h; cases h; rfl
  subst hb
  cases r with
  | some r => exact moves_pure _
  | none =>
    refine (moves_readSpace _).bind fun isClass b₂ h₂ => ?_
    obtain ⟨hclass, rfl⟩ := run_readSpace_eq_ok.mp h₂
    exact Moves.bind (.of_step (hrefer isClass h hclass)) fun _ b₃ _ => moves_pure _

section Classes

variable [Preparing R]

lemma upkeep_classOf (ctx : ContextId) (r : ObjectRef) : Moves R (classOf ctx r) b := by
  refine (moves_readSpace _).bind fun c b₁ hrun => ?_
  obtain ⟨hisa, rfl⟩ := run_readSpace_eq_ok.mp hrun
  exact (moves_wrap fun isClass => Preparing.referClass ctx isClass hisa).bind fun _ _ _ => moves_pure _

lemma upkeep_lookupImp (c : ClassId) (sel : Selector) : Moves R (lookupImp c sel) b :=
  .of_step (Preparing.cache c sel)

end Classes

variable [Referring R]

lemma upkeep_wrap (ctx : ContextId) (a : Address) : Moves R (wrap ctx a) b :=
  moves_wrap fun isClass => Referring.refer ctx a isClass

lemma upkeep_wrapClass (ctx : ContextId) (a : Address) : Moves R (wrapClass ctx a) b :=
  (upkeep_wrap ctx a).bind fun _ _ _ => moves_pure _

lemma upkeep_classNamed? (ctx : ContextId) (name : String) :
    Moves R (classNamed? ctx name) b := by
  unfold classNamed?
  refine (moves_context ctx).bind fun c b₁ _ => ?_
  split
  · exact moves_pure _
  · refine (moves_checkName name).bind fun _ b₂ _ => (moves_fromSpace _).bind fun k b₃ _ => ?_
    split
    · exact upkeep_wrapClass ctx _
    · exact moves_pure _

lemma upkeep_respondsTo (ctx : ContextId) (r : ObjectRef) (name : String) :
    Moves R (respondsTo ctx r name) b :=
  (upkeep_selector ctx name).bind fun _ _ _ =>
    (moves_readSpace _).bind fun _ _ _ => moves_fromSpace _

end Handles

/-! ## Types -/

lemma run_borrowing_eq (use : Act α) :
    EStateM.run (borrowing use) b =
      EStateM.run (do
        let a ← use
        modify (fun c => { c with loans := c.loans.takeBack b.loans.lend.1 })
        return a) { b with loans := b.loans.lend.2 } := rfl

/-- A lent buffer is used and given back. -/
lemma run_borrowing_eq_ok {use : Act α} {a : α} {b' : Bridge} :
    EStateM.run (borrowing use) b = .ok a b' ↔
      ∃ c, EStateM.run use { b with loans := b.loans.lend.2 } = .ok a c ∧
        b' = { c with loans := c.loans.takeBack b.loans.lend.1 } := by
  rw [run_borrowing_eq, run_bind_eq_ok]
  constructor
  · rintro ⟨a, c, huse, ⟨⟩⟩
    exact ⟨c, huse, rfl⟩
  · rintro ⟨c, huse, rfl⟩
    exact ⟨a, c, huse, rfl⟩

lemma run_borrowing {use : Act α} {a : α} {c : Bridge}
    (h : EStateM.run use { b with loans := b.loans.lend.2 } = .ok a c) :
    EStateM.run (borrowing use) b =
      .ok a { c with loans := c.loans.takeBack b.loans.lend.1 } :=
  run_borrowing_eq_ok.mpr ⟨c, h, rfl⟩

/-- Using a lent buffer takes the steps of the use, and those of lending. -/
lemma moves_borrowing (hlend : ∀ b loans, R b { b with loans }) {use : Act α}
    (h : ∀ b, Moves R use b) : Moves R (borrowing use) b := by
  unfold borrowing
  refine moves_get.bind fun c b₁ _ => ?_
  refine Moves.bind (.of_step (hlend b₁ c.loans.lend.2)) fun _ b₂ _ => (h b₂).bind fun a b₃ _ => ?_
  exact Moves.bind (.of_step (hlend b₃ (b₃.loans.takeBack c.loans.lend.1))) fun _ _ _ =>
    moves_pure _

lemma moves_methodOf (m : MethodRef) : Moves R (methodOf m) b :=
  moves_fromSpace _

lemma moves_typeString (ctx : ContextId) (m : MethodRef) :
    Moves R (typeString ctx m) b :=
  (moves_context ctx).bind fun _ _ _ =>
    .ite (fun _ => (moves_methodOf m).bind fun _ _ _ => moves_pure _) fun _ => moves_pure _

lemma moves_typeTokens (m : MethodRef) : Moves R (typeTokens m) b := by
  unfold typeTokens
  refine (moves_methodOf m).bind fun method b₁ _ => ?_
  split
  · exact moves_pure _
  · exact moves_pure _
  · exact moves_fault _

/-- **A copied list**, with nothing done to its entries but to read them: one buffer is lent, unless the
list is empty. -/
lemma run_borrowList {γ : Type} {convert : β → Act (Option γ)} {g : β → Option γ}
    (h : ∀ x loans, EStateM.run (convert x) { b with loans } = .ok (g x) { b with loans })
    (items : List β) :
    EStateM.run (borrowList items convert) b =
      .ok (items.filterMap g) { b with loans := b.loans.borrowFor items } := by
  have hmapM (loans : Loans) :
      EStateM.run (items.mapM convert) { b with loans } = .ok (items.map g) { b with loans } := by
    induction items with
    | nil => rfl
    | cons x items ih =>
      rw [List.mapM_cons, run_bind_ok (h x loans), run_bind_ok ih]
      rfl
  have huse (loans : Loans) : EStateM.run (do return (← items.mapM convert).filterMap id)
      { b with loans } = .ok (items.filterMap g) { b with loans } := by
    rw [run_bind_ok (hmapM loans), List.filterMap_map, Function.id_comp]
    rfl
  unfold borrowList Loans.borrowFor
  split
  · next hempty =>
    rw [List.isEmpty_iff.mp hempty]
    rfl
  · exact run_borrowing (huse _)

section Lending

variable (hborrow : ∀ b : Bridge, R b { b with loans := b.loans.borrow })
include hborrow

/-- Where all that is done with a lent buffer is to read it, it is taken back at once. -/
lemma moves_borrowing_of_ok {use : Act α} {a : α}
    (h : EStateM.run use { b with loans := b.loans.lend.2 } =
      .ok a { b with loans := b.loans.lend.2 }) : Moves R (borrowing use) b := by
  have hrun : EStateM.run (borrowing use) b = .ok a { b with loans := b.loans.borrow } := run_borrowing h
  exact .of_step (after_of_ok hrun ▸ hborrow b)

lemma moves_borrowText (text : Option String) : Moves R (borrowText text) b := by
  unfold borrowText
  split
  · exact moves_borrowing_of_ok hborrow rfl
  · exact moves_pure _

lemma moves_returnType (m : MethodRef) : Moves R (returnType m) b :=
  (moves_typeTokens m).bind fun _ _ _ => moves_borrowText hborrow _

lemma moves_argumentType (m : MethodRef) (index : Nat) : Moves R (argumentType m index) b :=
  .ite (fun _ => (moves_typeTokens m).bind fun _ _ _ => moves_borrowText hborrow _) fun _ =>
    moves_pure _

lemma moves_argumentTypes (m : MethodRef) : Moves R (argumentTypes m) b :=
  ((moves_typeTokens m).bind fun _ _ _ => moves_pure _).bind fun n b₁ _ =>
    (Moves.mapM (fun index _ => moves_argumentType hborrow m index) (List.range n) b₁).bind
      fun _ _ _ => moves_pure _

/-- **A list of which the entries are only read** is taken back at once. -/
lemma moves_borrowList {γ : Type} {convert : β → Act (Option γ)} {g : β → Option γ}
    (h : ∀ x loans, EStateM.run (convert x) { b with loans } = .ok (g x) { b with loans })
    (items : List β) : Moves R (borrowList items convert) b := by
  have hrun := after_of_ok (run_borrowList h items)
  unfold Loans.borrowFor at hrun
  split at hrun
  · exact .of_after hrun
  · exact .of_step (hrun ▸ hborrow b)

end Lending

/-- Looking a layout up and registering it again and again takes only the steps of registering. -/
lemma moves_retrying {register : String → Act Layout}
    (hregister : ∀ encoding b, Moves R (register encoding) b) (ctx : ContextId)
    (f : Translator → Except Error α) (lookups : Nat) :
    Moves R (retrying register ctx f lookups) b := by
  induction lookups generalizing b with
  | zero => exact (moves_context ctx).bind fun _ _ _ => moves_ofExcept _
  | succ lookups ih =>
    unfold retrying
    refine (moves_context ctx).bind fun c b₁ _ => ?_
    split
    · refine Moves.bind ((moves_context ctx).bind fun _ _ _ => moves_pure _) fun found b₂ _ => ?_
      split
      · exact (hregister _ b₂).bind fun _ _ _ => ih
      · exact moves_fail _
    · exact moves_ofExcept _

section Layouts

variable (hlearn : ∀ b ctx layout, R b { b with contexts := b.contexts.modify ctx fun c =>
  { c with translator := c.translator.insert layout } })
include hlearn

lemma moves_registerWithin (ctx : ContextId) (depth : Nat) (encoding : String) :
    Moves R (registerWithin ctx depth encoding) b := by
  induction depth generalizing encoding b with
  | zero => exact moves_fault _
  | succ depth ih =>
    refine (moves_retrying (fun e _ => ih e) ctx _ _).bind fun layout b₁ _ => ?_
    exact Moves.bind (.of_step (hlearn b₁ ctx layout)) fun _ _ _ => moves_pure _

lemma moves_withStructs (ctx : ContextId) (f : Translator → Except Error α) :
    Moves R (withStructs ctx f) b :=
  ((moves_context ctx).bind fun _ _ _ => moves_pure _).bind fun depth _ _ =>
    moves_retrying (fun e _ => moves_registerWithin hlearn ctx depth e) ctx f _

end Layouts

lemma learning_withStructs (ctx : ContextId) (f : Translator → Except Error α) :
    Moves Learning (withStructs ctx f) b := moves_withStructs (fun _ => .learn) ctx f

lemma upkeep_withStructs [Recording R] (ctx : ContextId) (f : Translator → Except Error α) :
    Moves R (withStructs ctx f) b := moves_withStructs Recording.learn ctx f

/-- The signature of a method is read from borrowed texts, and then translated. -/
lemma moves_methodTypes (hborrow : ∀ b : Bridge, R b { b with loans := b.loans.borrow })
    (hlearn : ∀ b ctx layout, R b { b with contexts := b.contexts.modify ctx fun c =>
      { c with translator := c.translator.insert layout } }) (ctx : ContextId) (m : MethodRef) :
    Moves R (methodTypes ctx m) b := by
  unfold methodTypes
  refine (moves_returnType hborrow m).bind fun ret b₁ _ => ?_
  split
  · exact (moves_argumentTypes hborrow m).bind fun _ _ _ => moves_withStructs hlearn ctx _
  · exact (moves_typeString ctx m).bind fun _ _ _ => moves_fail _

lemma learning_methodTypes (ctx : ContextId) (m : MethodRef) :
    Moves Learning (methodTypes ctx m) b :=
  moves_methodTypes (fun _ => .lend _) (fun _ => .learn) ctx m

lemma upkeep_methodTypes [Borrowing R] (ctx : ContextId) (m : MethodRef) :
    Moves R (methodTypes ctx m) b := moves_methodTypes Borrowing.borrow Recording.learn ctx m

/-! ## Values as bytes -/

lemma upkeep_keepBlock [Noting R] (size : Nat) (bytes : List UInt8) :
    Moves R (keepBlock size bytes) b := by
  rw [Moves]
  cases h : b.space.memory.allocate size bytes with
  | none =>
    have hrun : EStateM.run (keepBlock size bytes) b = .error (.fault .badAccess) b := by
      simp only [keepBlock, tryOnSpace]
      rw [EStateM.run_bind, run_readSpace, h]
      rfl
    rw [after_of_error hrun]
  | some r =>
    have hrun : EStateM.run (keepBlock size bytes) b =
        .ok r.1 { b with space := { b.space with memory := r.2 } } := by
      simp only [keepBlock, tryOnSpace]
      rw [EStateM.run_bind, run_readSpace, h]
      rfl
    rw [after_of_ok hrun]
    exact .single (Noting.store h)

lemma upkeep_keepString [Noting R] (text : String) : Moves R (keepString text) b :=
  (moves_checkName text).bind fun _ _ _ => upkeep_keepBlock _ _

lemma upkeep_retain [Referring R] (ctx : ContextId) (blocks : List Address) :
    Moves R (retain ctx blocks) b := .of_step (Referring.retain ctx blocks)

mutual

theorem upkeep_encode [Noting R] (ctx : ContextId) (index : Nat) (d : Descriptor)
    (out : List UInt8) (v : Value) (b : Bridge) : Moves R (encode ctx index d out v) b := by
  unfold encode
  split
  · split
    · exact moves_pure _
    · exact moves_fail _
  · exact .ite (fun _ => upkeep_encodeFields ctx index _ out _ b) fun _ => moves_fail _
  · exact moves_fail _
  · exact moves_pure _
  · exact moves_pure _
  · exact moves_pure _
  · exact moves_pure _
  · exact moves_pure _
  · exact (upkeep_selector ctx _).bind fun _ _ _ => moves_pure _
  · exact (upkeep_selector ctx _).bind fun _ _ _ => moves_pure _
  · exact (upkeep_keepString _).bind fun _ _ _ => moves_pure _
  · exact (upkeep_keepString _).bind fun _ _ _ => moves_pure _
  · exact (upkeep_encodeFields ctx index _ _ _ b).bind fun _ _ _ =>
      (upkeep_keepBlock _ _).bind fun _ _ _ => moves_pure _
  · exact moves_fail _

theorem upkeep_encodeFields [Noting R] (ctx : ContextId) (index : Nat) (fields : List Field)
    (out : List UInt8) (vs : List Value) (b : Bridge) :
    Moves R (encodeFields ctx index fields out vs) b := by
  cases vs with
  | nil => unfold encodeFields; exact moves_pure _
  | cons v vs =>
    unfold encodeFields
    cases fields with
    | nil => exact moves_pure _
    | cons f fs =>
      refine .ite (fun _ => (moves_pure _).bind fun _ b₁ _ => ?_) fun _ =>
        (upkeep_encode ctx index f.descriptor _ v b).bind fun _ b₁ _ =>
          (moves_pure _).bind fun _ b₂ _ => ?_
      · exact (upkeep_encodeFields ctx index fs _ vs b₁).bind fun _ _ _ => moves_pure _
      · exact (upkeep_encodeFields ctx index fs _ vs b₂).bind fun _ _ _ => moves_pure _

end

mutual

theorem upkeep_decodeShape [Referring R] (ctx : ContextId) (bytes : List UInt8) (s : Shape)
    (b : Bridge) : Moves R (decodeShape ctx bytes s) b := by
  unfold decodeShape
  split
  · exact moves_pure _
  · exact upkeep_decodeLayout ctx bytes _ b
  · exact (upkeep_wrap ctx _).bind fun _ _ _ => moves_pure _
  · exact (upkeep_wrap ctx _).bind fun _ _ _ => moves_pure _
  · exact .ite (fun _ => moves_pure _) fun _ =>
      (moves_readSpace _).bind fun _ _ _ => (moves_fromSpace _).bind fun _ _ _ => moves_pure _
  · exact .ite (fun _ => moves_pure _) fun _ =>
      (moves_readSpace _).bind fun _ _ _ => moves_pure _
  · exact moves_pure _
  · exact .ite (fun _ => moves_pure _) fun _ =>
      (moves_readSpace _).bind fun _ b₁ _ => upkeep_decodeLayout ctx _ _ b₁

theorem upkeep_decodeLayout [Referring R] (ctx : ContextId) (bytes : List UInt8) (l : Layout)
    (b : Bridge) : Moves R (decodeLayout ctx bytes l) b := by
  cases l with
  | mk name fields size alignment =>
    unfold decodeLayout
    exact (upkeep_decodeFields ctx bytes fields b).bind fun _ _ _ => moves_pure _

theorem upkeep_decodeFields [Referring R] (ctx : ContextId) (bytes : List UInt8)
    (fields : List Field) (b : Bridge) : Moves R (decodeFields ctx bytes fields) b := by
  cases fields with
  | nil => unfold decodeFields; exact moves_pure _
  | cons f fields =>
    obtain ⟨name, offset, ⟨encoding, shape⟩⟩ := f
    unfold decodeFields
    exact (upkeep_decodeShape ctx _ shape b).bind fun _ b₁ _ =>
      (upkeep_decodeFields ctx bytes fields b₁).bind fun _ _ _ => moves_pure _

end

lemma upkeep_decode [Referring R] (ctx : ContextId) (d : Descriptor) (bytes : List UInt8) :
    Moves R (decode ctx d bytes) b := upkeep_decodeShape ctx bytes d.shape b

lemma upkeep_decodeResult [Referring R] (ctx : ContextId) (d : Descriptor) (bytes : List UInt8) :
    Moves R (decodeResult ctx d bytes) b := by
  unfold decodeResult
  split
  · exact moves_pure _
  · exact upkeep_decode ctx d bytes

/-! ## Parts of a call -/

/-- A signature that is built is kept. -/
lemma moves_frame_of {ctx : ContextId} {key : String} {build : Act Signature} (h : Moves R build b)
    (hkeep : ∀ s b', EStateM.run build b = .ok s b' → R b'
      { b' with contexts := b'.contexts.modify ctx fun c => { c with frames := (key, s) :: c.frames } }) :
    Moves R (frame ctx key build) b := by
  unfold frame
  refine Moves.bind (.of_after rfl) fun c b₁ hcontext => ?_
  rw [run_context] at hcontext
  cases hcontext
  split
  · exact moves_pure _
  · exact h.bind fun s b₂ hrun => Moves.bind (.of_step (hkeep s b₂ hrun)) fun _ _ _ => moves_pure _

section Frames

variable {ctx : ContextId} (hkeep : ∀ b key s, R b
  { b with contexts := b.contexts.modify ctx fun c => { c with frames := (key, s) :: c.frames } })
include hkeep

lemma moves_frame (key : String) {build : Act Signature} (h : ∀ b, Moves R build b) :
    Moves R (frame ctx key build) b := moves_frame_of (h b) fun s b' _ => hkeep b' key s

variable (htypes : ∀ m b, Moves R (methodTypes ctx m) b)
include htypes

lemma moves_methodFrame (m : MethodRef) : Moves R (methodFrame ctx m) b := by
  unfold methodFrame
  refine (moves_typeString ctx m).bind fun key b₁ _ => ?_
  split
  · exact moves_frame hkeep _ (htypes m)
  · exact (htypes m _).bind fun _ _ _ => moves_frame hkeep _ fun _ => moves_pure _

/-- Settling on the signature of a message reads types and keeps a signature, and nothing else. -/
lemma moves_messageFrame (method : Option MethodRef) (m : Message) :
    Moves R (messageFrame ctx method m) b := by
  cases method with
  | some method => exact moves_methodFrame hkeep htypes method
  | none =>
    exact (moves_context ctx).bind fun _ _ _ =>
      .ite (fun _ => moves_fail _) fun _ => moves_frame hkeep _ fun _ => moves_pure _

end Frames

lemma upkeep_frame (ctx : ContextId) (key : String) {build : Act Signature}
    (h : ∀ b, Moves Upkeep build b) : Moves Upkeep (frame ctx key build) b :=
  moves_frame (fun _ _ _ => .keepFrame _ _ _) key h

lemma upkeep_messageFrame (ctx : ContextId) (method : Option MethodRef) (m : Message) :
    Moves Upkeep (messageFrame ctx method m) b :=
  moves_messageFrame (fun _ _ _ => .keepFrame _ _ _)
    (fun m _ => (learning_methodTypes ctx m).mono fun _ _ => .learning) method m

lemma upkeep_encodeArguments [Noting R] (ctx : ContextId) (index : Nat)
    (args : List (Descriptor × Value)) : Moves R (encodeArguments ctx index args) b := by
  induction args generalizing index b with
  | nil => exact moves_pure _
  | cons arg args ih =>
    exact (upkeep_encode ctx index _ _ _ b).bind fun _ _ _ => (ih _).bind fun _ _ _ => moves_pure _

/-- To ask for a method that is missing takes a selector for the question. -/
lemma upkeep_resolverCall [Noting R] (c : ClassId) (receiver : Address) (sel : Selector) :
    Moves R (resolverCall c receiver sel) b :=
  (moves_fromSpace _).bind fun _ _ _ => (upkeep_intern _).bind fun _ _ _ =>
    .ite (fun _ => moves_pure _) fun _ => (moves_readSpace _).bind fun _ _ _ =>
      (moves_fromSpace _).bind fun _ _ _ => moves_pure _

lemma upkeep_lookupAbove [Preparing R] (receiver : Address) (start : Option ClassId)
    (sel : Option Selector) : Moves R (lookupAbove receiver start sel) b := by
  unfold lookupAbove
  split
  · exact .ite (fun _ => moves_pure _) fun _ =>
      (upkeep_lookupImp _ _).bind fun _ _ _ => moves_pure _
  · exact moves_pure _

/-! ## The target of a message -/

lemma moves_receiverClass (receiver : ObjectRef) : Moves R (receiverClass receiver) b :=
  .ite (fun _ => (moves_readSpace _).bind fun _ _ _ => moves_fromSpace _) fun _ =>
    moves_readSpace _

section Targets

variable [Preparing R]

lemma upkeep_superOrigin (ctx : ContextId) (receiver c : ObjectRef) :
    Moves R (superOrigin ctx receiver c) b := by
  refine .ite (fun _ => (upkeep_classOf ctx c).bind fun k b₁ _ => ?_) fun _ =>
    (moves_readSpace _).bind fun _ _ _ => moves_pure _
  split
  · exact (moves_readSpace _).bind fun _ _ _ => moves_pure _
  · exact moves_pure _

lemma upkeep_targetAbove (ctx : ContextId) (receiver : ObjectRef) (origin : Option ClassId)
    (name : String) : Moves R (targetAbove ctx receiver origin name) b := by
  refine (upkeep_selector ctx name).bind fun sel b₁ _ => (moves_fromSpace _).bind fun c b₂ _ => ?_
  split
  · exact moves_fail _
  · exact moves_pure _

lemma upkeep_target (ctx : ContextId) (receiver : ObjectRef) (route : Route) (name : String) :
    Moves R (target ctx receiver route name) b := by
  cases route with
  | direct =>
    exact (upkeep_selector ctx name).bind fun _ _ _ =>
      (moves_receiverClass receiver).bind fun _ _ _ => moves_pure _
  | super => exact (moves_readSpace _).bind fun _ _ _ => upkeep_targetAbove ctx receiver _ name
  | superOf c =>
    exact (upkeep_superOrigin ctx receiver c).bind fun _ _ _ =>
      upkeep_targetAbove ctx receiver _ name

end Targets

end Act

end MessageBridge
