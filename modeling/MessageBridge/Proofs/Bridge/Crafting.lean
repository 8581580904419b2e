import MessageBridge.Proofs.Bridge.Construction
import MessageBridge.Proofs.Bridge.Identity
import MessageBridge.Proofs.Space.Standing

/-!
# Working on pending classes

What contexts find by a name and list is decided in three places: the class table, the classes that
were registered through the context, and the references that it gave out. Filling a pending class
leaves the names of all classes alone, and the forms of the registered ones, and gives out
references for classes at most. That keeps the three in line, and contexts show what they should.

## Main definitions

* `Bridge.Aside` — a step that does not touch the names of classes, nor the forms of registered
  ones.
* `Crafting` — such a step, or a reference for a class.
* `Bridge.InLine` — the tables of the bridge agree on the classes.
* `Bridge.Shows` — a context shows the registered classes, and no others.

## Main results

* `Act.crafting_addMethodTo`, `Act.crafting_addIvar`, `Act.crafting_setLayout` — filling a class
  takes only such steps.
* `Crafting.inLine_of_run` — such steps keep the tables in line.
* `Bridge.InLine.shows` — where the tables are in line, every context shows the registered classes.
-/

namespace MessageBridge

/-- Where the first block of a memory lies. -/
def Memory.start : Nat := ({} : Memory).next

lemma Memory.start_le : Memory.start ≤ Memory.addressLimit := by decide

/-- **For a class**: the reference refers to the class, as a class. -/
def ObjectRef.IsFor (r : ObjectRef) (c : ClassId) : Prop := r.address = c.address ∧ r.isClass = true

lemma ObjectRef.map_address_of_isFor {rs : List ObjectRef} {cs : List ClassId}
    (h : List.Forall₂ ObjectRef.IsFor rs cs) :
    rs.map ObjectRef.address = cs.map ClassId.address := by
  induction h with
  | nil => rfl
  | cons hfor _ ih => rw [List.map_cons, List.map_cons, hfor.1, ih]

/-! ## Steps that leave classes alone -/

/-- **Aside**: a step that works on pending classes at most, publishes nothing, and leaves the
references for classes as they are. Instances may come and go, and what contexts keep apart from
that. -/
structure Bridge.Aside (b b' : Bridge) : Prop where
  classes : b.space.classes.Worked b'.space.classes
  published : ∀ ctx, (b'.contextAt ctx).published = (b.contextAt ctx).published
  current : ∀ ctx a, a.toNat < Memory.start → b'.current? ctx a = b.current? ctx a

namespace Bridge.Aside

variable {b b' : Bridge}

/-- A step that changes other parts of the contexts. -/
lemma of_contexts {space : ObjectSpace} {contexts : Array Context}
    (hclasses : b.space.classes.Worked space.classes)
    (hassociations : space.associations = b.space.associations)
    (hcontexts : ∀ ctx, (contexts[ctx]?.getD default).published = (b.contextAt ctx).published ∧
      (contexts[ctx]?.getD default).tracked = (b.contextAt ctx).tracked) :
    b.Aside { b with space, contexts } where
  classes := hclasses
  published ctx := (hcontexts ctx).1
  current ctx a _ := by
    rw [current?, current?, ← (hcontexts ctx).2, hassociations]
    rfl

lemma of_space {space : ObjectSpace} (hclasses : b.space.classes.Worked space.classes)
    (hassociations : space.associations = b.space.associations) : b.Aside { b with space } :=
  of_contexts hclasses hassociations fun _ => ⟨rfl, rfl⟩

lemma of_modify {f : Context → Context} (hpublished : ∀ c, (f c).published = c.published)
    (htracked : ∀ c, (f c).tracked = c.tracked) (ctx : ContextId) :
    b.Aside { b with contexts := b.contexts.modify ctx f } :=
  of_contexts (.refl _) rfl fun i =>
    ⟨b.view_contextAt_modify Context.published hpublished ctx i,
      b.view_contextAt_modify Context.tracked htracked ctx i⟩

/-- Opening a context. -/
lemma openContext (b : Bridge) (config : Config) (capabilities : Capabilities) :
    b.Aside (b.openContext config capabilities).2 := by
  have hcontext (ctx : ContextId) :
      ((b.openContext config capabilities).2.contextAt ctx).published =
        (b.contextAt ctx).published := by
    simp only [Bridge.openContext, contextAt, Array.getElem?_push]
    split
    · next h =>
      rw [h, Array.getElem?_eq_none (Nat.le_refl _)]
      rfl
    · rfl
  refine ⟨.refl _, hcontext, fun ctx a _ => ?_⟩
  rw [current?, current?, tracked_openContext]
  rfl

end Bridge.Aside

lemma Learning.aside {b b' : Bridge} (h : Learning b b') : b.Aside b' := by
  cases h with
  | lend => exact ⟨.refl _, fun _ => rfl, fun _ _ _ => rfl⟩
  | learn ctx layout => exact .of_modify (fun _ => by rfl) (fun _ => by rfl) ctx

/-- **Crafting**: a step aside, or a reference for a class. -/
inductive Crafting : Bridge → Bridge → Prop
  | aside {b b' : Bridge} (h : b.Aside b') : Crafting b b'
  | refer {b : Bridge} (ctx : ContextId) {c : ClassId} (hc : b.space.classes.Has c) :
      Crafting b ((Act.wrapClassId ctx c).after b)

instance : Noting Crafting where
  intern _ := .aside (.of_space (.refl _) rfl)
  remember ctx _ _ _ _ _ _ h := h ▸ .aside (.of_modify (fun _ => by rfl) (fun _ => by rfl) ctx)
  store _ := .aside (.of_space (.refl _) rfl)

/-! ## Filling a class -/

namespace Act

variable {α : Type} {b b' : Bridge} {x : Act α}

lemma Moves.toCrafting (h : Moves Learning x b) : Moves Crafting x b :=
  h.mono fun _ _ hstep => .aside hstep.aside

lemma crafting_changeClasses {classes : ClassTable} (h : b.space.classes.Worked classes) :
    Moves Crafting (changeSpace fun s => some (s.withClasses classes)) b :=
  .of_step (.aside (.of_space h rfl))

lemma crafting_wrapClassId (ctx : ContextId) {c : ClassId} (hc : b.space.classes.Has c) :
    Moves Crafting (wrapClassId ctx c) b := .of_step (.refer ctx hc)

lemma crafting_classOf (ctx : ContextId) (r : ObjectRef) : Moves Crafting (classOf ctx r) b := by
  refine (moves_readSpace _).bind fun c b₁ hrun => ?_
  obtain ⟨hisa, rfl⟩ := run_readSpace_eq_ok.mp hrun
  obtain ⟨word, -, hc⟩ := Option.bind_eq_some_iff.mp hisa
  exact crafting_wrapClassId ctx (ClassTable.has_of_ofAddress? hc)

lemma crafting_makeImplementation (ctx : ContextId) (name : String) (signature : Signature)
    (body : Body) : Moves Crafting (makeImplementation ctx name signature body) b := by
  refine .ite (fun _ => moves_get.bind fun _ b₁ _ => ?_) fun _ => moves_fail _
  exact Moves.bind (.of_step (.aside ⟨.refl _, fun _ => rfl, fun _ _ _ => rfl⟩)) fun _ _ _ =>
    moves_pure _

lemma crafting_addMethodTo (ctx : ContextId) (target : ObjectRef) (className name types : String)
    (body : Body) : Moves Crafting (addMethodTo ctx target className name types body) b := by
  refine (learning_withStructs ctx _).toCrafting.bind fun signature b₁ _ =>
    (upkeep_selector ctx name).bind fun sel b₂ _ => (moves_checkName _).bind fun _ b₃ _ =>
      (crafting_makeImplementation ctx name signature body).bind fun imp b₄ _ =>
        (moves_readSpace _).bind fun c b₅ _ => (moves_fromSpace _).bind fun classes b₆ hclasses => ?_
  rw [run_fromSpace] at hclasses
  obtain ⟨hadd, rfl⟩ := EStateM.Result.ok.inj hclasses
  split
  · exact crafting_changeClasses (.addMethod? hadd)
  · exact moves_fail _

lemma crafting_setLayout (r : ObjectRef) (weak : Bool) (layout : List UInt8) :
    Moves Crafting (setLayout r weak layout) b := by
  have hrest (b : Bridge) : Moves Crafting (do
      let c ← classOfRef r
      changeClasses (·.setLayout c weak (some layout))) b :=
    (moves_readSpace _).bind fun _ _ _ => .of_step (.aside (.of_space (.setLayout ..) rfl))
  exact .ite (fun _ => (moves_fail _).bind fun _ b₁ _ => hrest b₁) fun _ => hrest b

/-- The part of adding a variable that comes after its size is known. -/
lemma crafting_ivarAdded (p : PendingClass) (name : String) (d : Descriptor) (size : UInt64)
    (exponent : UInt8) (b : Bridge) :
    Moves Crafting (do
      checkName name
      checkName d.encoding
      let c ← classOfRef p.classRef
      match ← fromSpace (·.classes.addIvar? c name size exponent d.encoding) with
      | some classes => changeSpace (fun s => some (s.withClasses classes))
      | none => fail (.ivarRegistration p.name name)) b := by
  refine (moves_checkName name).bind fun _ b₁ _ => (moves_checkName _).bind fun _ b₂ _ =>
    (moves_readSpace _).bind fun c b₃ _ => (moves_fromSpace _).bind fun classes b₄ hclasses => ?_
  rw [run_fromSpace] at hclasses
  obtain ⟨hadd, rfl⟩ := EStateM.Result.ok.inj hclasses
  split
  · exact crafting_changeClasses (.addIvar? hadd)
  · exact moves_fail _

lemma crafting_addIvar (p : PendingClass) (name encoding : String) (size : Option UInt64)
    (exponent : Option UInt8) : Moves Crafting (p.addIvar name encoding size exponent) b := by
  refine (moves_ensurePending p _).bind fun _ b₁ _ =>
    (learning_withStructs p.context _).toCrafting.bind fun d b₂ _ => ?_
  exact .ite (fun _ => (moves_fail _).bind fun _ b₃ _ => crafting_ivarAdded p name d _ _ b₃)
    fun _ => crafting_ivarAdded p name d _ _ b₂

lemma crafting_addClassMethod (p : PendingClass) (selector types : String) (body : Body) :
    Moves Crafting (p.addClassMethod selector types body) b := by
  refine (moves_ensurePending p _).bind fun _ b₁ _ =>
    (crafting_classOf p.context p.classRef).bind fun k b₂ _ => ?_
  split
  · exact crafting_addMethodTo _ _ _ _ _ _
  · exact moves_fail _

lemma crafting_addProtocol (p : PendingClass) (protocol : String) :
    Moves Crafting (p.addProtocol protocol) b := by
  refine (moves_ensurePending p _).bind fun _ b₁ _ =>
    (moves_protocolNamed? protocol).bind fun q b₂ _ => ?_
  split
  · refine (moves_readSpace _).bind fun c b₃ _ => .of_step (.aside (.of_space ?_ rfl))
    change b₃.space.classes.Worked ((b₃.space.classes.adopt? c _).getD b₃.space.classes)
    cases h : b₃.space.classes.adopt? c _ with
    | none => exact .refl _
    | some classes => exact .adopt? h
  · exact moves_fail _

end Act

/-! ## Tables in line -/

/-- Publishes a class under a name, in place of what had it. -/
def Context.publish (c : Context) (name : String) (r : ObjectRef) : Context :=
  { c with published := (name, r) :: c.published.filter (fun e => e.1 != name) }

namespace Bridge

variable {b b' : Bridge} {ctx i : ContextId} {c : ClassId}

/-- References do not depend on what else contexts keep. -/
lemma current?_modify {f : Context → Context} (hf : ∀ c, (f c).tracked = c.tracked) {a : Address} :
    ({ b with contexts := b.contexts.modify ctx f } : Bridge).current? i a = b.current? i a := by
  rw [current?, current?, b.view_contextAt_modify Context.tracked hf]

/-- **In line**: names are distinct, and can be passed as C strings; what a context published are
registered classes under their names; and references that were given out for addresses of classes
are for classes that are there. -/
structure InLine (b : Bridge) : Prop where
  distinct : b.space.classes.Distinct
  plain : ∀ c, b.space.classes.HasClass c → Text.hasNul (b.space.classes.get c).name = false
  published : ∀ ctx, ∀ e ∈ (b.contextAt ctx).published,
    ∃ c, b.space.classes.Registered c ∧ (b.space.classes.get c).name = e.1 ∧ e.2.IsFor c
  refs : ∀ ctx a r, a.toNat < Memory.start → b.current? ctx a = some r →
    ∃ c, b.space.classes.Has c ∧ a = c.address ∧ r.IsFor c

/-- The addresses of the classes end before the first block. -/
def HasRoom (b : Bridge) : Prop := b.space.classes.stop ≤ Memory.start

lemma HasRoom.limit (h : b.HasRoom) : b.space.classes.stop ≤ Memory.addressLimit :=
  Nat.le_trans h Memory.start_le

lemma HasRoom.of_size (h : b'.HasRoom)
    (hsize : b.space.classes.records.size ≤ b'.space.classes.records.size) : b.HasRoom :=
  Nat.le_trans (Nat.add_le_add_left (Nat.mul_le_mul_left _ hsize) _) h

lemma HasRoom.address_lt_start (h : b.HasRoom) (hc : b.space.classes.Has c) :
    c.address.toNat < Memory.start :=
  Nat.lt_of_lt_of_le (ClassTable.address_lt_stop h.limit hc) h

lemma HasRoom.address_ne_zero (h : b.HasRoom) (hc : b.space.classes.Has c) : c.address ≠ 0 := by
  intro hzero
  have haddress := ClassTable.toNat_address h.limit hc
  have hpos : 0 < ClassId.base := by decide
  rw [hzero] at haddress
  change 0 = _ at haddress
  omega

/-- **A class gets a reference** if its class is a metaclass and the good references for it are for a
class: the one that is good, or a new one. -/
lemma HasRoom.run_wrapClassId (h : b.HasRoom) (ctx : ContextId) (hc : b.space.classes.Has c)
    (hisa : b.space.classes.Has (b.space.classes.get c).isa)
    (hmeta : (b.space.classes.get (b.space.classes.get c).isa).isMeta = true)
    (hrefs : ∀ r, b.current? ctx c.address = some r → r.IsFor c) :
    ∃ r b', EStateM.run (Act.wrapClassId ctx c) b = .ok (some r) b' ∧ r.IsFor c ∧
      (b' = b ∨ b' = (Act.newRef ctx c.address true).after b) := by
  have hclass : b.space.isClass? c.address = some true := by
    rw [ObjectSpace.isClass?, ObjectSpace.isa?_address h.limit hc hisa, Option.map_some, hmeta]
  have hcached : EStateM.run (Act.cached? ctx c.address) b = .ok (b.current? ctx c.address) b :=
    Act.run_cached? ctx c.address
  have hwrap : ∃ r b', EStateM.run (Act.wrap ctx c.address) b = .ok (some r) b' ∧ r.IsFor c ∧
      (b' = b ∨ b' = (Act.newRef ctx c.address true).after b) := by
    unfold Act.wrap
    rw [if_neg (h.address_ne_zero hc), Act.run_bind_ok hcached]
    cases hcurrent : b.current? ctx c.address with
    | some r => exact ⟨r, b, rfl, hrefs r hcurrent, .inl rfl⟩
    | none =>
      refine ⟨⟨b.nextSerial, c.address, true⟩, _, ?_, ⟨rfl, rfl⟩, .inr rfl⟩
      rw [Act.run_bind_ok (Act.run_readSpace_eq_ok.mpr ⟨hclass, rfl⟩)]
      rfl
  obtain ⟨r, b', hrun, hfor, hb'⟩ := hwrap
  refine ⟨r, b', ?_, hfor, hb'⟩
  unfold Act.wrapClassId Act.wrapClass
  rw [Act.run_bind_ok hrun]
  change EStateM.Result.ok _ _ = _
  rw [Option.filter_some, if_pos hfor.2]

namespace InLine

lemma start : (default : Bridge).InLine where
  distinct := distinct_initial
  plain c hc := by
    have hplain : ∀ i < ObjectSpace.initial.classes.records.size,
        Text.hasNul (ObjectSpace.initial.classes.get ⟨i⟩).name = false := by
      decide +kernel
    exact hplain c.index hc.1
  published ctx e he := by cases he
  refs ctx a r _ hr := by cases hr

/-- Later tables and the same books. -/
lemma mono (h : b.InLine) (hdistinct : b'.space.classes.Distinct)
    (hlater : b.space.classes.Later b'.space.classes)
    (hplain : ∀ c, b'.space.classes.HasClass c → b.space.classes.HasClass c ∨
      Text.hasNul (b'.space.classes.get c).name = false)
    (hpublished : ∀ ctx, (b'.contextAt ctx).published = (b.contextAt ctx).published)
    (hrefs : ∀ ctx a, a.toNat < Memory.start → b'.current? ctx a = b.current? ctx a) :
    b'.InLine where
  distinct := hdistinct
  plain c hc := (hplain c hc).elim (fun hold => by rw [hlater.name c hold.1, h.plain c hold]) id
  published i e he := by
    rw [hpublished] at he
    obtain ⟨c, hc, hname, hfor⟩ := h.published i e he
    exact ⟨c, hlater.registered' hc, (hlater.name c hc.1.1).trans hname, hfor⟩
  refs i a r ha hr := by
    rw [hrefs i a ha] at hr
    obtain ⟨c, hc, heq, hfor⟩ := h.refs i a r ha hr
    exact ⟨c, hlater.has c hc, heq, hfor⟩

lemma aside (h : b.InLine) (ha : b.Aside b') : b'.InLine :=
  h.mono (h.distinct.worked ha.classes) ha.classes.later
    (fun _ hc => .inl (ha.classes.hasClass_iff.mp hc)) ha.published ha.current

/-- A new reference for a class. -/
lemma newRef (h : b.InLine) (hc : b.space.classes.Has c) :
    ((Act.newRef ctx c.address true).after b).InLine where
  distinct := h.distinct
  plain := h.plain
  published i e he := by
    have hsame : (((Act.newRef ctx c.address true).after b).contextAt i).published =
        (b.contextAt i).published :=
      b.view_contextAt_modify Context.published (fun _ => by rfl) ctx i
    rw [hsame] at he
    exact h.published i e he
  refs i a r ha hr := by
    rcases Act.current?_after_newRef hr with hold | ⟨rfl, hfor⟩
    · exact h.refs i a r ha hold
    · exact ⟨c, hc, rfl, hfor⟩

/-- A registered class is published. -/
lemma publish (h : b.InLine) (hc : b.space.classes.Registered c) {r : ObjectRef} (hr : r.IsFor c)
    (ctx : ContextId) :
    ({ b with contexts := b.contexts.modify ctx fun x =>
      x.publish (b.space.classes.get c).name r } : Bridge).InLine where
  distinct := h.distinct
  plain := h.plain
  published i e he := by
    rcases eq_or_ne ctx i with rfl | hi
    · rcases Nat.lt_or_ge ctx b.contexts.size with hsize | hsize
      · rw [contextAt_modify_self hsize] at he
        rcases List.mem_cons.mp he with rfl | he
        · exact ⟨c, hc, rfl, hr⟩
        · exact h.published ctx e (List.mem_filter.mp he).1
      · -- a context that was never opened publishes nothing
        rw [contextAt, Array.getElem?_eq_none
          (Nat.le_trans (Nat.le_of_eq Array.size_modify) hsize)] at he
        cases he
    · rw [contextAt_modify_of_ne hi] at he
      exact h.published i e he
  refs i a r ha hr := by
    rw [current?_modify (by exact fun _ => rfl)] at hr
    exact h.refs i a r ha hr

/-- **A class gets a reference**, the one that is good or a new one. -/
lemma run_wrapClassId (h : b.InLine) (hroom : b.HasRoom) (ctx : ContextId)
    (hc : b.space.classes.Has c) :
    ∃ r b', EStateM.run (Act.wrapClassId ctx c) b = .ok (some r) b' ∧ r.IsFor c ∧ b'.InLine ∧
      b'.space.classes = b.space.classes := by
  obtain ⟨hisa, hmeta⟩ := h.distinct.isa c hc
  obtain ⟨r, b', hrun, hfor, hb'⟩ := hroom.run_wrapClassId ctx hc hisa hmeta fun r hr => by
    obtain ⟨d, hd, heq, hfor⟩ := h.refs ctx c.address r (hroom.address_lt_start hc) hr
    rwa [ClassTable.address_inj hroom.limit hc hd heq]
  rcases hb' with rfl | rfl
  · exact ⟨r, _, hrun, hfor, h, rfl⟩
  · exact ⟨r, _, hrun, hfor, h.newRef hc, rfl⟩

end InLine

end Bridge

namespace Act

variable {b : Bridge}

/-- Giving out a reference leaves the classes as they are. -/
lemma moves_wrapClassId (ctx : ContextId) (c : ClassId) :
    Moves (fun b b' => b'.space.classes = b.space.classes) (wrapClassId ctx c) b := by
  refine Moves.bind ?_ fun _ _ _ => moves_pure _
  unfold wrap
  refine .ite (fun _ => moves_pure _) fun _ => Moves.bind (.of_after rfl) fun r b₁ _ => ?_
  cases r with
  | some r => exact moves_pure _
  | none =>
    exact (moves_readSpace _).bind fun isClass b₂ _ =>
      Moves.bind (.of_step rfl) fun _ _ _ => moves_pure _

end Act

namespace Crafting

variable {b b' : Bridge}

lemma worked (h : Crafting b b') : b.space.classes.Worked b'.space.classes := by
  cases h with
  | aside h => exact h.classes
  | refer ctx hc =>
    rw [(Act.moves_wrapClassId ctx _).keeps (·.space.classes) fun _ _ => id]
    exact .refl _

lemma worked_of_run (h : Relation.ReflTransGen Crafting b b') :
    b.space.classes.Worked b'.space.classes := by
  induction h with
  | refl => exact .refl _
  | tail _ hstep ih => exact ih.trans hstep.worked

/-- **A step keeps the tables in line.** -/
lemma inLine (h : Crafting b b') (hroom : b.HasRoom) (hb : b.InLine) : b'.InLine := by
  cases h with
  | aside h => exact hb.aside h
  | refer ctx hc =>
    obtain ⟨r, b', hrun, -, hline, -⟩ := hb.run_wrapClassId hroom ctx hc
    rwa [Act.after_of_ok hrun]

/-- **So does a run.** -/
lemma inLine_of_run (h : Relation.ReflTransGen Crafting b b') (hroom : b.HasRoom) (hb : b.InLine) :
    b'.InLine := by
  induction h with
  | refl => exact hb
  | tail hrun hstep ih =>
    exact hstep.inLine (hroom.of_size (Nat.le_of_eq (worked_of_run hrun).size)) ih

end Crafting

/-! ## What contexts show -/

/-- **Finds**: the answer is the registered class of the name, or there is none. -/
def ClassTable.Finds (t : ClassTable) (name : String) : Option ObjectRef → Prop
  | some r => ∃ c, t.Registered c ∧ (t.get c).name = name ∧ r.IsFor c
  | none => ∀ c, t.Registered c → (t.get c).name ≠ name

/-- **Lists**: the references are for the registered classes, for each of them once. -/
def ClassTable.Lists (t : ClassTable) (rs : List ObjectRef) : Prop :=
  ∃ cs : List ClassId, cs.Nodup ∧ (∀ c, c ∈ cs ↔ t.Registered c) ∧
    List.Forall₂ ObjectRef.IsFor rs cs ∧ (rs.map ObjectRef.address).Nodup

/-- **Shows**: the context finds by name and lists the registered classes, and no others. A text
that is no name is refused. -/
structure Bridge.Shows (b : Bridge) (ctx : ContextId) : Prop where
  named : ∀ name, (∃ r b', EStateM.run (Act.classNamed? ctx name) b = .ok r b' ∧
      b.space.classes.Finds name r) ∨
    Text.hasNul name = true ∧
      EStateM.run (Act.classNamed? ctx name) b = .error (.error (.invalidName name)) b
  classes : ∃ rs b', EStateM.run (Act.classes ctx) b = .ok rs b' ∧ b.space.classes.Lists rs
  classList : ∃ rs b', EStateM.run (Act.classList ctx) b = .ok rs b' ∧ b.space.classes.Lists rs

namespace Bridge.InLine

variable {b : Bridge} {ctx : ContextId}

/-- **The class of a name**: published or in the table, it is registered. -/
lemma named (h : b.InLine) (hroom : b.HasRoom) (ctx : ContextId) (name : String) :
    (∃ r b', EStateM.run (Act.classNamed? ctx name) b = .ok r b' ∧
      b.space.classes.Finds name r) ∨
    Text.hasNul name = true ∧
      EStateM.run (Act.classNamed? ctx name) b = .error (.error (.invalidName name)) b := by
  unfold Act.classNamed?
  rw [Act.run_bind_ok (Act.run_context ctx)]
  cases hpublished : (b.contextAt ctx).published.lookup name with
  | some r =>
    obtain ⟨before, after, hmem, -⟩ := List.lookup_eq_some_iff.mp hpublished
    obtain ⟨c, hc, hname, hfor⟩ := h.published ctx (name, r) (by simp [hmem])
    exact .inl ⟨some r, b, rfl, c, hc, hname, hfor⟩
  | none =>
    by_cases hnul : Text.hasNul name = true
    · have hcheck : EStateM.run (Act.checkName name) b = .error (.error (.invalidName name)) b := by
        rw [Act.checkName, if_pos hnul, Act.run_fail]
      exact .inr ⟨hnul, Act.run_bind_error hcheck⟩
    · have hcheck : EStateM.run (Act.checkName name) b = .ok () b := by
        rw [Act.checkName, if_neg hnul]
        rfl
      left
      rw [Act.run_bind_ok hcheck, Act.run_bind_ok (Act.run_fromSpace _)]
      cases hlookup : b.space.classes.lookupClass? name with
      | some c =>
        obtain ⟨hc, hname⟩ := h.distinct.lookupClass?_eq_some_iff.mp hlookup
        obtain ⟨r, b', hrun, hfor, -⟩ := h.run_wrapClassId hroom ctx hc.1.1
        exact ⟨some r, b', hrun, c, hc, hname, hfor⟩
      | none =>
        refine ⟨none, b, rfl, fun c hc hname => ?_⟩
        have hsome := h.distinct.lookupClass?_eq_some_iff.mpr ⟨hc, hname⟩
        cases hlookup.symm.trans hsome

/-- References for classes, one after another. -/
lemma run_mapM_wrapClassId (h : b.InLine) (hroom : b.HasRoom) (ctx : ContextId) (cs : List ClassId)
    (hcs : ∀ c ∈ cs, b.space.classes.Has c) :
    ∃ rs b', EStateM.run (cs.mapM (Act.wrapClassId ctx)) b = .ok (rs.map some) b' ∧
      List.Forall₂ ObjectRef.IsFor rs cs := by
  induction cs generalizing b with
  | nil => exact ⟨[], b, rfl, .nil⟩
  | cons c cs ih =>
    obtain ⟨hc, hcs⟩ := List.forall_mem_cons.mp hcs
    obtain ⟨r, b₁, hrun, hfor, hline, hclasses⟩ := h.run_wrapClassId hroom ctx hc
    obtain ⟨rs, b₂, hrest, hall⟩ := ih hline (hroom.of_size (by rw [hclasses]))
      (by rwa [hclasses])
    refine ⟨r :: rs, b₂, ?_, .cons hfor hall⟩
    rw [List.mapM_cons, Act.run_bind_ok hrun, Act.run_bind_ok hrest]
    rfl

/-- References for the registered classes list them. -/
lemma lists (h : b.HasRoom) {rs : List ObjectRef}
    (hall : List.Forall₂ ObjectRef.IsFor rs b.space.classes.registeredClasses) :
    b.space.classes.Lists rs := by
  refine ⟨_, ClassTable.nodup_registeredClasses _, fun c => ClassTable.mem_registeredClasses, hall, ?_⟩
  rw [ObjectRef.map_address_of_isFor hall]
  refine (List.nodup_map_iff_inj_on (ClassTable.nodup_registeredClasses _)).mpr fun c hc d hd => ?_
  exact ClassTable.address_inj h.limit (ClassTable.mem_registeredClasses.mp hc).1.1
    (ClassTable.mem_registeredClasses.mp hd).1.1

/-- **Every context shows the registered classes**, and no others. -/
lemma shows (h : b.InLine) (hroom : b.HasRoom) (ctx : ContextId) : b.Shows ctx where
  named := h.named hroom ctx
  classes := by
    have hhas : ∀ c ∈ b.space.classes.registeredClasses, b.space.classes.Has c :=
      fun c hc => (ClassTable.mem_registeredClasses.mp hc).1.1
    unfold Act.classes
    rw [Act.run_bind_ok (Act.run_fromSpace _), Act.borrowList]
    split
    · next hempty =>
      refine ⟨[], b, rfl, lists hroom ?_⟩
      rw [List.isEmpty_iff.mp hempty]
      exact .nil
    · -- a buffer is lent, which no context notices
      have hlent : ({ b with loans := b.loans.lend.2 } : Bridge).InLine :=
        h.aside ⟨.refl _, fun _ => rfl, fun _ _ _ => rfl⟩
      obtain ⟨rs, b', hrun, hall⟩ := hlent.run_mapM_wrapClassId hroom ctx _ hhas
      refine ⟨rs, _, Act.run_borrowing (c := b') ?_, lists hroom hall⟩
      rw [Act.run_bind_ok hrun]
      change EStateM.Result.ok ((rs.map some).filterMap id) b' = _
      simp
  classList := by
    have hhas : ∀ c ∈ b.space.classes.registeredClasses, b.space.classes.Has c :=
      fun c hc => (ClassTable.mem_registeredClasses.mp hc).1.1
    obtain ⟨rs, b', hrun, hall⟩ := h.run_mapM_wrapClassId hroom ctx _ hhas
    refine ⟨rs, b', ?_, lists hroom hall⟩
    unfold Act.classList
    rw [Act.run_bind_ok (Act.run_fromSpace _), Act.run_bind_ok hrun]
    change EStateM.Result.ok ((rs.map some).filterMap id) b' = _
    simp

end Bridge.InLine

end MessageBridge
