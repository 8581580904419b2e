import MessageBridge.Proofs.Bridge.Introspection

/-!
# Moving a class

A class that is moved below another one answers the superclass that it had, and a move that is refused
answers nothing. A class at the top of a hierarchy had no superclass, so that it answers nothing either
way: to tell a move from a refusal one has to look at the superclass. This module says what a move is
refused for, and that the superclasses of the class and of its metaclass are all that it changes.

## Main definitions

* `ClassTable.Barred` — a move is refused.
* `Bridge.Reparented` — a class was moved.

## Main results

* `ClassTable.get_setSuperclass` — what a move that is accepted does to the records.
* `Act.setSuperclass_reports` — what a move did, by what it answers.
* `Act.answers_nothing_rootMoved` — a class that was moved and answers nothing.
-/

namespace MessageBridge

namespace ClassTable

variable {t : ClassTable} {c p : ClassId}

/-- **Barred**: one of the two is a metaclass, or the class is on the way up from the one that it should
come below. -/
def Barred (t : ClassTable) (c p : ClassId) : Prop :=
  (t.get c).isMeta = true ∨ (t.get p).isMeta = true ∨ ∃ cs, t.Ascends p cs ∧ c ∈ cs

/-- What the check refuses. -/
lemma Hierarchy.canInherit_eq_false_iff (ht : t.Hierarchy) (hp : t.Has p) :
    t.canInherit c p = false ↔ t.Barred c p := by
  have hup : c ∈ t.chain p ↔ ∃ cs, t.Ascends p cs ∧ c ∈ cs := by
    refine ⟨fun h => ⟨_, ht.ascends_chain hp, h⟩, ?_⟩
    rintro ⟨cs, hcs, h⟩
    rwa [(ht.ascends_chain hp).unique hcs]
  rw [Barred, ← hup, canInherit]
  simp only [Bool.and_eq_false_iff, Bool.not_eq_false', List.contains_eq_mem, decide_eq_true_eq, or_assoc]

lemma setSuperclass_of_barred (ht : t.Hierarchy) (hp : t.Has p) (h : t.Barred c p) :
    t.setSuperclass c p = (none, t) := by
  rw [setSuperclass, if_neg (by rw [(ht.canInherit_eq_false_iff hp).mpr h]; exact Bool.false_ne_true)]

/-- **What a move does** to the records: two superclasses. -/
lemma get_setSuperclass (ht : t.Hierarchy) (hc : t.Has c) (h : t.canInherit c p = true) (d : ClassId) :
    (t.setSuperclass c p).2.get d = { t.get d with
      superclass? := if d = c then some p else if d = t.metaclass c then some (t.metaclass p)
        else (t.get d).superclass? } := by
  have hclass : t.HasClass c := ⟨hc, by simp_all [canInherit]⟩
  obtain ⟨hmetaHas, hmeta⟩ := ht.metaclass c hclass
  have hne : t.metaclass c ≠ c := fun heq => by
    rw [heq, hclass.2] at hmeta
    cases hmeta
  rw [setSuperclass, if_pos h, get_invalidate, get_modify, get_modify]
  by_cases hd : d = t.metaclass c
  · subst hd
    rw [if_pos ⟨rfl, has_modify.mpr hmetaHas⟩, if_neg (fun h => hne h.1), if_neg hne, if_pos rfl]
  · rw [if_neg (fun h => hd h.1)]
    by_cases hdc : d = c
    · subst hdc
      rw [if_pos ⟨rfl, hc⟩, if_pos rfl]
    · rw [if_neg (fun h => hdc h.1), if_neg hdc, if_neg hd]

/-- A move keeps the table closed. -/
lemma Moved.closed {t' : ClassTable} (h : t.Moved c p t') (ht : t.Closed) (hp : t.Has p) : t'.Closed := by
  have hhas (d : ClassId) : t'.Has d ↔ t.Has d := by rw [Has, h.size, Has]
  refine ⟨fun d hd => ?_, fun d q hd hq => ?_⟩
  · rw [h.isa, hhas, h.isMeta]
    exact ht.isa d ((hhas d).mp hd)
  · rw [hhas]
    by_cases hdc : d = c
    · rw [hdc, h.superclass] at hq
      cases hq
      exact hp
    · by_cases hdm : d = t.metaclass c
      · rw [hdm, h.metaSuperclass] at hq
        cases hq
        exact (ht.isa p hp).1
      · rw [h.superclass_of_ne d hdc hdm] at hq
        exact ht.superclass d q ((hhas d).mp hd) hq

end ClassTable

/-- **Reparented**: the class is below the other one, and its metaclass below the metaclass of the other.
All else that the runtime keeps is as before, but for the association of a reference that is handed out. -/
structure Bridge.Reparented (c p : ClassId) (b b' : Bridge) : Prop where
  space : b'.space = { b.space with
    classes := b'.space.classes, associations := b'.space.associations }
  size : b'.space.classes.records.size = b.space.classes.records.size
  record : ∀ d, b'.space.classes.get d = { b.space.classes.get d with
    superclass? := if d = c then some p
      else if d = b.space.classes.metaclass c then some (b.space.classes.metaclass p)
      else (b.space.classes.get d).superclass? }

namespace Act

variable {b : Bridge} {ctx : ContextId} {r parent : ObjectRef} {c p : ClassId}

/-- What the class table answers is handed out. -/
lemma run_setSuperclass (hr : b.space.classes.ofAddress? r.address = some c)
    (hp : b.space.classes.ofAddress? parent.address = some p) :
    EStateM.run (setSuperclass ctx r parent) b =
      EStateM.run (match (b.space.classes.setSuperclass c p).1 with
        | some previous => wrapClassId ctx previous
        | none => return none)
      { b with space := b.space.withClasses (b.space.classes.setSuperclass c p).2 } := by
  have hclass : EStateM.run (classOfRef r) b = .ok c b := run_readSpace_eq_ok.mpr ⟨hr, rfl⟩
  have hparent : EStateM.run (classOfRef parent) b = .ok p b := run_readSpace_eq_ok.mpr ⟨hp, rfl⟩
  exact (run_bind_ok hclass).trans ((run_bind_ok hparent).trans (run_bind_ok (run_onSpace _)))

/-- **A move that is accepted** hands out the superclass that the class had. -/
lemma exists_run_setSuperclass (hb : b.Intact) (ht : b.space.classes.Hierarchy)
    (hr : b.space.classes.ofAddress? r.address = some c)
    (hp : b.space.classes.ofAddress? parent.address = some p)
    (h : b.space.classes.canInherit c p = true) (ctx : ContextId) :
    ∃ answer b', EStateM.run (setSuperclass ctx r parent) b = .ok answer b' ∧ b.Reparented c p b' ∧
      (answer = none → (b.space.classes.get c).superclass? = none) ∧
      ∀ q, answer = some q → ∃ d, (b.space.classes.get c).superclass? = some d ∧ q.IsFor d := by
  have hc := ClassTable.has_of_ofAddress? hr
  have hprevious : (b.space.classes.setSuperclass c p).1 = (b.space.classes.get c).superclass? := by
    rw [ClassTable.setSuperclass, if_pos h]
  rw [run_setSuperclass hr hp, hprevious]
  generalize hafter : ({ b with
    space := b.space.withClasses (b.space.classes.setSuperclass c p).2 } : Bridge) = b₁
  have hspace : b₁.space = b.space.withClasses (b.space.classes.setSuperclass c p).2 := by rw [← hafter]
  have hclasses : b₁.space.classes = (b.space.classes.setSuperclass c p).2 := by rw [hspace]; rfl
  have hmoved : b.space.classes.Moved c p b₁.space.classes := by
    rw [hclasses]
    exact ClassTable.moved_of_canInherit ht hc h
  have hreparented : b.Reparented c p b₁ := by
    refine ⟨by rw [hclasses, hspace]; rfl, hmoved.size, fun d => ?_⟩
    rw [hclasses, ClassTable.get_setSuperclass ht hc h]
  cases hsuper : (b.space.classes.get c).superclass? with
  | none =>
    refine ⟨none, b₁, rfl, hreparented, fun _ => rfl, ?_⟩
    rintro q ⟨⟩
  | some d =>
    have hroom : b₁.HasRoom := hb.room.of_size (Nat.le_of_eq hmoved.size)
    have hclosed := hmoved.closed hb.closed (ClassTable.has_of_ofAddress? hp)
    have hhas (d : ClassId) : b₁.space.classes.Has d ↔ b.space.classes.Has d := by
      rw [ClassTable.Has, hmoved.size, ClassTable.Has]
    have hcurrent (a : Address) : b₁.current? ctx a = b.current? ctx a := by
      rw [← hafter]
      rfl
    have hd : b₁.space.classes.Has d := (hhas d).mpr (hb.closed.superclass c d hc hsuper)
    obtain ⟨hisa, hmeta⟩ := hclosed.isa d hd
    obtain ⟨q, b', hrun, hfor, hb'⟩ := hroom.run_wrapClassId ctx hd hisa hmeta fun q hq => by
      rw [hcurrent] at hq
      obtain ⟨e, he, heq, hfor⟩ := hb.refs ctx d.address q (hroom.address_lt_start hd) hq
      rwa [ClassTable.address_inj hroom.limit hd ((hhas e).mpr he) heq]
    refine ⟨some q, b', hrun, ?_, fun hnone => absurd hnone (Option.some_ne_none q),
      fun q' hq' => ⟨d, rfl, Option.some.inj hq' ▸ hfor⟩⟩
    rcases hb' with rfl | rfl
    · exact hreparented
    · exact ⟨congrArg (fun s : ObjectSpace => { s with
        associations := ((newRef ctx d.address true).after b₁).space.associations }) hreparented.space,
        hreparented.size, hreparented.record⟩

/-- **A move reports what it did.** It answers nothing where it was refused, and nothing happened, or where
the class had no superclass before; and otherwise the superclass that the class had. Where it was not
refused, the class and its metaclass have other superclasses, and nothing else is different. Requests about
classes lead to no other states than such as this is said of (`Bridge.Intact.of_arranged`,
`ObjectSpace.Arranged.hierarchy`). -/
theorem setSuperclass_reports (hb : b.Intact) (ht : b.space.classes.Hierarchy)
    (hr : b.space.classes.ofAddress? r.address = some c)
    (hp : b.space.classes.ofAddress? parent.address = some p) (ctx : ContextId) :
    ∃ answer b', EStateM.run (setSuperclass ctx r parent) b = .ok answer b' ∧
      (answer = none →
        b.space.classes.Barred c p ∧ b' = b ∨
        ¬ b.space.classes.Barred c p ∧ (b.space.classes.get c).superclass? = none ∧
          b.Reparented c p b') ∧
      ∀ q, answer = some q → ¬ b.space.classes.Barred c p ∧
        (∃ d, (b.space.classes.get c).superclass? = some d ∧ q.IsFor d) ∧ b.Reparented c p b' := by
  have hhas := ClassTable.has_of_ofAddress? hp
  cases h : b.space.classes.canInherit c p with
  | false =>
    have hbarred := (ht.canInherit_eq_false_iff hhas).mp h
    refine ⟨none, b, ?_, fun _ => .inl ⟨hbarred, rfl⟩, nofun⟩
    rw [run_setSuperclass hr hp, ClassTable.setSuperclass_of_barred ht hhas hbarred]
    rfl
  | true =>
    have hbarred : ¬ b.space.classes.Barred c p := fun hbarred => by
      rw [(ht.canInherit_eq_false_iff hhas).mpr hbarred] at h
      cases h
    obtain ⟨answer, b', hrun, hmoved, hanswer⟩ := exists_run_setSuperclass hb ht hr hp h ctx
    exact ⟨answer, b', hrun, fun hnone => .inr ⟨hbarred, hanswer.1 hnone, hmoved⟩,
      fun q hq => ⟨hbarred, hanswer.2 q hq, hmoved⟩⟩

/-! ## A root and a class below it -/

/-- A root class of its own and a class below it. -/
def rootedSpace : ObjectSpace :=
  [.allocatePair none "Root" 0, .allocatePair (some ⟨5⟩) "Leaf" 0,
    .registerPair (some ⟨7⟩)].foldl ObjectSpace.serve ObjectSpace.initial

/-- A context for them. -/
def rootedBridge : Bridge := (Bridge.openContext { space := rootedSpace } {} {}).2

/-- A reference for a class. -/
def classHandle (c : ClassId) : ObjectRef := ⟨0, c.address, true⟩

lemma arranged_rootedSpace : rootedSpace.Arranged :=
  ((ObjectSpace.Arranged.roots.serve (.allocatePair none "Root" 0) (by decide +kernel)).serve
    (.allocatePair (some ⟨5⟩) "Leaf" 0) (by decide +kernel)).serve
    (.registerPair (some ⟨7⟩)) (by decide +kernel)

/-- **The lower class** answers the root when it is moved below `Object`. -/
theorem setSuperclass_reports_leaf :
    rootedBridge.Intact ∧ rootedBridge.space.classes.Hierarchy ∧
    rootedBridge.space.classes.ofAddress? (classHandle ⟨7⟩).address = some ⟨7⟩ ∧
    rootedBridge.space.classes.ofAddress? (classHandle ⟨1⟩).address = some ⟨1⟩ ∧
    ¬ rootedBridge.space.classes.Barred ⟨7⟩ ⟨1⟩ ∧
    ∃ q b', EStateM.run (setSuperclass 0 (classHandle ⟨7⟩) (classHandle ⟨1⟩)) rootedBridge =
      .ok (some q) b' ∧ q.IsFor ⟨5⟩ ∧ rootedBridge.Reparented ⟨7⟩ ⟨1⟩ b' := by
  have hintact : rootedBridge.Intact :=
    .of_tables (by decide +kernel) (by decide +kernel) (by decide +kernel)
  have hhierarchy : rootedBridge.space.classes.Hierarchy := arranged_rootedSpace.hierarchy
  have hleaf : rootedBridge.space.classes.ofAddress? (classHandle ⟨7⟩).address = some ⟨7⟩ := by
    decide +kernel
  have hobject : rootedBridge.space.classes.ofAddress? (classHandle ⟨1⟩).address = some ⟨1⟩ := by
    decide +kernel
  obtain ⟨answer, b', hrun, -, hsome⟩ := setSuperclass_reports hintact hhierarchy hleaf hobject 0
  have hends : (setSuperclass 0 (classHandle ⟨7⟩) (classHandle ⟨1⟩)).endsWith
      (fun answer _ => answer.isSome) rootedBridge = true := by decide +kernel
  obtain ⟨answer', b'', hrun', htest⟩ := exists_of_endsWith hends
  cases hrun.symm.trans hrun'
  obtain ⟨q, rfl⟩ := Option.isSome_iff_exists.mp htest
  obtain ⟨hbarred, ⟨d, hd, hfor⟩, hmoved⟩ := hsome q rfl
  have hsuper : (rootedBridge.space.classes.get ⟨7⟩).superclass? = some ⟨5⟩ := by decide +kernel
  cases hsuper.symm.trans hd
  exact ⟨hintact, hhierarchy, hleaf, hobject, hbarred, q, b', hrun, hfor, hmoved⟩

/-- **The root** answers nothing when it is moved below `Object`, and is below it from then on. When the
class below the root is moved, its metaclass comes below another one too. -/
theorem answers_nothing_rootMoved :
    rootedBridge.Intact ∧ rootedBridge.space.classes.Hierarchy ∧
    (∃ b', EStateM.run (setSuperclass 0 (classHandle ⟨5⟩) (classHandle ⟨1⟩)) rootedBridge = .ok none b' ∧
      (rootedBridge.space.classes.get ⟨5⟩).superclass? = none ∧
      (b'.space.classes.get ⟨5⟩).superclass? = some ⟨1⟩) ∧
    ∃ q b', EStateM.run (setSuperclass 0 (classHandle ⟨7⟩) (classHandle ⟨1⟩)) rootedBridge =
        .ok (some q) b' ∧
      (rootedBridge.space.classes.get ⟨6⟩).superclass? = some ⟨4⟩ ∧
      (b'.space.classes.get ⟨6⟩).superclass? = some ⟨0⟩ := by
  refine ⟨.of_tables (by decide +kernel) (by decide +kernel) (by decide +kernel),
    arranged_rootedSpace.hierarchy, ?_, ?_⟩
  · have hends : (setSuperclass 0 (classHandle ⟨5⟩) (classHandle ⟨1⟩)).endsWith (fun answer b' =>
        answer.isNone && (b'.space.classes.get ⟨5⟩).superclass? == some ⟨1⟩) rootedBridge = true := by
      decide +kernel
    obtain ⟨answer, b', hrun, htest⟩ := exists_of_endsWith hends
    obtain ⟨hnone, hmoved⟩ := Bool.and_eq_true_iff.mp htest
    rw [Option.isNone_iff_eq_none.mp hnone] at hrun
    exact ⟨b', hrun, by decide +kernel, eq_of_beq hmoved⟩
  · have hends : (setSuperclass 0 (classHandle ⟨7⟩) (classHandle ⟨1⟩)).endsWith (fun answer b' =>
        answer.isSome && (b'.space.classes.get ⟨6⟩).superclass? == some ⟨0⟩) rootedBridge = true := by
      decide +kernel
    obtain ⟨answer, b', hrun, htest⟩ := exists_of_endsWith hends
    obtain ⟨hsome, hmoved⟩ := Bool.and_eq_true_iff.mp htest
    obtain ⟨q, rfl⟩ := Option.isSome_iff_exists.mp hsome
    exact ⟨q, b', hrun, by decide +kernel, eq_of_beq hmoved⟩

end Act

end MessageBridge
