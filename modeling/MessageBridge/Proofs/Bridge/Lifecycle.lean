import MessageBridge.Proofs.Bridge.Crafting

/-!
# From pending to registered

Whoever extends a class holds the new class, which is pending, and fills it until it is registered.
Whether a class may still be changed is decided in two places: by who holds it, and by the class
table. A workshop is the bridge together with the pending classes that were handed out.

## Main definitions

* `PendingRequest`, `PendingClass.serve` — what can be asked of a pending class.
* `Workshop`, `Workshop.Step`, `Workshop.Reached` — the runs of building classes.
* `Workshop.InLine` — who holds a class and the class table agree.
* `Workshop.Lives` — how classes live between two states of a run.

## Main results

* `Workshop.Step.inLine` — each step keeps them in line.
* `Workshop.lifecycle` — names, visibility and forms over whole runs.
-/

namespace MessageBridge

/-! ## Requests -/

/-- **Requests** to a pending class. -/
inductive PendingRequest where
  | addMethod (selector types : String) (body : Body)
  | addClassMethod (selector types : String) (body : Body)
  | addIvar (name encoding : String) (size : Option UInt64) (exponent : Option UInt8)
  | addProtocol (protocol : String)
  | register

/-- What a request is called in the error about a class that is registered already. -/
def PendingRequest.operation : PendingRequest → String
  | .addMethod .. => "add a method"
  | .addClassMethod .. => "add a class method"
  | .addIvar .. => "add an ivar"
  | .addProtocol .. => "add a protocol"
  | .register => "register"

namespace PendingClass

open Act

/-- Does what is asked, and answers what the class is then. -/
def serve (p : PendingClass) : PendingRequest → Act PendingClass
  | .addMethod selector types body => do
    p.addMethod selector types body
    return p
  | .addClassMethod selector types body => do
    p.addClassMethod selector types body
    return p
  | .addIvar name encoding size exponent => do
    p.addIvar name encoding size exponent
    return p
  | .addProtocol protocol => do
    p.addProtocol protocol
    return p
  | .register => p.register

variable {p p' : PendingClass} {b b' : Bridge} {q : PendingRequest}

/-- **A registered class** takes no requests, and nothing is changed. -/
lemma run_serve_of_registered (hp : p.registered = true) (q : PendingRequest) (b : Bridge) :
    EStateM.run (p.serve q) b = .error (.error (.invalidState p.name q.operation)) b := by
  have hensure (operation : String) : EStateM.run (p.ensurePending operation) b =
      .error (.error (.invalidState p.name operation)) b := by
    rw [ensurePending, if_pos hp, run_fail]
  cases q with
  | register => exact run_bind_error (hensure _)
  | addMethod | addClassMethod | addIvar | addProtocol =>
    exact run_bind_error (run_bind_error (hensure _))

/-- Filling a class takes steps aside and gives out references for classes. -/
lemma crafting_serve (p : PendingClass) (hq : q ≠ .register) : Moves Crafting (p.serve q) b := by
  cases q with
  | register => exact absurd rfl hq
  | addMethod selector types body =>
    exact ((moves_ensurePending p _).bind fun _ _ _ => crafting_addMethodTo _ _ _ _ _ _).bind
      fun _ _ _ => moves_pure _
  | addClassMethod selector types body =>
    exact (crafting_addClassMethod p selector types body).bind fun _ _ _ => moves_pure _
  | addIvar name encoding size exponent =>
    exact (crafting_addIvar p name encoding size exponent).bind fun _ _ _ => moves_pure _
  | addProtocol protocol => exact (crafting_addProtocol p protocol).bind fun _ _ _ => moves_pure _

/-- Only registering changes the pending class itself. -/
lemma eq_of_serve (hq : q ≠ .register) (h : EStateM.run (p.serve q) b = .ok p' b') : p' = p := by
  cases q with
  | register => exact absurd rfl hq
  | addMethod | addClassMethod | addIvar | addProtocol =>
    obtain ⟨_, b₁, -, hpure⟩ := run_bind_eq_ok.mp h
    cases hpure
    rfl

/-- The state after a class was registered. -/
def published (p : PendingClass) (c : ClassId) (b : Bridge) : Bridge :=
  { b with
    space := b.space.withClasses (b.space.classes.register c)
    contexts := b.contexts.modify p.context (·.publish p.name p.classRef) }

/-- **Registering** registers the class and publishes it. -/
lemma run_register {c : ClassId} (hp : p.registered = false)
    (hc : b.space.classes.ofAddress? p.classRef.address = some c) :
    EStateM.run p.register b = .ok { p with registered := true } (p.published c b) := by
  have hensure : EStateM.run (p.ensurePending "register") b = .ok () b := by
    rw [ensurePending, hp]
    rfl
  have hclass : EStateM.run (classOfRef p.classRef) b = .ok c b := run_readSpace_eq_ok.mpr ⟨hc, rfl⟩
  unfold register
  rw [run_bind_ok hensure, run_bind_ok hclass]
  rfl

end PendingClass


/-! ## Extending -/

/-- **What an allocation does**: it is refused, and nothing is changed, or the pair is allocated,
and the associations stay. -/
lemma ObjectSpace.allocatePair_eq (s : ObjectSpace) (above : Option ClassId) (name : String)
    (extra : UInt64) :
    s.allocatePair above name extra = (none, s) ∨
      ∃ metaStorage classStorage c s', s.allocatePair above name extra = (some c, s') ∧
        s.classes.allocatePair? above name metaStorage classStorage = some (c, s'.classes) ∧
        s'.associations = s.associations := by
  have hstorage (s : ObjectSpace) : (s.allocateStorage extra).2.associations = s.associations := by
    unfold ObjectSpace.allocateStorage
    split
    · rfl
    · split <;> rfl
  simp only [ObjectSpace.allocatePair]
  split
  · next c classes hpair =>
    exact .inr ⟨_, _, c, _, rfl, hpair, (hstorage _).trans (hstorage _)⟩
  · exact .inl rfl

/-- A name that is taken is refused. -/
lemma ObjectSpace.allocatePair_of_taken {s : ObjectSpace} {name : String}
    (h : (s.classes.find? name).isSome) (above : Option ClassId) (extra : UInt64) :
    s.allocatePair above name extra = (none, s) := by
  rcases s.allocatePair_eq above name extra with heq | ⟨_, _, _, _, -, hpair, -⟩
  · exact heq
  · rw [(ClassTable.named_of_allocatePair? hpair).1] at h
    cases h

namespace Act

variable {b : Bridge} {parent : Option ObjectRef} {name : String}

/-- The class that is handed out for a new class of the table. -/
def handOut (ctx : ContextId) (name : String) (c : ClassId) : Act PendingClass := do
  match ← wrapClassId ctx c with
  | some r => return ⟨ctx, r, name, false⟩
  | none => fail (.classAllocation name)

/-- A new class of the table, handed out. -/
def openPair (ctx : ContextId) (name : String) (extra : UInt64) (above : Option ClassId) :
    Act PendingClass := do
  match ← onSpace (·.allocatePair above name extra) with
  | some c => handOut ctx name c
  | none => fail (.classAllocation name)

lemma run_openPair {ctx : ContextId} {extra : UInt64} (above : Option ClassId) :
    EStateM.run (openPair ctx name extra above) b =
      match b.space.allocatePair above name extra with
      | (some c, space) => EStateM.run (handOut ctx name c) { b with space }
      | (none, space) => .error (.error (.classAllocation name)) { b with space } := by
  rw [openPair, run_bind_ok (run_onSpace _)]
  rcases b.space.allocatePair above name extra with ⟨_ | c, space⟩
  · rfl
  · rfl

/-- **How extending goes on** when the name can be passed and the superclass is one. -/
lemma run_extend (ctx : ContextId) (extra : UInt64) (hname : Text.hasNul name = false)
    (hparent : ∀ r ∈ parent, (b.space.classes.ofAddress? r.address).isSome) :
    ∃ above, (∀ p ∈ above, b.space.classes.Has p) ∧
      EStateM.run (extend ctx parent name extra) b =
        match b.space.allocatePair above name extra with
        | (some c, space) => EStateM.run (handOut ctx name c) { b with space }
        | (none, space) => .error (.error (.classAllocation name)) { b with space } := by
  have hcheck : EStateM.run (checkName name) b = .ok () b := by
    rw [checkName, hname]
    rfl
  unfold extend
  rw [run_bind_ok hcheck]
  cases parent with
  | none => exact ⟨none, by simp, run_openPair none⟩
  | some r =>
    obtain ⟨c, hc⟩ := Option.isSome_iff_exists.mp (hparent r rfl)
    have hread : EStateM.run (classOfRef r) b = .ok c b := run_readSpace_eq_ok.mpr ⟨hc, rfl⟩
    have hclass : EStateM.run (some <$> classOfRef r) b = .ok (some c) b := by
      rw [map_eq_pure_bind, run_bind_ok hread]
      rfl
    refine ⟨some c, ?_, ?_⟩
    · rintro p ⟨⟩
      exact ClassTable.has_of_ofAddress? hc
    · exact (run_bind_ok hclass).trans (run_openPair (some c))

/-- What cannot be a superclass stops extending, and so does what cannot be a name. -/
lemma exists_run_extend (ctx : ContextId) (extra : UInt64) (h : ¬(Text.hasNul name = false ∧
      ∀ r ∈ parent, (b.space.classes.ofAddress? r.address).isSome)) :
    ∃ stop, EStateM.run (extend ctx parent name extra) b = .error stop b := by
  unfold extend
  by_cases hnul : Text.hasNul name = true
  · exact ⟨_, run_bind_error (by rw [checkName, if_pos hnul, run_fail])⟩
  · have hname : Text.hasNul name = false := by simpa using hnul
    have hcheck : EStateM.run (checkName name) b = .ok () b := by
      rw [checkName, if_neg hnul]
      rfl
    rw [run_bind_ok hcheck]
    cases parent with
    | none => exact absurd ⟨hname, by simp⟩ h
    | some r =>
      cases hclass : b.space.classes.ofAddress? r.address with
      | some c =>
        refine absurd ⟨hname, ?_⟩ h
        rintro _ ⟨⟩
        rw [hclass]
        rfl
      | none =>
        have hread : EStateM.run (some <$> classOfRef r) b = .error (.fault .badAccess) b := by
          rw [map_eq_pure_bind, run_bind_error]
          rw [classOfRef, run_readSpace, hclass, run_require_none]
        exact ⟨_, run_bind_error hread⟩

end Act

/-! ## Workshops -/

/-- **A workshop**: the bridge, and the pending classes that were handed out. -/
structure Workshop where
  bridge : Bridge := {}
  handles : List PendingClass := []

namespace Workshop

/-- A class is extended, and the new class is handed out. -/
def extend (w : Workshop) (ctx : ContextId) (parent : Option ObjectRef) (name : String)
    (extra : UInt64) : Workshop :=
  match EStateM.run (Act.extend ctx parent name extra) w.bridge with
  | .ok p b => ⟨b, p :: w.handles⟩
  | .error _ b => ⟨b, w.handles⟩

/-- Something is asked of a class that was handed out. -/
def serve (w : Workshop) (i : Nat) (q : PendingRequest) : Workshop :=
  match w.handles[i]? with
  | some p =>
    match EStateM.run (p.serve q) w.bridge with
    | .ok p b => ⟨b, w.handles.set i p⟩
    | .error _ b => ⟨b, w.handles⟩
  | none => w

/-- **A step** of building classes, through any context: a class is extended, something is asked of a
class that was handed out, a layout string is set, a context gives out a reference for a class, or
something else is done that leaves classes aside. -/
inductive Step : Workshop → Workshop → Prop
  | extend {w : Workshop} (ctx : ContextId) (parent : Option ObjectRef) (name : String)
      (extra : UInt64) : Step w (w.extend ctx parent name extra)
  | serve {w : Workshop} (i : Nat) (q : PendingRequest) : Step w (w.serve i q)
  | setLayout {w : Workshop} (r : ObjectRef) (weak : Bool) (layout : List UInt8) :
      Step w ⟨(Act.setLayout r weak layout).after w.bridge, w.handles⟩
  | refer {w : Workshop} (ctx : ContextId) {c : ClassId} (hc : w.bridge.space.classes.Has c) :
      Step w ⟨(Act.wrapClassId ctx c).after w.bridge, w.handles⟩
  | aside {w : Workshop} {b : Bridge} (h : w.bridge.Aside b) : Step w ⟨b, w.handles⟩

/-- **Reached**: a run leads to the workshop from the one where nothing has been done. -/
def Reached (w : Workshop) : Prop := Relation.ReflTransGen Step {} w

/-- **In line**: so is the bridge, each handed out class is the class of its name, and as registered
as it takes itself for, and none is handed out twice. -/
structure InLine (w : Workshop) : Prop where
  bridge : w.bridge.InLine
  handles : ∀ p ∈ w.handles, ∃ c, w.bridge.space.classes.HasClass c ∧ p.classRef.IsFor c ∧
    (w.bridge.space.classes.get c).name = p.name ∧
    (w.bridge.space.classes.get c).registered = p.registered
  apart : (w.handles.map fun p => p.classRef.address).Nodup

/-! ### What the steps do -/

variable {w w' : Workshop} {i : Nat} {p : PendingClass} {q : PendingRequest} {c : ClassId}

/-- A class is allocated under a name that can be passed and was free. -/
def Opens (t : ClassTable) (name : String) (c : ClassId) (t' : ClassTable) : Prop :=
  Text.hasNul name = false ∧ ∃ above metaStorage classStorage, (∀ p ∈ above, t.Has p) ∧
    t.allocatePair? above name metaStorage classStorage = some (c, t')

/-- Extending changes nothing, or a class is allocated and handed out. -/
lemma extend_eq (w : Workshop) (ctx : ContextId) (parent : Option ObjectRef) (name : String)
    (extra : UInt64) :
    w.extend ctx parent name extra = w ∨ ∃ c space,
      Opens w.bridge.space.classes name c space.classes ∧
      space.associations = w.bridge.space.associations ∧
      w.extend ctx parent name extra =
        match EStateM.run (Act.handOut ctx name c) { w.bridge with space } with
        | .ok p b => ⟨b, p :: w.handles⟩
        | .error _ b => ⟨b, w.handles⟩ := by
  by_cases h : Text.hasNul name = false ∧
      ∀ r ∈ parent, (w.bridge.space.classes.ofAddress? r.address).isSome
  · obtain ⟨above, habove, hrun⟩ := Act.run_extend ctx extra h.1 h.2
    rcases w.bridge.space.allocatePair_eq above name extra with
      heq | ⟨_, _, c, space, heq, hpair, hassociations⟩
    · left
      rw [extend, hrun, heq]
    · right
      refine ⟨c, space, ⟨h.1, above, _, _, habove, hpair⟩, hassociations, ?_⟩
      rw [extend, hrun, heq]
  · obtain ⟨stop, hrun⟩ := Act.exists_run_extend ctx extra h
    left
    rw [extend, hrun]

/-- Handing out a class leaves the classes as they are. -/
lemma classes_handOut (ctx : ContextId) (name : String) (c : ClassId) (b : Bridge) :
    ((Act.handOut ctx name c).after b).space.classes = b.space.classes := by
  refine Act.Moves.keeps (R := fun b b' => b'.space.classes = b.space.classes) (·.space.classes)
    (fun _ _ => id) ((Act.moves_wrapClassId ctx c).bind fun r b₁ _ => ?_)
  cases r with
  | some r => exact Act.moves_pure _
  | none => exact Act.moves_fail _

lemma bridge_handedOut (x : Act PendingClass) (b : Bridge) (handles : List PendingClass) :
    (match EStateM.run x b with
      | .ok p b' => (⟨b', p :: handles⟩ : Workshop)
      | .error _ b' => ⟨b', handles⟩).bridge = x.after b := by
  rw [Act.after]
  cases EStateM.run x b <;> rfl

/-- Filling a class changes the bridge, and nothing of what was handed out. -/
lemma serve_eq (hi : w.handles[i]? = some p) (hq : q ≠ .register) :
    w.serve i q = ⟨(p.serve q).after w.bridge, w.handles⟩ := by
  rw [serve, hi, Act.after]
  simp only
  split
  · next p' b hrun =>
    obtain rfl := PendingClass.eq_of_serve hq hrun
    obtain ⟨hlt, rfl⟩ := List.getElem?_eq_some_iff.mp hi
    rw [hrun, List.set_getElem_self]
  · next hrun => rw [hrun]

/-- Registering changes nothing, or the class is registered and published. -/
lemma serve_register_eq (w : Workshop) (i : Nat) :
    w.serve i .register = w ∨ ∃ p c, w.handles[i]? = some p ∧ p.registered = false ∧
      w.bridge.space.classes.ofAddress? p.classRef.address = some c ∧
      w.serve i .register =
        ⟨p.published c w.bridge, w.handles.set i { p with registered := true }⟩ := by
  cases hi : w.handles[i]? with
  | none => exact .inl (by rw [serve, hi])
  | some p =>
    cases hp : p.registered with
    | true =>
      left
      rw [serve, hi]
      simp only
      rw [PendingClass.run_serve_of_registered hp]
    | false =>
      cases hc : w.bridge.space.classes.ofAddress? p.classRef.address with
      | some c =>
        refine .inr ⟨p, c, rfl, hp, hc, ?_⟩
        have hrun : EStateM.run (p.serve .register) w.bridge =
            .ok { p with registered := true } (p.published c w.bridge) :=
          PendingClass.run_register hp hc
        rw [serve, hi]
        simp only [hrun]
      | none =>
        left
        have hensure : EStateM.run (p.ensurePending "register") w.bridge = .ok () w.bridge := by
          rw [PendingClass.ensurePending, hp]
          rfl
        have hclass : EStateM.run (Act.classOfRef p.classRef) w.bridge =
            .error (.fault .badAccess) w.bridge := by
          rw [Act.classOfRef, Act.run_readSpace, hc, Act.run_require_none]
        have hrun : EStateM.run (p.serve .register) w.bridge =
            .error (.fault .badAccess) w.bridge := by
          change EStateM.run p.register _ = _
          unfold PendingClass.register
          rw [Act.run_bind_ok hensure, Act.run_bind_error hclass]
        rw [serve, hi]
        simp only [hrun]

/-! ### Classes stay -/

namespace Step

/-- **Each step leads to a later table**: classes keep their names, and registered ones their forms. -/
lemma later (h : Step w w') : w.bridge.space.classes.Later w'.bridge.space.classes := by
  cases h with
  | extend ctx parent name extra =>
    rcases w.extend_eq ctx parent name extra with heq | ⟨c, space, hopens, -, heq⟩
    · rw [heq]
      exact .refl _
    · obtain ⟨-, above, _, _, -, hpair⟩ := hopens
      rw [heq, bridge_handedOut, classes_handOut]
      exact (ClassTable.allocated_of_allocatePair? hpair).later
  | serve i q =>
    by_cases hq : q = .register
    · subst hq
      rcases w.serve_register_eq i with heq | ⟨p, c, -, -, -, heq⟩
      · rw [heq]
        exact .refl _
      · rw [heq]
        exact ClassTable.later_register _ c
    · cases hi : w.handles[i]? with
      | none =>
        rw [Workshop.serve, hi]
        exact .refl _
      | some p =>
        rw [serve_eq hi hq]
        exact (Crafting.worked_of_run (p.crafting_serve hq)).later
  | setLayout r weak layout =>
    exact (Crafting.worked_of_run (Act.crafting_setLayout r weak layout)).later
  | refer ctx hc => exact (Crafting.worked (.refer ctx hc)).later
  | aside h => exact h.classes.later

lemma later_of_run (h : Relation.ReflTransGen Step w w') :
    w.bridge.space.classes.Later w'.bridge.space.classes := by
  induction h with
  | refl => exact .refl _
  | tail _ hstep ih => exact ih.trans hstep.later

/-- Where there is room in the end there was room before. -/
lemma hasRoom (h : Step w w') (hroom : w'.bridge.HasRoom) : w.bridge.HasRoom :=
  hroom.of_size h.later.size_le

end Step

/-! ### Staying in line -/

namespace InLine

lemma start : InLine {} := ⟨.start, nofun, List.nodup_nil⟩

/-- Work on pending classes leaves what was handed out as it is. -/
lemma worked (h : w.InLine) {b : Bridge} (hb : b.InLine)
    (hworked : w.bridge.space.classes.Worked b.space.classes) : InLine ⟨b, w.handles⟩ where
  bridge := hb
  handles p hp := by
    obtain ⟨c, hc, hfor, hname, hregistered⟩ := h.handles p hp
    exact ⟨c, hworked.hasClass_iff.mpr hc, hfor, (hworked.name c).trans hname,
      (hworked.registered c).trans hregistered⟩
  apart := h.apart

lemma crafted (h : w.InLine) (hroom : w.bridge.HasRoom) {b : Bridge}
    (hrun : Relation.ReflTransGen Crafting w.bridge b) : InLine ⟨b, w.handles⟩ :=
  h.worked (Crafting.inLine_of_run hrun hroom h.bridge) (Crafting.worked_of_run hrun)

/-- **A new class** is in line, and pending. -/
lemma opened (h : w.bridge.InLine) {space : ObjectSpace} {name : String}
    (hopens : Opens w.bridge.space.classes name c space.classes)
    (hassociations : space.associations = w.bridge.space.associations) :
    ({ w.bridge with space } : Bridge).InLine := by
  obtain ⟨hplain, above, _, _, habove, hpair⟩ := hopens
  have halloc := ClassTable.allocated_of_allocatePair? hpair
  refine h.mono (h.distinct.allocated habove hpair) halloc.later (fun d hd => ?_) (fun _ => rfl)
    fun ctx a _ => ?_
  · refine (halloc.hasClass_iff.mp hd).imp id ?_
    rintro rfl
    change Text.hasNul (space.classes.get d).name = false
    rw [(ClassTable.named_of_allocatePair? hpair).2.1, hplain]
  · rw [Bridge.current?, Bridge.current?, hassociations]
    rfl

/-- **Extending** stays in line: nobody else holds the new class. -/
lemma extend (h : w.InLine) {ctx : ContextId} {parent : Option ObjectRef} {name : String}
    {extra : UInt64} (hroom : (w.extend ctx parent name extra).bridge.HasRoom) :
    (w.extend ctx parent name extra).InLine := by
  have hlater := (Step.extend (w := w) ctx parent name extra).later
  rcases w.extend_eq ctx parent name extra with heq | ⟨c, space, hopens, hassociations, heq⟩
  · rwa [heq]
  · have hclasses : (w.extend ctx parent name extra).bridge.space.classes = space.classes := by
      rw [heq, bridge_handedOut, classes_handOut]
    rw [Bridge.HasRoom, hclasses] at hroom
    have hline := opened h.bridge hopens hassociations
    obtain ⟨-, above, _, _, -, hpair⟩ := hopens
    have halloc := ClassTable.allocated_of_allocatePair? hpair
    obtain ⟨-, hname, hpending⟩ := ClassTable.named_of_allocatePair? hpair
    have hc : space.classes.HasClass c := halloc.hasClass_iff.mpr (.inr rfl)
    obtain ⟨r, b', hrun, hfor, hline', hclasses'⟩ := hline.run_wrapClassId hroom ctx hc.1
    have hhandOut : EStateM.run (Act.handOut ctx name c) { w.bridge with space } =
        .ok ⟨ctx, r, name, false⟩ b' := by
      unfold Act.handOut
      rw [Act.run_bind_ok hrun]
      rfl
    rw [heq, hhandOut]
    refine ⟨hline', List.forall_mem_cons.mpr ⟨⟨c, ?_⟩, fun p hp => ?_⟩,
      List.nodup_cons.mpr ⟨fun hmem => ?_, h.apart⟩⟩
    · rw [hclasses']
      exact ⟨hc, hfor, hname, hpending⟩
    · obtain ⟨d, hd, hfor, hrest⟩ := h.handles p hp
      refine ⟨d, ?_⟩
      rw [hclasses']
      change space.classes.HasClass d ∧ _ ∧ (space.classes.get d).name = _ ∧
        (space.classes.get d).registered = _
      rw [halloc.get_eq d hd.1]
      exact ⟨halloc.hasClass_iff.mpr (.inl hd), hfor, hrest⟩
    · obtain ⟨p, hp, heq⟩ := List.mem_map.mp hmem
      obtain ⟨d, hd, hford, -⟩ := h.handles p hp
      have hsame : d.address = c.address := hford.1.symm.trans (heq.trans hfor.1)
      obtain rfl := ClassTable.address_inj (Nat.le_trans hroom Memory.start_le)
        (halloc.has hd.1) hc.1 hsame
      exact halloc.new_class hd.1

/-- No class is handed out twice. -/
lemma eq_of_address (h : w.InLine) {i j : Nat} {p q : PendingClass} (hi : w.handles[i]? = some p)
    (hj : w.handles[j]? = some q) (hsame : p.classRef.address = q.classRef.address) : i = j := by
  obtain ⟨hlt, -⟩ := List.getElem?_eq_some_iff.mp hi
  refine (List.getElem?_inj (by rwa [List.length_map]) h.apart).mp ?_
  rw [List.getElem?_map, List.getElem?_map, hi, hj, Option.map_some, Option.map_some, hsame]

/-- The bridge is in line after a class was registered and published under its name. -/
lemma published (h : w.InLine) (hc : w.bridge.space.classes.HasClass c) (hfor : p.classRef.IsFor c)
    (hname : (w.bridge.space.classes.get c).name = p.name) : (p.published c w.bridge).InLine := by
  have hdistinct := h.bridge.distinct
  have halike := (ClassTable.Retains.register w.bridge.space.classes c).toAlikeAbove
  have hline : ({ w.bridge with
      space := w.bridge.space.withClasses (w.bridge.space.classes.register c) } : Bridge).InLine :=
    h.bridge.mono (hdistinct.register c) (ClassTable.later_register _ c)
      (fun e he => .inl (halike.hasClass_iff.mp he)) (fun _ => rfl) fun _ _ _ => rfl
  have hregistered := (hdistinct.registered_register_iff (d := c) hc).mpr (.inr rfl)
  have hlabel : ((w.bridge.space.classes.register c).get c).name = p.name :=
    (ClassTable.get_register w.bridge.space.classes c c).1.trans hname
  have hpublish := hline.publish hregistered hfor p.context
  change (Bridge.mk _ (w.bridge.contexts.modify p.context fun x =>
    x.publish ((w.bridge.space.classes.register c).get c).name p.classRef) _ _ _ _ _ _).InLine
    at hpublish
  rwa [hlabel] at hpublish

/-- **Registering** stays in line: nobody else holds the class. -/
lemma registered (h : w.InLine) (hroom : w.bridge.HasRoom) (hi : w.handles[i]? = some p)
    (hp : p.registered = false)
    (hc : w.bridge.space.classes.ofAddress? p.classRef.address = some c) :
    InLine ⟨p.published c w.bridge, w.handles.set i { p with registered := true }⟩ := by
  obtain ⟨d, hd, hfor, hname, -⟩ := h.handles p (List.mem_of_getElem? hi)
  obtain rfl : d = c := by
    rw [hfor.1, ClassTable.ofAddress?_address hroom.limit hd.1] at hc
    exact Option.some.inj hc
  have hdistinct := h.bridge.distinct
  have hregistered := (hdistinct.registered_register_iff (d := d) hd).mpr (.inr rfl)
  have halike := (ClassTable.Retains.register w.bridge.space.classes d).toAlikeAbove
  have hnames (e : ClassId) := (ClassTable.get_register w.bridge.space.classes d e).1
  have haddresses : (w.handles.set i { p with registered := true }).map
      (fun p => p.classRef.address) = w.handles.map fun p => p.classRef.address := by
    obtain ⟨hlt, rfl⟩ := List.getElem?_eq_some_iff.mp hi
    rw [List.map_set, ← List.getElem_map (fun p : PendingClass => p.classRef.address) (h := by simpa)]
    exact List.set_getElem_self _
  refine ⟨h.published hd hfor hname, fun q hq => ?_, haddresses ▸ h.apart⟩
  obtain ⟨j, hj⟩ := List.getElem?_of_mem hq
  rw [List.getElem?_set] at hj
  split at hj
  · -- the class that was registered
    split at hj
    · cases hj
      exact ⟨d, hregistered.1, hfor, (hnames d).trans hname, hregistered.2⟩
    · cases hj
  · next hne =>
    obtain ⟨e, he, hfore, hnamee, hsame⟩ := h.handles q (List.mem_of_getElem? hj)
    refine ⟨e, halike.hasClass_iff.mpr he, hfore, (hnames e).trans hnamee, ?_⟩
    refine (hdistinct.registered_register hd he ?_).trans hsame
    rintro rfl
    -- the same class would have been handed out twice
    exact hne (h.eq_of_address hi hj (hfor.1.trans hfore.1.symm))

end InLine

/-- **Each step stays in line.** -/
lemma Step.inLine (h : Step w w') (hroom : w'.bridge.HasRoom) (hw : w.InLine) : w'.InLine := by
  have hbefore := h.hasRoom hroom
  cases h with
  | extend ctx parent name extra => exact hw.extend hroom
  | serve i q =>
    by_cases hq : q = .register
    · subst hq
      rcases w.serve_register_eq i with heq | ⟨p, c, hi, hp, hc, heq⟩
      · rwa [heq]
      · rw [heq]
        exact hw.registered hbefore hi hp hc
    · cases hi : w.handles[i]? with
      | none =>
        have heq : w.serve i q = w := by rw [Workshop.serve, hi]
        rwa [heq]
      | some p =>
        rw [serve_eq hi hq]
        exact hw.crafted hbefore (p.crafting_serve hq)
  | setLayout r weak layout => exact hw.crafted hbefore (Act.crafting_setLayout r weak layout)
  | refer ctx hc => exact hw.crafted hbefore (.single (.refer ctx hc))
  | aside h => exact hw.crafted hbefore (.single (.aside h))

/-- **Every run stays in line**, as long as there is room. -/
lemma Reached.inLine (h : w.Reached) (hroom : w.bridge.HasRoom) : w.InLine := by
  induction h with
  | refl => exact .start
  | tail _ hstep ih => exact hstep.inLine hroom (ih (hstep.hasRoom hroom))

/-- **The life of classes** from one workshop to a later one. -/
structure Lives (w w' : Workshop) : Prop where
  /-- A class keeps its name. -/
  name : ∀ c, w.bridge.space.classes.HasClass c → w'.bridge.space.classes.HasClass c ∧
    (w'.bridge.space.classes.get c).name = (w.bridge.space.classes.get c).name
  /-- No other class has it. -/
  unique : ∀ c d, w'.bridge.space.classes.HasClass c → w'.bridge.space.classes.HasClass d →
    (w'.bridge.space.classes.get c).name = (w'.bridge.space.classes.get d).name → c = d
  /-- The name of a class, pending or registered, is refused to any other, and nothing is changed. -/
  taken : ∀ ctx parent c extra, w'.bridge.space.classes.HasClass c →
    (∀ r ∈ parent, (w'.bridge.space.classes.ofAddress? r.address).isSome) →
    EStateM.run (Act.extend ctx parent (w'.bridge.space.classes.get c).name extra) w'.bridge =
      .error (.error (.classAllocation (w'.bridge.space.classes.get c).name)) w'.bridge
  /-- Every context shows exactly the registered classes, each of them once. -/
  shows : ∀ ctx, w'.bridge.Shows ctx
  /-- A registered class stays registered, and its variables with their offsets, the size of its
  instances and its two layout strings stay as they are. -/
  settled : ∀ c, w.bridge.space.classes.Registered c → w'.bridge.space.classes.Registered c ∧
    (w'.bridge.space.classes.get c).form = (w.bridge.space.classes.get c).form
  /-- Whoever holds a class holds the class of that name; and once it is registered, whatever is
  asked of it fails with an error about its state, and nothing is changed. -/
  closed : ∀ p ∈ w'.handles, ∃ c,
    w'.bridge.space.classes.ofAddress? p.classRef.address = some c ∧
    w'.bridge.space.classes.HasClass c ∧ (w'.bridge.space.classes.get c).name = p.name ∧
    (w'.bridge.space.classes.Registered c → ∀ q, EStateM.run (p.serve q) w'.bridge =
      .error (.error (.invalidState p.name q.operation)) w'.bridge)

/-- **Lifecycle**: in every run of building classes, through any contexts and in any order, classes
live so, from any state of the run to any later one, as long as there is room for classes in memory. -/
theorem lifecycle (h : w.Reached) (hrun : Relation.ReflTransGen Step w w')
    (hroom : w'.bridge.HasRoom) : w.Lives w' := by
  have hline : w'.InLine := Reached.inLine (h.trans hrun) hroom
  have hlater := Step.later_of_run hrun
  exact {
    name := fun c hc => ⟨hlater.hasClass hc, hlater.name c hc.1⟩
    unique := hline.bridge.distinct.name
    taken := fun ctx parent c extra hc hparent => by
      obtain ⟨above, -, hextend⟩ := Act.run_extend ctx extra
        (hline.bridge.plain c hc) hparent
      have htaken := hline.bridge.distinct.find?_eq_some_iff.mpr ⟨hc, rfl⟩
      rw [hextend, ObjectSpace.allocatePair_of_taken (by rw [htaken]; rfl)]
    shows := hline.bridge.shows hroom
    settled := fun c hc => ⟨hlater.registered' hc, hlater.form c hc.1.1 hc.2⟩
    closed := fun p hp => by
      obtain ⟨c, hc, hfor, hname, hregistered⟩ := hline.handles p hp
      refine ⟨c, ?_, hc, hname, fun hreg q => ?_⟩
      · rw [hfor.1, ClassTable.ofAddress?_address hroom.limit hc.1]
      · exact PendingClass.run_serve_of_registered (hregistered.symm.trans hreg.2) q _ }

/-- Two contexts; a class with a variable is extended through the first one and registered. -/
def settledFirst : Workshop :=
  (((Workshop.mk ((({} : Bridge).openContext {} {}).2.openContext {} {}).2 []).extend 0
    (some (PendingClass.ofClass ⟨1⟩ "Object").classRef) "First" 0).serve 0
      (.addIvar "x" "q" none none)).serve 0 .register

/-- Another class is extended through the second one, and more is asked of the first class. -/
def pendingSecond : Workshop :=
  (settledFirst.extend 1 (some (PendingClass.ofClass ⟨5⟩ "First").classRef) "Second" 0).serve 1
    (.addIvar "y" "q" none none)

/-- The first class has its variable and is registered, and it stays so; the second one is pending. -/
theorem lifecycle_pendingSecond :
    settledFirst.Reached ∧ settledFirst.bridge.space.classes.Registered ⟨5⟩ ∧
      (settledFirst.bridge.space.classes.get ⟨5⟩).ivars = [⟨"x", "q", 8, 8⟩] ∧
      pendingSecond.bridge.space.classes.HasClass ⟨7⟩ ∧
      ¬pendingSecond.bridge.space.classes.Registered ⟨7⟩ ∧ pendingSecond.handles.length = 2 ∧
      settledFirst.Lives pendingSecond := by
  have hopened : Reached ⟨((({} : Bridge).openContext {} {}).2.openContext {} {}).2, []⟩ :=
    (Relation.ReflTransGen.single (.aside (.openContext _ {} {}))).tail
      (.aside (.openContext _ {} {}))
  have hfirst : settledFirst.Reached :=
    ((hopened.tail (.extend _ _ _ _)).tail (.serve _ _)).tail (.serve _ _)
  have hsecond : Relation.ReflTransGen Step settledFirst pendingSecond :=
    (Relation.ReflTransGen.single (.extend _ _ _ _)).tail (.serve _ _)
  have hroom : pendingSecond.bridge.HasRoom := by
    unfold Bridge.HasRoom
    decide +kernel
  refine ⟨hfirst, by decide +kernel, by decide +kernel, by decide +kernel, by decide +kernel,
    by decide +kernel, lifecycle hfirst hsecond hroom⟩

end Workshop

end MessageBridge
