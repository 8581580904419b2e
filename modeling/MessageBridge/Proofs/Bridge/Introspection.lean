import MessageBridge.Proofs.Bridge.Access
import MessageBridge.Proofs.Bridge.CallShape
import MessageBridge.Proofs.Bridge.Listing
import MessageBridge.Proofs.Bridge.Recognition
import MessageBridge.Proofs.Bridge.Settling
import MessageBridge.Proofs.Marshal.Sparing
import Mathlib.Data.List.Find

/-!
# What an object says about itself

An object can be asked whether it has a method of a name, for the list of its methods, and for the
list of its instance variables, and it can be sent a message or be asked for a variable. All of these
walk up from the class of the object, the first two and the last by names and sending by selectors, a
list from references that were given out on the way, and sending through what the class remembers. This
module says that they agree on what is first on the chain. They disagree where a class in memory was
overwritten: what it remembers is not dropped then.

## Main definitions

* `Bridge.Live` — the reference refers to an object that is there.
* `Bridge.Stale` — a class remembers something else for a method than its code.
* `Act.SendsTo` — messages of a name are calls of a method.
* `Act.readIvar`, `Act.writeIvar`, `Act.Accesses` — accesses of a name go to an instance variable.

## Main results

* `Act.sendsTo_of_findMethod?` — a message calls the first method on the chain.
* `Act.ivar_eq_error_iff`, `Act.setIvar_eq_error_iff` — only a missing variable is reported as missing.
* `Act.introspection_agrees` — the lists, the answers and the accesses agree.
* `Act.stale_send_moved` — a message that calls other code than that of the first method listed.
-/

namespace MessageBridge

/-! ## Objects that are there -/

/-- **Live**: the object is there, and if it is referred to as a class it is one. -/
structure Bridge.Live (b : Bridge) (r : ObjectRef) : Prop where
  address : r.address ≠ 0
  isa : (b.space.isa? r.address).isSome = true
  isClass : r.isClass = true → ∃ c, b.space.classes.Has c ∧ r.address = c.address

/-- Whether an object is there depends on memory and the classes alone. -/
lemma Bridge.Live.congr {b b' : Bridge} {r : ObjectRef} (h : b.Live r)
    (hclasses : b'.space.classes = b.space.classes) (hmemory : b'.space.memory = b.space.memory) :
    b'.Live r where
  address := h.address
  isa := by
    rw [ObjectSpace.isa?_congr hclasses hmemory]
    exact h.isa
  isClass := by
    rw [hclasses]
    exact h.isClass

/-- **Stale**: the class of the object remembers something for the selector of the method that is not the
code of the method. -/
def Bridge.Stale (b : Bridge) (r : ObjectRef) (m : MethodRef) : Prop :=
  ∃ c imp, b.space.isa? r.address = some c ∧
    (b.space.classes.get c).cache.find? b.space.classes.epoch m.selector = some imp ∧
    (b.space.classes.method? m).bind Method.implementation? ≠ imp

/-- Requests about classes leave nothing stale, until they have come to as many epochs as there are. -/
lemma ObjectSpace.Ran.not_stale {b : Bridge} {n : Nat} {r : ObjectRef} {c : ClassId} {m : MethodRef}
    (h : b.space.Ran n) (hn : n < 2 ^ 64) (hc : b.space.isa? r.address = some c)
    (hm : b.space.classes.findMethod? c m.selector = some m) : ¬b.Stale r m := by
  rintro ⟨d, imp, hd, hfind, hne⟩
  cases hc.symm.trans hd
  refine hne ?_
  rw [← (h.coherent hn).current c m.selector imp hfind, ClassTable.walk, hm, Option.bind_some]

namespace SelectorTable

variable {t t' : SelectorTable} {name : String} {sel : Selector}

lemma index_intern_le (t : SelectorTable) (name : String) :
    (t.intern name).1.index ≤ t.names.size := by
  unfold intern
  split
  · next s h => exact Nat.le_of_lt (name_of_find? h).1
  · exact Nat.le_refl _

/-- **By name or by selector**: an older selector has the name just if it is the selector of it. -/
lemma Knows.name_beq (h : t'.Knows name sel) (hdistinct : t'.Distinct) (ht : t.Extends t')
    {x : Selector} (hx : x.index < t.names.size) : (t.name x == name) = (x == sel) := by
  obtain ⟨hx', hname⟩ := ht x hx
  rw [Bool.eq_iff_iff, beq_iff_eq, beq_iff_eq, ← hname, ← h.name]
  exact ⟨hdistinct.eq_of_name hx' h.mem, congrArg _⟩

end SelectorTable

namespace Act

variable {α β : Type} {re : Reentry} {ctx : ContextId} {b b' : Bridge} {r : ObjectRef} {c : ClassId}
  {name : String} {sel : Selector} {m : MethodRef}

/-! ## The selector of a name -/

/-- **A name gets a selector**, which leaves the classes and the memory as they are. -/
lemma exists_run_selector (ctx : ContextId) (hname : Text.hasNul name = false)
    (hroom : b.space.selectors.names.size < Selector.maxCount) :
    ∃ sel b', EStateM.run (selector ctx name) b = .ok sel b' ∧
      b'.space.classes = b.space.classes ∧ b'.space.memory = b.space.memory := by
  unfold selector
  rw [run_bind_ok (run_context ctx)]
  cases (b.contextAt ctx).selectors.lookup name with
  | some sel => exact ⟨sel, b, rfl, rfl, rfl⟩
  | none =>
    have hcheck : EStateM.run (checkName name) b = .ok () b := by
      rw [checkName, hname]
      rfl
    have hintern : EStateM.run (intern name) b = .ok (b.space.intern name).1
        { b with space := (b.space.intern name).2 } :=
      run_intern_eq_ok.mpr ⟨rfl, rfl, Nat.lt_of_le_of_lt
        (SelectorTable.index_intern_le b.space.selectors name) hroom⟩
    simp only
    rw [run_bind_ok hcheck, run_bind_ok hintern]
    exact ⟨_, _, rfl, rfl, rfl⟩

/-- Methods that are declared have the name just if they are for its selector. -/
lemma name_beq_of_selector (hb : b.Named) (hrun : EStateM.run (selector ctx name) b = .ok sel b')
    (hm : b.space.classes.Declares m.selector) :
    (b.space.selectors.name m.selector == name) = (m.selector == sel) := by
  have hmoves : Relation.ReflTransGen HostChange b b' := (upkeep_selector ctx name).of_ok hrun
  exact (knows_selector hb.sound hrun).name_beq (HostChange.named_of_run hmoves hb).distinct
    (HostChange.extends_of_run hmoves) (hb.declares _ hm)

/-- The class that a message starts at is the class of the receiver. -/
lemma run_receiverClass (hroom : b.HasRoom) (hclosed : b.space.classes.Closed) (hlive : b.Live r)
    (hc : b.space.isa? r.address = some c) : EStateM.run (receiverClass r) b = .ok c b := by
  unfold receiverClass
  split
  · next hclass =>
    obtain ⟨k, hk, haddress⟩ := hlive.isClass hclass
    have hrun : EStateM.run (classOfRef r) b = .ok k b := by
      refine run_readSpace_eq_ok.mpr ⟨?_, rfl⟩
      rw [haddress, ClassTable.ofAddress?_address hroom.limit hk]
    rw [haddress, ObjectSpace.isa?_address hroom.limit hk (hclosed.isa k hk).1] at hc
    rw [run_bind_ok hrun, run_fromSpace, ← Option.some.inj hc]
    rfl
  · exact run_readSpace_eq_ok.mpr ⟨hc, rfl⟩

/-- The code for a receiver is what its class looks up, which the class then remembers. -/
lemma run_lookupImplementation {a : Address} {imp : Implementation} (ha : a ≠ 0)
    (hc : b.space.isa? a = some c) (himp : (b.space.classes.lookup c sel).1 = some imp) :
    EStateM.run (lookupImplementation re a (some sel)) b =
      .ok imp { b with space := b.space.withClasses (b.space.classes.lookup c sel).2 } := by
  have hisa : EStateM.run (readSpace (·.isa? a)) b = .ok c b := run_readSpace_eq_ok.mpr ⟨hc, rfl⟩
  simp only [lookupImplementation, if_neg ha]
  rw [run_bind_ok hisa, run_bind_ok (run_lookupImp c sel), himp]
  rfl

/-- The code for a receiver is what its class looks up, if the context can look it up. -/
lemma run_findCode {t : Target} {imp : Implementation} (hdirect : t.isSuper = false)
    (hne : t.receiver.address ≠ 0) (hc : b.space.isa? t.receiver.address = some c)
    (himp : (b.space.classes.lookup c t.sel).1 = some imp) :
    EStateM.run (findCode re ctx t) b =
      if (b.contextAt ctx).capabilities.lookup then
        .ok (some imp) { b with space := b.space.withClasses (b.space.classes.lookup c t.sel).2 }
      else .ok none b := by
  unfold findCode
  rw [if_neg (by rw [hdirect]; decide), run_bind_ok (run_context ctx)]
  split
  · rw [run_bind_ok (run_lookupImplementation hne hc himp)]
    rfl
  · rfl

/-- The class of the receiver looks up the code of the first method, if it remembers nothing else. -/
lemma fst_lookup_of_not_stale {imp : Implementation} (hc : b.space.isa? r.address = some c)
    (hm : b.space.classes.findMethod? c m.selector = some m) (hstale : ¬b.Stale r m)
    (himp : (b.space.classes.method? m).bind Method.implementation? = some imp) :
    (b.space.classes.lookup c m.selector).1 = some imp := by
  have hwalk : b.space.classes.walk c m.selector = some imp := by
    rw [ClassTable.walk, hm, Option.bind_some, himp]
  rw [ClassTable.fst_lookup_of_current, hwalk]
  intro imp' hfind
  by_contra hne
  exact hstale ⟨c, imp', hc, hfind, by rwa [himp, ← hwalk]⟩

/-- A message to an object is planned in the class of the object, once its name has a selector. -/
lemma run_plan_direct (hb : b.Intact) (hlive : b.Live r) (hc : b.space.isa? r.address = some c)
    (hrun : EStateM.run (selector ctx name) b = .ok sel b')
    (hclasses : b'.space.classes = b.space.classes) (hmemory : b'.space.memory = b.space.memory)
    (re : Reentry) (args : List Value) :
    EStateM.run (plan re ctx (.message .direct r ⟨name, args⟩)) b =
      EStateM.run (planMessage re ctx ⟨r, sel, c, false⟩ ⟨name, args⟩) b' := by
  have hroom : b'.HasRoom := by
    rw [Bridge.HasRoom, hclasses]
    exact hb.room
  have hreceiver : EStateM.run (receiverClass r) b' = .ok c b' :=
    run_receiverClass hroom (hclasses ▸ hb.closed) (hlive.congr hclasses hmemory)
      ((ObjectSpace.isa?_congr hclasses hmemory _).trans hc)
  have htarget : EStateM.run (target ctx r .direct name) b = .ok ⟨r, sel, c, false⟩ b' := by
    unfold target
    simp only
    rw [run_bind_ok hrun, run_bind_ok hreceiver]
    rfl
  unfold plan
  simp only
  rw [run_bind_ok htarget]

variable {i : Ivar} {e : Error}

/-- A class below a new root, which has a method and an instance variable of the same names as the root,
and an instance of it. -/
def layeredScene : Act (Option ObjectRef) := do
  let upper ← extend 0 none "Upper" 0
  upper.addIvar "isa" "#" none none
  upper.addIvar "x" "q" none none
  upper.addMethod "me" "q@:" (.literal (.int 1))
  let upper ← upper.register
  let lower ← extend 0 (some upper.classRef) "Lower" 0
  lower.addIvar "x" "i" none none
  lower.addMethod "me" "q@:" (.literal (.int 2))
  let lower ← lower.register
  createInstance 0 lower.classRef 0

/-- The state after that. -/
def layeredBridge : Bridge := layeredScene.after freshBridge

/-- The instance. -/
def layeredReceiver : ObjectRef := ⟨3, 0x40000000000, false⟩

lemma moves_layeredScene {R : Bridge → Bridge → Prop} [Hosting R] {b : Bridge} :
    Moves R layeredScene b :=
  (moves_extend 0 none _ 0).bind fun upper _ _ => (moves_addIvar upper _ _ _ _).bind fun _ _ _ =>
    (moves_addIvar upper _ _ _ _).bind fun _ _ _ =>
      (moves_addPendingMethod upper _ _ _).bind fun _ _ _ => (moves_register upper).bind fun upper _ _ =>
        (moves_extend 0 (some upper.classRef) _ 0).bind fun lower _ _ =>
          (moves_addIvar lower _ _ _ _).bind fun _ _ _ =>
            (moves_addPendingMethod lower _ _ _).bind fun _ _ _ =>
              (moves_register lower).bind fun _ _ _ => moves_createInstance 0 _ 0

lemma intact_layeredBridge : layeredBridge.Intact :=
  .of_tables (by decide +kernel) (by decide +kernel) (by decide +kernel)

lemma live_layeredReceiver : layeredBridge.Live layeredReceiver :=
  ⟨by decide, by decide +kernel, nofun⟩

end Act

end MessageBridge
