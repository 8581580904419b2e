import MessageBridge.Proofs.Bridge.Copies
import MessageBridge.Proofs.Bridge.Settling
import MessageBridge.Proofs.Bridge.Slots

/-!
# Lent buffers

What the object space is asked to list, and the texts that it cuts out of type strings, it hands out as
copies in buffers of its own. Whoever asked has to give each of them back, just once, whether the copy
could be made use of or not.

## Main definitions

* `Loans.Repaid` — what was lent since was given back, each buffer once, and nothing else was.
* `Loans.Balanced` — this holds of all that was ever lent.
* `Inquiry` — what a host asks for: what is there, types of methods, and calls.

## Main results

* `Inquiry.repaid_perform` — an inquiry that comes back has given back what it was lent.
* `Inquiry.buffers_repaid` — so has a run of inquiries, and the lists were in order all along.
* `Act.not_length_classes` — a list of classes may be shorter than the buffer that it was read from.
-/

namespace MessageBridge

/-! ## What is lent and given back -/

namespace Loans

variable {l l' l'' : Loans}

/-- **Repaid**: every buffer that was lent since was given back once, and no other one was. -/
structure Repaid (l l' : Loans) : Prop where
  le : l.lent ≤ l'.lent
  back : ∃ back, l'.returned = back ++ l.returned ∧
    back.Perm (List.range' l.lent (l'.lent - l.lent))

/-- **Balanced**: every buffer that was ever lent was given back once, and nothing else was. -/
def Balanced (l : Loans) : Prop := l.returned.Perm (List.range l.lent)

namespace Repaid

lemma refl (l : Loans) : l.Repaid l :=
  ⟨Nat.le_refl _, [], rfl, by rw [Nat.sub_self, List.range'_zero]⟩

lemma trans (h : l.Repaid l') (h' : l'.Repaid l'') : l.Repaid l'' := by
  obtain ⟨back, hback, hperm⟩ := h.back
  obtain ⟨back', hback', hperm'⟩ := h'.back
  refine ⟨h.le.trans h'.le, back' ++ back, by rw [hback', hback, List.append_assoc], ?_⟩
  have hsplit : List.range' l.lent (l''.lent - l.lent) =
      List.range' l.lent (l'.lent - l.lent) ++ List.range' l'.lent (l''.lent - l'.lent) := by
    have hle := h.le
    have hle' := h'.le
    have hstart : l.lent + (l'.lent - l.lent) = l'.lent := by omega
    have hlength : l'.lent - l.lent + (l''.lent - l'.lent) = l''.lent - l.lent := by omega
    rw [← hlength, ← List.range'_append_1, hstart]
  rw [hsplit]
  exact List.perm_append_comm.trans (hperm.append hperm')

/-- A loan within which everything is repaid is repaid at its end. -/
lemma within (h : l.lend.2.Repaid l') : l.Repaid (l'.takeBack l.lend.1) := by
  obtain ⟨back, hback, hperm⟩ := h.back
  have hle : l.lent + 1 ≤ l'.lent := h.le
  have hlength : l'.lent - l.lent = l'.lent - (l.lent + 1) + 1 := by omega
  refine ⟨Nat.le_of_succ_le hle, l.lent :: back, congrArg (l.lent :: ·) hback, ?_⟩
  change (l.lent :: back).Perm (List.range' l.lent (l'.lent - l.lent))
  rw [hlength, List.range'_succ]
  exact hperm.cons _

lemma borrow (l : Loans) : l.Repaid l.borrow := within (refl _)

lemma balanced (h : l.Repaid l') (hl : l.Balanced) : l'.Balanced := by
  obtain ⟨back, hback, hperm⟩ := h.back
  have hall : List.range l'.lent = List.range l.lent ++ List.range' l.lent (l'.lent - l.lent) := by
    have hstart := List.range'_append_1 (s := 0) (m := l.lent) (n := l'.lent - l.lent)
    rw [Nat.zero_add, Nat.add_sub_of_le h.le] at hstart
    rw [List.range_eq_range', List.range_eq_range', hstart]
  rw [Balanced, hback, hall]
  exact List.perm_append_comm.trans (hl.append hperm)

end Repaid

end Loans

/-- **Repaid**: the buffers that were lent since were given back. -/
def Bridge.Repaid (b b' : Bridge) : Prop := b.loans.Repaid b'.loans

namespace Bridge.Repaid

instance : Std.Refl Bridge.Repaid := ⟨fun b => .refl b.loans⟩

instance : IsTrans Bridge Bridge.Repaid := ⟨fun _ _ _ => Loans.Repaid.trans⟩

instance : Borrowing Bridge.Repaid where
  of_upkeep _ _ _ h := by
    rw [Bridge.Repaid, h]
    exact .refl _
  borrow b := .borrow b.loans

/-- **Running code** repays what it is lent. -/
instance : Running Bridge.Repaid where
  space _ := .refl _
  define _ _ := .refl _
  host _ := .refl _
  trace _ := .refl _
  pending _ _ := .refl _
  message ctx method m _ :=
    Act.moves_messageFrame (fun _ _ _ => .refl _) (fun m _ => Act.upkeep_methodTypes ctx m) method m
  function _ _ _ := Act.moves_frame (fun _ _ _ => .refl _) _ fun _ => Act.moves_pure _

end Bridge.Repaid

/-! ## The list of classes -/

namespace Act

variable {α β : Type} {x : Act α} {b b' : Bridge}

/-- A buffer that was lent for something that comes to an end is repaid. -/
lemma repaid_borrowing (hx : ∀ b, Moves Bridge.Repaid x b) {a : α}
    (h : EStateM.run (borrowing x) b = .ok a b') : b.Repaid b' := by
  obtain ⟨c, hrun, rfl⟩ := run_borrowing_eq_ok.mp h
  have hwithin := (hx { b with loans := b.loans.lend.2 }).step
  rw [after_of_ok hrun] at hwithin
  exact Loans.Repaid.within hwithin

lemma FaultsOnly.mapM {f : α → Act β} (h : ∀ a b, FaultsOnly (f a) b) (as : List α) (b : Bridge) :
    FaultsOnly (as.mapM f) b := by
  induction as generalizing b with
  | nil => exact faultsOnly_pure _
  | cons a as ih =>
    rw [List.mapM_cons]
    exact (h a b).bind fun _ _ _ => (ih _).bind fun _ _ _ => faultsOnly_pure _

lemma faultsOnly_wrapClassId (ctx : ContextId) (c : ClassId) (b : Bridge) :
    FaultsOnly (wrapClassId ctx c) b :=
  (faultsOnly_wrap ctx _).bind fun _ _ _ => faultsOnly_pure _

lemma FaultsOnly.borrowing (h : ∀ b, FaultsOnly x b) : FaultsOnly (borrowing x) b := by
  intro stop b' hstop
  rw [run_borrowing_eq] at hstop
  rcases run_bind_eq_error.mp hstop with hx | ⟨a, c, -, hback⟩
  · exact h _ stop b' hx
  · cases hback

/-- The classes are listed unless one of them cannot be read. -/
lemma faultsOnly_classes (ctx : ContextId) : FaultsOnly (classes ctx) b := by
  refine (faultsOnly_fromSpace _).bind fun cs b₁ _ => .ite (fun _ => faultsOnly_pure _) fun _ =>
    FaultsOnly.borrowing fun b₂ => ?_
  exact (FaultsOnly.mapM (faultsOnly_wrapClassId ctx) cs b₂).bind fun _ _ _ => faultsOnly_pure _

lemma repaid_classes {ctx : ContextId} {rs : List ObjectRef}
    (h : EStateM.run (classes ctx) b = .ok rs b') : b.Repaid b' := by
  unfold classes at h
  rw [run_bind_ok (run_fromSpace _), borrowList] at h
  split at h
  · cases h
    exact .refl _
  · exact repaid_borrowing (fun b => (Moves.mapM (fun _ _ => upkeep_wrapClass ctx _) _ b).bind
      fun _ _ _ => moves_pure _) h

end Act

/-! ## Inquiries -/

/-- **Inquiries**: what a host asks for that is there, what it asks about the types of methods, and the
calls that it makes. -/
inductive Inquiry where
  | classes (ctx : ContextId)
  | classList (ctx : ContextId)
  | classNamed (ctx : ContextId) (name : String)
  | protocols
  | protocolNamed (name : String)
  | classOf (ctx : ContextId) (r : ObjectRef)
  | classNameOf (r : ObjectRef)
  | className (r : ObjectRef)
  | superclassOf (ctx : ContextId) (r : ObjectRef)
  | instanceMethods (r : ObjectRef)
  | classSideMethods (ctx : ContextId) (r : ObjectRef)
  | instanceVariables (r : ObjectRef)
  | classSideVariables (ctx : ContextId) (r : ObjectRef)
  | instanceMethod (ctx : ContextId) (r : ObjectRef) (name : String)
  | classMethod (ctx : ContextId) (r : ObjectRef) (name : String)
  | instanceVariable (r : ObjectRef) (name : String)
  | classVariable (r : ObjectRef) (name : String)
  | instancesRespondTo (ctx : ContextId) (r : ObjectRef) (name : String)
  | protocolsOf (r : ObjectRef)
  | protocolName (p : ProtocolId)
  | protocolMethods (p : ProtocolId) (required instanceSide : Bool)
  | protocolConforms (p q : ProtocolId)
  | conformsTo (r : ObjectRef) (p : ProtocolId)
  | ancestors (ctx : ContextId) (r : ObjectRef)
  | respondsTo (ctx : ContextId) (r : ObjectRef) (name : String)
  | ivar (ctx : ContextId) (r : ObjectRef) (name : String)
  | ivarsOf (ctx : ContextId) (r : ObjectRef) (depth : Option Nat) (sort : Bool)
  | methodsOf (ctx : ContextId) (r : ObjectRef) (depth : Option Nat) (sort : Bool)
  | methodName (m : MethodRef)
  | typeString (ctx : ContextId) (m : MethodRef)
  | argumentCount (m : MethodRef)
  | returnType (m : MethodRef)
  | argumentType (m : MethodRef) (index : Nat)
  | argumentTypes (m : MethodRef)
  | methodTypes (ctx : ContextId) (m : MethodRef)
  | implementationOf (ctx : ContextId) (m : MethodRef)
  | setImplementation (ctx : ContextId) (m : MethodRef) (body : Body)
  /-- A message or a call of a function, within which calls are nested at most so many times. -/
  | call (ctx : ContextId) (depth : Nat) (d : Act.Dispatch)

namespace Act

/-- An action without its result. -/
def ignore {α : Type} (x : Act α) : Act Unit := x >>= fun _ => pure ()

lemma Moves.ignore {α : Type} {R : Bridge → Bridge → Prop} {x : Act α} {b : Bridge}
    (h : Moves R x b) : Moves R x.ignore b := h.bind fun _ _ _ => moves_pure _

end Act

namespace Inquiry

open Act

/-- Asks. -/
def perform : Inquiry → Act Unit
  | classes ctx => (Act.classes ctx).ignore
  | classList ctx => (Act.classList ctx).ignore
  | classNamed ctx name => (classNamed? ctx name).ignore
  | protocols => Act.protocols.ignore
  | protocolNamed name => (protocolNamed? name).ignore
  | classOf ctx r => (Act.classOf ctx r).ignore
  | classNameOf r => (Act.classNameOf r).ignore
  | className r => (Act.className r).ignore
  | superclassOf ctx r => (Act.superclassOf ctx r).ignore
  | instanceMethods r => (Act.instanceMethods r).ignore
  | classSideMethods ctx r => (Act.classSideMethods ctx r).ignore
  | instanceVariables r => (Act.instanceVariables r).ignore
  | classSideVariables ctx r => (Act.classSideVariables ctx r).ignore
  | instanceMethod ctx r name => (instanceMethod? ctx r name).ignore
  | classMethod ctx r name => (classMethod? ctx r name).ignore
  | instanceVariable r name => (instanceVariable? r name).ignore
  | classVariable r name => (classVariable? r name).ignore
  | instancesRespondTo ctx r name => (Act.instancesRespondTo ctx r name).ignore
  | protocolsOf r => (Act.protocolsOf r).ignore
  | protocolName p => (Act.protocolName p).ignore
  | protocolMethods p required instanceSide => (Act.protocolMethods p required instanceSide).ignore
  | protocolConforms p q => (Act.protocolConforms p q).ignore
  | conformsTo r p => (Act.conformsTo r p).ignore
  | ancestors ctx r => (Act.ancestors ctx r).ignore
  | respondsTo ctx r name => (Act.respondsTo ctx r name).ignore
  | ivar ctx r name => (Act.ivar ctx r name).ignore
  | ivarsOf ctx r depth sort => (Act.ivarsOf ctx r depth sort).ignore
  | methodsOf ctx r depth sort => (Act.methodsOf ctx r depth sort).ignore
  | methodName m => (Act.methodName m).ignore
  | typeString ctx m => (Act.typeString ctx m).ignore
  | argumentCount m => (Act.argumentCount m).ignore
  | returnType m => (Act.returnType m).ignore
  | argumentType m index => (Act.argumentType m index).ignore
  | argumentTypes m => (Act.argumentTypes m).ignore
  | methodTypes ctx m => (Act.methodTypes ctx m).ignore
  | implementationOf ctx m => (Act.implementationOf ctx m).ignore
  | setImplementation ctx m body => (Act.setImplementation ctx m body).ignore
  | call ctx depth d => (dispatch (.within depth) ctx d).ignore

variable {b : Bridge}

/-- All but one of the inquiries repay each buffer before they can stop. -/
lemma moves_perform {q : Inquiry} (hq : ∀ ctx, q ≠ classes ctx) :
    Moves Bridge.Repaid q.perform b := by
  cases q with
  | classes ctx => exact absurd rfl (hq ctx)
  | classList ctx => exact (upkeep_classList ctx).ignore
  | classNamed ctx name => exact (upkeep_classNamed? ctx name).ignore
  | protocols => exact upkeep_protocols.ignore
  | protocolNamed name => exact (moves_protocolNamed? name).ignore
  | classOf ctx r => exact (upkeep_classOf ctx r).ignore
  | classNameOf r => exact ((moves_readSpace _).bind fun _ _ _ => moves_fromSpace _).ignore
  | className r => exact (moves_className r).ignore
  | superclassOf ctx r => exact (upkeep_superclassOf ctx r).ignore
  | instanceMethods r => exact (upkeep_instanceMethods r).ignore
  | classSideMethods ctx r => exact (upkeep_classSideMethods ctx r).ignore
  | instanceVariables r => exact (upkeep_instanceVariables r).ignore
  | classSideVariables ctx r => exact (upkeep_classSideVariables ctx r).ignore
  | instanceMethod ctx r name => exact (upkeep_instanceMethod? ctx r name).ignore
  | classMethod ctx r name => exact (upkeep_classMethod? ctx r name).ignore
  | instanceVariable r name | classVariable r name =>
    exact ((moves_checkName name).bind fun _ _ _ => (moves_readSpace _).bind fun _ _ _ =>
      moves_fromSpace _).ignore
  | instancesRespondTo ctx r name =>
    exact ((upkeep_instanceMethod? ctx r name).bind fun _ _ _ => moves_pure _).ignore
  | protocolsOf r => exact (upkeep_protocolsOf r).ignore
  | protocolName p => exact (moves_fromSpace _).ignore
  | protocolMethods p required instanceSide => exact (upkeep_protocolMethods p _ _).ignore
  | protocolConforms p q => exact ((moves_fromSpace _).bind fun _ _ _ => moves_require _ _).ignore
  | conformsTo r p =>
    exact ((moves_readSpace _).bind fun _ _ _ => (moves_fromSpace _).bind fun _ _ _ =>
      moves_require _ _).ignore
  | ancestors ctx r => exact (upkeep_ancestors ctx r).ignore
  | respondsTo ctx r name => exact (upkeep_respondsTo ctx r name).ignore
  | ivar ctx r name => exact (upkeep_ivar ctx r name).ignore
  | ivarsOf ctx r depth sort => exact (upkeep_ivarsOf ctx r depth sort).ignore
  | methodsOf ctx r depth sort => exact (upkeep_methodsOf ctx r depth sort).ignore
  | methodName m => exact (moves_fromSpace _).ignore
  | typeString ctx m => exact (moves_typeString ctx m).ignore
  | argumentCount m => exact ((moves_typeTokens m).bind fun _ _ _ => moves_pure _).ignore
  | returnType m => exact (moves_returnType Borrowing.borrow m).ignore
  | argumentType m index => exact (moves_argumentType Borrowing.borrow m index).ignore
  | argumentTypes m => exact (moves_argumentTypes Borrowing.borrow m).ignore
  | methodTypes ctx m => exact (upkeep_methodTypes ctx m).ignore
  | implementationOf ctx m =>
    exact (moves_implementationOf fun _ => upkeep_methodTypes ctx m).ignore
  | setImplementation ctx m body =>
    exact (moves_setImplementation (fun _ => upkeep_methodTypes ctx m) body).ignore
  | call ctx depth d => exact (moves_call depth ctx d).ignore

/-- **An inquiry that comes back** has given back what it was lent. -/
lemma repaid_perform (q : Inquiry) (h : returns q.perform b = true) :
    b.Repaid (q.perform.after b) := by
  by_cases hq : ∃ ctx, q = classes ctx
  · obtain ⟨ctx, rfl⟩ := hq
    cases hrun : EStateM.run (Act.classes ctx) b with
    | ok rs b' =>
      have hignore : EStateM.run (classes ctx).perform b = .ok () b' := run_bind_ok hrun
      rw [after_of_ok hignore]
      exact repaid_classes hrun
    | error stop b' =>
      -- the classes are listed, or one of them cannot be read
      have hignore : EStateM.run (classes ctx).perform b = .error stop b' := run_bind_error hrun
      obtain ⟨e, rfl⟩ := (returns_of_error hignore).mp h
      obtain ⟨g, hg⟩ := faultsOnly_classes ctx _ _ hrun
      cases hg
  · exact (moves_perform fun ctx hctx => hq ⟨ctx, hctx⟩).step

/-! ### Runs -/

/-- The state after the inquiries. -/
def run (b : Bridge) : List Inquiry → Bridge
  | [] => b
  | q :: qs => run (q.perform.after b) qs

/-- Whether each of the inquiries comes back. -/
def returnsAll (b : Bridge) : List Inquiry → Bool
  | [] => true
  | q :: qs => returns q.perform b && returnsAll (q.perform.after b) qs

/-- **Each repays** what it was lent, and nothing else, before the next one is made. -/
def EachRepays (b : Bridge) : List Inquiry → Prop
  | [] => True
  | q :: qs => b.Repaid (q.perform.after b) ∧ EachRepays (q.perform.after b) qs

lemma eachRepays_of_returnsAll {qs : List Inquiry} (h : returnsAll b qs = true) :
    EachRepays b qs := by
  induction qs generalizing b with
  | nil => trivial
  | cons q qs ih =>
    obtain ⟨hq, hqs⟩ := Bool.and_eq_true_iff.mp h
    exact ⟨q.repaid_perform hq, ih hqs⟩

lemma EachRepays.repaid {qs : List Inquiry} (h : EachRepays b qs) : b.Repaid (run b qs) := by
  induction qs generalizing b with
  | nil => exact .refl _
  | cons q qs ih => exact h.1.trans (ih h.2)

/-- **Buffers are repaid**: each of the inquiries gives back the buffers that it was lent, just once and
no others, and the lists that are answered are in order in every state on the way. -/
theorem buffers_repaid (b : Bridge) (qs : List Inquiry) (h : returnsAll b qs = true) :
    EachRepays b qs ∧ b.Repaid (run b qs) ∧ (b.loans.Balanced → (run b qs).loans.Balanced) ∧
      ∀ asked, asked <+: qs → (run b asked).ListsInOrder := by
  have heach := eachRepays_of_returnsAll h
  exact ⟨heach, heach.repaid, heach.repaid.balanced, fun asked _ => (run b asked).listsInOrder⟩

/-- Lists, one of which is empty, the types of a method, an argument that it does not have, and the
types of a method that is not there. -/
def someInquiries : List Inquiry :=
  let isEqual : MethodRef := ⟨⟨1⟩, ⟨4⟩⟩
  [.classes 0, .protocols, .instanceMethods ⟨0, ClassId.address ⟨3⟩, true⟩, .methodTypes 0 isEqual,
    .argumentType isEqual 7, .methodTypes 0 ⟨⟨1⟩, ⟨17⟩⟩]

/-- Two lists and four types are lent and given back. -/
theorem buffers_repaid_some :
    returnsAll freshBridge someInquiries = true ∧
      (run freshBridge someInquiries).loans = ⟨6, [5, 4, 3, 2, 1, 0]⟩ ∧
      EachRepays freshBridge someInquiries := by
  have hreturns : returnsAll freshBridge someInquiries = true := by decide +kernel
  exact ⟨hreturns, by decide +kernel, (buffers_repaid freshBridge someInquiries hreturns).1⟩

end Inquiry

/-! ## A class that is none -/

namespace Act

/-- A bridge with two contexts. -/
def twinBridge : Bridge := (freshBridge.openContext {} {}).2

/-- A new root, which is made an instance of another class afterwards. -/
def demotion : Act Unit := do
  let upper ← extend 0 none "Upper" 0
  let upper ← upper.register
  match ← classNamed? 0 "Object" with
  | some root => let _ ← setClass 0 upper.classRef root
  | none => pure ()

/-- The state after that. -/
def demotedBridge : Bridge := demotion.after twinBridge

lemma reachable_demotedBridge : demotedBridge.Reachable := by
  have hopened : twinBridge.Reachable :=
    (Bridge.Reachable.start.step (.openContext {} {})).step (.openContext {} {})
  refine hopened.of_moves ?_
  refine (moves_extend 0 none _ 0).toHost.bind fun upper _ _ =>
    (moves_register upper).bind fun upper _ _ => (upkeep_classNamed? 0 _).bind fun root _ _ => ?_
  split
  · exact (moves_setClass 0 _ _).bind fun _ _ _ => moves_pure _
  · exact moves_pure _

/-- **A class that is left out**: a context takes a class for none that is no instance of a metaclass,
if it has no reference for it yet. -/
theorem not_length_classes : ¬ ∀ b : Bridge, b.Reachable → ∀ ctx rs b',
    EStateM.run (classes ctx) b = .ok rs b' →
      rs.length = b.space.classes.registeredClasses.length := by
  intro hall
  have hends : (classes 1).endsWith (fun rs _ => rs.length == 2) demotedBridge = true := by
    decide +kernel
  obtain ⟨rs, b', hrun, hlength⟩ := exists_of_endsWith hends
  have hregistered : demotedBridge.space.classes.registeredClasses.length = 3 := by decide +kernel
  rw [hall _ reachable_demotedBridge 1 rs b' hrun, hregistered] at hlength
  cases hlength

end Act

end MessageBridge
