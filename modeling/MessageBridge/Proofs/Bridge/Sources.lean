import MessageBridge.Proofs.Bridge.Circles
import MessageBridge.Proofs.Bridge.Resolution
import MessageBridge.Proofs.Marshal.SideBySide

/-!
# More metadata

Metadata that is added comes behind the metadata that is there, and is asked after it. But names are
looked up kind by kind: a constant of the last source comes before an enumerator of the first one. So
more metadata can change what a name stands for, unless the name was resolved before.

## Main definitions

* `Bridge.describe` — the state after metadata was added to a context.
* `Act.CarriesOver` — an action that ends well would have ended in the same way with the metadata
  there.
* `Metadata.Outranks` — the metadata knows the name as something that is asked for earlier.

## Main results

* `Act.CarriesOver.withStructs` — so does every translation, with all that it loads.
* `Act.resolve_addMetadata` — a name stands for what it did, just if it is not outranked.
-/

namespace MessageBridge

variable {α β : Type} {b b' b₁ : Bridge} {ctx : ContextId} {T : Metadata} {name : String}
  {r : Resolved} {memo : List (String × Resolved)}

/-! ## States with more metadata -/

namespace Context

/-- The context with metadata added. -/
def describe (T : Metadata) (c : Context) : Context := { c with sources := c.sources ++ [T] }

/-- The context without its metadata. -/
def undescribed (c : Context) : Context := { c with sources := [] }

end Context

namespace Bridge

/-- The state after metadata was added to a context. -/
def describe (b : Bridge) (ctx : ContextId) (T : Metadata) : Bridge :=
  { b with contexts := b.contexts.modify ctx (Context.describe T) }

/-- Contexts differ in no more than their metadata. -/
lemma undescribed_contextAt (b : Bridge) (ctx i : ContextId) (T : Metadata) :
    ((b.describe ctx T).contextAt i).undescribed = (b.contextAt i).undescribed :=
  b.view_contextAt_modify Context.undescribed (fun _ => by rfl) ctx i

lemma sources_describe (h : ctx < b.contexts.size) (T : Metadata) :
    ((b.describe ctx T).contextAt ctx).sources = (b.contextAt ctx).sources ++ [T] := by
  rw [describe, contextAt_modify_self h, Context.describe]

/-- **The metadata that is there** comes first. -/
lemma sources_prefix (b : Bridge) (ctx : ContextId) (T : Metadata) :
    (b.contextAt ctx).sources <+: ((b.describe ctx T).contextAt ctx).sources := by
  by_cases h : ctx < b.contexts.size
  · rw [sources_describe h]
    exact List.prefix_append _ _
  · have hnone : b.contextAt ctx = default := by
      rw [contextAt, Array.getElem?_eq_none (Nat.le_of_not_lt h), Option.getD_none]
    rw [hnone]
    exact List.nil_prefix

lemma translatorAt_describe (b : Bridge) (ctx : ContextId) (T : Metadata) :
    (b.describe ctx T).translatorAt ctx = b.translatorAt ctx :=
  b.view_contextAt_modify Context.translator (fun _ => by rfl) ctx ctx

/-- A struct that is described stays described as it was. -/
lemma encodingOf?_describe {n e : String} (h : b.encodingOf? ctx n = some e) :
    (b.describe ctx T).encodingOf? ctx n = some e :=
  (b.sources_prefix ctx T).findSome?_eq_some h

lemma length_entries_le (b : Bridge) (ctx : ContextId) (T : Metadata) :
    (b.entries ctx).length ≤ ((b.describe ctx T).entries ctx).length := by
  obtain ⟨more, hmore⟩ := b.sources_prefix ctx T
  rw [entries, entries, ← hmore, List.flatMap_append, List.length_append]
  exact Nat.le_add_right _ _

lemma resolved?_describe (b : Bridge) (ctx : ContextId) (T : Metadata) :
    (b.describe ctx T).resolved? = b.resolved? :=
  funext fun i => b.view?_modify Context.resolved (by exact fun _ => rfl) ctx i

/-- Answers are remembered beside the metadata. -/
lemma settle_describe (b : Bridge) (ctx : ContextId) (T : Metadata) (name : String) (r : Resolved) :
    (b.describe ctx T).settle ctx name r = (b.settle ctx name r).describe ctx T :=
  congrArg (fun contexts => { b with contexts })
    (modify_comm (f := Context.describe T) (fun _ _ => by rfl) b.contexts)

end Bridge

/-! ## Actions that metadata makes no difference to -/

/-- The states without the metadata and with it are alike. -/
def Metadata.likeness (T : Metadata) (ctx : ContextId) : Likeness :=
  ⟨fun b c => c = b.describe ctx T, fun _ => False⟩

namespace Act

/-- **Carries over**: where the action ends well, it does so with the metadata there as well, with the
same result and in the state that the metadata is added to. -/
def CarriesOver (T : Metadata) (ctx : ContextId) (x : Act α) : Prop :=
  ∀ b a b', EStateM.run x b = .ok a b' →
    EStateM.run x (b.describe ctx T) = .ok a (b'.describe ctx T)

section Unseen

variable {x : Act α}

/-- What does not see the metadata carries over. -/
lemma Blind.carriesOver (h : Blind (T.likeness ctx) x) : CarriesOver T ctx x := by
  intro b a b' hrun
  have hmatch := h.ends b _ rfl
  rw [hrun] at hmatch
  generalize hc : EStateM.run x (b.describe ctx T) = r at hmatch
  cases hmatch with
  | ok h =>
    cases h
    rfl
  | lost h => exact h.elim

lemma unseen_fromSpace (g : ObjectSpace → α) : Blind (T.likeness ctx) (fromSpace g) :=
  .of_ends (fun _ h => h) fun b c h => by
    cases h
    exact .ok rfl

lemma unseen_readSpace (g : ObjectSpace → Option α) : Blind (T.likeness ctx) (readSpace g) :=
  .get (fun b c h => by
    cases h
    rfl) fun _ => .require _ _

/-- What a context is asked for, apart from its metadata. -/
lemma unseen_context {i : ContextId} {f : Context → Act α} (hf : ∀ x, f x = f x.undescribed)
    (hf' : ∀ x, Blind (T.likeness ctx) (f x)) : Blind (T.likeness ctx) (context i >>= f) := by
  refine .of_ends (fun _ h => h.elim) fun b c h => ?_
  cases h
  rw [run_bind_ok (run_context i), run_bind_ok (run_context i), hf (b.contextAt i),
    hf ((b.describe ctx T).contextAt i), b.undescribed_contextAt]
  exact (hf' _).ends b _ rfl

/-- A change of a context that leaves its metadata alone. -/
lemma unseen_modifyContext {i : ContextId} {f : Context → Context}
    (hf : ∀ x, f (x.describe T) = (f x).describe T) :
    Blind (T.likeness ctx) (modifyContext i f) := by
  refine .modify (fun b c h => ?_) fun _ h => h
  cases h
  exact congrArg (fun contexts => { b with contexts })
    (Bridge.modify_comm (f := Context.describe T) (fun _ => hf) b.contexts)

lemma unseen_newRef (i : ContextId) (a : Address) (isClass : Bool) :
    Blind (T.likeness ctx) (newRef i a isClass) := by
  refine .get (fun b c h => ?_) fun b => Blind.bind (.modify (fun b c h => ?_) fun _ h => h) fun _ =>
    (unseen_modifyContext (by exact fun _ => rfl)).bind fun _ => .pure _
  · cases h
    rfl
  · cases h
    rfl

/-- **The same references** are given out. -/
lemma unseen (i : ContextId) : ReadsAlike (T.likeness ctx) i where
  space := unseen_fromSpace
  read := unseen_readSpace
  cached _ := (unseen_fromSpace _).bind fun _ => unseen_context (fun _ => rfl) fun _ => .pure _
  newRef := unseen_newRef i

lemma unseen_classNamed? (i : ContextId) (name : String) :
    Blind (T.likeness ctx) (classNamed? i name) := by
  refine unseen_context (fun _ => rfl) fun x => ?_
  split
  · exact .pure _
  · refine Blind.bind (.ite (.fail _) (.pure _)) fun _ => (unseen_fromSpace _).bind fun c => ?_
    split
    · exact (unseen i).wrapClass _
    · exact .pure _

lemma unseen_symbol? (i : ContextId) (name : String) : Blind (T.likeness ctx) (symbol? i name) :=
  unseen_context (fun _ => rfl) fun _ => .pure _

lemma unseen_constantBytes (i : ContextId) (name : String) (d : Descriptor) (c : Constant) :
    Blind (T.likeness ctx) (constantBytes i name d c) := by
  unfold constantBytes
  split
  · exact .pure _
  · refine (unseen_symbol? i name).bind fun s => ?_
    split
    · exact .fail _
    · exact .fault _
    · exact .ite (.pure _) (.fault _)

end Unseen

/-! ## Translations -/

namespace CarriesOver

variable {x : Act α} {g : α → Act β} {f : Translator → Except Error α}

lemma bind (hx : CarriesOver T ctx x) (hg : ∀ a, CarriesOver T ctx (g a)) :
    CarriesOver T ctx (x >>= g) := by
  intro b r b' h
  obtain ⟨a, b₁, hrun, h⟩ := run_bind_eq_ok.mp h
  rw [run_bind_ok (hx b a b₁ hrun)]
  exact hg a b₁ r b' h

/-- **Translating again and again**: what the metadata has an encoding for is found where it was. -/
lemma retrying {register : String → Act Layout} (hregister : ∀ e, CarriesOver T ctx (register e))
    (f : Translator → Except Error α) (lookups : Nat) :
    CarriesOver T ctx (retrying register ctx f lookups) := by
  intro b a b' h
  induction lookups using Nat.strong_induction_on generalizing b with
  | _ lookups ih =>
    have htranslator := b.translatorAt_describe ctx T
    rcases stuck_or_missing f ctx lookups b with hstuck | ⟨k, n, e, rfl, hf, he⟩
    · rw [run_retrying_of_stuck hstuck] at h
      obtain ⟨hf, rfl⟩ := run_ofExcept_eq_ok.mp h
      exact run_retrying_of_ok (htranslator.symm ▸ hf :) _
    · rw [run_retrying_of_missing hf he] at h
      obtain ⟨l, b₁, hrun, h⟩ := run_bind_eq_ok.mp h
      rw [run_retrying_of_missing (htranslator ▸ hf) (Bridge.encodingOf?_describe he),
        run_bind_ok (hregister e b l b₁ hrun)]
      exact ih k (Nat.lt_succ_self k) b₁ h

lemma registerWithin (depth : Nat) (e : String) : CarriesOver T ctx (registerWithin ctx depth e) := by
  induction depth generalizing e with
  | zero => exact fun _ _ _ h => by cases h
  | succ depth ih =>
    exact (retrying ih _ _).bind fun l =>
      (unseen_modifyContext (by exact fun _ => rfl)).carriesOver.bind fun _ =>
        (Blind.pure l).carriesOver

/-- **A translation** that ends well may nest loads deeper with more metadata, and does not. -/
theorem withStructs (f : Translator → Except Error α) : CarriesOver T ctx (withStructs ctx f) := by
  intro b a b' h
  unfold Act.withStructs at h ⊢
  rw [run_bind_ok run_loadingDepth] at h ⊢
  have hlength := Nat.succ_le_succ (b.length_entries_le ctx T)
  refine retrying (registerWithin _) f _ b a b' ?_
  rw [← h]
  refine run_retrying_congr (fun e b hends => ?_) fun ⟨_, hends⟩ => ?_
  · exact run_registerWithin_of_le (Nat.mul_le_mul hlength hlength) hends
  · rw [h] at hends
    cases hends

lemma constantValue (name : String) (c : Constant) : CarriesOver T ctx (constantValue ctx name c) :=
  (withStructs _).bind fun d => (unseen_constantBytes ctx name d c).carriesOver.bind fun bytes =>
    ((unseen ctx).decodeShape bytes d.shape).carriesOver

lemma functionNamed (name : String) (type : FunctionType) :
    CarriesOver T ctx (functionNamed ctx name type) := by
  refine (withStructs _).bind fun s => (unseen_symbol? ctx name).carriesOver.bind fun found => ?_
  split
  · exact (Blind.pure _).carriesOver
  · exact (Blind.pure _).carriesOver
  · exact (Blind.fail _).carriesOver

end CarriesOver

end Act

/-! ## Names -/

/-- **Outranks**: the metadata knows the name as something that is asked for before what the name
stands for. -/
def Metadata.Outranks (T : Metadata) (name : String) : Resolved → Prop
  | .classRef _ | .constant _ => False
  | .enumerator _ => T.constant? name ≠ none
  | .function _ => T.constant? name ≠ none ∨ T.enumerator? name ≠ none

lemma Earliest.append {know : Metadata → Option β} {sources : List Metadata} {x : β}
    (h : Earliest know sources x) (more : List Metadata) : Earliest know (sources ++ more) x := by
  obtain ⟨front, s, back, rfl, hs, hfront⟩ := h
  exact ⟨front, s, back ++ more, by rw [List.append_assoc, List.cons_append], hs, hfront⟩

/-- What no other metadata knows. -/
lemma earliest_last {know : Metadata → Option β} {sources : List Metadata} {x : β}
    (h : ∀ s ∈ sources, know s = none) (hT : know T = some x) : Earliest know (sources ++ [T]) x :=
  ⟨sources, T, [], rfl, hT, h⟩

lemma none_append {know : Metadata → Option β} {sources : List Metadata}
    (h : ∀ s ∈ sources, know s = none) (hT : know T = none) :
    ∀ s ∈ sources ++ [T], know s = none :=
  List.forall_mem_append.mpr ⟨h, List.forall_mem_singleton.mpr hT⟩

namespace Act

variable {sources : List Metadata}

/-- **Consulting more metadata** ends as before, unless the answer is outranked. -/
lemma run_consult_append (hr : ¬ T.Outranks name r)
    (h : EStateM.run (consult ctx name sources) b = .ok r b') :
    EStateM.run (consult ctx name (sources ++ [T])) (b.describe ctx T) =
      .ok r (b'.describe ctx T) := by
  have hx : Consults ctx name sources (consult ctx name sources) := consults_iff.mpr rfl
  generalize consult ctx name sources = x at h hx
  cases hx with
  | constant hc =>
    rw [← consults_iff.mp (.constant (hc.append [T]))]
    exact ((CarriesOver.constantValue name _).bind fun _ => (Blind.pure _).carriesOver) b r b' h
  | enumerator hconstant hv =>
    cases h
    have hT : T.constant? name = none := not_not.mp hr
    rw [← consults_iff.mp (.enumerator (none_append hconstant hT) (hv.append [T]))]
    rfl
  | function hconstant henumerator hf =>
    have h' := ((CarriesOver.functionNamed (T := T) name _).bind
      fun _ => (Blind.pure _).carriesOver) b r b' h
    obtain ⟨f, b₁, -, hpure⟩ := run_bind_eq_ok.mp h
    cases hpure
    obtain ⟨hT, hT'⟩ := not_or.mp hr
    rw [← consults_iff.mp (.function (none_append hconstant (not_not.mp hT))
      (none_append henumerator (not_not.mp hT')) (hf.append [T]))]
    exact h'
  | unknown => cases h

/-- **An answer that is outranked** is not given. -/
lemma ne_ok_of_outranks (hr : T.Outranks name r)
    (h : EStateM.run (consult ctx name sources) b = .ok r b') (c c' : Bridge) :
    EStateM.run (consult ctx name (sources ++ [T])) c ≠ .ok r c' := by
  have hx : Consults ctx name sources (consult ctx name sources) := consults_iff.mpr rfl
  generalize consult ctx name sources = x at h hx
  -- a constant is the answer if the new metadata knows one and the old does not
  have hanswer {k : Constant} (hconstant : ∀ s ∈ sources, s.constant? name = none)
      (hk : T.constant? name = some k)
      (h : EStateM.run (consult ctx name (sources ++ [T])) c = .ok r c') :
      ∃ v, r = .constant v := by
    rw [← consults_iff.mp (.constant (earliest_last hconstant hk))] at h
    obtain ⟨v, c₁, -, hpure⟩ := run_bind_eq_ok.mp h
    cases hpure
    exact ⟨v, rfl⟩
  intro h'
  cases hx with
  | constant =>
    obtain ⟨v, b₁, -, hpure⟩ := run_bind_eq_ok.mp h
    cases hpure
    exact hr
  | enumerator hconstant =>
    cases h
    obtain ⟨k, hk⟩ := Option.ne_none_iff_exists'.mp hr
    obtain ⟨v, hv⟩ := hanswer hconstant hk h'
    cases hv
  | function hconstant henumerator =>
    obtain ⟨f, b₁, -, hpure⟩ := run_bind_eq_ok.mp h
    cases hpure
    cases hT : T.constant? name with
    | some k =>
      obtain ⟨v, hv⟩ := hanswer hconstant hT h'
      cases hv
    | none =>
      obtain ⟨value, hvalue⟩ := Option.ne_none_iff_exists'.mp (hr.resolve_left (not_not.mpr hT))
      rw [← consults_iff.mp (.enumerator (none_append hconstant hT)
        (earliest_last henumerator hvalue))] at h'
      cases h'
  | unknown => cases h

lemma lt_size_of_resolved? (h : b.resolved? ctx = some memo) : ctx < b.contexts.size := by
  obtain ⟨c, hc, -⟩ := Option.map_eq_some_iff.mp h
  exact (Array.getElem?_eq_some_iff.mp hc).1

/-- **Looking a name up** with more metadata ends as before, just if the answer is not outranked. -/
lemma run_resolveNow_describe (hctx : ctx < b.contexts.size)
    (h : EStateM.run (resolveNow ctx name) b = .ok r b₁) :
    (¬ T.Outranks name r →
      EStateM.run (resolveNow ctx name) (b.describe ctx T) = .ok r (b₁.describe ctx T)) ∧
    (T.Outranks name r → ∀ b₂, EStateM.run (resolveNow ctx name) (b.describe ctx T) ≠ .ok r b₂) := by
  rw [run_resolveNow] at h ⊢
  cases hclass : EStateM.run (classNamed? ctx name) b with
  | error stop b₂ =>
    rw [hclass] at h
    cases h
  | ok found b₂ =>
    have hclass' : EStateM.run (classNamed? ctx name) (b.describe ctx T) =
        .ok found (b₂.describe ctx T) := (unseen_classNamed? ctx name).carriesOver b found b₂ hclass
    rw [hclass] at h
    rw [hclass']
    cases found with
    | some c =>
      cases h
      exact ⟨fun _ => rfl, fun hr => hr.elim⟩
    | none =>
      rw [Bridge.sources_describe hctx]
      exact ⟨fun hr => run_consult_append hr h, fun hr b₃ => ne_ok_of_outranks hr h _ b₃⟩

/-- **More metadata**: a name that was resolved before it was added stands for what it did. A name
that would have been resolved stands for the same with it, just if the metadata does not know the name
as something that is asked for earlier. -/
theorem resolve_addMetadata (T : Metadata) (hmemo : b.resolved? ctx = some memo)
    (hname : memo.lookup name = none) (h : EStateM.run (resolve ctx name) b = .ok r b₁) :
    EStateM.run (do addMetadata ctx T; resolve ctx name) b₁ = .ok r (b₁.describe ctx T) ∧
      (¬ T.Outranks name r →
        EStateM.run (do addMetadata ctx T; resolve ctx name) b = .ok r (b₁.describe ctx T)) ∧
      (T.Outranks name r →
        ∀ b₂, EStateM.run (do addMetadata ctx T; resolve ctx name) b ≠ .ok r b₂) := by
  have hadd (b : Bridge) : EStateM.run (do addMetadata ctx T; resolve ctx name) b =
      EStateM.run (resolve ctx name) (b.describe ctx T) := rfl
  have hmemo' : (b.describe ctx T).resolved? ctx = some memo := by rwa [b.resolved?_describe]
  rw [run_resolve_of_none hmemo hname] at h
  cases hnow : EStateM.run (resolveNow ctx name) b with
  | error stop b₂ =>
    rw [hnow] at h
    cases h
  | ok r' b₂ =>
    rw [hnow] at h
    cases h
    obtain ⟨hkept, hlost⟩ := run_resolveNow_describe (T := T) (lt_size_of_resolved? hmemo) hnow
    have hafter := congrFun (resolved?_of_resolveNow ctx name b) ctx
    rw [after_of_ok hnow, hmemo] at hafter
    refine ⟨?_, fun hr => ?_, fun hr b₃ h => ?_⟩
    · have hsettled : ((b₂.settle ctx name r).describe ctx T).resolved? ctx =
          some ((name, r) :: memo) := by
        rw [Bridge.resolved?_describe]
        exact Bridge.resolved?_settle_self hafter
      rw [hadd]
      exact run_resolve_of_some hsettled List.lookup_cons_self
    · rw [hadd, run_resolve_of_none hmemo' hname, hkept hr]
      exact congrArg _ (b₂.settle_describe ctx T name r)
    · rw [hadd, run_resolve_of_none hmemo' hname] at h
      cases hnow' : EStateM.run (resolveNow ctx name) (b.describe ctx T) with
      | error stop b₄ =>
        rw [hnow'] at h
        cases h
      | ok r' b₄ =>
        rw [hnow'] at h
        cases h
        exact hlost hr b₄ hnow'

/-! ### An enumerator and a constant of one name -/

/-- A state with one context, the metadata of which knows an enumerator. -/
def enumerated : Bridge :=
  ((default : Bridge).openContext {} {}).2.describe 0 ⟨"first", [], [], [], [("Late", 1)]⟩

/-- Metadata that knows a constant of the same name. -/
def lateConstant : Metadata := ⟨"second", [("Late", ⟨"i", some [9, 0, 0, 0]⟩)], [], [], []⟩

/-- Whether a name stands for the enumerator. -/
def isOne : Resolved → Bool
  | .enumerator value => value == 1
  | _ => false

lemma exists_run_enumerated :
    ∃ b₁, EStateM.run (resolve 0 "Late") enumerated = .ok (.enumerator 1) b₁ := by
  have hends : (resolve 0 "Late").endsWith (fun r _ => isOne r) enumerated = true := by
    decide +kernel
  obtain ⟨r, b₁, hrun, hr⟩ := exists_of_endsWith hends
  unfold isOne at hr
  split at hr
  · exact ⟨b₁, by rw [hrun, eq_of_beq hr]⟩
  · cases hr

/-- The constant outranks the enumerator, if the name was not resolved before. -/
theorem resolve_addMetadata_enumerated :
    ∃ b₁, EStateM.run (resolve 0 "Late") enumerated = .ok (.enumerator 1) b₁ ∧
      EStateM.run (do addMetadata 0 lateConstant; resolve 0 "Late") b₁ =
        .ok (.enumerator 1) (b₁.describe 0 lateConstant) ∧
      ∀ b₂, EStateM.run (do addMetadata 0 lateConstant; resolve 0 "Late") enumerated ≠
        .ok (.enumerator 1) b₂ := by
  obtain ⟨b₁, hrun⟩ := exists_run_enumerated
  have hmemo : enumerated.resolved? 0 = some [] := by rfl
  obtain ⟨hbefore, -, hafter⟩ :=
    resolve_addMetadata lateConstant hmemo (by rfl) hrun
  have houtranks : lateConstant.constant? "Late" ≠ none := by decide
  exact ⟨b₁, hrun, hbefore, hafter houtranks⟩

/-- **More metadata is seen**: not every name stands for what it stood for without it. -/
theorem not_resolve_addMetadata_same :
    ¬ ∀ (b b₁ : Bridge) (ctx : ContextId) (name : String) (T : Metadata) (r : Resolved)
      (memo : List (String × Resolved)), b.resolved? ctx = some memo → memo.lookup name = none →
        EStateM.run (resolve ctx name) b = .ok r b₁ →
          ∃ b₂, EStateM.run (do addMetadata ctx T; resolve ctx name) b = .ok r b₂ := by
  intro h
  obtain ⟨b₁, hrun⟩ := exists_run_enumerated
  obtain ⟨b₂, hsame⟩ := h enumerated b₁ 0 "Late" lateConstant _ [] (by rfl) (by rfl) hrun
  have hends : (do addMetadata 0 lateConstant; resolve 0 "Late" : Act Resolved).endsWith
      (fun r _ => !isOne r) enumerated = true := by decide +kernel
  obtain ⟨r, b₃, hother, hr⟩ := exists_of_endsWith hends
  rw [hsame] at hother
  cases hother
  cases hr

end Act

end MessageBridge
