import Mathlib.Data.Finset.Card
import MessageBridge.Proofs.Bridge.Introspection

/-!
# Interning

Every context has its own table of the selectors that it was asked for, above the one table of the
runtime, in which the runtime also puts names of its own. Everything that looks a method up compares
selectors and not names, so that what two contexts hand out for one name at different times had better
be one selector, and never one that another name has.

This module follows every name that gets a selector, from the state in which nothing has been done yet,
and compares the selectors of any two of them.

## Main definitions

* `Interned` — a name that got a selector, and the context that was asked for it.
* `Interning` — the runs in which names get selectors, while a host does anything else in between.
* `Asking` — one step of what a host does, as far as selectors are concerned.
* `Faithful` — selectors stand for names.

## Main results

* `Interning.faithful` — selectors stand for names in every run.
* `Interning.steps`, `Interning.exists_of_call` — whatever a host does is part of such a run.
-/

namespace MessageBridge

open Relation Act

variable {b b' : Bridge} {ctx : ContextId} {name : String} {sel : Selector}

/-! ## What a context remembers -/

/-- The names that the context remembers selectors of. -/
def Bridge.asked (b : Bridge) (ctx : ContextId) : List String :=
  (b.contextAt ctx).selectors.map Prod.fst

/-- **An answer** is one that the context remembers, and then nothing happens, or the context remembers
it from then on. -/
lemma Act.run_selector_eq_ok (h : EStateM.run (selector ctx name) b = .ok sel b') :
    name ∈ b.asked ctx ∧ b' = b ∨
      name ∉ b.asked ctx ∧ Text.hasNul name = false ∧
        b' = { b with
          space := (b.space.intern name).2
          contexts := b.contexts.modify ctx fun c =>
            { c with selectors := (name, sel) :: c.selectors } } := by
  unfold selector at h
  rw [run_bind_ok (run_context ctx)] at h
  split at h
  · next hlookup =>
    cases h
    obtain ⟨l₁, l₂, hmem, -⟩ := List.lookup_eq_some_iff.mp hlookup
    exact .inl ⟨List.mem_map.mpr ⟨(name, sel), by simp [hmem], rfl⟩, rfl⟩
  · next hlookup =>
    obtain ⟨_, b₁, hcheck, h⟩ := run_bind_eq_ok.mp h
    obtain ⟨sel', b₂, hintern, h⟩ := run_bind_eq_ok.mp h
    obtain ⟨hnul, rfl⟩ := run_checkName_eq_ok hcheck
    obtain ⟨rfl, rfl, -⟩ := run_intern_eq_ok.mp hintern
    cases h
    refine .inr ⟨fun hmem => ?_, hnul, rfl⟩
    obtain ⟨e, he, rfl⟩ := List.mem_map.mp hmem
    simpa using List.lookup_eq_none_iff.mp hlookup e he

lemma Act.size_of_run_selector (h : EStateM.run (selector ctx name) b = .ok sel b') :
    b'.contexts.size = b.contexts.size := by
  rcases run_selector_eq_ok h with ⟨-, rfl⟩ | ⟨-, -, rfl⟩
  · rfl
  · exact Array.size_modify

/-- A name with a NUL in it is refused, unless the context remembers it. -/
lemma Act.run_selector_of_hasNul (hnul : Text.hasNul name = true) (hmem : name ∉ b.asked ctx) :
    EStateM.run (selector ctx name) b = .error (.error (.invalidName name)) b := by
  have hlookup : (b.contextAt ctx).selectors.lookup name = none := by
    refine List.lookup_eq_none_iff.mpr fun e he => ?_
    have hne : name ≠ e.1 := fun h => hmem (h ▸ List.mem_map_of_mem he)
    simpa using hne
  unfold selector
  rw [run_bind_ok (run_context ctx), hlookup]
  unfold checkName
  rw [hnul]
  rfl

/-- Answering adds the name to those that the context remembers, and to no others. -/
lemma Bridge.asked_of_run_selector (hctx : ctx < b.contexts.size)
    (h : EStateM.run (selector ctx name) b = .ok sel b') (i : ContextId) :
    b'.asked i = if i = ctx ∧ name ∉ b.asked ctx then name :: b.asked i else b.asked i := by
  rcases run_selector_eq_ok h with ⟨hmem, rfl⟩ | ⟨hmem, -, rfl⟩
  · rw [if_neg fun hcond => hcond.2 hmem]
  · by_cases hi : i = ctx
    · subst hi
      rw [if_pos ⟨rfl, hmem⟩]
      simp only [asked, contextAt, Array.getElem?_modify, Array.getElem?_eq_getElem hctx]
      rfl
    · rw [if_neg fun hcond => hi hcond.1]
      simp only [asked, contextAt, Array.getElem?_modify, if_neg (Ne.symm hi)]

/-! ## Runs -/

/-- **Interned**: a name that got a selector, for the context that was asked for it, or for the runtime
itself. -/
structure Interned where
  context? : Option ContextId
  name : String
  selector : Selector

/-- The names that the context was asked for. -/
def Interned.names (log : List Interned) (ctx : ContextId) : Finset String :=
  ((log.filter fun e => e.context? = some ctx).map Interned.name).toFinset

/-- **Interning**: the state is one that is reached from the one in which nothing has been done yet, and
the names in the list got selectors on the way, the last of them first. -/
inductive Interning : List Interned → Bridge → Prop
  | start : Interning [] default
  /-- A context is asked for the selector of a name, and answers. -/
  | asked {log : List Interned} {b b' : Bridge} {ctx : ContextId} {name : String} {sel : Selector}
      (h : Interning log b) (hctx : ctx < b.contexts.size)
      (hrun : EStateM.run (selector ctx name) b = .ok sel b') :
      Interning (⟨some ctx, name, sel⟩ :: log) b'
  /-- The runtime interns a name of its own. -/
  | interned {log : List Interned} {b b' : Bridge} {name : String} {sel : Selector}
      (h : Interning log b) (hrun : EStateM.run (intern name) b = .ok sel b') :
      Interning (⟨none, name, sel⟩ :: log) b'
  /-- Anything else happens, which leaves alone what contexts remember. -/
  | meanwhile {log : List Interned} {b b' : Bridge} (h : Interning log b) (hstep : HostChange b b')
      (hkeep : ∀ ctx, (b'.contextAt ctx).selectors = (b.contextAt ctx).selectors) :
      Interning log b'

/-- **Remembering**: selectors are in the table under the names that they were interned for, and each
context remembers, once, each of the names that it was asked for. -/
structure Remembering (log : List Interned) (b : Bridge) : Prop where
  named : b.Named
  knows : ∀ e ∈ log, b.space.selectors.Knows e.name e.selector
  nodup : ∀ ctx, (b.asked ctx).Nodup
  hasNul : ∀ ctx, ∀ name ∈ b.asked ctx, Text.hasNul name = false
  mem_iff : ∀ ctx name, name ∈ b.asked ctx ↔ ∃ e ∈ log, e.context? = some ctx ∧ e.name = name

namespace Remembering

variable {log : List Interned}

lemma start : Remembering [] default where
  named := Bridge.named_default
  knows := by simp
  nodup _ := List.nodup_nil
  hasNul _ _ h := by cases h
  mem_iff _ _ := by simp [Bridge.asked, Bridge.contextAt, default]

/-- What leaves alone what contexts remember adds nothing. -/
lemma meanwhile (h : Remembering log b) (hstep : ReflTransGen HostChange b b')
    (hkeep : ∀ ctx, (b'.contextAt ctx).selectors = (b.contextAt ctx).selectors) :
    Remembering log b' := by
  have hasked (ctx : ContextId) : b'.asked ctx = b.asked ctx := congrArg (List.map Prod.fst) (hkeep ctx)
  exact {
    named := HostChange.named_of_run hstep h.named
    knows := fun e he => (h.knows e he).extends (HostChange.extends_of_run hstep)
    nodup := fun ctx => hasked ctx ▸ h.nodup ctx
    hasNul := fun ctx => hasked ctx ▸ h.hasNul ctx
    mem_iff := fun ctx => hasked ctx ▸ h.mem_iff ctx }

/-- The runtime may intern a name of its own. -/
lemma interned (h : Remembering log b) (hrun : EStateM.run (intern name) b = .ok sel b') :
    Remembering (⟨none, name, sel⟩ :: log) b' := by
  have hstep : ReflTransGen HostChange b b' := (upkeep_intern name).of_ok hrun
  obtain ⟨rfl, rfl, hroom⟩ := run_intern_eq_ok.mp hrun
  have hmeanwhile := h.meanwhile hstep fun _ => rfl
  refine { hmeanwhile with knows := ?_, mem_iff := fun ctx name' => ?_ }
  · exact List.forall_mem_cons.mpr ⟨⟨SelectorTable.index_intern_lt _ name,
      SelectorTable.name_intern _ name, hroom⟩, hmeanwhile.knows⟩
  · simpa using hmeanwhile.mem_iff ctx name'

/-- **A context that is asked** for a name remembers the name. -/
lemma asked (h : Remembering log b) (hctx : ctx < b.contexts.size)
    (hrun : EStateM.run (selector ctx name) b = .ok sel b') :
    Remembering (⟨some ctx, name, sel⟩ :: log) b' := by
  have hstep : ReflTransGen HostChange b b' := (upkeep_selector ctx name).of_ok hrun
  have hasked := Bridge.asked_of_run_selector hctx hrun
  have hnul : Text.hasNul name = false := by
    rcases run_selector_eq_ok hrun with ⟨hmem, -⟩ | ⟨-, hnul, -⟩
    · exact h.hasNul ctx name hmem
    · exact hnul
  refine ⟨HostChange.named_of_run hstep h.named, ?_, fun i => ?_, fun i => ?_, fun i name' => ?_⟩
  · exact List.forall_mem_cons.mpr ⟨knows_selector h.named.sound hrun, fun e he =>
      (h.knows e he).extends (HostChange.extends_of_run hstep)⟩
  · rw [hasked]
    split
    · next hnew => exact List.nodup_cons.mpr ⟨hnew.1 ▸ hnew.2, h.nodup i⟩
    · exact h.nodup i
  · rw [hasked]
    split
    · exact List.forall_mem_cons.mpr ⟨hnul, h.hasNul i⟩
    · exact h.hasNul i
  · -- the name is there after all, whether or not the context knew it
    have hmem : name' ∈ b'.asked i ↔ (i = ctx ∧ name' = name) ∨ name' ∈ b.asked i := by
      rw [hasked]
      split
      · next hnew => simp [hnew.1]
      · next hold =>
        refine ⟨.inr, ?_⟩
        rintro (⟨rfl, rfl⟩ | hmem)
        · exact by_contra fun hno => hold ⟨rfl, hno⟩
        · exact hmem
    rw [hmem, h.mem_iff i name']
    simp [eq_comm]

/-- As many selectors are remembered as there are names that were asked for. -/
lemma length_selectors (h : Remembering log b) (ctx : ContextId) :
    (b.contextAt ctx).selectors.length = (Interned.names log ctx).card := by
  have hnames : (b.asked ctx).toFinset = Interned.names log ctx := by
    ext name
    simp [h.mem_iff ctx name, Interned.names, and_assoc]
  rw [← hnames, List.toFinset_card_of_nodup (h.nodup ctx), Bridge.asked, List.length_map]

end Remembering

lemma Interning.remembering {log : List Interned} (h : Interning log b) : Remembering log b := by
  induction h with
  | start => exact .start
  | asked _ hctx hrun ih => exact ih.asked hctx hrun
  | interned _ hrun ih => exact ih.interned hrun
  | meanwhile _ hstep hkeep ih => exact ih.meanwhile (.single hstep) hkeep

/-! ## Operations are runs -/

/-- **Asking**: one step of what a host does, as far as selectors are concerned. A context is asked for
one, or what contexts remember is left alone. -/
structure Asking (b b' : Bridge) : Prop extends HostChange b b' where
  asks : b.Asks b'

namespace Asking

lemma of_learning (h : Learning b b') : Asking b b' := ⟨.of_upkeep (.learning h), .of_learning h⟩

lemma of_keepFrame (b : Bridge) (ctx : ContextId) (key : String) (s : Signature) :
    Asking b { b with contexts := b.contexts.modify ctx fun c =>
      { c with frames := (key, s) :: c.frames } } :=
  ⟨.of_upkeep (.keepFrame ctx key s), .of_modify (by exact fun _ => rfl) b ctx⟩

instance : Hosting Asking where
  of_upkeep h _ hasks _ := ⟨.of_upkeep h, hasks⟩
  space h := ⟨Running.space h, .inl fun _ => rfl⟩
  define h htypes := ⟨Running.define h htypes, .inl fun _ => rfl⟩
  host h := ⟨Running.host h, .inl fun _ => rfl⟩
  trace v := ⟨Running.trace v, .inl fun _ => rfl⟩
  pending ctx g := ⟨Running.pending ctx g, .of_modify (by exact fun _ => rfl) _ ctx⟩
  message ctx method m _ :=
    moves_messageFrame (fun b => of_keepFrame b ctx)
      (fun m _ => (learning_methodTypes ctx m).mono fun _ _ => of_learning) method m
  function ctx _ _ := moves_frame (fun b => of_keepFrame b ctx) _ fun _ => moves_pure _
  publish ctx g := ⟨Hosting.publish ctx g, .of_modify (by exact fun _ => rfl) _ ctx⟩
  describe ctx g := ⟨Hosting.describe ctx g, .of_modify (by exact fun _ => rfl) _ ctx⟩
  link ctx g := ⟨Hosting.link ctx g, .of_modify (by exact fun _ => rfl) _ ctx⟩
  resolve ctx g := ⟨Hosting.resolve ctx g, .of_modify (by exact fun _ => rfl) _ ctx⟩

end Asking

namespace Interning

variable {log : List Interned}

/-- A context is opened. -/
lemma openContext (h : Interning log b) (config : Config) (capabilities : Capabilities) :
    Interning log (b.openContext config capabilities).2 := by
  refine h.meanwhile (.openContext b config capabilities) fun ctx => ?_
  simp only [Bridge.openContext, Bridge.contextAt, Array.getElem?_push]
  split
  · next hctx =>
    rw [hctx, Array.getElem?_eq_none (Nat.le_refl _)]
    rfl
  · rfl

/-- A context is dropped. -/
lemma dropContext (h : Interning log b) (ctx : ContextId) : Interning log (b.dropContext ctx) :=
  h.meanwhile (.dropContext b ctx) fun i =>
    b.view_contextAt_modify Context.selectors (by exact fun _ => rfl) ctx i

/-- One step adds at most one name. -/
lemma step (h : Interning log b) (hstep : Asking b b') :
    ∃ more, Interning (more ++ log) b' := by
  rcases hstep.asks with hkeep | ⟨ctx, name, sel, hrun⟩
  · exact ⟨[], h.meanwhile hstep.toHostChange hkeep⟩
  · rcases Nat.lt_or_ge ctx b.contexts.size with hctx | hctx
    · exact ⟨[_], h.asked hctx hrun⟩
    · -- there is no such context, and nothing that remembers
      refine ⟨[], h.meanwhile hstep.toHostChange fun i => ?_⟩
      rcases run_selector_eq_ok hrun with ⟨-, rfl⟩ | ⟨-, -, rfl⟩
      · rfl
      · simp only [Bridge.contextAt, Array.getElem?_modify]
        split
        · next hi => rw [← hi, Array.getElem?_eq_none hctx]; rfl
        · rfl

/-- **Operations are runs**: the names that get selectors in any steps of a host are names of one run. -/
theorem steps (h : Interning log b) (hrun : ReflTransGen Asking b b') :
    ∃ more, Interning (more ++ log) b' := by
  induction hrun with
  | refl => exact ⟨[], h⟩
  | tail _ hstep ih =>
    obtain ⟨more, hmore⟩ := ih
    obtain ⟨next, hnext⟩ := hmore.step hstep
    exact ⟨next ++ more, by rwa [List.append_assoc]⟩

/-- So are those that get selectors during a call, however it ends. -/
theorem exists_of_call (h : Interning log b) (depth : Nat) (ctx : ContextId) (d : Dispatch) :
    ∃ more, Interning (more ++ log) ((dispatch (.within depth) ctx d).after b) :=
  h.steps (moves_call depth ctx d)

end Interning

/-! ## Selectors stand for names -/

/-- **Faithful**: selectors stand for names. -/
structure Faithful (log : List Interned) (b : Bridge) : Prop where
  /-- Two selectors are the same just if they were interned for the same name. -/
  same_iff : ∀ e ∈ log, ∀ e' ∈ log, e.selector = e'.selector ↔ e.name = e'.name
  /-- And so are their addresses. -/
  address_iff : ∀ e ∈ log, ∀ e' ∈ log, e.selector.address = e'.selector.address ↔ e.name = e'.name
  /-- A selector still has the name that it was interned for. -/
  name : ∀ e ∈ log, b.space.selectors.name e.selector = e.name
  /-- A name without a NUL gets a selector while there is room for selectors. -/
  answered : ∀ ctx name, Text.hasNul name = false →
    b.space.selectors.names.size < Selector.maxCount →
      ∃ sel b', EStateM.run (selector ctx name) b = .ok sel b'
  /-- A name with a NUL is refused, and nothing happens. -/
  refused : ∀ ctx name, Text.hasNul name = true →
    EStateM.run (selector ctx name) b = .error (.error (.invalidName name)) b
  /-- A context counts the names that it was asked for, each once. -/
  count : ∀ ctx, EStateM.run (selectorCount ctx) b = .ok (Interned.names log ctx).card b

/-- The address of a selector that there is room for tells which one it is. -/
lemma Selector.address_inj {s t : Selector} (hs : s.index < maxCount) (ht : t.index < maxCount) :
    s.address = t.address ↔ s = t := by
  refine ⟨fun h => ?_, congrArg _⟩
  have haddress := congrArg UInt64.toNat h
  rw [SelectorTable.toNat_address hs, SelectorTable.toNat_address ht] at haddress
  unfold stride at haddress
  have hindex : s.index = t.index := by omega
  cases s
  cases t
  exact congrArg Selector.mk hindex

/-- **Selectors stand for names**, whichever contexts were asked for them, at whichever moments, and
whatever else the host and the runtime did in between. -/
theorem Interning.faithful {log : List Interned} (h : Interning log b) : Faithful log b := by
  have hb := h.remembering
  have hsame : ∀ e ∈ log, ∀ e' ∈ log, e.selector = e'.selector ↔ e.name = e'.name := by
    intro e he e' he'
    have hknows := hb.knows e he
    have hknows' := hb.knows e' he'
    refine ⟨fun hsel => ?_, fun hname => ?_⟩
    · exact hknows.name.symm.trans ((congrArg _ hsel).trans hknows'.name)
    · exact hb.named.distinct.eq_of_name hknows.mem hknows'.mem
        (hknows.name.trans (hname.trans hknows'.name.symm))
  exact {
    same_iff := hsame
    address_iff := fun e he e' he' =>
      (Selector.address_inj (hb.knows e he).room (hb.knows e' he').room).trans (hsame e he e' he')
    name := fun e he => (hb.knows e he).name
    answered := fun ctx name hnul hroom => by
      obtain ⟨sel, b', hrun, -⟩ := exists_run_selector ctx hnul hroom
      exact ⟨sel, b', hrun⟩
    refused := fun ctx name hnul => run_selector_of_hasNul hnul fun hmem => by
      rw [hb.hasNul ctx name hmem] at hnul
      cases hnul
    count := fun ctx => congrArg (EStateM.Result.ok · b) (hb.length_selectors ctx) }

/-- Two contexts. -/
def twoContexts : Bridge := ((Bridge.openContext {} {} {}).2.openContext {} {}).2

/-- Both are asked for one name, and one of them for another. -/
def sharedNames : Act (Selector × Selector × Selector) := do
  let first ← selector 0 "init"
  let again ← selector 1 "init"
  let other ← selector 1 "count"
  return (first, again, other)

/-- Selectors stand for names where two contexts are asked for the same one. -/
theorem Interning.faithful_shared : ∃ first again other b,
    Interning [⟨some 1, "count", other⟩, ⟨some 1, "init", again⟩, ⟨some 0, "init", first⟩] b ∧
      Faithful [⟨some 1, "count", other⟩, ⟨some 1, "init", again⟩, ⟨some 0, "init", first⟩] b := by
  have hopened : Interning [] twoContexts := (Interning.start.openContext {} {}).openContext {} {}
  have hends : sharedNames.endsWith (fun _ _ => true) twoContexts = true := by decide +kernel
  obtain ⟨⟨first, again, other⟩, b, hrun, -⟩ := exists_of_endsWith hends
  obtain ⟨_, b₁, hfirst, hrun⟩ := run_bind_eq_ok.mp hrun
  obtain ⟨_, b₂, hagain, hrun⟩ := run_bind_eq_ok.mp hrun
  obtain ⟨_, b₃, hother, hrun⟩ := run_bind_eq_ok.mp hrun
  cases hrun
  have hsize₁ : b₁.contexts.size = 2 := size_of_run_selector hfirst
  have hsize₂ : b₂.contexts.size = 2 := (size_of_run_selector hagain).trans hsize₁
  have hasked := hopened.asked (by decide) hfirst
  have h := (hasked.asked (by rw [hsize₁]; decide) hagain).asked (by rw [hsize₂]; decide) hother
  exact ⟨_, _, _, _, h, h.faithful⟩

end MessageBridge
