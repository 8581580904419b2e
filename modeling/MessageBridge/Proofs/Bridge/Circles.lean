import MessageBridge.Proofs.Bridge.Loading
import MessageBridge.Proofs.Bridge.Settling
import Mathlib.Data.Finset.Card

/-!
# Loads inside loads

Loading a layout is a translation that may want other layouts, which are loaded first. How many of
them one translation loads is limited. How deep loads are nested is not, and metadata can describe a
struct by an encoding that mentions the struct itself, in its own fields or further down. Whether a
translation comes to an end is decided by one thing: a name that is wanted again while it is being
loaded, with no other name having become known in between, is wanted forever.

## Main definitions

* `Act.Wants` — a translation comes to want a name.
* `Act.Nests` — the loading of one name wants another.
* `Act.Circles` — a translation gets into a circle of loads.

## Main results

* `Act.endless_registerWithin_of_sameCore` — whether loading ends depends on the names that are
  known and on the metadata.
* `Act.endlessAt_of_transGen` — a circle of loads never ends.
* `Act.returns_iff_not_circles` — translations and registrations come back just if they get into no
  circle.
* `Act.returns_withStructs_iff_exists` — the depth to which loads can be nested is no limit.
-/

namespace MessageBridge

/-! ## What loading changes -/

namespace Bridge

variable {ctx : ContextId} {b b₁ b₂ : Bridge} {l : Layout} {n : String}

/-- The names that loading can make known: those that the encodings of the metadata begin with. -/
def learnable (b : Bridge) (ctx : ContextId) : Finset String :=
  ((b.entries ctx).map fun entry => Encoding.structName entry.2).toFinset

/-- **Grown**: the metadata is the same, and what is known is still known, and more at most of what
can be learned. -/
structure Grown (ctx : ContextId) (b b₁ : Bridge) : Prop where
  sources : (b₁.contextAt ctx).sources = (b.contextAt ctx).sources
  size : b₁.contexts.size = b.contexts.size
  knows : ∀ n, (b.translatorAt ctx).Knows n → (b₁.translatorAt ctx).Knows n
  learned : ∀ n, (b₁.translatorAt ctx).Knows n →
    (b.translatorAt ctx).Knows n ∨ n ∈ b.learnable ctx

namespace Grown

lemma refl (b : Bridge) : Grown ctx b b := ⟨rfl, rfl, fun _ h => h, fun _ h => .inl h⟩

lemma entries (h : Grown ctx b b₁) : b₁.entries ctx = b.entries ctx := by
  rw [Bridge.entries, h.sources, Bridge.entries]

lemma encodingOf? (h : Grown ctx b b₁) : b₁.encodingOf? ctx = b.encodingOf? ctx := by
  funext n
  rw [Bridge.encodingOf?, h.sources, Bridge.encodingOf?]

lemma learnable (h : Grown ctx b b₁) : b₁.learnable ctx = b.learnable ctx := by
  rw [Bridge.learnable, h.entries, Bridge.learnable]

lemma trans (h : Grown ctx b b₁) (h' : Grown ctx b₁ b₂) : Grown ctx b b₂ where
  sources := h'.sources.trans h.sources
  size := h'.size.trans h.size
  knows n hn := h'.knows n (h.knows n hn)
  learned n hn := by
    rcases h'.learned n hn with hn | hn
    · exact h.learned n hn
    · exact .inr (h.learnable ▸ hn)

end Grown

/-- An entry can be learned. -/
lemma structName_mem_learnable {e : String} (h : b.encodingOf? ctx n = some e) :
    Encoding.structName e ∈ b.learnable ctx := by
  rw [learnable, List.mem_toFinset, List.mem_map]
  exact ⟨_, mem_entries_of_encodingOf? h, rfl⟩

/-- What is known after a layout was learned, if there is a context that learns it. -/
lemma knows_learn : ((b.learn ctx l).translatorAt ctx).Knows n ↔
    (ctx < b.contexts.size ∧ l.name = n) ∨ (b.translatorAt ctx).Knows n := by
  by_cases h : ctx < b.contexts.size
  · rw [translatorAt_learn h, Translator.knows_insert, and_iff_right h]
  · have hsame : (b.learn ctx l).translatorAt ctx = b.translatorAt ctx := by
      simp only [translatorAt, contextAt, learn, Array.getElem?_modify,
        Array.getElem?_eq_none (Nat.le_of_not_lt h)]
      rfl
    rw [hsame, or_iff_right fun hlt => h hlt.1]

lemma size_learn (b : Bridge) (ctx : ContextId) (l : Layout) :
    (b.learn ctx l).contexts.size = b.contexts.size := Array.size_modify

lemma grown_learn (hl : l.name ∈ b.learnable ctx) : Grown ctx b (b.learn ctx l) where
  sources := sources_learn b ctx l
  size := size_learn b ctx l
  knows n hn := knows_learn.mpr (.inr hn)
  learned n hn := by
    rcases knows_learn.mp hn with ⟨-, rfl⟩ | hn
    · exact .inr hl
    · exact .inl hn

end Bridge

namespace Act

variable {α β γ : Type} {ctx : ContextId} {b b' b₁ c : Bridge} {e n : String}
  {f : Translator → Except Error α} {register register' : String → Act Layout} {lookups depth : Nat}

/-! ## The retry loop -/

/-- Where nothing can be loaded, or no more, the translation ends as it does. -/
lemma run_retrying_of_stuck
    (h : lookups = 0 ∨ ∀ n e, f (b.translatorAt ctx) = .error (.unknownAggregate n) →
      b.encodingOf? ctx n ≠ some e) :
    EStateM.run (retrying register ctx f lookups) b =
      EStateM.run (ofExcept (f (b.translatorAt ctx))) b := by
  unfold Bridge.translatorAt at h ⊢
  cases lookups with
  | zero => rfl
  | succ lookups =>
    rw [or_iff_right (Nat.succ_ne_zero _)] at h
    rw [retrying, run_bind_ok (run_context ctx)]
    split
    · next name hf =>
      rw [run_bind_ok (run_structEncoding? name)]
      cases he : b.encodingOf? ctx name with
      | none => rw [hf]; rfl
      | some e => exact absurd he (h name e hf)
    · rfl

/-- **The retry loop** is stuck, or something is loaded. -/
lemma stuck_or_missing (f : Translator → Except Error α) (ctx : ContextId) (lookups : Nat)
    (b : Bridge) :
    (lookups = 0 ∨ ∀ n e, f (b.translatorAt ctx) = .error (.unknownAggregate n) →
      b.encodingOf? ctx n ≠ some e) ∨
    ∃ k n e, lookups = k + 1 ∧ f (b.translatorAt ctx) = .error (.unknownAggregate n) ∧
      b.encodingOf? ctx n = some e := by
  cases lookups with
  | zero => exact .inl (.inl rfl)
  | succ k =>
    by_cases h : ∃ n e, f (b.translatorAt ctx) = .error (.unknownAggregate n) ∧
        b.encodingOf? ctx n = some e
    · obtain ⟨n, e, hf, he⟩ := h
      exact .inr ⟨k, n, e, rfl, hf, he⟩
    · exact .inl (.inr fun n e hf he => h ⟨n, e, hf, he⟩)

lemma grown_retrying
    (hregister : ∀ {e b l b₁}, Encoding.structName e ∈ b.learnable ctx →
      EStateM.run (register e) b = .ok l b₁ → Bridge.Grown ctx b b₁) {a : α}
    (h : EStateM.run (retrying register ctx f lookups) b = .ok a b₁) : Bridge.Grown ctx b b₁ := by
  induction lookups using Nat.strong_induction_on generalizing b with
  | _ lookups ih =>
    rcases stuck_or_missing f ctx lookups b with hstuck | ⟨k, n, e, rfl, hf, he⟩
    · rw [run_retrying_of_stuck hstuck] at h
      obtain ⟨-, rfl⟩ := run_ofExcept_eq_ok.mp h
      exact .refl _
    · rw [run_retrying_of_missing hf he] at h
      obtain ⟨l, b₂, hrun, h⟩ := run_bind_eq_ok.mp h
      exact (hregister (Bridge.structName_mem_learnable he) hrun).trans
        (ih k (Nat.lt_succ_self k) h)

/-- **A registration** of an entry lets the context know more at most of what can be learned. -/
lemma grown_registerWithin {l : Layout} (he : Encoding.structName e ∈ b.learnable ctx)
    (h : EStateM.run (registerWithin ctx depth e) b = .ok l b₁) : Bridge.Grown ctx b b₁ := by
  induction depth generalizing e b l b₁ with
  | zero => cases h
  | succ depth ih =>
    rw [run_registerWithin] at h
    obtain ⟨l', b₂, hrun, h⟩ := run_bind_eq_ok.mp h
    cases h
    have hgrown := grown_retrying (fun he h => ih he h) hrun
    have hname := Translator.name_of_structLayout (ok_of_run_retrying hrun)
    exact hgrown.trans (Bridge.grown_learn (by rw [hname, hgrown.learnable]; exact he))

/-! ## Runs that do not end -/

/-- **Endless**: the action stops at a search that does not end. -/
def Endless (x : Act α) (b : Bridge) : Prop :=
  ∃ b', EStateM.run x b = .error (.fault .endlessSearch) b'

lemma endless_bind {x : Act α} {g : α → Act β} :
    Endless (x >>= g) b ↔ Endless x b ∨ ∃ a b₁, EStateM.run x b = .ok a b₁ ∧ Endless (g a) b₁ := by
  constructor
  · rintro ⟨b', h⟩
    rcases run_bind_eq_error.mp h with h | ⟨a, b₁, hrun, h⟩
    · exact .inl ⟨b', h⟩
    · exact .inr ⟨a, b₁, hrun, b', h⟩
  · rintro (⟨b', h⟩ | ⟨a, b₁, hrun, b', h⟩)
    · exact ⟨b', run_bind_error h⟩
    · exact ⟨b', by rw [run_bind_ok hrun, h]⟩

lemma not_endless_of_ok {x : Act α} {a : α} (h : EStateM.run x b = .ok a b') : ¬ Endless x b := by
  rintro ⟨b₁, hrun⟩
  rw [h] at hrun
  cases hrun

lemma not_endless_ofExcept (r : Except Error α) : ¬ Endless (ofExcept r) b := by
  rintro ⟨b', h⟩
  cases r <;> cases h

/-- A translation that is stuck ends. -/
lemma not_endless_of_stuck
    (h : lookups = 0 ∨ ∀ n e, f (b.translatorAt ctx) = .error (.unknownAggregate n) →
      b.encodingOf? ctx n ≠ some e) : ¬ Endless (retrying register ctx f lookups) b := by
  rintro ⟨b', hrun⟩
  rw [run_retrying_of_stuck h] at hrun
  exact not_endless_ofExcept _ ⟨b', hrun⟩

/-- A registration is endless if its translation is. -/
lemma endless_registerWithin : Endless (registerWithin ctx (depth + 1) e) b ↔
    Endless (retrying (registerWithin ctx depth) ctx (·.structLayout e) maxStructLookups) b := by
  have hlast (l : Layout) (b : Bridge) : ¬ Endless (do
      modifyContext ctx fun c => { c with translator := c.translator.insert l }
      return l) b := not_endless_of_ok (a := l) rfl
  constructor
  · rintro ⟨b', h⟩
    rw [run_registerWithin] at h
    rcases endless_bind.mp ⟨b', h⟩ with h | ⟨l, b₁, -, h⟩
    · exact h
    · exact absurd h (hlast l b₁)
  · intro h
    obtain ⟨b', h⟩ := endless_bind.mpr (.inl h)
    exact ⟨b', by rw [run_registerWithin]; exact h⟩

/-- **Loading comes back or is endless.** -/
lemma returns_or_endless_retrying
    (hregister : ∀ e b, returns (register e) b = true ∨ Endless (register e) b) (lookups : Nat)
    (b : Bridge) : returns (retrying register ctx f lookups) b = true ∨
      Endless (retrying register ctx f lookups) b := by
  induction lookups using Nat.strong_induction_on generalizing b with
  | _ lookups ih =>
    rcases stuck_or_missing f ctx lookups b with hstuck | ⟨k, n, e, rfl, hf, he⟩
    · refine .inl ?_
      rw [returns, run_retrying_of_stuck hstuck]
      cases f (b.translatorAt ctx) <;> rfl
    · rw [returns, Endless, run_retrying_of_missing hf he]
      cases hrun : EStateM.run (register e) b with
      | ok l b₁ =>
        rw [run_bind_ok hrun]
        exact ih k (Nat.lt_succ_self k) b₁
      | error stop b₁ =>
        rw [run_bind_error hrun]
        rcases hregister e b with h | ⟨b', h⟩
        · obtain ⟨err, rfl⟩ := (returns_of_error hrun).mp h
          exact .inl rfl
        · rw [hrun] at h
          cases h
          exact .inr ⟨_, rfl⟩

lemma returns_or_endless_registerWithin (depth : Nat) (e : String) (b : Bridge) :
    returns (registerWithin ctx depth e) b = true ∨ Endless (registerWithin ctx depth e) b := by
  induction depth generalizing e b with
  | zero => exact .inr ⟨b, rfl⟩
  | succ depth ih =>
    rcases returns_or_endless_retrying ih maxStructLookups b with h | h
    · left
      rw [returns, run_registerWithin]
      cases hrun : EStateM.run (retrying (registerWithin ctx depth) ctx (·.structLayout e)
        maxStructLookups) b with
      | ok l b₁ => rw [run_bind_ok hrun]; rfl
      | error stop b₁ =>
        obtain ⟨err, rfl⟩ := (returns_of_error hrun).mp h
        rw [run_bind_error hrun]
    · exact .inr (endless_registerWithin.mpr h)

/-- What is endless does not come back. -/
lemma not_returns_of_endless {x : Act α} (h : Endless x b) : ¬ returns x b = true := by
  obtain ⟨b', h⟩ := h
  rw [returns_of_error h]
  rintro ⟨_, h⟩
  cases h

/-! ## More depth -/

/-- A registration that comes back is the same if it may nest loads deeper. -/
lemma run_retrying_congr
    (hregister : ∀ e b, ¬ Endless (register e) b →
      EStateM.run (register' e) b = EStateM.run (register e) b)
    (h : ¬ Endless (retrying register ctx f lookups) b) :
    EStateM.run (retrying register' ctx f lookups) b =
      EStateM.run (retrying register ctx f lookups) b := by
  induction lookups using Nat.strong_induction_on generalizing b with
  | _ lookups ih =>
    rcases stuck_or_missing f ctx lookups b with hstuck | ⟨k, n, e, rfl, hf, he⟩
    · rw [run_retrying_of_stuck hstuck, run_retrying_of_stuck hstuck]
    · have hends : ¬ Endless (register e >>= fun _ => retrying register ctx f k) b := by
        rwa [Endless, ← run_retrying_of_missing hf he]
      rw [endless_bind, not_or] at hends
      have hsame := hregister e b hends.1
      rw [run_retrying_of_missing hf he, run_retrying_of_missing hf he]
      cases hrun : EStateM.run (register e) b with
      | ok l b₁ =>
        rw [run_bind_ok hrun, run_bind_ok (hsame.trans hrun)]
        exact ih k (Nat.lt_succ_self k) fun h => hends.2 ⟨l, b₁, hrun, h⟩
      | error stop b₁ => rw [run_bind_error hrun, run_bind_error (hsame.trans hrun)]

lemma run_registerWithin_succ (h : ¬ Endless (registerWithin ctx depth e) b) :
    EStateM.run (registerWithin ctx (depth + 1) e) b =
      EStateM.run (registerWithin ctx depth e) b := by
  induction depth generalizing e b with
  | zero => exact absurd ⟨b, rfl⟩ h
  | succ depth ih =>
    rw [endless_registerWithin] at h
    have hsame := run_retrying_congr (fun e b => ih) h
    rw [run_registerWithin, run_registerWithin]
    cases hrun : EStateM.run (retrying (registerWithin ctx depth) ctx (·.structLayout e)
      maxStructLookups) b with
    | ok l b₁ => rw [run_bind_ok hrun, run_bind_ok (hsame.trans hrun)]
    | error stop b₁ => rw [run_bind_error hrun, run_bind_error (hsame.trans hrun)]

/-- **More depth** changes nothing about a registration that comes back. -/
lemma run_registerWithin_of_le {depth' : Nat} (hle : depth ≤ depth')
    (h : ¬ Endless (registerWithin ctx depth e) b) :
    EStateM.run (registerWithin ctx depth' e) b = EStateM.run (registerWithin ctx depth e) b := by
  induction depth', hle using Nat.le_induction with
  | base => rfl
  | succ depth' _ ih =>
    rw [← ih]
    refine run_registerWithin_succ ?_
    rwa [Endless, ih]

end Act

/-! ## States that look the same -/

/-- **The same core**: the same names are known and the same metadata is there. -/
structure Bridge.SameCore (ctx : ContextId) (b c : Bridge) : Prop where
  size : b.contexts.size = c.contexts.size
  encodingOf? : b.encodingOf? ctx = c.encodingOf? ctx
  knows : ∀ n, (b.translatorAt ctx).Knows n ↔ (c.translatorAt ctx).Knows n

namespace Bridge.SameCore

variable {ctx : ContextId} {b c d : Bridge}

lemma symm (h : SameCore ctx b c) : SameCore ctx c b :=
  ⟨h.size.symm, h.encodingOf?.symm, fun n => (h.knows n).symm⟩

lemma trans (h : SameCore ctx b c) (h' : SameCore ctx c d) : SameCore ctx b d :=
  ⟨h.size.trans h'.size, h.encodingOf?.trans h'.encodingOf?, fun n => (h.knows n).trans (h'.knows n)⟩

/-- Layouts of one name leave the same core behind. -/
lemma learn (h : SameCore ctx b c) {l l' : Layout} (hname : l.name = l'.name) :
    SameCore ctx (b.learn ctx l) (c.learn ctx l') where
  size := by rw [size_learn, size_learn, h.size]
  encodingOf? := by rw [encodingOf?_learn, encodingOf?_learn, h.encodingOf?]
  knows n := by rw [knows_learn, knows_learn, h.size, hname, h.knows]

end Bridge.SameCore

namespace Act

variable {α β γ δ : Type} {ctx : ContextId} {b b' b₁ c : Bridge} {e n : String}
  {f : Translator → Except Error α} {register : String → Act Layout} {lookups depth : Nat}

/-- **The same end**: results that look the same in states of the same core, or the same error. -/
inductive SameEnd (ctx : ContextId) (view : α → γ) :
    EStateM.Result Stop Bridge α → EStateM.Result Stop Bridge α → Prop
  | ok {a a' : α} {b c : Bridge} (hview : view a = view a') (hcore : b.SameCore ctx c) :
      SameEnd ctx view (.ok a b) (.ok a' c)
  | error {stop : Stop} {b c : Bridge} : SameEnd ctx view (.error stop b) (.error stop c)

lemma SameEnd.bind {x : Act α} {g : α → Act β} {view : α → γ} {view' : β → δ}
    (hx : SameEnd ctx view (EStateM.run x b) (EStateM.run x c))
    (hg : ∀ a a' b c, view a = view a' → b.SameCore ctx c →
      SameEnd ctx view' (EStateM.run (g a) b) (EStateM.run (g a') c)) :
    SameEnd ctx view' (EStateM.run (x >>= g) b) (EStateM.run (x >>= g) c) := by
  generalize hb : EStateM.run x b = r, hc : EStateM.run x c = r' at hx
  cases hx with
  | ok hview hcore =>
    rw [run_bind_ok hb, run_bind_ok hc]
    exact hg _ _ _ _ hview hcore
  | error =>
    rw [run_bind_error hb, run_bind_error hc]
    exact .error

/-- **A translation that is steered by the known names** ends in the same way in states of the same
core. -/
lemma sameEnd_retrying {view : α → γ} (hf : Translator.Steered view f)
    (hregister : ∀ e b c, b.SameCore ctx c →
      SameEnd ctx Layout.name (EStateM.run (register e) b) (EStateM.run (register e) c))
    (lookups : Nat) (hcore : b.SameCore ctx c) :
    SameEnd ctx view (EStateM.run (retrying register ctx f lookups) b)
      (EStateM.run (retrying register ctx f lookups) c) := by
  induction lookups using Nat.strong_induction_on generalizing b c with
  | _ lookups ih =>
    have hsteered := hf _ _ hcore.knows
    rcases stuck_or_missing f ctx lookups b with hstuck | ⟨k, n, e, rfl, hfail, he⟩
    · have hstuck' : lookups = 0 ∨ ∀ n e, f (c.translatorAt ctx) = .error (.unknownAggregate n) →
          c.encodingOf? ctx n ≠ some e := by
        refine hstuck.imp_right fun h n e hfail => ?_
        rw [hfail] at hsteered
        rcases Encoding.cases_of_map_eq hsteered with ⟨_, _, -, hc, -⟩ | ⟨err, hb, hc⟩
        · cases hc
        · cases hc
          exact hcore.encodingOf? ▸ h n e hb
      rw [run_retrying_of_stuck hstuck, run_retrying_of_stuck hstuck']
      rcases Encoding.cases_of_map_eq hsteered with ⟨a, a', hb, hc, hview⟩ | ⟨err, hb, hc⟩
      · rw [hb, hc]
        exact .ok hview hcore
      · rw [hb, hc]
        exact .error
    · have hfail' : f (c.translatorAt ctx) = .error (.unknownAggregate n) := by
        rw [hfail] at hsteered
        rcases Encoding.cases_of_map_eq hsteered with ⟨_, _, hb, -⟩ | ⟨err, hb, hc⟩
        · cases hb
        · cases hb
          exact hc
      rw [run_retrying_of_missing hfail he, run_retrying_of_missing hfail' (hcore.encodingOf? ▸ he)]
      exact (hregister e b c hcore).bind fun _ _ _ _ _ h => ih k (Nat.lt_succ_self k) h

lemma sameEnd_registerWithin (depth : Nat) (e : String) (hcore : b.SameCore ctx c) :
    SameEnd ctx Layout.name (EStateM.run (registerWithin ctx depth e) b)
      (EStateM.run (registerWithin ctx depth e) c) := by
  induction depth generalizing e b c with
  | zero => exact .error
  | succ depth ih =>
    rw [run_registerWithin, run_registerWithin]
    exact (sameEnd_retrying (Translator.steered_structLayout e) (fun e _ _ h => ih e h) _ hcore).bind
      fun _ _ _ _ hname h => .ok hname (h.learn hname)

/-- **Whether loading ends** depends on the names that are known and on the metadata. -/
lemma endless_registerWithin_of_sameCore (hcore : b.SameCore ctx c)
    (h : Endless (registerWithin ctx depth e) b) : Endless (registerWithin ctx depth e) c := by
  obtain ⟨b', hrun⟩ := h
  have hsame := sameEnd_registerWithin depth e hcore
  rw [hrun] at hsame
  generalize hc : EStateM.run (registerWithin ctx depth e) c = r at hsame
  cases hsame
  exact ⟨_, hc⟩

/-! ## Nested loads -/

/-- **Registers**: the encoding is registered in the state, however deep loads must be nested for
it. -/
def Registers (ctx : ContextId) (e : String) (b b₁ : Bridge) : Prop :=
  ∃ depth l, EStateM.run (registerWithin ctx depth e) b = .ok l b₁

/-- **Wants**: a translation that may look up so many layouts, begun in the first state, comes to want
the layout of the name in the second one. -/
inductive Wants (ctx : ContextId) (f : Translator → Except Error α) :
    Nat → Bridge → String → Bridge → Prop
  | now {k : Nat} {b : Bridge} {n : String}
      (hf : f (b.translatorAt ctx) = .error (.unknownAggregate n)) : Wants ctx f (k + 1) b n b
  | later {k : Nat} {b b₁ b' : Bridge} {m n e : String}
      (hf : f (b.translatorAt ctx) = .error (.unknownAggregate m))
      (he : b.encodingOf? ctx m = some e) (hload : Registers ctx e b b₁)
      (h : Wants ctx f k b₁ n b') : Wants ctx f (k + 1) b n b'

/-- **Nests**: loading the first name, begun in the first state, comes to want the second name in the
second state. -/
def Nests (ctx : ContextId) (x y : String × Bridge) : Prop :=
  ∃ e, x.2.encodingOf? ctx x.1 = some e ∧
    Wants ctx (·.structLayout e) maxStructLookups x.2 y.1 y.2

/-- **Circles**: the translation wants a name, and its loading, at some depth, wants a name whose own
loading wants it again, without any name having become known in between. -/
def Circles (ctx : ContextId) (f : Translator → Except Error α) (b : Bridge) : Prop :=
  ∃ x y z : String × Bridge, Wants ctx f maxStructLookups b x.1 x.2 ∧
    Relation.ReflTransGen (Nests ctx) x y ∧ Relation.TransGen (Nests ctx) y z ∧ z.1 = y.1 ∧
    ∀ n, (z.2.translatorAt ctx).Knows n ↔ (y.2.translatorAt ctx).Knows n

lemma Wants.grown (h : Wants ctx f lookups b n b') : Bridge.Grown ctx b b' := by
  induction h with
  | now => exact .refl _
  | later _ he hload _ ih =>
    obtain ⟨depth, l, hrun⟩ := hload
    exact (grown_registerWithin (Bridge.structName_mem_learnable he) hrun).trans ih

lemma Nests.grown {x y : String × Bridge} (h : Nests ctx x y) : Bridge.Grown ctx x.2 y.2 := by
  obtain ⟨e, -, h⟩ := h
  exact h.grown

lemma grown_of_transGen {x y : String × Bridge} (h : Relation.TransGen (Nests ctx) x y) :
    Bridge.Grown ctx x.2 y.2 := by
  induction h with
  | single h => exact h.grown
  | tail _ h ih => exact ih.trans h.grown

/-! ### A circle never ends -/

/-- **Endless loading of a name**, with loads nested up to a depth. -/
def EndlessAt (ctx : ContextId) (depth : Nat) (x : String × Bridge) : Prop :=
  ∀ e, x.2.encodingOf? ctx x.1 = some e → Endless (registerWithin ctx depth e) x.2

/-- A translation that comes to want a name whose loading is endless is endless. -/
lemma Wants.endless (h : Wants ctx f lookups b n b') (hn : b'.encodingOf? ctx n = some e)
    (hend : Endless (registerWithin ctx depth e) b') :
    Endless (retrying (registerWithin ctx depth) ctx f lookups) b := by
  induction h with
  | now hf =>
    rw [Endless, run_retrying_of_missing hf hn]
    exact endless_bind.mpr (.inl hend)
  | @later k b b₁ b' m n e' hf he hload _ ih =>
    rw [Endless, run_retrying_of_missing hf he]
    refine endless_bind.mpr (or_iff_not_imp_left.mpr fun hfirst => ?_)
    -- the load that comes first ends in the same way with this depth
    obtain ⟨depth', l, hrun⟩ := hload
    refine ⟨l, b₁, ?_, ih hn hend⟩
    rcases Nat.le_total depth depth' with hle | hle
    · rw [← run_registerWithin_of_le hle hfirst, hrun]
    · rw [run_registerWithin_of_le hle (not_endless_of_ok hrun), hrun]

lemma EndlessAt.of_nests {x y : String × Bridge} (h : Nests ctx x y)
    (hy : y.2.encodingOf? ctx y.1 ≠ none) (hend : EndlessAt ctx depth y) : EndlessAt ctx (depth + 1) x := by
  obtain ⟨e, he, hwants⟩ := h
  obtain ⟨e', he'⟩ := Option.ne_none_iff_exists'.mp hy
  intro e₁ he₁
  obtain rfl := Option.some.inj (he.symm.trans he₁)
  exact endless_registerWithin.mpr (hwants.endless he' (hend e' he'))

lemma EndlessAt.of_succ {x : String × Bridge} (h : EndlessAt ctx (depth + 1) x) :
    EndlessAt ctx depth x := by
  intro e he
  by_contra hends
  have hmore := h e he
  rw [Endless, run_registerWithin_succ hends] at hmore
  exact hends hmore

/-- What nests has an encoding. -/
lemma Nests.encodingOf?_ne_none {x y : String × Bridge} (h : Nests ctx x y) :
    x.2.encodingOf? ctx x.1 ≠ none := by
  obtain ⟨e, he, -⟩ := h
  rw [he]
  exact Option.some_ne_none e

/-- Where a load ends nowhere, one that nests it goes a level deeper. -/
lemma EndlessAt.of_transGen {x y : String × Bridge} (h : Relation.TransGen (Nests ctx) x y)
    (hy : y.2.encodingOf? ctx y.1 ≠ none) (hend : EndlessAt ctx depth y) :
    EndlessAt ctx (depth + 1) x := by
  induction h using Relation.TransGen.head_induction_on with
  | single h => exact hend.of_nests h hy
  | head h hrest ih =>
    obtain ⟨z, hz, -⟩ := Relation.TransGen.head'_iff.mp hrest
    exact (ih.of_nests h hz.encodingOf?_ne_none).of_succ

/-- **A circle of loads never ends**, however deep loads may be nested. -/
lemma endlessAt_of_transGen {y z : String × Bridge} (h : Relation.TransGen (Nests ctx) y z)
    (hname : z.1 = y.1) (hknows : ∀ n, (z.2.translatorAt ctx).Knows n ↔ (y.2.translatorAt ctx).Knows n)
    (depth : Nat) : EndlessAt ctx depth y := by
  have hgrown := grown_of_transGen h
  have hcore : y.2.SameCore ctx z.2 :=
    ⟨hgrown.size.symm, hgrown.encodingOf?.symm, fun n => (hknows n).symm⟩
  obtain ⟨w, hw, -⟩ := Relation.TransGen.head'_iff.mp h
  induction depth with
  | zero => exact fun _ _ => ⟨_, rfl⟩
  | succ depth ih =>
    -- the name is wanted again in a state of the same core, so that its loading is as endless there
    refine EndlessAt.of_transGen h ?_ fun e he => ?_
    · rw [← hcore.encodingOf?, hname]
      exact hw.encodingOf?_ne_none
    · rw [← hcore.encodingOf?, hname] at he
      exact endless_registerWithin_of_sameCore hcore (ih e he)

/-- **A translation that gets into a circle** never ends. -/
lemma endless_of_circles (h : Circles ctx f b) (depth : Nat) :
    Endless (retrying (registerWithin ctx depth) ctx f maxStructLookups) b := by
  obtain ⟨x, y, z, hwants, hreach, hcircle, hname, hknows⟩ := h
  have hend : x.2.encodingOf? ctx x.1 ≠ none ∧ ∀ depth, EndlessAt ctx depth x := by
    clear hwants
    induction hreach using Relation.ReflTransGen.head_induction_on with
    | refl =>
      obtain ⟨w, hw, -⟩ := Relation.TransGen.head'_iff.mp hcircle
      exact ⟨hw.encodingOf?_ne_none, endlessAt_of_transGen hcircle hname hknows⟩
    | head hstep _ ih =>
      obtain ⟨hy, hend⟩ := ih
      exact ⟨hstep.encodingOf?_ne_none, fun depth => ((hend depth).of_nests hstep hy).of_succ⟩
  obtain ⟨e, he⟩ := Option.ne_none_iff_exists'.mp hend.1
  exact hwants.endless he (hend.2 depth e he)

/-! ### Without a circle loading ends -/

/-- An endless translation comes to want a name whose loading is endless. -/
lemma exists_wants_of_endless
    (h : Endless (retrying (registerWithin ctx depth) ctx f lookups) b) :
    ∃ n e b', Wants ctx f lookups b n b' ∧ b'.encodingOf? ctx n = some e ∧
      Endless (registerWithin ctx depth e) b' := by
  induction lookups using Nat.strong_induction_on generalizing b with
  | _ lookups ih =>
    rcases stuck_or_missing f ctx lookups b with hstuck | ⟨k, n, e, rfl, hf, he⟩
    · exact absurd h (not_endless_of_stuck hstuck)
    · rw [Endless, run_retrying_of_missing hf he] at h
      rcases endless_bind.mp h with h | ⟨l, b₁, hrun, h⟩
      · exact ⟨n, e, b, .now hf, he, h⟩
      · obtain ⟨n', e', b', hwants, he', hend⟩ := ih k (Nat.lt_succ_self k) h
        exact ⟨n', e', b', .later hf he ⟨depth, l, hrun⟩ hwants, he', hend⟩

/-- The names that can be learned and are not known yet. -/
def unknown (ctx : ContextId) (b : Bridge) : Finset String :=
  (b.learnable ctx).filter fun n => ((b.translatorAt ctx).layout? n).isNone

lemma mem_unknown : n ∈ unknown ctx b ↔ n ∈ b.learnable ctx ∧ ¬ (b.translatorAt ctx).Knows n := by
  rw [unknown, Finset.mem_filter, Option.isNone_iff_eq_none, Translator.not_knows_iff]

lemma card_unknown_le (ctx : ContextId) (b : Bridge) :
    (unknown ctx b).card ≤ (b.entries ctx).length := by
  refine (Finset.card_filter_le _ _).trans ((List.toFinset_card_le _).trans ?_)
  rw [List.length_map]

/-- Where another name is known, there is one less to learn. -/
lemma card_unknown_lt (h : Bridge.Grown ctx b b')
    (hknows : ¬ ∀ n, (b'.translatorAt ctx).Knows n ↔ (b.translatorAt ctx).Knows n) :
    (unknown ctx b').card < (unknown ctx b).card := by
  obtain ⟨n, hn⟩ := not_forall.mp hknows
  have hnew : (b'.translatorAt ctx).Knows n ∧ ¬ (b.translatorAt ctx).Knows n := by
    by_contra hnot
    exact hn ⟨fun h' => by_contra fun hb => hnot ⟨h', hb⟩, h.knows n⟩
  have hsubset : unknown ctx b' ⊆ unknown ctx b := fun m hm => by
    rw [mem_unknown] at hm ⊢
    exact ⟨h.learnable ▸ hm.1, fun hb => hm.2 (h.knows m hb)⟩
  refine Finset.card_lt_card ((Finset.ssubset_iff_of_subset hsubset).mpr ⟨n, ?_, ?_⟩)
  · exact mem_unknown.mpr ⟨(h.learned n hnew.1).resolve_left hnew.2, hnew.2⟩
  · exact fun hm => (mem_unknown.mp hm).2 hnew.1

/-- How deep loads can be nested from here on: each name that is not being loaded comes once, and all
names come again for each name that becomes known. -/
def room (ctx : ContextId) (b : Bridge) (loading : Finset String) : Nat :=
  (unknown ctx b).card * ((b.entries ctx).length + 1) + ((b.entries ctx).length - loading.card)

/-- Where nothing became known, one more name that is being loaded takes room. -/
lemma room_insert_lt {loading : Finset String} (h : Bridge.Grown ctx b b')
    (hknows : ∀ m, (b'.translatorAt ctx).Knows m ↔ (b.translatorAt ctx).Knows m)
    (hfresh : n ∉ loading) (hsubset : insert n loading ⊆ ((b'.entries ctx).map Prod.fst).toFinset) :
    room ctx b' (insert n loading) < room ctx b loading := by
  have hunknown : unknown ctx b' = unknown ctx b := by
    ext m
    rw [mem_unknown, mem_unknown, h.learnable, hknows]
  have hnames : ((b'.entries ctx).map Prod.fst).toFinset.card ≤ (b'.entries ctx).length := by
    refine (List.toFinset_card_le _).trans ?_
    rw [List.length_map]
  have hcard := (Finset.card_le_card hsubset).trans hnames
  rw [Finset.card_insert_of_notMem hfresh, h.entries] at hcard
  rw [room, room, hunknown, h.entries, Finset.card_insert_of_notMem hfresh]
  omega

/-- Where a name became known, all names may be loaded again, and there is less room. -/
lemma room_empty_lt {loading : Finset String} (h : Bridge.Grown ctx b b')
    (hknows : ¬ ∀ n, (b'.translatorAt ctx).Knows n ↔ (b.translatorAt ctx).Knows n) :
    room ctx b' ∅ < room ctx b loading := by
  have hmul := Nat.mul_le_mul_right ((b.entries ctx).length + 1)
    (Nat.succ_le_of_lt (card_unknown_lt h hknows))
  rw [Nat.succ_mul] at hmul
  rw [room, room, h.entries, Finset.card_empty, Nat.sub_zero]
  omega

/-- There is less room than loads may be nested deep. -/
lemma room_lt_depth (ctx : ContextId) (b : Bridge) :
    room ctx b ∅ < ((b.entries ctx).length + 1) * ((b.entries ctx).length + 1) := by
  have hmul := Nat.mul_le_mul_right ((b.entries ctx).length + 1) (card_unknown_le ctx b)
  rw [room, Finset.card_empty, Nat.sub_zero, Nat.succ_mul]
  omega

/-- **How deep loads are nested** where there is no circle: as deep as there is room. `loading` are the
names whose loading goes on since a name became known. -/
lemma le_room_of_endless (hcircles : ¬ Circles ctx f b) (start : String × Bridge)
    (hwants : Wants ctx f maxStructLookups b start.1 start.2) (x : String × Bridge)
    (loading : Finset String) (hreach : Relation.ReflTransGen (Nests ctx) start x)
    (hloading : ∀ v ∈ loading, ∃ c, Relation.ReflTransGen (Nests ctx) start (v, c) ∧
      Relation.TransGen (Nests ctx) (v, c) x ∧
      ∀ n, (x.2.translatorAt ctx).Knows n ↔ (c.translatorAt ctx).Knows n)
    (hsubset : loading ⊆ ((x.2.entries ctx).map Prod.fst).toFinset)
    (he : x.2.encodingOf? ctx x.1 = some e) (hend : Endless (registerWithin ctx depth e) x.2) :
    depth ≤ room ctx x.2 loading := by
  induction depth generalizing e x loading with
  | zero => exact Nat.zero_le _
  | succ depth ih =>
    obtain ⟨n, e', b', hnext, he', hend'⟩ := exists_wants_of_endless (endless_registerWithin.mp hend)
    have hnests : Nests ctx x (n, b') := ⟨e, he, hnext⟩
    have hgrown : Bridge.Grown ctx x.2 b' := hnests.grown
    have hreach' := hreach.tail hnests
    by_cases hknows : ∀ m, (b'.translatorAt ctx).Knows m ↔ (x.2.translatorAt ctx).Knows m
    · -- nothing became known: the name is one more that is being loaded
      have hfresh : x.1 ∉ loading := by
        intro hmem
        obtain ⟨c, hc, hpath, hknows⟩ := hloading _ hmem
        exact hcircles ⟨start, (x.1, c), x, hwants, hc, hpath, rfl, hknows⟩
      have hsubset' : insert x.1 loading ⊆ ((b'.entries ctx).map Prod.fst).toFinset := by
        rw [hgrown.entries]
        refine Finset.insert_subset ?_ hsubset
        rw [List.mem_toFinset]
        exact List.mem_map_of_mem (f := Prod.fst) (Bridge.mem_entries_of_encodingOf? he)
      refine (Nat.succ_le_succ (ih (n, b') (insert x.1 loading) hreach' ?_ hsubset' he' hend')).trans
        (room_insert_lt hgrown hknows hfresh hsubset')
      intro v hv
      rcases Finset.mem_insert.mp hv with rfl | hv
      · exact ⟨x.2, hreach, .single hnests, hknows⟩
      · obtain ⟨c, hc, hpath, hsame⟩ := hloading v hv
        exact ⟨c, hc, hpath.tail hnests, fun m => (hknows m).trans (hsame m)⟩
    · -- a name became known, and all names may be loaded again
      have hnone : ∀ v ∈ (∅ : Finset String), ∃ c,
          Relation.ReflTransGen (Nests ctx) start (v, c) ∧
            Relation.TransGen (Nests ctx) (v, c) (n, b') ∧
            ∀ m, (b'.translatorAt ctx).Knows m ↔ (c.translatorAt ctx).Knows m :=
        fun _ hv => absurd hv (Finset.notMem_empty _)
      exact (Nat.succ_le_succ (ih (n, b') ∅ hreach' hnone (Finset.empty_subset _) he' hend')).trans
        (room_empty_lt hgrown hknows)

/-- **Without a circle** a translation ends, if loads can be nested as deep as they may be. -/
lemma not_endless_withStructs (hcircles : ¬ Circles ctx f b) : ¬ Endless (withStructs ctx f) b := by
  intro h
  rw [Endless, withStructs, run_bind_ok run_loadingDepth] at h
  obtain ⟨n, e, b', hwants, he, hend⟩ := exists_wants_of_endless h
  have hle := le_room_of_endless hcircles (n, b') hwants (n, b') ∅ .refl
    (fun _ hv => absurd hv (Finset.notMem_empty _)) (Finset.empty_subset _) he hend
  have hlt := room_lt_depth ctx b'
  rw [hwants.grown.entries] at hlt
  exact Nat.not_lt_of_le hle hlt

lemma returns_withStructs_iff : returns (withStructs ctx f) b = true ↔ ¬ Circles ctx f b := by
  constructor
  · intro h hcircles
    obtain ⟨b', hend⟩ := endless_of_circles hcircles
      (((b.entries ctx).length + 1) * ((b.entries ctx).length + 1))
    refine not_returns_of_endless ⟨b', ?_⟩ h
    rw [withStructs, run_bind_ok run_loadingDepth, hend]
  · intro hcircles
    refine Or.resolve_right ?_ (not_endless_withStructs hcircles)
    rw [returns, Endless, withStructs, run_bind_ok run_loadingDepth]
    exact returns_or_endless_retrying (returns_or_endless_registerWithin _) _ b

/-- **The depth is no limit**: a translation comes back just if it does when loads may be nested as
deep as one likes. -/
theorem returns_withStructs_iff_exists :
    returns (withStructs ctx f) b = true ↔
      ∃ depth, returns (retrying (registerWithin ctx depth) ctx f maxStructLookups) b = true := by
  constructor
  · intro h
    rw [returns, withStructs, run_bind_ok run_loadingDepth] at h
    exact ⟨_, h⟩
  · rintro ⟨depth, h⟩
    exact returns_withStructs_iff.mpr fun hcircles =>
      not_returns_of_endless (endless_of_circles hcircles depth) h

/-- A registration is the translation of its encoding, and then the layout is known. -/
lemma returns_registerStruct_iff : returns (registerStruct ctx e) b = true ↔
    returns (withStructs ctx (·.structLayout e)) b = true := by
  rw [returns, returns, registerStruct, withStructs, run_bind_ok run_loadingDepth,
    run_bind_ok run_loadingDepth, run_registerWithin]
  cases hrun : EStateM.run (retrying (registerWithin ctx _) ctx (·.structLayout e)
    maxStructLookups) b with
  | ok l b₁ => rw [run_bind_ok hrun]; rfl
  | error stop b₁ => rw [run_bind_error hrun]

/-- **Loading comes to an end** unless it gets into a circle: in every state of every context,
whatever its metadata says of structs, translating an encoding, reading a type string and
registering a struct come back with a result or an error if and only if no name is wanted again
while it is being loaded, with no other name having become known in between. -/
theorem returns_iff_not_circles (ctx : ContextId) (b : Bridge) :
    (∀ e, returns (translate ctx e) b = true ↔ ¬ Circles ctx (·.translate e) b) ∧
    (∀ types, returns (parseSignature ctx types) b = true ↔
      ¬ Circles ctx (·.parseSignature types) b) ∧
    ∀ e, returns (registerStruct ctx e) b = true ↔ ¬ Circles ctx (·.structLayout e) b :=
  ⟨fun _ => returns_withStructs_iff, fun _ => returns_withStructs_iff,
    fun _ => returns_registerStruct_iff.trans returns_withStructs_iff⟩

/-- A bridge with one context, whose metadata describes one struct by an encoding that mentions it. -/
def selfMentioning : Bridge where
  contexts := #[{ sources := [{ library := "knots", structs := [("A", "\x7bA=\x7bA\x7d\x7d")] }] }]

/-- **A struct that mentions itself** is loaded forever: its translation does not come back, neither
with the depth to which loads are nested nor with any other. -/
theorem endless_selfMentioning :
    returns (translate 0 "\x7bA\x7d") selfMentioning = false ∧
      ∀ depth, Endless (retrying (registerWithin 0 depth) 0 (·.translate "\x7bA\x7d") maxStructLookups)
        selfMentioning := by
  have hcircles : Circles 0 (·.translate "\x7bA\x7d") selfMentioning := by
    have hnests : Nests 0 ("A", selfMentioning) ("A", selfMentioning) :=
      ⟨"\x7bA=\x7bA\x7d\x7d", rfl, .now (by decide +kernel)⟩
    exact ⟨("A", selfMentioning), ("A", selfMentioning), ("A", selfMentioning),
      .now (by decide +kernel), .refl, .single hnests, rfl, fun _ => Iff.rfl⟩
  refine ⟨?_, endless_of_circles hcircles⟩
  rw [← Bool.not_eq_true]
  exact fun h => returns_withStructs_iff.mp h hcircles

end Act

end MessageBridge
