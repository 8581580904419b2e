import MessageBridge.Proofs.Bridge.Loading
import MessageBridge.Proofs.Encoding.References
import Mathlib.Data.Finset.Card

/-!
# Layouts on demand

The metadata of a library can describe structs that refer to each other by name. Where these
references go in no circle, the structs can be registered one after another, each after those that it
refers to. A context does not do that. It loads a layout when a translation needs it, and the layouts
that this one needs in turn. This module shows that it makes no difference: every translation gives
what it gives with all structs registered, whatever was translated before.

## Main definitions

* `Translator.registerAll` — registers structs one after another.
* `Catalogue` — plain structs, each after those that it refers to.
* `Translator.Completes` — a translator that knows the layouts of all of them.
* `Bridge.Follows` — a context knows only such layouts, and with a struct those that it refers to.

## Main results

* `Catalogue.exists_registerAll` — all the structs can be registered one after another.
* `Act.loads_registerWithin` — a struct is loaded with those that it refers to.
* `Catalogue.translations` — translations in a context give what they give with all structs
  registered.
-/

namespace MessageBridge

open Encoding

/-! ## Registering everything -/

namespace Translator

variable {t T : Translator} {n : String} {α : Type}

/-- Registers structs one after another. -/
def registerAll (t : Translator) (encodings : List String) : Except Error Translator :=
  encodings.foldlM (fun t e => Prod.snd <$> t.register e) t

/-- **Part**: what is known is known with the layout of the other translator. -/
def PartOf (t T : Translator) : Prop := ∀ n l, t.layout? n = some l → T.layout? n = some l

lemma PartOf.layout?_eq (h : t.PartOf T) (hn : t.Knows n) : t.layout? n = T.layout? n := by
  obtain ⟨l, hl⟩ := hn
  rw [hl, h n l hl]

end Translator

/-- **Completes**: the translator knows the structs, each with its layout, and no others. -/
structure Translator.Completes (T : Translator) (structs : List PlainStruct) : Prop where
  mem : ∀ n, T.Knows n → n ∈ structs.map (·.name)
  exists_layout : ∀ s ∈ structs, ∃ own, T.layout? s.name = some own ∧ s.IsLayout T.layout? own

lemma Translator.Completes.knows {T : Translator} {structs : List PlainStruct} {n : String}
    (h : T.Completes structs) (hn : n ∈ structs.map (·.name)) : T.Knows n := by
  obtain ⟨s, hs, rfl⟩ := List.mem_map.mp hn
  obtain ⟨own, hown, -⟩ := h.exists_layout s hs
  exact ⟨own, hown⟩

/-- **Catalogues**: plain structs of different names, each after those that it refers to. -/
structure Catalogue where
  structs : List PlainStruct
  nodup : (structs.map (·.name)).Nodup
  ordered : ∀ pre s post, structs = pre ++ s :: post → ∀ n ∈ s.refs, n ∈ pre.map (·.name)

namespace Catalogue

/-- One struct refers to another. -/
def Refers (cat : Catalogue) (n m : String) : Prop :=
  ∃ s ∈ cat.structs, s.name = n ∧ m ∈ s.refs

variable {cat : Catalogue} {T : Translator}

/-- A name stands for one struct. -/
lemma eq_of_name {r s : PlainStruct} (hr : r ∈ cat.structs) (hs : s ∈ cat.structs)
    (h : r.name = s.name) : r = s :=
  List.inj_on_of_nodup_map cat.nodup hr hs h

/-- What a struct refers to is in front of it. -/
lemma mem_of_refs {pre post : List PlainStruct} (h : cat.structs = pre ++ post) {s : PlainStruct}
    (hs : s ∈ pre) {n : String} (hn : n ∈ s.refs) : n ∈ pre.map (·.name) := by
  obtain ⟨front, back, rfl⟩ := List.append_of_mem hs
  rw [List.append_assoc, List.cons_append] at h
  rw [List.map_append]
  exact List.mem_append_left _ (cat.ordered front s _ h n hn)

/-- No struct in front of a struct has its name. -/
lemma name_not_mem {pre post : List PlainStruct} {s : PlainStruct}
    (h : cat.structs = pre ++ s :: post) : s.name ∉ pre.map (·.name) := by
  have hnodup := cat.nodup
  rw [h, List.map_append, List.map_cons] at hnodup
  exact fun hmem => (List.nodup_append.mp hnodup).2.2 _ hmem _ List.mem_cons_self rfl

/-- A layout that is registered completes one struct more. -/
lemma completes_insert {pre post : List PlainStruct} {s : PlainStruct} {own : Layout}
    (h : cat.structs = pre ++ s :: post) (hT : T.Completes pre) (hown : s.IsLayout T.layout? own) :
    (T.insert own).Completes (pre ++ [s]) := by
  have hsame {n : String} (hn : n ∈ pre.map (·.name)) : (T.insert own).layout? n = T.layout? n :=
    T.layout?_insert_of_ne (hown.name ▸ (ne_of_mem_of_not_mem hn (name_not_mem h)).symm)
  refine ⟨fun n hn => ?_, fun r hr => ?_⟩
  · rw [List.map_append, List.mem_append]
    rcases Translator.knows_insert.mp hn with rfl | hn
    · exact .inr (List.mem_singleton.mpr hown.name)
    · exact .inl (hT.mem n hn)
  · rcases List.mem_append.mp hr with hr | hr
    · obtain ⟨own', hown', hlayout⟩ := hT.exists_layout r hr
      exact ⟨own', (hsame (List.mem_map_of_mem hr)).trans hown',
        hlayout.congr fun n hn => hsame (mem_of_refs h hr hn)⟩
    · obtain rfl := List.mem_singleton.mp hr
      exact ⟨own, hown.name ▸ T.layout?_insert_self own,
        hown.congr fun n hn => hsame (cat.ordered pre r post h n hn)⟩

/-- The structs at the front of a catalogue can be registered one after another. -/
lemma exists_registerAll_of_append (cat : Catalogue) (pre post : List PlainStruct)
    (h : cat.structs = pre ++ post) :
    ∃ T, ({} : Translator).registerAll (pre.map (·.encoding)) = .ok T ∧ T.Completes pre := by
  induction pre using List.reverseRecOn generalizing post with
  | nil =>
    refine ⟨{}, rfl, fun n hn => ?_, nofun⟩
    obtain ⟨l, hl⟩ := hn
    cases hl
  | append_singleton pre s ih =>
    have hs : cat.structs = pre ++ s :: post := by rw [h, List.append_assoc, List.singleton_append]
    obtain ⟨T, hT, hcomplete⟩ := ih (s :: post) hs
    obtain ⟨own, hown⟩ := s.exists_layout fun n hn =>
      hcomplete.knows (cat.ordered pre s post hs n hn)
    have hlayout : T.structLayout s.encoding = .ok own :=
      hown.structLayout T (fun _ _ => rfl) fun _ hl =>
        absurd (hcomplete.mem s.name ⟨_, hl⟩) (name_not_mem hs)
    refine ⟨T.insert own, ?_, completes_insert hs hcomplete hown⟩
    rw [Translator.registerAll, List.map_append, List.foldlM_append, ← Translator.registerAll, hT]
    simp only [ok_bind, List.map_cons, List.map_nil, List.foldlM_cons, List.foldlM_nil,
      Translator.register, hlayout]
    rfl

/-- **Everything at once**: the structs of a catalogue can be registered one after another. -/
lemma exists_registerAll (cat : Catalogue) :
    ∃ T, ({} : Translator).registerAll (cat.structs.map (·.encoding)) = .ok T ∧
      T.Completes cat.structs :=
  cat.exists_registerAll_of_append cat.structs [] (List.append_nil _).symm

end Catalogue

/-! ## Loading on demand -/

section Asks

variable {T t : Translator} {α : Type} {f : Translator → Except Error α} {refs : List String} {a : α}

/-- **Asks**: with the layouts of some names the translation gives a result, and it is refused for a
missing one of these names as long as one is missing. -/
structure Translator.Asks (T : Translator) (f : Translator → Except Error α) (refs : List String)
    (a : α) : Prop where
  ok : ∀ t, t.PartOf T → (∀ n ∈ refs, t.Knows n) → f t = .ok a
  missing : ∀ t, (∃ n ∈ refs, t.layout? n = none) →
    ∃ n ∈ refs, t.layout? n = none ∧ f t = .error (.unknownAggregate n)

/-- The layout of a struct is a translation that asks for what the struct refers to. -/
lemma Encoding.PlainStruct.IsLayout.asks {s : PlainStruct} {own : Layout}
    (h : s.IsLayout T.layout? own) (hown : T.layout? s.name = some own) :
    T.Asks (·.structLayout s.encoding) s.refs own where
  ok t ht hknown := h.structLayout t (fun n hn => ht.layout?_eq (hknown n hn)) fun _ hl =>
    Option.some.inj ((ht _ _ hl).symm.trans hown)
  missing _ hmissing := s.structLayout_eq_error hmissing

/-- A plain encoding is a translation that asks for what it refers to. -/
lemma Encoding.PlainEncoding.exists_asks {e : String} (h : PlainEncoding e refs)
    (hknown : ∀ n ∈ refs, T.Knows n) : ∃ d, T.Asks (·.translate e) refs d := by
  obtain ⟨d, hd⟩ := h.exists_descriptor hknown
  exact ⟨d, fun t ht hknown => hd t fun n hn => ht.layout?_eq (hknown n hn),
    fun _ hmissing => h.translate_eq_error hmissing⟩

end Asks

/-- **Follows**: the metadata of the context gives the encodings of a catalogue. Of the layouts that
complete it the context may know some, and then also those that they refer to. -/
structure Bridge.Follows (b : Bridge) (ctx : ContextId) (cat : Catalogue) (T : Translator) : Prop where
  encodingOf?_eq : ∀ n, b.encodingOf? ctx n = (cat.structs.find? (·.name == n)).map (·.encoding)
  partOf : (b.translatorAt ctx).PartOf T
  knows_refs : ∀ s ∈ cat.structs, (b.translatorAt ctx).Knows s.name →
    ∀ n ∈ s.refs, (b.translatorAt ctx).Knows n

namespace Bridge.Follows

variable {b : Bridge} {ctx : ContextId} {cat : Catalogue} {T : Translator} {n : String}

/-- The metadata describes the names of the catalogue. -/
lemma exists_struct (h : b.Follows ctx cat T) (hn : n ∈ cat.structs.map (·.name)) :
    ∃ s ∈ cat.structs, s.name = n ∧ b.encodingOf? ctx n = some s.encoding := by
  obtain ⟨r, hr, rfl⟩ := List.mem_map.mp hn
  obtain ⟨s, hs⟩ := Option.isSome_iff_exists.mp
    (List.find?_isSome (p := fun s : PlainStruct => s.name == r.name).mpr
      ⟨r, hr, beq_self_eq_true _⟩)
  refine ⟨s, List.mem_of_find?_eq_some hs, by simpa using List.find?_some hs, ?_⟩
  rw [h.encodingOf?_eq, hs]
  rfl

/-- What a struct of the catalogue refers to, directly or not, is known with it. -/
lemma knows_of_refers (h : b.Follows ctx cat T) {m : String}
    (hm : Relation.ReflTransGen cat.Refers n m) (hn : (b.translatorAt ctx).Knows n) :
    (b.translatorAt ctx).Knows m := by
  induction hm with
  | refl => exact hn
  | tail _ hstep ih =>
    obtain ⟨s, hs, rfl, hm⟩ := hstep
    exact h.knows_refs s hs ih _ hm

/-- A struct can be learned after those that it refers to. -/
lemma learn (h : b.Follows ctx cat T) {s : PlainStruct} {own : Layout} (hs : s ∈ cat.structs)
    (hown : T.layout? s.name = some own) (hname : own.name = s.name)
    (hrefs : ∀ n ∈ s.refs, (b.translatorAt ctx).Knows n) : (b.learn ctx own).Follows ctx cat T := by
  obtain ⟨_, _, _, he⟩ := h.exists_struct (List.mem_map_of_mem hs)
  have htranslator := translatorAt_learn (lt_size_of_encodingOf? he) own
  refine ⟨fun n => by rw [encodingOf?_learn, h.encodingOf?_eq], ?_, ?_⟩
  · intro n l hl
    rw [htranslator] at hl
    by_cases hn : own.name = n
    · subst hn
      rw [Translator.layout?_insert_self] at hl
      rw [hname, hown, hl]
    · rw [Translator.layout?_insert_of_ne _ hn] at hl
      exact h.partOf n l hl
  · intro r hr hknown n hn
    rw [htranslator, Translator.knows_insert] at hknown ⊢
    refine .inr ?_
    rcases hknown with heq | hknown
    · obtain rfl := Catalogue.eq_of_name hs hr (hname.symm.trans heq)
      exact hrefs n hn
    · exact h.knows_refs r hr hknown n hn

end Bridge.Follows

/-- The names of a catalogue that are missing in a context. -/
def Bridge.missing (b : Bridge) (ctx : ContextId) (cat : Catalogue) : Finset String :=
  (cat.structs.map (·.name)).toFinset.filter fun n => ((b.translatorAt ctx).layout? n).isNone

namespace Act

variable {cat : Catalogue} {T : Translator} {ctx : ContextId} {b b' : Bridge} {α : Type} {a : α}
  {x : Act α} {names refs : List String} {f : Translator → Except Error α}

/-- **Loads**: the action ends well, and the context knows at least the names then, the layouts still
being those of the catalogue. -/
def Loads (ctx : ContextId) (cat : Catalogue) (T : Translator) (names : List String) (x : Act α)
    (a : α) (b : Bridge) : Prop :=
  ∃ b', EStateM.run x b = .ok a b' ∧ b'.Follows ctx cat T ∧
    (∀ n, (b.translatorAt ctx).Knows n → (b'.translatorAt ctx).Knows n) ∧
    ∀ n ∈ names, (b'.translatorAt ctx).Knows n

lemma mem_missing {n : String} : n ∈ b.missing ctx cat ↔
    n ∈ cat.structs.map (·.name) ∧ ¬ (b.translatorAt ctx).Knows n := by
  rw [Bridge.missing, Finset.mem_filter, List.mem_toFinset, Option.isNone_iff_eq_none,
    Translator.not_knows_iff]

/-- No more names are missing than there are. -/
lemma card_missing_le (hsize : cat.structs.length ≤ maxStructLookups) :
    (b.missing ctx cat).card ≤ maxStructLookups := by
  refine le_trans (le_trans (Finset.card_filter_le _ _) (List.toFinset_card_le _)) ?_
  rwa [List.length_map]

/-- A name that becomes known is missing no more. -/
lemma card_missing_lt {n : String} (hn : n ∈ cat.structs.map (·.name))
    (hmissing : (b.translatorAt ctx).layout? n = none)
    (hgrows : ∀ n, (b.translatorAt ctx).Knows n → (b'.translatorAt ctx).Knows n)
    (hknown : (b'.translatorAt ctx).Knows n) :
    (b'.missing ctx cat).card < (b.missing ctx cat).card := by
  have hsubset : b'.missing ctx cat ⊆ b.missing ctx cat := fun m hm => by
    rw [mem_missing] at hm ⊢
    exact ⟨hm.1, fun h => hm.2 (hgrows m h)⟩
  exact Finset.card_lt_card ((Finset.ssubset_iff_of_subset hsubset).mpr
    ⟨n, mem_missing.mpr ⟨hn, Translator.not_knows_iff.mpr hmissing⟩,
      fun h => (mem_missing.mp h).2 hknown⟩)

/-- **The retry loop**: it loads what is missing one by one, if each load ends well, and there are at
most as many names missing as it may look up. -/
lemma loads_retrying {register : String → Act Layout} (hf : T.Asks f refs a)
    (hrefs : ∀ n ∈ refs, n ∈ cat.structs.map (·.name))
    (hregister : ∀ s ∈ cat.structs, s.name ∈ refs → ∀ b, b.Follows ctx cat T →
      ∃ l, Loads ctx cat T [s.name] (register s.encoding) l b)
    {lookups : Nat} (hlookups : (b.missing ctx cat).card ≤ lookups) (hb : b.Follows ctx cat T) :
    Loads ctx cat T refs (retrying register ctx f lookups) a b := by
  induction lookups generalizing b with
  | zero =>
    have hknown : ∀ n ∈ refs, (b.translatorAt ctx).Knows n := fun n hn => by
      by_contra hmissing
      have hpos : 0 < (b.missing ctx cat).card :=
        Finset.card_pos.mpr ⟨n, mem_missing.mpr ⟨hrefs n hn, hmissing⟩⟩
      omega
    exact ⟨b, run_retrying_of_ok (hf.ok _ hb.partOf hknown) 0, hb, fun _ h => h, hknown⟩
  | succ lookups ih =>
    by_cases hmissing : ∃ n ∈ refs, (b.translatorAt ctx).layout? n = none
    · obtain ⟨n, hn, hnone, hfail⟩ := hf.missing _ hmissing
      obtain ⟨s, hs, rfl, he⟩ := hb.exists_struct (hrefs n hn)
      obtain ⟨l, b₁, hrun₁, hb₁, hgrows₁, hknown₁⟩ := hregister s hs hn b hb
      have hless := card_missing_lt (hrefs _ hn) hnone hgrows₁ (hknown₁ _ (List.mem_singleton_self _))
      obtain ⟨b₂, hrun₂, hb₂, hgrows₂, hknown₂⟩ := ih (by omega) hb₁
      refine ⟨b₂, ?_, hb₂, fun n h => hgrows₂ n (hgrows₁ n h), hknown₂⟩
      rw [run_retrying_of_missing hfail he, run_bind_ok hrun₁, hrun₂]
    · push Not at hmissing
      have hknown : ∀ n ∈ refs, (b.translatorAt ctx).Knows n := fun n hn =>
        Option.ne_none_iff_exists'.mp (hmissing n hn)
      exact ⟨b, run_retrying_of_ok (hf.ok _ hb.partOf hknown) _, hb, fun _ h => h, hknown⟩

/-- **Loading a struct**: it is loaded with those that it refers to, if loads can be nested as deep as
there are structs in front of it. -/
lemma loads_registerWithin (hT : T.Completes cat.structs)
    (hsize : cat.structs.length ≤ maxStructLookups) {depth : Nat} {pre post : List PlainStruct}
    {s : PlainStruct} (h : cat.structs = pre ++ s :: post) (hdepth : pre.length < depth)
    (hb : b.Follows ctx cat T) :
    ∃ l, Loads ctx cat T [s.name] (registerWithin ctx depth s.encoding) l b := by
  induction depth generalizing pre s post b with
  | zero => exact absurd hdepth (Nat.not_lt_zero _)
  | succ depth ih =>
    have hs : s ∈ cat.structs := h ▸ List.mem_append_right _ List.mem_cons_self
    obtain ⟨own, hown, hlayout⟩ := hT.exists_layout s hs
    have hrefs : ∀ n ∈ s.refs, n ∈ pre.map (·.name) := cat.ordered pre s post h
    have hregister : ∀ r ∈ cat.structs, r.name ∈ s.refs → ∀ b, b.Follows ctx cat T →
        ∃ l, Loads ctx cat T [r.name] (registerWithin ctx depth r.encoding) l b := by
      intro r hr hn b hb
      obtain ⟨r', hr', hname⟩ := List.mem_map.mp (hrefs _ hn)
      obtain rfl : r' = r :=
        Catalogue.eq_of_name (h ▸ List.mem_append_left _ hr') hr hname
      -- what it refers to is in front of it, and loaded one level deeper
      obtain ⟨front, back, rfl⟩ := List.append_of_mem hr'
      rw [List.append_assoc, List.cons_append] at h
      simp only [List.length_append, List.length_cons] at hdepth
      exact ih h (by omega) hb
    have hrefs' : ∀ n ∈ s.refs, n ∈ cat.structs.map (·.name) := fun n hn => by
      rw [h, List.map_append]
      exact List.mem_append_left _ (hrefs n hn)
    obtain ⟨b₁, hrun, hb₁, hgrows, hknown⟩ :=
      loads_retrying (hlayout.asks hown) hrefs' hregister (card_missing_le hsize) hb
    obtain ⟨_, _, _, he⟩ := hb₁.exists_struct (List.mem_map_of_mem hs)
    have hlearned (n : String) : ((b₁.learn ctx own).translatorAt ctx).Knows n ↔
        own.name = n ∨ (b₁.translatorAt ctx).Knows n := by
      rw [Bridge.translatorAt_learn (Bridge.lt_size_of_encodingOf? he), Translator.knows_insert]
    refine ⟨own, b₁.learn ctx own, ?_, hb₁.learn hs hown hlayout.name hknown,
      fun n hn => (hlearned n).mpr (.inr (hgrows n hn)), ?_⟩
    · rw [run_registerWithin, run_bind_ok hrun]
      rfl
    · exact List.forall_mem_singleton.mpr ((hlearned _).mpr (.inl hlayout.name))

/-- Loads can be nested as deep as a catalogue is long. -/
lemma exists_run_loadingDepth (hb : b.Follows ctx cat T) :
    ∃ depth, EStateM.run (loadingDepth ctx) b = .ok depth b ∧ cat.structs.length < depth := by
  refine ⟨_, run_loadingDepth, ?_⟩
  have hsubset : cat.structs.map (·.name) ⊆ (b.entries ctx).map Prod.fst := fun n hn => by
    obtain ⟨s, _, _, he⟩ := hb.exists_struct hn
    exact List.mem_map_of_mem (f := Prod.fst) (Bridge.mem_entries_of_encodingOf? he)
  have hle := (cat.nodup.subperm hsubset).length_le
  simp only [List.length_map] at hle
  have hsquare := Nat.le_mul_self ((b.entries ctx).length + 1)
  omega

/-- **One translation**: a plain encoding is translated into what the complete translator gives. -/
lemma loads_translate (hT : T.Completes cat.structs) (hsize : cat.structs.length ≤ maxStructLookups)
    {e : String} (he : PlainEncoding e refs) (hrefs : ∀ n ∈ refs, n ∈ cat.structs.map (·.name))
    (hb : b.Follows ctx cat T) :
    ∃ d, T.translate e = .ok d ∧ Loads ctx cat T refs (translate ctx e) d b := by
  obtain ⟨d, hd⟩ := he.exists_asks (T := T) fun n hn => hT.knows (hrefs n hn)
  obtain ⟨depth, hdepth, hlt⟩ := exists_run_loadingDepth hb
  refine ⟨d, hd.ok T (fun _ _ h => h) fun n hn => hT.knows (hrefs n hn), ?_⟩
  have hregister : ∀ s ∈ cat.structs, s.name ∈ refs → ∀ b, b.Follows ctx cat T →
      ∃ l, Loads ctx cat T [s.name] (registerWithin ctx depth s.encoding) l b := by
    intro s hs _ b hb
    obtain ⟨pre, post, h⟩ := List.append_of_mem hs
    have hlength := congrArg List.length h
    rw [List.length_append] at hlength
    exact loads_registerWithin hT hsize h (by omega) hb
  obtain ⟨b', hrun, hloads⟩ := loads_retrying hd hrefs hregister (card_missing_le hsize) hb
  exact ⟨b', by rw [translate, withStructs, run_bind_ok hdepth, hrun], hloads⟩

/-- **A sequence of translations** gives what the complete translator gives, one by one. -/
lemma run_translations (hT : T.Completes cat.structs)
    (hsize : cat.structs.length ≤ maxStructLookups) {es : List String}
    (hes : ∀ e ∈ es, ∃ refs, PlainEncoding e refs ∧ ∀ n ∈ refs, n ∈ cat.structs.map (·.name))
    (hb : b.Follows ctx cat T) :
    ∃ ds b', T.translateAll es = .ok ds ∧ EStateM.run (es.mapM (translate ctx)) b = .ok ds b' ∧
      b'.Follows ctx cat T ∧ (∀ n, (b.translatorAt ctx).Knows n → (b'.translatorAt ctx).Knows n) ∧
      ∀ e ∈ es, ∀ refs, PlainEncoding e refs → ∀ n ∈ refs, (b'.translatorAt ctx).Knows n := by
  induction es generalizing b with
  | nil => exact ⟨[], b, rfl, rfl, hb, fun _ h => h, nofun⟩
  | cons e es ih =>
    rw [List.forall_mem_cons] at hes
    obtain ⟨⟨refs, he, hrefs⟩, hes⟩ := hes
    obtain ⟨d, hd, b₁, hrun, hb₁, hgrows, -⟩ := loads_translate hT hsize he hrefs hb
    obtain ⟨ds, b₂, hds, hruns, hb₂, hgrows₂, hknown₂⟩ := ih hes hb₁
    refine ⟨d :: ds, b₂, ?_, ?_, hb₂, fun n hn => hgrows₂ n (hgrows n hn), ?_⟩
    · rw [Translator.translateAll] at hds ⊢
      rw [List.mapM_cons, hd, ok_bind, hds]
      rfl
    · rw [List.mapM_cons, run_bind_ok hrun, run_bind_ok hruns]
      rfl
    · refine List.forall_mem_cons.mpr ⟨fun refs he n hn => hgrows₂ n ?_, hknown₂⟩
      -- the first encoding can be translated with what is known then, so that nothing is missing
      by_contra hmissing
      obtain ⟨depth, b₀, -, hrun⟩ := run_bind_eq_ok.mp hrun
      have hok : (b₁.translatorAt ctx).translate e = .ok d := ok_of_run_retrying hrun
      obtain ⟨_, -, -, hfail⟩ :=
        he.translate_eq_error ⟨n, hn, Translator.not_knows_iff.mp hmissing⟩
      rw [hok] at hfail
      cases hfail

end Act

namespace Catalogue

/-- **Layouts on demand**: in a context whose metadata describes a catalogue of at most as many
structs as one translation may look up, and that knows no layout yet, any sequence of translations
of plain encodings succeeds. It gives what a translator gives with which all the structs were
registered before, one after another, and this translator gives something. Every name that an
encoding refers to, directly or not, is known afterwards, and known with the layout of that
translator. -/
theorem translations (cat : Catalogue) (hsize : cat.structs.length ≤ maxStructLookups) {b : Bridge}
    {ctx : ContextId}
    (hmetadata : ∀ n, b.encodingOf? ctx n = (cat.structs.find? (·.name == n)).map (·.encoding))
    (hnew : b.translatorAt ctx = {}) {es : List String}
    (hes : ∀ e ∈ es, ∃ refs, PlainEncoding e refs ∧ ∀ n ∈ refs, n ∈ cat.structs.map (·.name)) :
    ∃ T ds b', ({} : Translator).registerAll (cat.structs.map (·.encoding)) = .ok T ∧
      T.translateAll es = .ok ds ∧ EStateM.run (es.mapM (Act.translate ctx)) b = .ok ds b' ∧
      ∀ e ∈ es, ∀ refs, PlainEncoding e refs → ∀ n ∈ refs, ∀ m,
        Relation.ReflTransGen cat.Refers n m →
          ∃ l, T.layout? m = some l ∧ (b'.translatorAt ctx).layout? m = some l := by
  obtain ⟨T, hregister, hT⟩ := cat.exists_registerAll
  have hnothing (n : String) : ¬ (b.translatorAt ctx).Knows n := by
    rw [hnew]
    rintro ⟨l, hl⟩
    cases hl
  have hb : b.Follows ctx cat T :=
    ⟨hmetadata, fun n l hl => absurd ⟨l, hl⟩ (hnothing n),
      fun s _ hknown => absurd hknown (hnothing s.name)⟩
  obtain ⟨ds, b', hds, hrun, hb', -, hknown⟩ := Act.run_translations hT hsize hes hb
  refine ⟨T, ds, b', hregister, hds, hrun, fun e he refs hplain n hn m hm => ?_⟩
  obtain ⟨l, hl⟩ := hb'.knows_of_refers hm (hknown e he refs hplain n hn)
  exact ⟨l, hb'.partOf m l hl, hl⟩

/-- A point, with fields that have no names. -/
def point : PlainStruct where
  name := "Point"
  body := ['d', 'd']
  refs := []
  forall_name := by simp [endsName]
  plain := .cons (q := []) .unnamed .nil (.structless fun _ => .scalar .double) (by decide)
    (Tail.stops_closed _) (.cons (q := []) .unnamed .nil (.structless fun _ => .scalar .double)
      (by decide) (Tail.stops_closed _) .nil)
  ne_nil := by decide

/-- A labelled point, with fields that have names: the first one refers to the point, and the second
one is a pointer to anything. -/
def pin : PlainStruct where
  name := "Pin"
  body := ['"', 'a', 't', '"', '\x7b', 'P', 'o', 'i', 'n', 't', '\x7d', '"', 'u', '"', 'r', '^', 'v']
  refs := ["Point"]
  forall_name := by simp [endsName]
  plain := .cons (q := []) (@Label.named ['a', 't'] (by decide)) .nil
    (.reference ['P', 'o', 'i', 'n', 't'] (by simp [endsName])) (by decide)
    (Tail.stops_closed _)
    (.cons (q := ['r']) (v := []) (@Label.named ['u'] (by decide))
      (by simp [Qualifiers, isQualifier])
      (.of_spells (fun _ => none) (@Spells.pointer _ true [] _ _ _ (by simp)
        (.type (.scalar .void) (by decide) (by decide))) (by decide)) (by decide)
      (Tail.stops_closed _) .nil)
  ne_nil := by decide

/-- The point and the pin, in this order. -/
def pins : Catalogue where
  structs := [point, pin]
  nodup := by decide
  ordered := by
    intro pre s post h n hn
    match pre, h with
    | [], h => cases h; cases hn
    | [_], h =>
      cases h
      obtain rfl := List.mem_singleton.mp hn
      decide
    | _ :: _ :: _, h => simp at h

/-- A bridge with one context, whose metadata describes the structs of a catalogue. -/
def host (cat : Catalogue) : Bridge where
  contexts := #[{ sources := [{ library := "shapes"
                                structs := cat.structs.map fun s => (s.name, s.encoding) }] }]

lemma encodingOf?_host (cat : Catalogue) (n : String) :
    (host cat).encodingOf? 0 n = (cat.structs.find? (·.name == n)).map (·.encoding) := by
  have hlookup (structs : List PlainStruct) :
      (structs.map fun s => (s.name, s.encoding)).lookup n =
        (structs.find? (·.name == n)).map (·.encoding) := by
    induction structs with
    | nil => rfl
    | cons s structs ih =>
      rw [List.map_cons, List.lookup_cons, List.find?_cons, BEq.comm, ih]
      cases s.name == n <;> rfl
  change List.findSome? _ [_] = _
  rw [List.findSome?_singleton]
  exact hlookup cat.structs

/-- The pin is loaded with the point, and the point is known then. -/
theorem translations_pins :
    pins.structs.length ≤ maxStructLookups ∧ (host pins).translatorAt 0 = {} ∧
      ∃ T ds b', ({} : Translator).registerAll (pins.structs.map (·.encoding)) = .ok T ∧
        T.translateAll ["\x7bPin\x7d", "^^i", "r\x7bPoint\x7d"] = .ok ds ∧
        EStateM.run (["\x7bPin\x7d", "^^i", "r\x7bPoint\x7d"].mapM (Act.translate 0)) (host pins) =
          .ok ds b' ∧
        (∃ l, T.layout? "Point" = some l ∧ (b'.translatorAt 0).layout? "Point" = some l) ∧
        ∃ l, T.layout? "Pin" = some l ∧ (b'.translatorAt 0).layout? "Pin" = some l := by
  have hpin : PlainEncoding "\x7bPin\x7d" ["Pin"] :=
    ⟨[], _, _, rfl, .nil, .reference ['P', 'i', 'n'] (by simp [endsName])⟩
  have hpointer : PlainEncoding "^^i" [] :=
    ⟨[], _, _, rfl, .nil, .of_spells (fun _ => none) (@Spells.pointer _ false ['^'] _ _ _
      (by simp [isSign]) (.type (.scalar .int) (by decide) (by decide))) (by decide)⟩
  have hpoint : PlainEncoding "r\x7bPoint\x7d" ["Point"] :=
    ⟨['r'], _, _, rfl, by simp [Qualifiers, isQualifier],
      .reference ['P', 'o', 'i', 'n', 't'] (by simp [endsName])⟩
  have hes : ∀ e ∈ ["\x7bPin\x7d", "^^i", "r\x7bPoint\x7d"], ∃ refs, PlainEncoding e refs ∧
      ∀ n ∈ refs, n ∈ pins.structs.map (·.name) := by
    simp only [List.forall_mem_cons]
    exact ⟨⟨_, hpin, by decide⟩, ⟨_, hpointer, by simp⟩, ⟨_, hpoint, by decide⟩, by simp⟩
  obtain ⟨T, ds, b', hregister, hds, hrun, hneeded⟩ :=
    translations pins (by decide) (encodingOf?_host pins) rfl hes
  have hrefers : pins.Refers "Pin" "Point" :=
    ⟨pin, List.mem_cons_of_mem _ List.mem_cons_self, rfl, List.mem_singleton_self _⟩
  exact ⟨by decide, rfl, T, ds, b', hregister, hds, hrun,
    hneeded _ List.mem_cons_self _ hpin _ (List.mem_singleton_self _) _ (.single hrefers),
    hneeded _ List.mem_cons_self _ hpin _ (List.mem_singleton_self _) _ .refl⟩

end Catalogue

end MessageBridge
