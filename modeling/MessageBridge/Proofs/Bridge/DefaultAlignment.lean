import MessageBridge.Bridge.PendingClass
import MessageBridge.Proofs.Bridge.Hosting
import MessageBridge.Proofs.Bridge.Loading
import MessageBridge.Proofs.Bridge.Types
import MessageBridge.Proofs.Encoding.Drafted
import MessageBridge.Proofs.Space.Sizes

/-!
# The default alignment of a variable

A variable whose alignment is not given is aligned to its size if this is a power of two, and else as its
type is. The space takes exponents below sixteen only. No type is aligned so strictly, but a size can be a
larger power of two, and then the variable is refused for an alignment that nobody asked for.

## Main definitions

* `Bridge.DraftedAt` — a context that has learned its layouts by reading encodings.

## Main results

* `Act.drafted_withStructs`, `Act.drafted_registerStruct` — contexts stay so.
* `PendingClass.defaultExponent_lt_iff` — which default alignments the space takes.
* `PendingClass.addIvar_default_iff` — which variables without a given alignment are added.
-/

namespace MessageBridge

/-! ## Contexts -/

/-- **Drafted**: the context has learned its layouts by reading encodings. -/
def Bridge.DraftedAt (ctx : ContextId) (b : Bridge) : Prop := (b.translatorAt ctx).Drafted

/-- A step after which a context is still drafted. -/
def Bridge.Drafting (ctx : ContextId) (b b' : Bridge) : Prop := b.DraftedAt ctx → b'.DraftedAt ctx

namespace Act

variable {α : Type} {b b' : Bridge} {ctx k : ContextId} {x : Act α}

lemma Moves.draftedAt (h : Moves (Bridge.Drafting ctx) x b) (hb : b.DraftedAt ctx) :
    (x.after b).DraftedAt ctx := by
  rw [Moves] at h
  generalize x.after b = b' at h
  induction h with
  | refl => exact hb
  | tail _ hstep ih => exact hstep ih

/-- What a context learns is the layout of an encoding that it has just read. -/
lemma drafting_learn {e : String} {l : Layout} (hl : (b.translatorAt k).structLayout e = .ok l) :
    b.Drafting ctx (b.learn k l) := by
  intro hb
  by_cases hk : k = ctx
  · subst hk
    by_cases hsize : k < b.contexts.size
    · rw [Bridge.DraftedAt, Bridge.translatorAt_learn hsize]
      exact .register hb hl
    · have hnone : (b.learn k l).contexts[k]? = none :=
        Array.getElem?_eq_none (by simpa [Bridge.learn] using hsize)
      rw [Bridge.DraftedAt, Bridge.translatorAt, Bridge.contextAt, hnone]
      exact .empty
  · rwa [Bridge.DraftedAt, Bridge.translatorAt, Bridge.learn, Bridge.contextAt_modify_of_ne hk]

lemma drafting_retrying {register : String → Act Layout}
    (hregister : ∀ e b, Moves (Bridge.Drafting ctx) (register e) b) (f : Translator → Except Error α)
    (lookups : Nat) : Moves (Bridge.Drafting ctx) (retrying register k f lookups) b := by
  induction lookups generalizing b with
  | zero => exact (moves_context k).bind fun _ _ _ => moves_ofExcept _
  | succ lookups ih =>
    unfold retrying
    refine (moves_context k).bind fun c b₁ _ => ?_
    split
    · refine Moves.bind ((moves_context k).bind fun _ _ _ => moves_pure _) fun found b₂ _ => ?_
      split
      · exact (hregister _ b₂).bind fun _ _ _ => ih
      · exact moves_fail _
    · exact moves_ofExcept _

lemma drafting_registerWithin (depth : Nat) (e : String) :
    Moves (Bridge.Drafting ctx) (registerWithin k depth e) b := by
  induction depth generalizing e b with
  | zero => exact moves_fault _
  | succ depth ih =>
    refine (drafting_retrying (fun e _ => ih e) _ _).bind fun layout b₁ hrun => ?_
    exact Moves.bind (.of_step (drafting_learn (ok_of_run_retrying hrun))) fun _ _ _ => moves_pure _

/-- **Translations** leave every context drafted. -/
lemma drafted_withStructs (f : Translator → Except Error α) (hb : b.DraftedAt ctx) :
    ((withStructs k f).after b).DraftedAt ctx :=
  Moves.draftedAt (((moves_context k).bind fun _ _ _ => moves_pure _).bind fun _ _ _ =>
    drafting_retrying (fun e _ => drafting_registerWithin _ e) f _) hb

/-- **Registering a layout** leaves every context drafted. -/
lemma drafted_registerStruct (e : String) (hb : b.DraftedAt ctx) :
    ((registerStruct k e).after b).DraftedAt ctx :=
  Moves.draftedAt (((moves_context k).bind fun _ _ _ => moves_pure _).bind fun _ _ _ =>
    drafting_registerWithin _ e) hb

end Act

/-- **Opening a context** leaves the others as they are, and the new one has learned nothing yet. -/
lemma Bridge.DraftedAt.openContext {b : Bridge} {ctx : ContextId} (hb : b.DraftedAt ctx)
    (config : Config) (capabilities : Capabilities) :
    (b.openContext config capabilities).2.DraftedAt ctx := by
  have hget : (b.openContext config capabilities).2.contexts[ctx]? =
      if ctx = b.contexts.size then some { config, capabilities } else b.contexts[ctx]? :=
    Array.getElem?_push
  rw [Bridge.DraftedAt, Bridge.translatorAt, Bridge.contextAt, hget]
  split
  · exact .empty
  · exact hb

/-! ## Exponents -/

namespace PendingClass

open Act

variable {d : Descriptor} {n : Nat}

lemma isPowerOfTwo_iff_log2 : n.isPowerOfTwo ↔ n ≠ 0 ∧ 1 <<< Nat.log2 n = n := by
  rw [Nat.shiftLeft_eq, one_mul]
  constructor
  · rintro ⟨k, rfl⟩
    exact ⟨(Nat.two_pow_pos k).ne', by rw [Nat.log2_two_pow]⟩
  · exact fun ⟨_, h⟩ => ⟨_, h.symm⟩

/-- **The default alignment** is the size if this is a power of two, and else that of the type. -/
lemma two_pow_defaultExponent (hd : d.shape.Built) (size : UInt64) :
    (size.toNat.isPowerOfTwo → 2 ^ (defaultExponent size d).toNat = size.toNat) ∧
      (¬size.toNat.isPowerOfTwo → 2 ^ (defaultExponent size d).toNat = d.alignment) := by
  have hlog {n : Nat} (hn : n.isPowerOfTwo) (hlt : n < 2 ^ 64) : 2 ^ (UInt8.ofNat n.log2).toNat = n := by
    obtain ⟨k, rfl⟩ := hn
    have hk : k < 64 := (Nat.pow_lt_pow_iff_right (by decide)).mp hlt
    rw [Nat.log2_two_pow, UInt8.toNat_ofNat_of_lt' (hk.trans (by decide))]
  have hd' : d.alignment ≤ 8 := hd.alignment_le
  unfold defaultExponent
  simp only [← isPowerOfTwo_iff_log2]
  constructor
  · intro hn
    rw [if_pos hn]
    exact hlog hn size.toNat_lt
  · intro hn
    rw [if_neg hn]
    exact hlog hd.isPowerOfTwo (by omega)

/-- **The space takes** every default alignment but that of a power of two from `2 ^ 16` on. -/
lemma defaultExponent_lt_iff (hd : d.shape.Built) (size : UInt64) :
    defaultExponent size d < 16 ↔ ¬(size.toNat.isPowerOfTwo ∧ 2 ^ 16 ≤ size.toNat) := by
  obtain ⟨hpower, hother⟩ := two_pow_defaultExponent hd size
  have hlt : defaultExponent size d < 16 ↔ 2 ^ (defaultExponent size d).toNat < 2 ^ 16 := by
    rw [Nat.pow_lt_pow_iff_right (by decide), UInt8.lt_iff_toNat_lt]
    rfl
  have hd' : d.alignment ≤ 8 := hd.alignment_le
  rw [hlt]
  by_cases hn : size.toNat.isPowerOfTwo
  · rw [hpower hn, not_and, not_le]
    exact ⟨fun h _ => h, fun h => h hn⟩
  · rw [hother hn]
    exact iff_of_true (by omega) fun h => hn h.1

end PendingClass

/-! ## Adding a variable -/

/-- **With room for it** below `2 ^ 63`, a variable is added to a pending class or refused for what it is
itself. -/
lemma ClassTable.addIvar?_of_fits {t : ClassTable} {c : ClassId} {size : UInt64} {e : UInt8}
    (hmeta : (t.get c).isMeta = false) (hpending : (t.get c).registered = false)
    (name types : String) (hfits : t.ivarStart c e + size.toNat < 2 ^ 63) :
    ((size ≠ 0 ∧ e < 16 ∧ (t.get c).ivar? name = none) ∧
      ∃ i : Ivar, i.name = name ∧ i.types = types ∧ i.size = size ∧
        i.offset.toNat = t.ivarStart c e ∧
        t.addIvar? c name size e types = some (t.withIvar c i)) ∨
    ¬(size ≠ 0 ∧ e < 16 ∧ (t.get c).ivar? name = none) ∧ t.addIvar? c name size e types = none := by
  have hlt : t.ivarStart c e < 2 ^ 63 := (Nat.le_add_right _ _).trans_lt hfits
  have hstart : t.ivarStart c e % 2 ^ 64 = t.ivarStart c e := Nat.mod_eq_of_lt (by omega)
  by_cases h : size ≠ 0 ∧ e < 16 ∧ (t.get c).ivar? name = none
  · obtain ⟨hbytes, hexponent, hnew⟩ := h
    have hoffset : (UInt64.ofNat (t.ivarStart c e)).toNat = t.ivarStart c e :=
      UInt64.toNat_ofNat_of_lt' (hlt.trans (by decide))
    exact .inl ⟨⟨hbytes, hexponent, hnew⟩, ⟨name, types, _, size⟩, rfl, rfl, rfl, hoffset,
      addIvar?_eq_some_iff.mpr ⟨⟨hmeta, hpending, hbytes, hexponent, hnew⟩, hstart.trans_lt hlt,
        _, rfl, rfl, rfl, hoffset.trans hstart.symm, rfl⟩⟩
  · refine .inr ⟨h, Option.eq_none_iff_forall_ne_some.mpr fun t' hadd => ?_⟩
    obtain ⟨⟨-, -, hbytes, hexponent, hnew⟩, -⟩ := addIvar?_eq_some_iff.mp hadd
    exact h ⟨hbytes, hexponent, hnew⟩

namespace PendingClass

open Act

variable {d : Descriptor} {p : PendingClass} {b b₁ : Bridge} {c : ClassId} {name encoding : String}

/-- The steps of adding a variable to a pending class once its type is known. -/
lemma run_addIvar (hp : p.registered = false)
    (hc : b.space.classes.ofAddress? p.classRef.address = some c) (hname : Text.hasNul name = false)
    (hd : EStateM.run (translate p.context encoding) b = .ok d b₁) (size : Option UInt64)
    (exponent : Option UInt8) :
    EStateM.run (p.addIvar name encoding size exponent) b =
      let n := size.getD (UInt64.ofNat d.size)
      if n = 0 then .error (.error (.ivarRegistration p.name name)) b₁
      else if Text.hasNul d.encoding then .error (.error (.invalidName d.encoding)) b₁
      else match b.space.classes.addIvar? c name n (exponent.getD (defaultExponent n d))
          d.encoding with
        | some classes => .ok () { b₁ with space := b.space.withClasses classes }
        | none => .error (.error (.ivarRegistration p.name name)) b₁ := by
  have hspace : b₁.space = b.space := by
    rw [← after_of_ok hd]
    exact space_eq_of_learning (learning_withStructs _ _)
  have hensure : EStateM.run (p.ensurePending "add an ivar") b = .ok () b := by
    rw [ensurePending, hp]
    rfl
  have hcheck : EStateM.run (checkName name) b₁ = .ok () b₁ := by
    rw [checkName, hname]
    rfl
  have hclass : EStateM.run (classOfRef p.classRef) b₁ = .ok c b₁ :=
    run_readSpace_eq_ok.mpr ⟨hspace ▸ hc, rfl⟩
  unfold addIvar
  rw [run_bind_ok hensure, run_bind_ok hd]
  simp only
  split
  · rfl
  · rw [run_bind_ok hcheck]
    cases hnul : Text.hasNul d.encoding with
    | true => exact run_bind_error (by rw [checkName, if_pos hnul, run_fail])
    | false =>
      have hencoding : EStateM.run (checkName d.encoding) b₁ = .ok () b₁ := by
        rw [checkName, hnul]
        rfl
      rw [run_bind_ok hencoding, run_bind_ok hclass, run_bind_ok (run_fromSpace _), hspace]
      cases b.space.classes.addIvar? c name (size.getD (UInt64.ofNat d.size))
        (exponent.getD (defaultExponent (size.getD (UInt64.ofNat d.size)) d)) d.encoding with
      | some classes =>
        rw [← hspace]
        rfl
      | none => rfl

variable {size : Option UInt64}

/-- What becomes of a variable of so many bytes with the default alignment, where it would end below
`2 ^ 63`: it is added, or refused for the first thing that is wrong with it. -/
lemma addIvar_default_ends (hp : p.registered = false)
    (hc : b.space.classes.ofAddress? p.classRef.address = some c)
    (hmeta : (b.space.classes.get c).isMeta = false)
    (hpending : (b.space.classes.get c).registered = false) (hname : Text.hasNul name = false)
    (hd : EStateM.run (translate p.context encoding) b = .ok d b₁) (hbuilt : d.shape.Built)
    {n : UInt64} (hn : size.getD (UInt64.ofNat d.size) = n)
    (hfits : b.space.classes.ivarStart c (defaultExponent n d) + n.toNat < 2 ^ 63) :
    ((n.toNat ≠ 0 ∧ (b.space.classes.get c).ivar? name = none ∧ Text.hasNul d.encoding = false ∧
        ¬(n.toNat.isPowerOfTwo ∧ 2 ^ 16 ≤ n.toNat)) ∧
      ∃ i : Ivar, i.name = name ∧ i.types = d.encoding ∧ i.size = n ∧
        i.offset.toNat = b.space.classes.ivarStart c (defaultExponent n d) ∧
        EStateM.run (p.addIvar name encoding size none) b =
          .ok () { b₁ with space := b.space.withClasses (b.space.classes.withIvar c i) }) ∨
    ¬(n.toNat ≠ 0 ∧ (b.space.classes.get c).ivar? name = none ∧ Text.hasNul d.encoding = false ∧
        ¬(n.toNat.isPowerOfTwo ∧ 2 ^ 16 ≤ n.toNat)) ∧
      EStateM.run (p.addIvar name encoding size none) b =
        .error (.error (if n.toNat ≠ 0 ∧ Text.hasNul d.encoding = true then .invalidName d.encoding
          else .ivarRegistration p.name name)) b₁ := by
  have hrun := run_addIvar hp hc hname hd size none
  simp only [Option.getD_none, hn] at hrun
  have hexponent := defaultExponent_lt_iff hbuilt n
  have hzero : n = 0 ↔ n.toNat = 0 := UInt64.toNat_inj.symm
  by_cases hbytes : n = 0
  · rw [if_pos hbytes] at hrun
    exact .inr ⟨fun h => h.1 (hzero.mp hbytes),
      by rw [hrun, if_neg fun h => h.1 (hzero.mp hbytes)]⟩
  rw [if_neg hbytes] at hrun
  have hpos := mt hzero.mpr hbytes
  by_cases hnul : Text.hasNul d.encoding = true
  · rw [if_pos hnul] at hrun
    exact .inr ⟨fun h => absurd (hnul.symm.trans h.2.2.1) (by decide),
      by rw [hrun, if_pos ⟨hpos, hnul⟩]⟩
  rw [if_neg hnul] at hrun
  rcases ClassTable.addIvar?_of_fits hmeta hpending name d.encoding hfits with
    ⟨⟨-, hlt, hnew⟩, i, hi, htypes, hsize, hoffset, hadd⟩ | ⟨hrefused, hadd⟩
  · rw [hadd] at hrun
    exact .inl ⟨⟨hpos, hnew, Bool.eq_false_of_not_eq_true hnul, hexponent.mp hlt⟩,
      i, hi, htypes, hsize, hoffset, hrun⟩
  · rw [hadd] at hrun
    refine .inr ⟨fun h => hrefused ⟨hbytes, hexponent.mpr h.2.2.2, h.2.1⟩, ?_⟩
    rw [hrun, if_neg fun h => hnul h.2]

/-- **Variables without a given alignment** are aligned to their size if it is a power of two, and else as
their type is. One that would end below `2 ^ 63` is added, as the last one of its class, just if it has
bytes, its name is new in the class, its encoding can be stored, and its size is not a power of two from
`2 ^ 16` on. Otherwise nothing in the space changes. -/
theorem addIvar_default_iff (hp : p.registered = false)
    (hc : b.space.classes.ofAddress? p.classRef.address = some c)
    (hmeta : (b.space.classes.get c).isMeta = false)
    (hpending : (b.space.classes.get c).registered = false) (hname : Text.hasNul name = false)
    (hb : b.DraftedAt p.context)
    (hd : EStateM.run (translate p.context encoding) b = .ok d b₁) {n : Nat}
    (hn : n = size.elim d.size UInt64.toNat) {e : UInt8}
    (he : e = defaultExponent (size.getD (UInt64.ofNat d.size)) d)
    (hfits : b.space.classes.ivarStart c e + n < 2 ^ 63) :
    (n.isPowerOfTwo → 2 ^ e.toNat = n) ∧ (¬n.isPowerOfTwo → 2 ^ e.toNat = d.alignment) ∧
    ((∃ b', EStateM.run (p.addIvar name encoding size none) b = .ok () b') ↔
      n ≠ 0 ∧ (b.space.classes.get c).ivar? name = none ∧ Text.hasNul d.encoding = false ∧
        ¬(n.isPowerOfTwo ∧ 2 ^ 16 ≤ n)) ∧
    (∀ b', EStateM.run (p.addIvar name encoding size none) b = .ok () b' →
      ∃ i : Ivar, i.name = name ∧ i.types = d.encoding ∧ i.size.toNat = n ∧
        i.offset.toNat = b.space.classes.ivarStart c e ∧
        b'.space = b.space.withClasses (b.space.classes.withIvar c i)) ∧
    (∀ stop b', EStateM.run (p.addIvar name encoding size none) b = .error stop b' →
      b'.space = b.space ∧
        stop = .error (if n ≠ 0 ∧ Text.hasNul d.encoding = true then .invalidName d.encoding
          else .ivarRegistration p.name name)) := by
  have hspace : b₁.space = b.space := by
    rw [← after_of_ok hd]
    exact space_eq_of_learning (learning_withStructs _ _)
  have hsize : (size.getD (UInt64.ofNat d.size)).toNat = n := by
    subst hn
    cases size with
    | some size => rfl
    | none =>
      have hlt : d.size < 2 ^ 63 := (Nat.le_add_left _ _).trans_lt hfits
      exact UInt64.toNat_ofNat_of_lt' (hlt.trans (by decide))
  have hbuilt : d.shape.Built := by
    have hafter : ((withStructs p.context (·.translate encoding)).after b).DraftedAt p.context :=
      drafted_withStructs _ hb
    exact hafter.built_of_translate (after_of_ok hd ▸ ok_of_run_withStructs hd)
  subst he
  obtain ⟨hpower, hother⟩ := two_pow_defaultExponent hbuilt (size.getD (UInt64.ofNat d.size))
  have hends := addIvar_default_ends hp hc hmeta hpending hname hd hbuilt rfl (hsize.symm ▸ hfits)
  rw [hsize] at hpower hother hends
  refine ⟨hpower, hother, ?_⟩
  rcases hends with ⟨hgood, i, hi, htypes, hbytes, hoffset, hrun⟩ | ⟨hbad, hrun⟩
  · rw [hrun]
    refine ⟨iff_of_true ⟨_, rfl⟩ hgood, ?_, fun _ _ h => (by cases h)⟩
    rintro b' ⟨⟩
    exact ⟨i, hi, htypes, hbytes ▸ hsize, hoffset, rfl⟩
  · rw [hrun]
    refine ⟨iff_of_false (fun h => by obtain ⟨_, h⟩ := h; cases h) hbad, fun _ h => (by cases h), ?_⟩
    rintro stop b' ⟨⟩
    exact ⟨hspace, rfl⟩

/-- A class below `Object` that is being built in the first context. -/
def begun : Bridge :=
  (Act.extend 0 (some (ofClass ⟨1⟩ "Object").classRef) "Big" 0).after (Bridge.openContext {} {} {}).2

lemma draftedAt_begun : begun.DraftedAt 0 := by
  have hlayouts : (begun.translatorAt 0).layouts = [] := by decide +kernel
  rw [Bridge.DraftedAt, show begun.translatorAt 0 = {} from congrArg Translator.mk hlayouts]
  exact .empty

lemma run_translate_begun : EStateM.run (translate 0 "c") begun = .ok (.scalar .char) begun :=
  run_withStructs_of_ok (Translator.translate_of_spells (.scalar .char))

/-- A variable of one byte less than `2 ^ 16` is added. -/
theorem addIvar_default_iff_begun :
    begun.DraftedAt 0 ∧ EStateM.run (translate 0 "c") begun = .ok (.scalar .char) begun ∧
      begun.space.classes.ivarStart ⟨5⟩ (defaultExponent 65535 (.scalar .char)) + 65535 < 2 ^ 63 ∧
      ∃ b', EStateM.run ((ofClass ⟨5⟩ "Big").addIvar "page" "c" (some 65535) none) begun =
        .ok () b' := by
  have hfits : begun.space.classes.ivarStart ⟨5⟩ (defaultExponent 65535 (.scalar .char)) + 65535 <
      2 ^ 63 := by decide +kernel
  have hclass : begun.space.classes.ofAddress? (ofClass ⟨5⟩ "Big").classRef.address = some ⟨5⟩ := by
    decide +kernel
  have hname : Text.hasNul "page" = false := by decide
  have hsize : 65535 = (some 65535 : Option UInt64).elim (Descriptor.scalar .char).size UInt64.toNat :=
    rfl
  obtain ⟨-, -, hiff, -, -⟩ := addIvar_default_iff (p := ofClass ⟨5⟩ "Big") rfl hclass
    (by decide +kernel) (by decide +kernel) hname draftedAt_begun run_translate_begun hsize rfl hfits
  have hodd : ¬Nat.isPowerOfTwo 65535 := by
    rw [isPowerOfTwo_iff_log2]
    decide +kernel
  exact ⟨draftedAt_begun, run_translate_begun, hfits,
    hiff.mpr ⟨by decide, by decide +kernel, by decide, fun h => hodd h.1⟩⟩

/-- **An alignment that nobody asked for**: a variable of `2 ^ 16` bytes is refused, although its name is
new in the class and there is room for it. -/
theorem not_added_begun :
    begun.DraftedAt 0 ∧ EStateM.run (translate 0 "c") begun = .ok (.scalar .char) begun ∧
      begun.space.classes.ivarStart ⟨5⟩ (defaultExponent 65536 (.scalar .char)) + 65536 < 2 ^ 63 ∧
      (begun.space.classes.get ⟨5⟩).ivar? "page" = none ∧
      EStateM.run ((ofClass ⟨5⟩ "Big").addIvar "page" "c" (some 65536) none) begun =
        .error (.error (.ivarRegistration "Big" "page")) begun := by
  refine ⟨draftedAt_begun, run_translate_begun, by decide +kernel, by decide +kernel, ?_⟩
  have hrefused : begun.space.classes.addIvar? ⟨5⟩ "page" 65536
      (defaultExponent 65536 (.scalar .char)) (Descriptor.scalar .char).encoding = none := by
    decide +kernel
  have hclass : begun.space.classes.ofAddress? (ofClass ⟨5⟩ "Big").classRef.address = some ⟨5⟩ := by
    decide +kernel
  have hname : Text.hasNul "page" = false := by decide
  have hrun := run_addIvar (p := ofClass ⟨5⟩ "Big") rfl hclass hname run_translate_begun (some 65536)
    none
  simp only [Option.getD_some, Option.getD_none, hrefused] at hrun
  exact hrun

end PendingClass

end MessageBridge
