import MessageBridge.Proofs.Bridge.DirectCall
import MessageBridge.Proofs.Bridge.Identity
import MessageBridge.Proofs.Bridge.Transparency
import MessageBridge.Proofs.Native.Words
import MessageBridge.Proofs.Space.Texts

/-!
# Exceptions and their texts

Exceptions are made, asked and disposed of by routines of the root classes. In a context that is at rest
the calls of these routines end with what `ObjectSpace.exists_makes`, `ObjectSpace.HoldsTexts.text?_eq`
and `ObjectSpace.HoldsTexts.disposeException?_eq` say about the object space.

## Main definitions

* `Bridge.AtRest` — nothing waits in the context, and memory and classes are in order.
* `Act.Plan.creation`, `Act.Plan.asking` — the calls.
* `Act.Made` — what is there once an exception was made.

## Main results

* `Act.run_carryOut_routine` — a call of a routine.
* `Act.exists_made`, `Act.run_reading`, `Act.run_disposal` — an exception is made, asked and disposed
  of.
* `Act.exception_texts` — all of it, where no class below `Exception` is in the way.
-/

namespace MessageBridge

/-! ## Passing texts -/

/-- The value of a text that may be missing. -/
def Value.ofText? : Option String → Value
  | some text => .str text
  | none => .nil

/-- The type of texts. -/
def Descriptor.text : Descriptor := .mk "*" .cString

@[simp] lemma Descriptor.isWord_text : Descriptor.text.IsWord := ⟨by decide, by decide, by decide⟩

/-- **Copies**: the bridge is the same except for the block of a text, which is at the address. -/
structure Bridge.Copies (b : Bridge) (text : Option String) (a : Address) (b' : Bridge) : Prop where
  bridge : b' = { b with space := { b.space with memory := b'.space.memory } }
  tidy : b'.space.Tidy
  sound : b'.space.memory.Sound
  text : b'.space.TextAt a (text.map Text.toUtf8)
  blocks : ∀ C ∈ b.space.memory.blocks, C ∈ b'.space.memory.blocks
  next : b.space.memory.next ≤ b'.space.memory.next

namespace Act

variable {ctx : ContextId} {b b' : Bridge} {text : Option String} {a : Address} {ns : List Nat}

/-- A text is passed as the address of a copy, and a missing one as the null address. -/
lemma exists_copies (ctx : ContextId) (index : Nat) (hs : b.space.Tidy) (hsound : b.space.memory.Sound)
    (hstop : b.space.classes.stop ≤ b.space.memory.next)
    (hvalid : ∀ t ∈ text, Text.hasNul t = false)
    (hroom : b.space.memory.Affords (ObjectSpace.textSizes (text.map Text.toUtf8) ++ ns)) :
    ∃ a blocks b', EStateM.run (encode ctx index .text (slot Descriptor.text.size) (.ofText? text)) b =
        .ok (wordBytes a, blocks) b' ∧
      b.Copies text a b' ∧ b'.space.memory.Affords ns := by
  cases text with
  | none =>
    refine ⟨0, [], b, ?_, ⟨rfl, hs, hsound, .none, fun _ hC => hC, le_rfl⟩, hroom⟩
    unfold encode
    rfl
  | some t =>
    obtain ⟨a, m, hcopy, hrest⟩ := hroom.exists_allocate (Text.toUtf8 t)
    obtain ⟨ha, -, hm⟩ := Memory.allocate_eq_some hcopy
    have hgrant := hsound.grants_of_allocate hcopy
    have hkeep : EStateM.run (keepString t) b =
        .ok a { b with space := { b.space with memory := m } } := by
      have hcheck : checkName t = pure () := if_neg (by rw [hvalid t rfl]; decide)
      have hread : EStateM.run (readSpace fun s => (s.memory.allocate ((Text.toUtf8 t).length + 1)
          (Text.toUtf8 t)).map fun r => (r.1, { s with memory := r.2 })) b =
            .ok (a, { b.space with memory := m }) b :=
        run_readSpace_eq_ok.mpr ⟨by rw [hcopy]; rfl, rfl⟩
      unfold keepString keepBlock tryOnSpace
      rw [hcheck, pure_bind]
      exact run_bind_ok hread
    let b' : Bridge := { b with space := { b.space with memory := m } }
    have htext : b'.space.TextAt a (some (Text.toUtf8 t)) :=
      .of_block (hsound.ne_zero_of_allocate hcopy)
        (fun x hx => Text.ne_zero_of_mem_toUtf8 (hvalid t rfl) hx) (hgrant.blocks ▸ List.mem_cons_self)
    refine ⟨a, [a], b', ?_, ⟨rfl, hs.grant hgrant (ha ▸ hstop), hsound.allocate hcopy, htext,
      fun C hC => hgrant.blocks ▸ List.mem_cons_of_mem _ hC, ?_⟩, hrest⟩
    · unfold encode
      refine (run_bind_ok hkeep).trans ?_
      rw [← writeWord_slot]
      rfl
    · simp only [b', hm]
      omega

/-- The text at an address is read as it was stored. -/
lemma run_textAt (h : b.space.TextAt a (text.map Text.toUtf8)) (hs : b.space.memory.Disjoint) :
    EStateM.run (textAt a) b = .ok (text.map Text.toUtf8) b := by
  cases text with
  | none =>
    have hzero : a = 0 := by
      cases h
      rfl
    unfold textAt
    rw [if_pos hzero]
    rfl
  | some t =>
    have hne : a ≠ 0 := by
      rintro rfl
      exact absurd h.eq_none (by simp)
    have hvalid : (Text.ofUtf8? (Text.toUtf8 t)).isSome = true := by
      simp only [Text.ofUtf8?, Text.ofUtf8Lossy_toUtf8, if_true, Option.isSome_some]
    unfold textAt
    rw [if_neg hne, run_bind_ok (run_readSpace_eq_ok.mpr ⟨h.readString?_eq hs, rfl⟩), hvalid]
    rfl

end Act

/-! ## Calls of routines -/

/-- **At rest**: the context is open and nothing waits in it, memory and classes are in order, and each
reference of the context is for the address that it is kept under. -/
structure Bridge.AtRest (b : Bridge) (ctx : ContextId) : Prop where
  opened : ctx < b.contexts.size
  quiet : b.Quiet ctx
  tidy : b.space.Tidy
  memory : b.space.memory.Sound
  stop : b.space.classes.stop ≤ b.space.memory.next
  later : ObjectSpace.initial.classes.Later b.space.classes
  refs : ∀ e ∈ (b.contextAt ctx).tracked, e.2.address = e.1

namespace Bridge.AtRest

variable {ctx : ContextId} {b b' : Bridge} {a : Address} {text : Option String}

/-- So it is in another space with the same classes in which nothing else is raised. -/
lemma withSpace (hb : b.AtRest ctx) {space : ObjectSpace} (htidy : space.Tidy)
    (hmemory : space.memory.Sound) (hnext : b.space.memory.next ≤ space.memory.next)
    (hclasses : space.classes = b.space.classes) (hraised : space.raised = b.space.raised) :
    ({ b with space } : Bridge).AtRest ctx where
  opened := hb.opened
  quiet := ⟨hb.quiet.pending, fun hcap => hraised.trans (hb.quiet.raised hcap)⟩
  tidy := htidy
  memory := hmemory
  stop := by
    simp only [hclasses]
    exact hb.stop.trans hnext
  later := by
    simp only [hclasses]
    exact hb.later
  refs := hb.refs

lemma copies (hb : b.AtRest ctx) (h : b.Copies text a b') : b'.AtRest ctx := by
  have hspace : b'.space = { b.space with memory := b'.space.memory } := congrArg Bridge.space h.bridge
  have hbridge : b' = { b with space := b'.space } := by
    rw [h.bridge]
  rw [hbridge]
  exact hb.withSpace h.tidy h.sound h.next (congrArg ObjectSpace.classes hspace :)
    (congrArg ObjectSpace.raised hspace :)

/-- Giving out a reference leaves all at rest. -/
lemma wrap {r : Option ObjectRef} (hb : b.AtRest ctx) (ha : a ≠ 0)
    (h : EStateM.run (Act.wrap ctx a) b = .ok r b') : b'.AtRest ctx where
  opened := (Act.frame_wrap ha h).1 ▸ hb.opened
  quiet := by
    rw [← Act.after_of_ok h]
    exact (Act.upkeep_wrap ctx a).quiet_iff.mpr hb.quiet
  tidy := hb.tidy.congr (Act.frame_wrap ha h).2.1 (Act.frame_wrap ha h).2.2
  memory := (Act.frame_wrap ha h).2.2 ▸ hb.memory
  stop := by
    rw [(Act.frame_wrap ha h).2.1, (Act.frame_wrap ha h).2.2]
    exact hb.stop
  later := (Act.frame_wrap ha h).2.1 ▸ hb.later
  refs := by
    rcases Act.wrap_eq_ok ha h with ⟨_, -, -, rfl⟩ | ⟨-, isClass, -, -, rfl⟩
    · exact hb.refs
    · rw [Act.after_newRef, Bridge.contextAt, Array.getElem?_modify, if_pos rfl,
        Array.getElem?_eq_getElem hb.opened]
      intro e he
      rcases List.mem_cons.mp he with rfl | he
      · rfl
      · refine hb.refs e ?_
        rw [Bridge.contextAt, Array.getElem?_eq_getElem hb.opened]
        exact List.mem_of_mem_filter he

/-- Keeping blocks leaves all at rest. -/
lemma retain (hb : b.AtRest ctx) (blocks : List Address) :
    ((Act.retain ctx blocks).after b).AtRest ctx where
  opened := hb.opened.trans_eq Array.size_modify.symm
  quiet := (Act.quiet_retain_iff blocks).mpr hb.quiet
  tidy := hb.tidy
  memory := hb.memory
  stop := hb.stop
  later := hb.later
  refs := by
    have htracked := b.view_contextAt_modify Context.tracked
      (fun c => show ({ c with retained := c.retained ++ blocks } : Context).tracked = c.tracked from rfl)
      ctx ctx
    exact fun e he => hb.refs e (htracked ▸ he)

end Bridge.AtRest

namespace Act

variable {ctx : ContextId} {b b' : Bridge} {a : Address} {c : ClassId} {sel : Selector}
  {name reason : Option String} {depth : Nat}

/-- A word that was passed is there. -/
lemma run_word {r : MessageBridge.Registers} {i : Nat} {w : UInt64} (h : r.word? i = some w) :
    EStateM.run (require Fault.unwrittenWord (r.word? i)) b = .ok w b := by
  rw [h]
  rfl

/-- A routine gets the words of a call, and leaves its result to the caller. -/
lemma run_invoke_routine {routine : Routine} {s : Signature} {ws : List UInt64}
    (hret : s.ret.registers?.isSome) (hargs : ∀ d ∈ s.args, d.IsWord)
    (hlength : s.args.length = ws.length) (hroom : ws.length ≤ 6) :
    EStateM.run ((Reentry.within (depth + 1)).invoke (.routine routine) ⟨s, ws.map wordBytes⟩) b =
      EStateM.run (do
        let r ← runRoutine (.within depth) routine { general := ws.map some }
        return r.toBytes? s.ret) b := by
  have hregisters : (⟨s, ws.map wordBytes⟩ : Call).registers = { general := ws.map some } :=
    MessageBridge.Registers.place_words hret hargs hlength hroom
  rw [← hregisters]
  rfl

section Routine

variable {routine : Routine} {s : Signature} (words ws : List UInt64) (args : List Value)
  (blocks : List Address) {b₁ b₂ : Bridge}
  (hargs : ∀ d ∈ s.args, d.IsWord) (hlength : s.args.length = (words ++ ws).length)
  (hroom : (words ++ ws).length ≤ 6)
  (hencode : EStateM.run (encodeArguments ctx 0 ((s.args.drop words.length).zip args)) b =
    .ok (ws.map wordBytes, blocks) b₁)
include hargs hlength hroom hencode

/-- **A call of a routine** after which all is quiet ends with what the routine leaves. -/
lemma run_carryOut_routine {r : Returned} {bytes : List UInt8} (hret : s.ret.registers?.isSome)
    (hrun : EStateM.run (runRoutine (.within depth) routine { general := (words ++ ws).map some }) b₁ =
      .ok r b₂) (hb : b₂.Quiet ctx) (hbytes : r.toBytes? s.ret = some bytes) :
    EStateM.run (carryOut (.within (depth + 1)) ctx ⟨s, .routine routine, words, args⟩) b =
      if s.ret.isVoid then .ok .nil ((retain ctx blocks).after b₂)
      else EStateM.run (decodeResult ctx s.ret bytes) ((retain ctx blocks).after b₂) := by
  have hresult : EStateM.run ((Reentry.within (depth + 1)).invoke (.routine routine)
      ⟨s, words.map wordBytes ++ ws.map wordBytes⟩) b₁ = .ok (some bytes) b₂ := by
    rw [← List.map_append, run_invoke_routine hret hargs hlength hroom, run_bind_ok hrun, hbytes]
    rfl
  have hcall : EStateM.run (callCode (.within (depth + 1)) ctx s (.routine routine) words args) b =
      .ok (some bytes) ((retain ctx blocks).after b₂) := by
    refine (run_callCode (p := ⟨s, .routine routine, words, args⟩) hencode).trans ?_
    rw [run_bind_ok hresult]
    rfl
  unfold carryOut
  rw [run_bind_ok hcall, run_complete_of_quiet ((quiet_retain_iff blocks).mpr hb)]

/-- Where the result is a word, it is decoded. -/
lemma run_carryOut_word {w : UInt64} (hret : s.ret.IsWord)
    (hrun : EStateM.run (runRoutine (.within depth) routine { general := (words ++ ws).map some }) b₁ =
      .ok (.word w) b₂) (hb : b₂.Quiet ctx) :
    EStateM.run (carryOut (.within (depth + 1)) ctx ⟨s, .routine routine, words, args⟩) b =
      EStateM.run (decode ctx s.ret (wordBytes w)) ((retain ctx blocks).after b₂) := by
  have hvoid : s.ret.isVoid = false := by rw [Descriptor.isVoid, hret.scalar]; rfl
  have hsome : s.ret.registers?.isSome = true := by rw [hret.registers]; rfl
  rw [run_carryOut_routine words ws args blocks hargs hlength hroom hencode hsome hrun hb
    (hret.toBytes?_word w), hvoid, decodeResult, hret.scalar]
  rfl

end Routine

/-! ## Making exceptions -/

/-- The call that makes an exception of a class. -/
def Plan.creation (c : ClassId) (sel : Selector) (name reason : Option String) : Plan where
  signature := ⟨.object, [.object, .selector, .text, .text]⟩
  code := .routine .newException
  words := [c.address, sel.address]
  args := [.ofText? name, .ofText? reason]

/-- Two texts are passed one after the other. -/
lemma exists_copies_both {ns : List Nat} (hb : b.AtRest ctx)
    (hname : ∀ t ∈ name, Text.hasNul t = false) (hreason : ∀ t ∈ reason, Text.hasNul t = false)
    (hroom : b.space.memory.Affords (ObjectSpace.textSizes (name.map Text.toUtf8) ++
      (ObjectSpace.textSizes (reason.map Text.toUtf8) ++ ns))) :
    ∃ n r blocks b₁ b₂, EStateM.run (encodeArguments ctx 0
        ([.text, .text].zip [.ofText? name, .ofText? reason])) b =
          .ok ([n, r].map wordBytes, blocks) b₂ ∧
      b.Copies name n b₁ ∧ b₁.Copies reason r b₂ ∧ b₂.space.memory.Affords ns := by
  obtain ⟨n, blocks₁, b₁, hrun₁, hcopies₁, hroom₁⟩ :=
    exists_copies ctx 0 hb.tidy hb.memory hb.stop hname hroom
  have hb₁ := hb.copies hcopies₁
  obtain ⟨r, blocks₂, b₂, hrun₂, hcopies₂, hroom₂⟩ :=
    exists_copies ctx 1 hb₁.tidy hb₁.memory hb₁.stop hreason hroom₁
  refine ⟨n, r, blocks₁ ++ (blocks₂ ++ []), b₁, b₂, ?_, hcopies₁, hcopies₂, hroom₂⟩
  simp only [List.zip_cons_cons, List.zip_nil_left, encodeArguments, pure_bind, bind_assoc]
  rw [run_bind_ok hrun₁, run_bind_ok hrun₂]
  rfl

/-- The class of exceptions, or one below it, makes an exception of the texts at two addresses. -/
lemma run_newException {re : Reentry} {n r : Address} {w : UInt64} {space : ObjectSpace}
    (hb : b.AtRest ctx) (hc : b.space.classes.Has c)
    (hname : b.space.TextAt n (name.map Text.toUtf8))
    (hreason : b.space.TextAt r (reason.map Text.toUtf8))
    (hnew : b.space.newException? c [name.map Text.toUtf8, reason.map Text.toUtf8] = some (a, space)) :
    EStateM.run (runRoutine re .newException { general := ([c.address, w] ++ [n, r]).map some }) b =
      .ok (.word a) { b with space } := by
  have hne : c.address ≠ 0 := by
    intro hzero
    have haddress := ClassTable.toNat_address hb.tidy.limit hc
    have hpos : 0 < ClassId.base := by decide
    rw [hzero] at haddress
    change 0 = _ at haddress
    omega
  have hclass : EStateM.run (classAt c.address) b = .ok (some c) b := by
    unfold classAt
    rw [if_neg hne, run_bind_ok (run_readSpace_eq_ok.mpr
      ⟨ClassTable.ofAddress?_address hb.tidy.limit hc, rfl⟩)]
    rfl
  have hmake : EStateM.run (tryOnSpace
      (·.newException? c [name.map Text.toUtf8, reason.map Text.toUtf8])) b =
        .ok a { b with space } := by
    unfold tryOnSpace
    rw [run_bind_ok (run_readSpace_eq_ok.mpr ⟨hnew, rfl⟩)]
    rfl
  unfold runRoutine
  simp only
  rw [run_bind_ok (run_word rfl), run_bind_ok (run_word rfl), run_bind_ok (run_word rfl),
    run_bind_ok hclass]
  simp only
  rw [run_bind_ok (run_textAt hname hb.tidy.disjoint),
    run_bind_ok (run_textAt hreason hb.tidy.disjoint), run_bind_ok hmake]
  rfl

/-- An object at rest is given a reference, which changes no class and no memory. -/
lemma exists_reference (hb : b.AtRest ctx) (ha : a ≠ 0) (hisa : b.space.isa? a = some c) :
    ∃ e b', EStateM.run (wrap ctx a) b = .ok (some e) b' ∧ b'.AtRest ctx ∧ e.address = a ∧
      b'.space.classes = b.space.classes ∧ b'.space.memory = b.space.memory := by
  have hclass : (b.space.isClass? a).isSome = true := by
    rw [ObjectSpace.isClass?, hisa]
    rfl
  obtain ⟨e, b', hwrap, hcurrent⟩ := exists_wrap hb.opened ha (.inr hclass)
  have hb' := hb.wrap ha hwrap
  obtain ⟨-, hclasses, hmemory⟩ := frame_wrap ha hwrap
  exact ⟨e, b', hwrap, hb', hb'.refs (a, e) (Bridge.mem_tracked_of_current? hcurrent).2, hclasses, hmemory⟩

/-- **Made**: the exception is there with its texts and zero beyond, in the class, and what was there
before is as it was. -/
structure Made (b : Bridge) (c : ClassId) (name reason : Option String) (a n r : Address) (b' : Bridge) :
    Prop where
  classes : b'.space.classes = b.space.classes
  holds : b'.space.HoldsTexts a c (name.map Text.toUtf8) (reason.map Text.toUtf8) n r
  object : ∃ B, b'.space.HasBlock a B ∧
    B.size = (ObjectSpace.allocationSize (b.space.classes.get c).instanceSize 0).toNat ∧
      ∀ k, B.byte k = (ObjectSpace.exceptionHead c n r).getD k 0
  fresh : b.space.memory.next ≤ a.toNat
  others : ∀ C ∈ b.space.memory.blocks, C ∈ b'.space.memory.blocks

/-- **Making an exception** at rest, where the texts are the own ones of `Exception`. -/
theorem exists_made (depth : Nat) (sel : Selector) (hb : b.AtRest ctx) (hc : b.space.classes.HasClass c)
    (hown : b.space.classes.OwnTexts c)
    (hname : ∀ t ∈ name, Text.hasNul t = false) (hreason : ∀ t ∈ reason, Text.hasNul t = false)
    (hroom : b.space.memory.Affords (ObjectSpace.textSizes (name.map Text.toUtf8) ++
      (ObjectSpace.textSizes (reason.map Text.toUtf8) ++
        (ObjectSpace.allocationSize (b.space.classes.get c).instanceSize 0).toNat ::
          (ObjectSpace.textSizes (name.map Text.toUtf8) ++
            ObjectSpace.textSizes (reason.map Text.toUtf8))))) :
    ∃ e n r b', EStateM.run (carryOut (.within (depth + 1)) ctx (.creation c sel name reason)) b =
        .ok (.object e) b' ∧ b'.AtRest ctx ∧ Made b c name reason e.address n r b' := by
  obtain ⟨p, q, blocks, b₁, b₂, hencode, h₁, h₂, hroom₂⟩ := exists_copies_both hb hname hreason hroom
  have hb₁ := hb.copies h₁
  have hb₂ := hb₁.copies h₂
  have hclasses : b₂.space.classes = b.space.classes := by
    rw [h₂.bridge, h₁.bridge]
  have hp : b₂.space.TextAt p (name.map Text.toUtf8) :=
    h₁.text.mono (a := 0) (fun C hC _ => h₂.blocks C hC) id
  have hclean (t : Option String) (ht : ∀ u ∈ t, Text.hasNul u = false) :
      ∀ bytes ∈ t.map Text.toUtf8, ∀ x ∈ bytes, x ≠ 0 := by
    intro bytes hbytes x hx
    obtain ⟨u, rfl, rfl⟩ := Option.map_eq_some_iff.mp hbytes
    exact Text.ne_zero_of_mem_toUtf8 (ht u rfl) hx
  obtain ⟨a, n, r, space, hnew, hmakes⟩ := ObjectSpace.exists_makes hb₂.tidy hb₂.memory hb₂.stop
    hb₂.later (hclasses ▸ hc) (hclasses ▸ hown) (hclean name hname) (hclean reason hreason)
    (by rwa [hclasses])
  have hb₃ : ({ b₂ with space } : Bridge).AtRest ctx :=
    hb₂.withSpace hmakes.tidy hmakes.sound hmakes.next (congrArg ObjectSpace.classes hmakes.space :)
      (congrArg ObjectSpace.raised hmakes.space :)
  have hroutine : EStateM.run (runRoutine (.within depth) .newException
      { general := ([c.address, sel.address] ++ [p, q]).map some }) b₂ =
        .ok (.word a) { b₂ with space } := run_newException hb₂ (hclasses ▸ hc.1) hp h₂.text hnew
  have hcarry := run_carryOut_word (s := ⟨.object, [.object, .selector, .text, .text]⟩)
    [c.address, sel.address] [p, q] _ blocks (by simp) rfl (show 4 ≤ 6 by decide) hencode
    Descriptor.isWord_object hroutine hb₃.quiet
  have hspace : space.classes = b.space.classes :=
    (congrArg ObjectSpace.classes hmakes.space :).trans hclasses
  have hisa : space.isa? a = some c := hmakes.holds.isa?_eq hmakes.tidy (hspace ▸ hc.1)
  obtain ⟨e, b', hwrap, hb', haddress, hclasses', hmemory'⟩ :=
    exists_reference (hb₃.retain blocks) hmakes.fresh.1 hisa
  refine ⟨e, n, r, b', ?_, hb', ?_⟩
  · refine hcarry.trans ?_
    unfold decode decodeShape Descriptor.object Descriptor.shape
    simp only [ofWordBytes_wordBytes]
    rw [run_bind_ok hwrap]
    rfl
  · subst haddress
    obtain ⟨B, hB, hsize, hbytes⟩ := hmakes.object
    have hold (C : Block) (hC : C ∈ space.memory.blocks) : C ∈ b'.space.memory.blocks := hmemory' ▸ hC
    exact ⟨hclasses'.trans hspace, hmakes.holds.congr hb'.tidy hmemory',
      ⟨B, hb'.tidy.hasBlock (hold B hB.mem) hB.base, by rw [hsize, hclasses], hbytes⟩,
      h₁.next.trans (h₂.next.trans hmakes.fresh.2),
      fun C hC => hold C (hmakes.others C (h₂.blocks C (h₁.blocks C hC)))⟩

/-! ## Reading and disposing -/

/-- The call of a routine of an object without arguments. -/
def Plan.asking (ret : Descriptor) (routine : Routine) (a : Address) (sel : Selector) : Plan where
  signature := ⟨ret, [.object, .selector]⟩
  code := .routine routine
  words := [a, sel.address]
  args := []

/-- Keeping no blocks changes nothing. -/
lemma after_retain_nil (ctx : ContextId) (b : Bridge) : (retain ctx []).after b = b :=
  Bridge.modify_eq_self (by rw [List.append_nil])

/-- A text is decoded as it was stored. -/
lemma run_decode_text {text : Option String} (h : b.space.TextAt a (text.map Text.toUtf8))
    (hs : b.space.memory.Disjoint) :
    EStateM.run (decode ctx .text (wordBytes a)) b = .ok (.ofText? text) b := by
  unfold decode decodeShape Descriptor.text Descriptor.shape
  simp only [ofWordBytes_wordBytes]
  cases text with
  | none =>
    have hzero : a = 0 := by
      cases h
      rfl
    rw [if_pos hzero]
    rfl
  | some t =>
    have hne : a ≠ 0 := by
      rintro rfl
      exact absurd h.eq_none (by simp)
    rw [if_neg hne, run_bind_ok (run_readSpace_eq_ok.mpr ⟨h.readString?_eq hs, rfl⟩),
      Text.ofUtf8Lossy_toUtf8]
    rfl

section Held

variable {n r : Address} (depth : Nat) (sel : Selector) (hb : b.AtRest ctx)
  (hc : b.space.classes.Has c) (hown : b.space.classes.OwnTexts c)
  (h : b.space.HoldsTexts a c (name.map Text.toUtf8) (reason.map Text.toUtf8) n r)
include hb hc hown h

/-- **Reading an exception** answers its texts and changes nothing. -/
theorem run_reading :
    EStateM.run (carryOut (.within (depth + 1)) ctx (.asking .text .exceptionName a sel)) b =
        .ok (.ofText? name) b ∧
      EStateM.run (carryOut (.within (depth + 1)) ctx (.asking .text .exceptionReason a sel)) b =
        .ok (.ofText? reason) b := by
  obtain ⟨hname, hreason⟩ := h.text?_eq hb.tidy hc hb.later hown
  have hreads {routine : Routine} {w : Address} {text : Option String}
      (hrun : EStateM.run (runRoutine (.within depth) routine
        { general := ([a, sel.address] ++ []).map some }) b = .ok (.word w) b)
      (htext : b.space.TextAt w (text.map Text.toUtf8)) :
      EStateM.run (carryOut (.within (depth + 1)) ctx (.asking .text routine a sel)) b =
        .ok (.ofText? text) b := by
    have hcarry := run_carryOut_word (s := ⟨.text, [.object, .selector]⟩) [a, sel.address] [] [] []
      (by simp) rfl (show 2 ≤ 6 by decide) rfl
      Descriptor.isWord_text hrun hb.quiet
    rw [after_retain_nil] at hcarry
    exact hcarry.trans (run_decode_text htext hb.tidy.disjoint)
  constructor
  · refine hreads ?_ h.name
    unfold runRoutine
    simp only
    rw [run_bind_ok (run_word rfl), run_bind_ok (run_readSpace_eq_ok.mpr ⟨hname, rfl⟩)]
    rfl
  · refine hreads ?_ h.reason
    unfold runRoutine
    simp only
    rw [run_bind_ok (run_word rfl), run_bind_ok (run_readSpace_eq_ok.mpr ⟨hreason, rfl⟩)]
    rfl

/-- **Disposing of an exception** takes back the blocks of the exception and of its texts, and what was
associated with it. -/
theorem run_disposal :
    EStateM.run (carryOut (.within (depth + 1)) ctx
        (.asking (.scalar .void) .disposeException a sel)) b =
      .ok .nil { b with space := { b.space with
        associations := b.space.associations.clear a
        memory := ((b.space.memory.without n).without r).without a } } := by
  have hdispose := h.disposeException?_eq hb.tidy hc hb.later hown
  have hrun : EStateM.run (runRoutine (.within depth) .disposeException
      { general := ([a, sel.address] ++ []).map some }) b =
        .ok .nothing { b with space := { b.space with
          associations := b.space.associations.clear a
          memory := ((b.space.memory.without n).without r).without a } } := by
    unfold runRoutine changeSpace
    simp only
    rw [run_bind_ok (run_word rfl), bind_assoc,
      run_bind_ok (run_readSpace_eq_ok.mpr ⟨hdispose, rfl⟩)]
    rfl
  have hcarry := run_carryOut_routine (s := ⟨.scalar .void, [.object, .selector]⟩)
    [a, sel.address] [] [] [] (by simp) rfl (show 2 ≤ 6 by decide) rfl (by decide) hrun
    ⟨hb.quiet.pending, hb.quiet.raised⟩ rfl
  rw [after_retain_nil] at hcarry
  exact hcarry

end Held

/-! ## Exceptions from one end to the other -/

/-- **Becomes**: the dispatch is planned as the call, in the second state. -/
def Becomes (depth : Nat) (ctx : ContextId) (d : Dispatch) (b₀ : Bridge) (p : Plan) (b : Bridge) :
    Prop :=
  EStateM.run (plan (.within (depth + 1)) ctx d) b₀ = .ok p b

lemma Becomes.run_dispatch {d : Dispatch} {b₀ : Bridge} {p : Plan} (h : Becomes depth ctx d b₀ p b) :
    EStateM.run (dispatch (.within (depth + 1)) ctx d) b₀ =
      EStateM.run (carryOut (.within (depth + 1)) ctx p) b :=
  run_bind_ok h

/-- The sizes of the blocks that are requested to make an exception: two for the texts that are passed,
one for the exception, and two for the texts that it keeps. -/
def requests (s : ObjectSpace) (c : ClassId) (name reason : Option String) : List Nat :=
  let texts := ObjectSpace.textSizes (name.map Text.toUtf8) ++
    ObjectSpace.textSizes (reason.map Text.toUtf8)
  texts ++ (ObjectSpace.allocationSize (s.classes.get c).instanceSize 0).toNat :: texts

/-- **Exceptions keep their texts**: for a class below `Exception`, the texts are where `Exception` declares
them just if no class between the two declares these names again. Where they are, an exception is made
with its texts in the two words of `Exception` and zero beyond, whatever else its class declares. For as
long as it holds them, whatever else it and the space may hold, it answers its texts, which changes
nothing, and it is disposed of together with them and with nothing else. -/
theorem exception_texts {below above : List ClassId} (hb : b.AtRest ctx)
    (hc : b.space.classes.HasClass c)
    (hchain : b.space.classes.chain c = below ++ .exception :: above) (hbelow : .exception ∉ below) :
    (b.space.classes.OwnTexts c ↔ ∀ k ∈ below, ∀ v ∈ ObjectSpace.textVariables,
      (b.space.classes.get k).ivar? v = none) ∧
    (b.space.classes.OwnTexts c → ∀ (depth : Nat) (d : Dispatch) (b₀ : Bridge) (sel : Selector)
      (name reason : Option String), Becomes depth ctx d b₀ (.creation c sel name reason) b →
        (∀ t ∈ name, Text.hasNul t = false) → (∀ t ∈ reason, Text.hasNul t = false) →
          b.space.memory.Affords (requests b.space c name reason) →
      ∃ e n r b', EStateM.run (dispatch (.within (depth + 1)) ctx d) b₀ = .ok (.object e) b' ∧
        b'.AtRest ctx ∧ Made b c name reason e.address n r b' ∧
        ∀ x : Bridge, x.AtRest ctx → x.space.classes.Has c → x.space.classes.OwnTexts c →
          x.space.HoldsTexts e.address c (name.map Text.toUtf8) (reason.map Text.toUtf8) n r →
          ∀ (depth : Nat) (d : Dispatch) (x₀ : Bridge) (sel : Selector),
            (Becomes depth ctx d x₀ (.asking .text .exceptionName e.address sel) x →
              EStateM.run (dispatch (.within (depth + 1)) ctx d) x₀ = .ok (.ofText? name) x) ∧
            (Becomes depth ctx d x₀ (.asking .text .exceptionReason e.address sel) x →
              EStateM.run (dispatch (.within (depth + 1)) ctx d) x₀ = .ok (.ofText? reason) x) ∧
            (Becomes depth ctx d x₀ (.asking (.scalar .void) .disposeException e.address sel) x →
              EStateM.run (dispatch (.within (depth + 1)) ctx d) x₀ =
                .ok .nil { x with space := { x.space with
                  associations := x.space.associations.clear e.address
                  memory := ((x.space.memory.without n).without r).without e.address } })) := by
  refine ⟨ClassTable.ownTexts_iff hb.later hchain hbelow, ?_⟩
  intro hown depth d b₀ sel name reason hd hname hreason hroom
  have hroom' := hroom
  simp only [requests, List.append_assoc] at hroom'
  obtain ⟨e, n, r, b', hrun, hb', hmade⟩ :=
    exists_made depth sel hb hc hown hname hreason hroom'
  refine ⟨e, n, r, b', hd.run_dispatch.trans hrun, hb', hmade, ?_⟩
  intro x hx hcx hownx hholds depth d x₀ sel
  have hread := run_reading depth sel hx hcx hownx hholds
  exact ⟨fun hd => hd.run_dispatch.trans hread.1, fun hd => hd.run_dispatch.trans hread.2,
    fun hd => hd.run_dispatch.trans (run_disposal depth sel hx hcx hownx hholds)⟩

end Act

/-! ## A class of exceptions with one more variable -/

deriving instance DecidableEq for Block, Memory

instance (B C : Block) : Decidable (B.Apart C) := inferInstanceAs (Decidable (_ ∨ _))

instance (m : Memory) : Decidable m.Disjoint := inferInstanceAs (Decidable (m.blocks.Pairwise _))

instance (s : ObjectSpace) : Decidable s.Tidy :=
  decidable_of_iff
    ((∀ i < s.classes.records.size, s.classes.Has (s.classes.get ⟨i⟩).isa) ∧
      s.classes.stop ≤ Memory.addressLimit ∧ s.memory.Disjoint ∧
        ∀ B ∈ s.memory.blocks, s.classes.stop ≤ B.base ∧ B.base + B.capacity ≤ Memory.addressLimit)
    ⟨fun h => ⟨fun c hc => h.1 c.index hc, h.2.1, h.2.2.1, h.2.2.2⟩,
      fun h => ⟨fun i hi => h.isa ⟨i⟩ hi, h.limit, h.disjoint, h.blocks⟩⟩

instance (t t' : ClassTable) : Decidable (t.Later t') :=
  decidable_of_iff
    (∀ i < t.records.size, t'.Has ⟨i⟩ ∧ (t'.get ⟨i⟩).isMeta = (t.get ⟨i⟩).isMeta ∧
      (t'.get ⟨i⟩).name = (t.get ⟨i⟩).name ∧
      ((t.get ⟨i⟩).registered = true → (t'.get ⟨i⟩).registered = true) ∧
      ((t.get ⟨i⟩).registered = true → (t'.get ⟨i⟩).form = (t.get ⟨i⟩).form))
    ⟨fun h => ⟨fun c hc => (h c.index hc).1, fun c hc => (h c.index hc).2.1,
      fun c hc => (h c.index hc).2.2.1, fun c hc => (h c.index hc).2.2.2.1,
      fun c hc => (h c.index hc).2.2.2.2⟩,
      fun h i hi => ⟨h.has ⟨i⟩ hi, h.isMeta ⟨i⟩ hi, h.name ⟨i⟩ hi, h.registered ⟨i⟩ hi, h.form ⟨i⟩ hi⟩⟩

instance (t : ClassTable) (c : ClassId) : Decidable (t.OwnTexts c) :=
  inferInstanceAs (Decidable (∀ v ∈ ObjectSpace.textVariables, _))

instance (m : Memory) (ns : List Nat) : Decidable (m.Affords ns) :=
  decidable_of_iff
    ((∀ n ∈ ns, n ≤ Memory.maxRequest) ∧
      m.next + (ns.map fun n => Block.capacityFor n + 8).sum ≤ Memory.addressLimit)
    ⟨fun h => ⟨h.1, h.2⟩, fun h => ⟨h.sizes, h.room⟩⟩

namespace Act

/-- `Ticket`, a class of exceptions with one more variable. -/
def ticketClass (extra : String) : Act ObjectRef := do
  let p ← extend 0 (← classNamed? 0 "Exception") "Ticket" 0
  p.addIvar extra "q" none none
  return (← p.register).classRef

/-- The state after the class was built. -/
def ticketBridge (extra : String) : Bridge := (ticketClass extra).after freshBridge

/-- The message that makes a ticket. -/
def ticketMessage : Dispatch :=
  .message .direct ⟨2, ClassId.address ⟨5⟩, true⟩
    { selector := "exceptionWithName:reason:", args := [.str "Oops", .nil] }

/-- The state in which the message is planned. -/
def ticketPlanned (extra : String) : Bridge :=
  (plan (.within nestingLimit) 0 ticketMessage).after (ticketBridge extra)

/-- Its selector. -/
def ticketSelector (extra : String) : Selector :=
  ((ticketBridge extra).space.selectors.intern "exceptionWithName:reason:").1

/-- The state after it was made. -/
def ticketMade (extra : String) : Bridge :=
  (dispatch (.within nestingLimit) 0 ticketMessage).after (ticketBridge extra)

/-- The ticket. -/
def ticket : ObjectRef := ⟨3, 0x40000000020, false⟩

/-- The message that asks for the name of the ticket. -/
def nameMessage : Dispatch := .message .direct ticket { selector := "name" }

/-- The state in which it is planned. -/
def ticketAsked : Bridge := (plan (.within nestingLimit) 0 nameMessage).after (ticketMade "code")

/-- Making a ticket is planned as such. -/
lemma becomes_creation : Becomes 9999 0 ticketMessage (ticketBridge "code")
    (.creation ⟨5⟩ (ticketSelector "code") (some "Oops") none) (ticketPlanned "code") := by
  have hplan : (plan (.within nestingLimit) 0 ticketMessage).endsWith (fun p _ =>
      p.signature = ⟨.object, [.object, .selector, .text, .text]⟩ &&
        p.code = .routine .newException &&
          p.words = [ClassId.address ⟨5⟩, (ticketSelector "code").address])
      (ticketBridge "code") = true := by decide +kernel
  obtain ⟨⟨s, code, words, args⟩, b, hrun, htest⟩ := exists_of_endsWith hplan
  simp only [Bool.and_eq_true, decide_eq_true_eq] at htest
  obtain ⟨⟨rfl, rfl⟩, rfl⟩ := htest
  obtain rfl : args = [.str "Oops", .nil] := (plan_message hrun).2.1
  rw [Becomes, ticketPlanned, after_of_ok hrun]
  exact hrun

/-- So is asking for its name. -/
lemma becomes_asking : Becomes 9999 0 nameMessage (ticketMade "code")
    (.asking .text .exceptionName ticket.address ⟨17⟩) ticketAsked := by
  have hplan : (plan (.within nestingLimit) 0 nameMessage).endsWith (fun p _ =>
      p.signature = ⟨.text, [.object, .selector]⟩ && p.code = .routine .exceptionName &&
        p.words = [ticket.address, (Selector.mk 17).address] && p.args.isEmpty)
      (ticketMade "code") = true := by decide +kernel
  obtain ⟨⟨s, code, words, args⟩, b, hrun, htest⟩ := exists_of_endsWith hplan
  simp only [Bool.and_eq_true, decide_eq_true_eq, List.isEmpty_iff] at htest
  obtain ⟨⟨⟨rfl, rfl⟩, rfl⟩, rfl⟩ := htest
  rw [Becomes, ticketAsked, after_of_ok hrun]
  exact hrun

lemma atRest_ticketPlanned : (ticketPlanned "code").AtRest 0 where
  opened := by decide +kernel
  quiet := ⟨by decide +kernel, fun _ => by decide +kernel⟩
  tidy := by decide +kernel
  memory := by decide +kernel
  stop := by decide +kernel
  later := by decide +kernel
  refs := by decide +kernel

lemma atRest_ticketAsked : ticketAsked.AtRest 0 where
  opened := by decide +kernel
  quiet := ⟨by decide +kernel, fun _ => by decide +kernel⟩
  tidy := by decide +kernel
  memory := by decide +kernel
  stop := by decide +kernel
  later := by decide +kernel
  refs := by decide +kernel

/-- A ticket keeps its name, and no reason. -/
theorem exception_texts_ticket :
    (ticketPlanned "code").AtRest 0 ∧ (ticketPlanned "code").space.classes.HasClass ⟨5⟩ ∧
    (ticketPlanned "code").space.classes.chain ⟨5⟩ = [⟨5⟩] ++ .exception :: [⟨1⟩] ∧
    (ticketPlanned "code").space.classes.OwnTexts ⟨5⟩ ∧
    ∃ n r, EStateM.run (dispatch (.within nestingLimit) 0 ticketMessage) (ticketBridge "code") =
        .ok (.object ticket) (ticketMade "code") ∧
      Made (ticketPlanned "code") ⟨5⟩ (some "Oops") none ticket.address n r (ticketMade "code") ∧
      EStateM.run (dispatch (.within nestingLimit) 0 nameMessage) (ticketMade "code") =
        .ok (.str "Oops") ticketAsked := by
  have hclass : (ticketPlanned "code").space.classes.HasClass ⟨5⟩ := by decide +kernel
  have hchain : (ticketPlanned "code").space.classes.chain ⟨5⟩ = [⟨5⟩] ++ .exception :: [⟨1⟩] := by
    decide +kernel
  have hown : (ticketPlanned "code").space.classes.OwnTexts ⟨5⟩ := by decide +kernel
  refine ⟨atRest_ticketPlanned, hclass, hchain, hown, ?_⟩
  obtain ⟨e, n, r, b', hrun, hrest, hmade, hreads⟩ :=
    (exception_texts atRest_ticketPlanned hclass hchain (by decide)).2 hown 9999 ticketMessage
      (ticketBridge "code") (ticketSelector "code") (some "Oops") none becomes_creation
      (by decide +kernel) (by decide +kernel) (by decide +kernel)
  have hticket : (dispatch (.within nestingLimit) 0 ticketMessage).endsWith
      (fun v _ => v.toObject? = some ticket) (ticketBridge "code") = true := by decide +kernel
  obtain ⟨v, b'', hrun', htest⟩ := exists_of_endsWith hticket
  obtain ⟨rfl, rfl⟩ := EStateM.Result.ok.inj (hrun.symm.trans hrun')
  obtain rfl : e = ticket := Option.some.inj (of_decide_eq_true htest)
  obtain rfl : b' = ticketMade "code" := (after_of_ok hrun).symm
  have hmemory : ticketAsked.space.memory = (ticketMade "code").space.memory := by decide +kernel
  have hname := (hreads ticketAsked atRest_ticketAsked (by decide +kernel) (by decide +kernel)
    (hmade.holds.congr atRest_ticketAsked.tidy hmemory) 9999 nameMessage (ticketMade "code") ⟨17⟩).1
    becomes_asking
  exact ⟨n, r, hrun, hmade, hname⟩

lemma eq_object_of_toObject? {v : Value} {r : ObjectRef} (h : v.toObject? = some r) :
    v = .object r := by
  unfold Value.toObject? at h
  split at h <;> cases h
  rfl

/-- **A variable in the way**: where a class below `Exception` declares a variable called `name`, the
address of the text goes there, and the variable of `Exception` stays empty. -/
theorem texts_astray :
    (ticketPlanned "name").space.classes.chain ⟨5⟩ = [⟨5⟩] ++ .exception :: [⟨1⟩] ∧
    ((ticketPlanned "name").space.classes.get ⟨5⟩).ivar? "name" = some ⟨"name", "q", 24, 8⟩ ∧
    ∃ e b', EStateM.run (dispatch (.within nestingLimit) 0 ticketMessage) (ticketBridge "name") =
        .ok (.object e) b' ∧ b'.space.isa? e.address = some ⟨5⟩ ∧
      b'.space.readWord? (e.address + 8) = some 0 ∧
      ∃ w, b'.space.readWord? (e.address + 24) = some w ∧ w ≠ 0 := by
  have hticket : (dispatch (.within nestingLimit) 0 ticketMessage).endsWith (fun v b' =>
      v.toObject?.any fun e => b'.space.isa? e.address = some ⟨5⟩ &&
        b'.space.readWord? (e.address + 8) = some 0 &&
          ((b'.space.readWord? (e.address + 24)).any (· ≠ 0))) (ticketBridge "name") = true := by
    decide +kernel
  obtain ⟨v, b', hrun, htest⟩ := exists_of_endsWith hticket
  refine ⟨by decide +kernel, by decide +kernel, ?_⟩
  rw [Option.any_eq_true] at htest
  obtain ⟨e, hv, htest⟩ := htest
  obtain rfl := eq_object_of_toObject? hv
  simp only [Bool.and_eq_true, decide_eq_true_eq, Option.any_eq_true] at htest
  obtain ⟨⟨hisa, hzero⟩, w, hw, hne⟩ := htest
  exact ⟨e, b', hrun, hisa, hzero, w, hw, by simpa using hne⟩

end Act

end MessageBridge
