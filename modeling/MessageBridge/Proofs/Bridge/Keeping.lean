import MessageBridge.Proofs.Bridge.CallShape
import MessageBridge.Proofs.Bridge.Slots
import MessageBridge.Proofs.Encoding.Denoted

/-!
# What contexts keep

A context keeps the signatures that it called with, under texts: the signature of a method under its
type string, an assumed signature under its encoding, and the signature of a function under a text that
no method has. A layout that is learned later can make a type string denote another signature than the
one that is kept. As long as a context knows no layouts, what it keeps for a method is what the type
string of the method denotes.

## Main definitions

* `Signature.Meant` — a signature that can be kept under a text where no layouts are known.
* `Bridge.Candid` — contexts that know no layouts keep only such signatures.

## Main results

* `Act.exists_run_methodTypes` — the signature of a method is what its type string denotes.
* `Act.candid_messageFrame` — settling on a signature keeps what the type string denotes.
* `Bridge.Candid.denoted?` — what is kept under the type string of a method is what it denotes.
-/

namespace MessageBridge

/-! ## What a method denotes -/

namespace Act

variable {α β γ : Type} {ctx : ContextId} {b b' : Bridge} {m : MethodRef} {s : Signature}

/-- A list of actions that change nothing but the lent buffers. -/
lemma exists_run_mapM {f : β → Act γ} {g : β → γ}
    (h : ∀ x loans, ∃ loans', EStateM.run (f x) { b with loans } = .ok (g x) { b with loans := loans' })
    (xs : List β) (loans : Loans) :
    ∃ loans', EStateM.run (xs.mapM f) { b with loans } =
      .ok (xs.map g) { b with loans := loans' } := by
  induction xs generalizing loans with
  | nil => exact ⟨loans, rfl⟩
  | cons x xs ih =>
    obtain ⟨loans₁, hx⟩ := h x loans
    obtain ⟨loans₂, hxs⟩ := ih loans₁
    refine ⟨loans₂, ?_⟩
    rw [List.mapM_cons, run_bind_ok hx, run_bind_ok hxs]
    rfl

/-- The text of a lent buffer. -/
lemma exists_run_borrowText (text : Option String) (loans : Loans) :
    ∃ loans', EStateM.run (borrowText text) { b with loans } =
      .ok text { b with loans := loans' } := by
  cases text with
  | none => exact ⟨loans, rfl⟩
  | some t => exact ⟨_, rfl⟩

/-- Which signature comes out where the type string of a method is cut into tokens. -/
lemma exists_run_methodTypes_of_cut {types ret : String} {args : List String} (ctx : ContextId)
    (hm : (b.space.classes.method? m).map Method.types = some types)
    (hcut : Token.cut types = .ok (ret :: args)) :
    ∃ loans, EStateM.run (methodTypes ctx m) b =
      EStateM.run (methodSignature ctx ret (args.take 0x100000000)) { b with loans } := by
  have htokens (loans : Loans) : EStateM.run (typeTokens m) { b with loans } =
      .ok (ret :: args) { b with loans } := by
    have hmethod : EStateM.run (methodOf m) { b with loans } =
        .ok (b.space.classes.method? m) { b with loans } := rfl
    unfold typeTokens
    rw [run_bind_ok hmethod, hm, Option.getD_some, hcut]
    rfl
  have hone (i : Nat) (loans : Loans) : ∃ loans', EStateM.run (argumentType m i) { b with loans } =
      .ok (if i < 0x100000000 then (ret :: args)[i + 1]? else none) { b with loans := loans' } := by
    unfold argumentType
    split
    · rw [run_bind_ok (htokens loans)]
      exact exists_run_borrowText _ loans
    · exact ⟨loans, rfl⟩
  obtain ⟨loans₁, hret⟩ := exists_run_borrowText (b := b) (some ret) b.loans
  have hreturn : EStateM.run (returnType m) b = .ok (some ret) { b with loans := loans₁ } := by
    unfold returnType
    rw [run_bind_ok (htokens b.loans)]
    exact hret
  obtain ⟨loans₂, hlist⟩ := exists_run_mapM hone (List.range ((ret :: args).length - 1)) loans₁
  have hcount : EStateM.run (argumentCount m) { b with loans := loans₁ } =
      .ok ((ret :: args).length - 1) { b with loans := loans₁ } := by
    unfold argumentCount
    rw [run_bind_ok (htokens loans₁)]
    rfl
  have hargs : EStateM.run (argumentTypes m) { b with loans := loans₁ } =
      .ok (args.take 0x100000000) { b with loans := loans₂ } := by
    unfold argumentTypes
    rw [run_bind_ok hcount, run_bind_ok hlist, ← Token.argumentTexts_cons ret]
    rfl
  refine ⟨loans₂, ?_⟩
  unfold methodTypes
  rw [run_bind_ok hreturn]
  simp only
  rw [run_bind_ok hargs]

/-- **The signature of a method** is what its type string denotes with the layouts that are known. To work
it out only lends buffers. -/
lemma exists_run_methodTypes {types : String}
    (hm : (b.space.classes.method? m).map Method.types = some types)
    (h : (b.contextAt ctx).translator.denoted? types = some s) :
    ∃ loans, EStateM.run (methodTypes ctx m) b = .ok s { b with loans } := by
  unfold Translator.denoted? at h
  split at h
  · next ret args hcut =>
    obtain ⟨loans, hrun⟩ := exists_run_methodTypes_of_cut ctx hm hcut
    refine ⟨loans, hrun.trans (run_withStructs_of_ok (b := { b with loans }) ?_)⟩
    change (b.contextAt ctx).translator.signatureOfParts ret _ = _
    generalize (b.contextAt ctx).translator.signatureOfParts ret _ = r at h
    cases r with
    | ok s' =>
      cases h
      rfl
    | error e => cases h
  · cases h

/-- What was worked out is what the type string denotes with the layouts that are known afterwards. -/
lemma denoted?_of_run_methodTypes {types : String}
    (hm : (b.space.classes.method? m).map Method.types = some types)
    (h : EStateM.run (methodTypes ctx m) b = .ok s b') :
    (b'.contextAt ctx).translator.denoted? types = some s := by
  have hmethod : EStateM.run (methodOf m) b = .ok (b.space.classes.method? m) b := rfl
  unfold Translator.denoted?
  split
  · next ret args hcut =>
    obtain ⟨loans, hrun⟩ := exists_run_methodTypes_of_cut ctx hm hcut
    rw [ok_of_run_withStructs (hrun.symm.trans h)]
    rfl
  · next hcut =>
    -- there is no token to read the result from
    obtain ⟨ret, b₁, hret, h⟩ := run_bind_eq_ok.mp h
    obtain ⟨tokens, b₂, htokens, hret⟩ := run_bind_eq_ok.mp hret
    unfold typeTokens at htokens
    rw [run_bind_ok hmethod, hm, Option.getD_some] at htokens
    have hnil : tokens = [] := by
      cases htypes : Token.cut types with
      | ok tokens' =>
        rw [htypes] at htokens hcut
        cases htokens
        cases tokens with
        | nil => rfl
        | cons ret args => exact absurd rfl (hcut ret args)
      | error cut =>
        rw [htypes] at htokens
        cases cut with
        | truncated => cases htokens; rfl
        | insideCharacter => cases htokens
    subst hnil
    cases hret
    obtain ⟨key, b₃, -, h⟩ := run_bind_eq_ok.mp h
    cases h

/-- A signature that is kept is used. -/
lemma run_frame_of_some {key : String} (h : (b.contextAt ctx).frames.lookup key = some s) (build : Act Signature) :
    EStateM.run (frame ctx key build) b = .ok s b := by
  unfold frame
  rw [run_bind_ok (run_context ctx), h]
  rfl

/-- A signature that is not kept is built and kept. -/
lemma run_frame_of_none {key : String} (h : (b.contextAt ctx).frames.lookup key = none) (build : Act Signature) :
    EStateM.run (frame ctx key build) b = EStateM.run (build >>= fun s =>
      modifyContext ctx (fun x => { x with frames := (key, s) :: x.frames }) >>= fun _ => pure s) b := by
  unfold frame
  rw [run_bind_ok (run_context ctx), h]

end Act

/-! ## What is kept where no layouts are known -/

namespace Signature

/-- **Meant**: the signature can be kept under the text where no layouts are known. -/
inductive Meant : String → Signature → Prop
  /-- The text is that of a function with the signature. -/
  | function (s : Signature) : Meant s.functionKey s
  /-- The signature is assumed. -/
  | assumed (n : Nat) : Meant (Signature.assumed n).encoding (Signature.assumed n)
  /-- The text is a type string that denotes the signature. -/
  | denoted {types : String} {s : Signature}
      (h : ({} : Translator).denoted? types = some s) : Meant types s

end Signature

/-- **Candid**: if the context can read type strings and knows no layouts, it keeps signatures under texts
that mean them. -/
def Context.Candid (c : Context) : Prop :=
  c.capabilities.typed = true → c.translator.layouts = [] → ∀ e ∈ c.frames, Signature.Meant e.1 e.2

namespace Bridge

/-- **Candid**: all contexts are. -/
def Candid (b : Bridge) : Prop := ∀ ctx, (b.contextAt ctx).Candid

namespace Candid

variable {b b' : Bridge} {ctx : ContextId} {m : MethodRef} {s : Signature}

/-- Other states in which contexts keep the same, and know no less. -/
lemma of_views (h : b.Candid) (hview : ∀ ctx, (b'.contextAt ctx).frames = (b.contextAt ctx).frames ∧
    (b'.contextAt ctx).capabilities = (b.contextAt ctx).capabilities ∧
      (b.contextAt ctx).translator.layouts.length ≤ (b'.contextAt ctx).translator.layouts.length) :
    b'.Candid := fun ctx htyped hlayouts => by
  obtain ⟨hframes, hcapabilities, hle⟩ := hview ctx
  rw [hframes]
  rw [hcapabilities] at htyped
  rw [hlayouts] at hle
  exact h ctx htyped (List.length_eq_zero_iff.mp (Nat.le_zero.mp hle))

/-- A change of one context that concerns none of this. -/
lemma modify (h : b.Candid) {f : Context → Context} (i : ContextId) (hf : ∀ x, (f x).frames = x.frames ∧
    (f x).capabilities = x.capabilities ∧ (f x).translator = x.translator) :
    ({ b with contexts := b.contexts.modify i f } : Bridge).Candid :=
  h.of_views fun ctx => ⟨b.view_contextAt_modify Context.frames (fun x => (hf x).1) i ctx,
    b.view_contextAt_modify Context.capabilities (fun x => (hf x).2.1) i ctx,
    Nat.le_of_eq (congrArg (·.layouts.length)
      (b.view_contextAt_modify Context.translator (fun x => (hf x).2.2) i ctx)).symm⟩

/-- Record keeping that keeps no signature. -/
lemma of_upkeep (h : b.Candid) (hstep : Upkeep b b') (hframes : b'.frames? = b.frames?) : b'.Candid :=
  h.of_views fun ctx => ⟨by rw [Act.frames_contextAt, Act.frames_contextAt, hframes],
    (Step.upkeep hstep).capabilities_eq ctx, (hstep.layouts_suffix ctx).length_le⟩

/-- A signature is kept under a text that means it. -/
lemma keepFrame (h : b.Candid) {key : String} (hs : (b.contextAt ctx).capabilities.typed = true →
    (b.contextAt ctx).translator.layouts = [] → Signature.Meant key s) :
    ({ b with contexts := b.contexts.modify ctx fun c =>
      { c with frames := (key, s) :: c.frames } } : Bridge).Candid := by
  intro i
  by_cases hi : ctx = i
  · subst hi
    rcases Nat.lt_or_ge ctx b.contexts.size with hctx | hctx
    · rw [contextAt_modify_self hctx]
      exact fun htyped hlayouts => List.forall_mem_cons.mpr ⟨hs htyped hlayouts, h ctx htyped hlayouts⟩
    · -- there is no such context, and nothing that keeps
      have hnone : ({ b with contexts := b.contexts.modify ctx fun c =>
          { c with frames := (key, s) :: c.frames } } : Bridge).contextAt ctx = b.contextAt ctx := by
        simp only [contextAt, Array.getElem?_modify, Array.getElem?_eq_none hctx]
        rfl
      rw [hnone]
      exact h ctx
  · rw [contextAt_modify_of_ne hi]
    exact h i

end Candid

end Bridge

/-- A step of record keeping, from which no context keeps what it should not. -/
def CandidUpkeep (b b' : Bridge) : Prop := Upkeep b b' ∧ (b.Candid → b'.Candid)

namespace Act

variable {b : Bridge} {ctx : ContextId}

lemma candid_of_learning {α : Type} {x : Act α} (h : Moves Learning x b) : Moves CandidUpkeep x b :=
  h.mono fun _ _ hstep => ⟨.learning hstep, fun hb => hb.of_upkeep (.learning hstep) hstep.frames?_eq⟩

/-- **The signature of a method** is kept under its type string, which denotes it. -/
lemma candid_methodFrame (m : MethodRef) : Moves CandidUpkeep (methodFrame ctx m) b := by
  unfold methodFrame
  refine Moves.bind (.of_after (after_of_ok (run_typeString m))) fun key b₁ hrun => ?_
  rw [run_typeString] at hrun
  obtain ⟨hkey, rfl⟩ := EStateM.Result.ok.inj hrun
  have hlearn := learning_methodTypes ctx m (b := b)
  have hcapabilities {s : Signature} {b' : Bridge} (hrun : EStateM.run (methodTypes ctx m) b = .ok s b') :
      (b'.contextAt ctx).capabilities = (b.contextAt ctx).capabilities := by
    rw [← after_of_ok hrun, ((hlearn.mono fun _ _ => Upkeep.learning).toStep).capabilities_eq]
  cases key with
  | some types =>
    refine moves_frame_of (candid_of_learning hlearn) fun s b' hrun => ⟨.keepFrame _ _ _, fun hb =>
      hb.keepFrame fun _ hlayouts => .denoted ?_⟩
    split at hkey
    · rw [← denoted?_of_run_methodTypes hkey hrun, show (b'.contextAt ctx).translator = {} from
        congrArg Translator.mk hlayouts]
    · cases hkey
  | none =>
    refine (candid_of_learning hlearn).bind fun s b' hrun => moves_frame_of (moves_pure _)
      fun s' b'' hpure => ⟨.keepFrame _ _ _, fun hb => hb.keepFrame fun htyped _ => ?_⟩
    cases hpure
    -- a context that can read type strings reads that of any method
    rw [hcapabilities hrun] at htyped
    rw [if_pos htyped] at hkey
    have hnone := denoted?_eq_none (Option.map_eq_none_iff.mp hkey) ctx
    rw [denoted?, hrun] at hnone
    cases hnone

/-- **Settling on a signature** keeps one under a text that means it. -/
lemma candid_messageFrame (method : Option MethodRef) (m : Message) :
    Moves CandidUpkeep (messageFrame ctx method m) b := by
  cases method with
  | some method => exact candid_methodFrame method
  | none =>
    exact (moves_context ctx).bind fun _ _ _ => .ite (fun _ => moves_fail _) fun _ =>
      moves_frame_of (moves_pure _) fun s b' hrun => ⟨.keepFrame _ _ _, fun hb => hb.keepFrame fun _ _ => by
        cases hrun
        exact .assumed _⟩

lemma candid_functionFrame (f : Function) :
    Moves CandidUpkeep (frame ctx ("fn " ++ f.signature.encoding) (pure f.signature)) b :=
  moves_frame_of (moves_pure _) fun s b' hrun => ⟨.keepFrame _ _ _, fun hb => hb.keepFrame fun _ _ => by
    cases hrun
    exact .function _⟩

end Act

namespace Bridge.Candid

variable {b : Bridge} {ctx : ContextId} {types : String} {s : Signature}

/-- **What is kept under a type string** is what the string denotes, if no function is kept under it, and
if it does not have so many arguments that some are left out. -/
theorem denoted? (h : b.Candid) (htyped : (b.contextAt ctx).capabilities.typed = true)
    (hlayouts : (b.contextAt ctx).translator.layouts = [])
    (hfunction : ∀ s : Signature, types ≠ s.functionKey)
    (hshort : ∀ s, (b.contextAt ctx).translator.denoted? types = some s → s.args.length < 0x100000000)
    (hkept : (b.contextAt ctx).frames.lookup types = some s) :
    (b.contextAt ctx).translator.denoted? types = some s := by
  obtain ⟨l₁, l₂, hmem, -⟩ := List.lookup_eq_some_iff.mp hkept
  have hmeant : Signature.Meant types s := h ctx htyped hlayouts (types, s) (by simp [hmem])
  cases hmeant with
  | function => exact absurd rfl (hfunction s)
  | assumed n =>
    have hdenoted := Translator.denoted?_assumed (t := (b.contextAt ctx).translator) n
    rw [hdenoted, Translator.eq_assumed_of_denoted? hdenoted (hshort _ hdenoted)]
  | denoted hdenoted =>
    rw [show (b.contextAt ctx).translator = {} from congrArg Translator.mk hlayouts, hdenoted]

end Bridge.Candid

end MessageBridge
