import MessageBridge.Proofs.Bridge.CallShape
import MessageBridge.Proofs.Bridge.Hosting

/-!
# Signatures that are kept

A context builds the signature of a call once and keeps it under a key, which is a text. What the text
means can change: a struct can be registered again with another layout, and two types can have the
encoding of one. A kept signature does not change with it. This module says, for every run of a
context, exactly when a signature that is kept is still the one that would be built afresh.

## Main definitions

* `Request` — what a signature is settled for, with `Request.key?` and `Request.fresh?`.
* `Answered` — a state that a context gets to by answering requests, and by anything that leaves alone
  the signatures that it keeps.
* `earliest?` — the earliest request under a key.

## Main results

* `Request.answers` — one request: what is kept is used, and what is built is kept.
* `Answered.kept` — a whole run: what is kept under a key is what the earliest request under it meant.
* `Answered.operate`, `Answered.settles_plan` — calls, however deep they are nested, registering structs
  and adding metadata are such runs, and the signature that a call goes by was settled in one.
* `Answered.fresh_iff` — a request gets what would be built afresh exactly if the earliest request under
  its key meant the same.
* `stale_frame` — a struct that is registered again makes the two differ.
-/

namespace MessageBridge

open Act

variable {b b' : Bridge} {ctx : ContextId} {s : Signature}

/-! ## Requests -/

/-- **Request**: what a context settles a signature for, which is a message with the method that was
found for it, if any, or a call of a function. -/
inductive Request where
  | message (method : Option MethodRef) (m : Message)
  | function (f : Function)

namespace Request

/-- Settles the signature. -/
def settle (ctx : ContextId) : Request → Act Signature
  | message method m => messageFrame ctx method m
  | function f => frame ctx ("fn " ++ f.signature.encoding) (pure f.signature)

/-- The key under which the signature is kept. -/
def key? (ctx : ContextId) (b : Bridge) : Request → Option String
  | message (some method) _ => frameKey? ctx method b
  | message none m => some (Signature.assumed m.args.length).encoding
  | function f => some ("fn " ++ f.signature.encoding)

/-- The signature that would be built afresh: what the type string of the method denotes now, the
signature that is assumed where there is no method, or the signature of the function. -/
def fresh? (ctx : ContextId) (b : Bridge) : Request → Option Signature
  | message (some method) _ => denoted? ctx method b
  | message none m => some (.assumed m.args.length)
  | function f => some f.signature

variable {r : Request}

/-- **One request**: what is kept under the key is used, and what is built afresh is kept. -/
theorem answers (h : EStateM.run (r.settle ctx) b = .ok s b') :
    ∃ key, r.key? ctx b = some key ∧ Answers ctx key (r.fresh? ctx b) s b b' := by
  cases r with
  | message method m =>
    cases method with
    | some method => exact (run_methodFrame_eq_ok h).2
    | none => exact ⟨_, rfl, answers_of_run_assumedFrame h⟩
  | function f => exact ⟨_, rfl, answers_of_run_frame_pure h⟩

/-- Settling a signature stops only where it is built, before anything is kept. -/
lemma run_frame_eq_error {key : String} {build : Act Signature} {stop : Stop}
    (h : EStateM.run (frame ctx key build) b = .error stop b') :
    EStateM.run build b = .error stop b' := by
  unfold frame at h
  rw [run_bind_ok (run_context ctx)] at h
  split at h
  · cases h
  · rcases run_bind_eq_error.mp h with h | ⟨s, b₁, -, h⟩
    · exact h
    · cases h

/-- **A request that is refused** leaves the kept signatures alone. -/
lemma frames?_of_error {stop : Stop} (h : EStateM.run (r.settle ctx) b = .error stop b') :
    b'.frames? = b.frames? := by
  have hbuild {m : MethodRef} (h : EStateM.run (methodTypes ctx m) b = .error stop b') :
      b'.frames? = b.frames? := by
    rw [← after_of_error h, frames?_eq_of_learning (learning_methodTypes ctx m)]
  cases r with
  | message method m =>
    cases method with
    | some method =>
      change EStateM.run (methodFrame ctx method) b = _ at h
      unfold methodFrame at h
      rw [run_bind_ok (run_typeString method)] at h
      split at h
      · exact hbuild (run_frame_eq_error h)
      · rcases run_bind_eq_error.mp h with h | ⟨s, b₁, -, h⟩
        · exact hbuild h
        · cases run_frame_eq_error h
    | none =>
      change EStateM.run (assumedFrame ctx m) b = _ at h
      unfold assumedFrame at h
      rw [run_bind_ok (run_context ctx)] at h
      split at h
      · cases h
        rfl
      · cases run_frame_eq_error h
  | function f => cases run_frame_eq_error h

/-- A request leaves the signatures of other contexts alone. -/
lemma frames?_of_ne {other : ContextId} (hne : other ≠ ctx) (r : Request) (b : Bridge) :
    ((r.settle other).after b).frames? ctx = b.frames? ctx := by
  let R (b b' : Bridge) : Prop := b'.frames? ctx = b.frames? ctx
  have hkeep (b : Bridge) (key : String) (s : Signature) : R b
      { b with contexts := b.contexts.modify other fun c =>
        { c with frames := (key, s) :: c.frames } } := by
    simp only [R, Bridge.frames?, Array.getElem?_modify, if_neg hne]
  have hlearn (b b' : Bridge) (h : Learning b b') : R b b' := congrFun h.frames?_eq ctx
  have hmoves : Moves R (r.settle other) b := by
    cases r with
    | message method m => exact moves_messageFrame hkeep (fun m _ => (learning_methodTypes other m).mono hlearn) method m
    | function f => exact moves_frame hkeep _ fun _ => moves_pure _
  exact hmoves.keeps (·.frames? ctx) fun _ _ h => h

end Request

/-! ## Runs -/

/-- A request in the state in which it is made. -/
structure Moment where
  request : Request
  state : Bridge

namespace Moment

/-- The key of the request at that moment. -/
def key? (ctx : ContextId) (m : Moment) : Option String := m.request.key? ctx m.state

/-- What the request meant at that moment. -/
def fresh? (ctx : ContextId) (m : Moment) : Option Signature := m.request.fresh? ctx m.state

end Moment

/-- **Answered**: the state is one that the context gets to, from having no signatures, by answering the
requests, of which the latest is the first in the list. Whatever else happens leaves alone the
signatures that the context keeps. -/
inductive Answered (ctx : ContextId) : List Moment → Bridge → Prop
  /-- The context was opened. -/
  | opened {b : Bridge} (h : b.frames? ctx = some []) : Answered ctx [] b
  /-- Anything else happens. -/
  | work {past : List Moment} {b b' : Bridge} (hpast : Answered ctx past b)
      (h : b'.frames? ctx = b.frames? ctx) : Answered ctx past b'
  /-- A request is answered. -/
  | answer {past : List Moment} {b b' : Bridge} (hpast : Answered ctx past b) (r : Request)
      {s : Signature} (h : EStateM.run (r.settle ctx) b = .ok s b') :
      Answered ctx (⟨r, b⟩ :: past) b'

/-- The earliest request under a key. -/
def earliest? (ctx : ContextId) (key : String) (past : List Moment) : Option Moment :=
  past.reverse.find? fun m => m.key? ctx = some key

/-- A later request is the earliest one under its key only if there was none before. -/
lemma earliest?_cons (key : String) (m : Moment) (past : List Moment) :
    earliest? ctx key (m :: past) =
      (earliest? ctx key past).or (if m.key? ctx = some key then some m else none) := by
  rw [earliest?, List.reverse_cons, List.find?_append, List.find?_singleton]
  simp only [decide_eq_true_eq]
  rfl

namespace Answered

variable {past : List Moment}

/-- A context that was just opened has been asked nothing. -/
lemma openContext (b : Bridge) (config : Config) (capabilities : Capabilities) :
    Answered (b.openContext config capabilities).1 [] (b.openContext config capabilities).2 :=
  .opened (by simp [Bridge.frames?, Bridge.openContext])

/-- **What is kept** under a key is what the earliest request under the key meant. -/
theorem kept (h : Answered ctx past b) :
    ∃ kept, b.frames? ctx = some kept ∧ ∀ key,
      (kept.lookup key).map some = (earliest? ctx key past).map (Moment.fresh? ctx) := by
  induction h with
  | opened h => exact ⟨[], h, fun _ => rfl⟩
  | work _ h ih =>
    obtain ⟨kept, hframes, hkept⟩ := ih
    exact ⟨kept, h.trans hframes, hkept⟩
  | @answer past b b' _ r s h ih =>
    obtain ⟨kept, hframes, hkept⟩ := ih
    obtain ⟨key, hkey, hanswers⟩ := r.answers h
    have hlookup : (b.contextAt ctx).frames = kept := by rw [frames_contextAt, hframes]; rfl
    have hmoment : (⟨r, b⟩ : Moment).key? ctx = some key := hkey
    have hother (key' : String) (h : key' ≠ key) :
        earliest? ctx key' (⟨r, b⟩ :: past) = earliest? ctx key' past := by
      rw [earliest?_cons, if_neg, Option.or_none]
      exact fun h' => h (Option.some.inj (h'.symm.trans hmoment))
    rw [Answers, hlookup, hframes] at hanswers
    rcases hanswers with ⟨hfound, hsame⟩ | ⟨hnone, hbuilt, hnew⟩
    · -- the earliest request under the key is an older one
      refine ⟨kept, hsame, fun key' => ?_⟩
      by_cases hkey' : key' = key
      · subst hkey'
        have hfirst := hkept key'
        rw [hfound] at hfirst
        obtain ⟨first, hfirst', -⟩ := Option.map_eq_some_iff.mp hfirst.symm
        rw [hkept, earliest?_cons, hfirst', Option.some_or]
      · rw [hkept, hother key' hkey']
    · -- this request is the earliest under its key
      refine ⟨(key, s) :: kept, hnew, fun key' => ?_⟩
      by_cases hkey' : key' = key
      · subst hkey'
        have hfirst := hkept key'
        rw [hnone] at hfirst
        rw [earliest?_cons, Option.map_eq_none_iff.mp hfirst.symm, Option.none_or, if_pos hmoment,
          List.lookup_cons_self]
        exact congrArg some hbuilt.symm
      · rw [hother key' hkey', ← hkept, List.lookup_cons, beq_false_of_ne hkey']

end Answered

/-! ## Operations are runs -/

/-- **Framing**: one step of a run, as far as the signatures of a context matter. A request is
answered, or what the context keeps is left alone. -/
inductive Framing (ctx : ContextId) : Bridge → Bridge → Prop
  /-- Anything that leaves the kept signatures alone. -/
  | work {b b' : Bridge} (h : b'.frames? ctx = b.frames? ctx) : Framing ctx b b'
  /-- A request is answered. -/
  | answer {b b' : Bridge} (r : Request) {s : Signature}
      (h : EStateM.run (r.settle ctx) b = .ok s b') : Framing ctx b b'

/-- Settling a signature is such a step, in whichever context it is settled, and also if it is
refused. -/
lemma Request.moves_settle (r : Request) (other : ContextId) (b : Bridge) :
    Moves (Framing ctx) (r.settle other) b := by
  by_cases hctx : other = ctx
  · subst hctx
    cases h : EStateM.run (r.settle other) b with
    | ok s b' =>
      refine .of_step (.answer r (s := s) ?_)
      rwa [after_of_ok h]
    | error stop b' =>
      refine .of_step (.work ?_)
      rw [after_of_error h, frames?_of_error h]
  · exact .of_step (.work (frames?_of_ne hctx r b))

instance : Running (Framing ctx) where
  of_upkeep _ hframes _ _ := .work (congrFun hframes ctx)
  space _ := .work rfl
  define _ _ := .work rfl
  host _ := .work rfl
  trace _ := .work rfl
  pending other _ := .work (congrFun (Bridge.frames?_modify (by exact fun _ => rfl) _ other) ctx)
  message other method m b := (Request.message method m).moves_settle other b
  function other f b := (Request.function f).moves_settle other b

/-- **Operation**: what a host asks of a context, as far as types and calls are concerned. -/
inductive Operation where
  | registerStruct (encoding : String)
  | addMetadata (m : Metadata)
  /-- A message or a call of a function, within which calls are nested at most so many times. -/
  | call (depth : Nat) (d : Dispatch)

/-- Performs the operation. -/
def Operation.perform (ctx : ContextId) : Operation → Act Unit
  | registerStruct encoding => do
    let _ ← Act.registerStruct ctx encoding
  | addMetadata m => Act.addMetadata ctx m
  | call depth d => do
    let _ ← dispatch (.within depth) ctx d

lemma Operation.moves_perform (op : Operation) (other : ContextId) (b : Bridge) :
    Moves (Framing ctx) (op.perform other) b := by
  cases op with
  | registerStruct encoding =>
    exact (upkeep_registerStruct other encoding).bind fun _ _ _ => moves_pure _
  | addMetadata m =>
    exact .of_step (.work (congrFun (b.frames?_modify (by exact fun _ => rfl) other) ctx))
  | call depth d =>
    exact (moves_dispatch (Reentry.moves_within depth) other d).bind fun _ _ _ => moves_pure _

namespace Answered

variable {past : List Moment}

/-- Further steps only add requests. -/
lemma steps (h : Answered ctx past b) (hrun : Relation.ReflTransGen (Framing ctx) b b') :
    ∃ more, Answered ctx (more ++ past) b' := by
  induction hrun with
  | refl => exact ⟨[], h⟩
  | tail _ hstep ih =>
    obtain ⟨more, hmore⟩ := ih
    cases hstep with
    | work hframes => exact ⟨more, hmore.work hframes⟩
    | answer r hs => exact ⟨_ :: more, hmore.answer r hs⟩

/-- **Operations are runs**: whatever operation a host performs, in whichever context and however it
ends, the requests of the context that are made on the way are answered one by one. -/
theorem operate (h : Answered ctx past b) (other : ContextId) (op : Operation) :
    ∃ more, Answered ctx (more ++ past) ((op.perform other).after b) :=
  h.steps (op.moves_perform other b)

/-- **The signature of a call** is one that such a run settled. -/
theorem settles_plan (h : Answered ctx past b) {re : Reentry} {d : Dispatch} {p : Plan}
    (hplan : EStateM.run (plan re ctx d) b = .ok p b') :
    ∃ more b₁ b₂, ∃ r : Request, Answered ctx (more ++ past) b₁ ∧
      EStateM.run (r.settle ctx) b₁ = .ok p.signature b₂ := by
  cases d with
  | message route receiver m =>
    obtain ⟨t, b₁, htarget, hplan⟩ := run_bind_eq_ok.mp hplan
    obtain ⟨more, hmore⟩ := h.steps ((upkeep_target ctx receiver route m.selector).of_ok htarget)
    unfold planMessage at hplan
    rw [run_bind_ok (run_fromSpace _)] at hplan
    obtain ⟨s, b₂, hs, hplan⟩ := run_bind_eq_ok.mp hplan
    split at hplan
    · cases hplan
    · obtain ⟨code, b₃, -, hplan⟩ := run_bind_eq_ok.mp hplan
      cases code with
      | none => cases hplan
      | some code =>
        cases hplan
        exact ⟨more, b₁, b₂, .message _ m, hmore, hs⟩
  | function f args =>
    simp only [plan] at hplan
    split at hplan
    · cases hplan
    · obtain ⟨s, b₁, hs, hplan⟩ := run_bind_eq_ok.mp hplan
      cases hplan
      exact ⟨[], b, _, .function f, h, hs⟩

end Answered

/-! ## Kept and fresh -/

/-- **When a kept signature is fresh**: a request gets the signature that would be built afresh at that
moment exactly if there was no request under the same key before, or the earliest one meant then what
this one means now. -/
theorem Answered.fresh_iff {past : List Moment} {r : Request} (h : Answered ctx past b)
    (hs : EStateM.run (r.settle ctx) b = .ok s b') :
    r.fresh? ctx b = some s ↔ ∀ key first, r.key? ctx b = some key →
      earliest? ctx key past = some first → first.fresh? ctx = r.fresh? ctx b := by
  obtain ⟨kept, hframes, hkept⟩ := h.kept
  obtain ⟨key, hkey, hanswers⟩ := r.answers hs
  have hlookup : (b.contextAt ctx).frames = kept := by rw [frames_contextAt, hframes]; rfl
  have hfirst := hkept key
  rw [Answers, hlookup] at hanswers
  rcases hanswers with ⟨hfound, -⟩ | ⟨hnone, hbuilt, -⟩
  · rw [hfound] at hfirst
    obtain ⟨first, hearliest, hmeant⟩ := Option.map_eq_some_iff.mp hfirst.symm
    constructor
    · intro hfresh key' first' hkey' hfirst'
      obtain rfl : key = key' := Option.some.inj (hkey.symm.trans hkey')
      obtain rfl : first = first' := Option.some.inj (hearliest.symm.trans hfirst')
      rw [hmeant, hfresh]
    · intro hall
      rw [← hall key first hkey hearliest, hmeant]
  · rw [hnone] at hfirst
    refine iff_of_true hbuilt fun key' first hkey' hearliest => ?_
    obtain rfl : key = key' := Option.some.inj (hkey.symm.trans hkey')
    rw [hearliest] at hfirst
    cases hfirst

/-! ## A struct that is registered again -/

/-- Builds a class with a method that takes the struct of the name and answers a number. -/
def buildTaker (name : String) (answer : Int64) : Act ObjectRef := do
  let p ← extend 0 (← classNamed? 0 "Object") name 0
  p.addMethod "take:" "q@:\x7bP\x7d" (.literal (.int answer))
  return (← p.register).classRef

/-- Registers the struct with one field and builds such a class. The signature of its method is to be
settled. -/
def takerScene : Act Request := do
  let _ ← registerStruct 0 "\x7bP=i\x7d"
  let c ← buildTaker "Taker" 5
  return .message (← instanceMethod? 0 c "take:") { selector := "take:" }

/-- Settles the signature, registers the struct with two fields, and settles the signature again. The
second one is answered with what would be built afresh then. -/
def settleTwice (r : Request) : Act (Signature × Option Signature) := do
  let _ ← r.settle 0
  let _ ← registerStruct 0 "\x7bP=qq\x7d"
  let b ← get
  return (← r.settle 0, r.fresh? 0 b)

/-- Sends the message to a new instance. -/
def sendTake (c : ObjectRef) (fields : List Literal) : Act Value := do
  match ← send 0 c { selector := "new" } with
  | .object r =>
    send 0 r { selector := "take:", args := [← evalLiteral 0 (.struct "\x7bP\x7d" fields)] }
  | v => return v

/-- What an instance of a class that is built after the struct was registered with two fields answers,
where an instance of a class that was built before is asked first or not. -/
def takeSecond (asked : Bool) : Act Value := do
  let _ ← registerStruct 0 "\x7bP=i\x7d"
  let c ← buildTaker "Taker" 5
  if asked then
    let _ ← sendTake c [.int 1]
  let _ ← registerStruct 0 "\x7bP=qq\x7d"
  let d ← buildTaker "PairTaker" 7
  recover (sendTake d [.int 1, .int 2]) fun e => return .str e.kindName

/-- The state in which there is one context, and nothing else was done. -/
def openedBridge : Bridge := (Bridge.openContext {} {} {}).2

/-- The signature of the method was settled before the struct was registered again, and the second
request gets the same. -/
lemma exists_stale : ∃ past b r s b', Answered 0 past b ∧
    EStateM.run (Request.settle 0 r) b = .ok s b' ∧ r.fresh? 0 b ≠ some s := by
  have hends : (takerScene >>= settleTwice).endsWith (fun r _ => r.2 ≠ some r.1) openedBridge =
      true := by decide +kernel
  obtain ⟨⟨s', fresh⟩, b', hrun, htest⟩ := exists_of_endsWith hends
  obtain ⟨r, b₁, hscene, hrun⟩ := run_bind_eq_ok.mp hrun
  obtain ⟨s, b₂, hfirst, hrun⟩ := run_bind_eq_ok.mp hrun
  obtain ⟨layout, b₃, hregister, hrun⟩ := run_bind_eq_ok.mp hrun
  rw [run_bind_ok (show EStateM.run get b₃ = .ok b₃ b₃ from rfl)] at hrun
  obtain ⟨s'', b₄, hsecond, hrun⟩ := run_bind_eq_ok.mp hrun
  cases hrun
  have hbuilding : (takerScene.after openedBridge).frames? 0 = openedBridge.frames? 0 := by
    decide +kernel
  have hlearning : b₃.frames? 0 = b₂.frames? 0 := by
    rw [← after_of_ok hregister, frames?_eq_of_learning (learning_registerStruct 0 _)]
  rw [after_of_ok hscene] at hbuilding
  have hanswered : Answered 0 [⟨r, b₁⟩] b₃ :=
    ((Answered.openContext {} {} {}).work hbuilding |>.answer r hfirst).work hlearning
  exact ⟨_, b₃, r, _, b', hanswered, hsecond, by simpa using htest⟩

/-- The earliest request under the key of the second one meant something else. -/
theorem fresh_iff_taker : ∃ past b r s b', Answered 0 past b ∧
    EStateM.run (Request.settle 0 r) b = .ok s b' ∧
    ¬∀ key first, r.key? 0 b = some key → earliest? 0 key past = some first →
      first.fresh? 0 = r.fresh? 0 b := by
  obtain ⟨past, b, r, s, b', h, hs, hstale⟩ := exists_stale
  exact ⟨past, b, r, s, b', h, hs, fun hall => hstale ((h.fresh_iff hs).mpr hall)⟩

/-- **A kept signature that is stale**: after the struct was registered again, the method gets another
signature than the one that its type string denotes. A call of a method with the same type string is
then refused, although the arguments are right, if and only if the signature was asked for before. -/
theorem stale_frame :
    (∃ past b r s b', Answered 0 past b ∧ EStateM.run (Request.settle 0 r) b = .ok s b' ∧
      r.fresh? 0 b ≠ some s) ∧
    (∃ v b', EStateM.run (takeSecond false) openedBridge = .ok v b' ∧ v.equals (.int 7) = true) ∧
    (∃ v b', EStateM.run (takeSecond true) openedBridge = .ok v b' ∧
      v.equals (.str "ArgumentTypeMismatch") = true) := by
  have hfresh : (takeSecond false).endsWith (fun v _ => v.equals (.int 7)) openedBridge = true := by
    decide +kernel
  have hstale : (takeSecond true).endsWith (fun v _ => v.equals (.str "ArgumentTypeMismatch"))
      openedBridge = true := by decide +kernel
  exact ⟨exists_stale, exists_of_endsWith hfresh, exists_of_endsWith hstale⟩

end MessageBridge
