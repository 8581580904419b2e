import MessageBridge.Proofs.Bridge.Depth
import MessageBridge.Proofs.Bridge.Exceptions
import Mathlib.Logic.Relation
import Mathlib.Order.WellFounded

/-!
# Reports on exceptions

A call that leaves an exception behind ends with a report on it: the exception is asked for its name and
for its reason. These are calls themselves. One that raises an exception ends with a report on that one,
before the first report goes on without the text. So a report ends just if this does not go on forever:
no sequence of exceptions is endless in which each one is raised while the one before is reported.

## Main definitions

* `Act.Raises` — a call leaves an exception behind.
* `Report` — an exception, and the state in which it is reported.
* `Report.Asks` — the messages that are sent for a text.
* `Report.Next` — a report in the course of another one.
* `Report.Orderly` — whatever is asked ends or raises an exception.
* `Report.Told` — a text as it is reported.

## Main results

* `Report.acc_of_not_exhausts` — a report that ends has only finite sequences of reports inside.
* `Report.exists_comesTo_of_acc` — a report ends if all sequences of reports inside it are finite.
* `Act.exception_reported` — how calls that raise an exception end.
* `Act.never_reported` — an exception that is raised for its own name.
-/

namespace MessageBridge

open Act

/-- **Report**: an exception, and the state in which it is asked for its texts. -/
structure Report where
  exception : ObjectRef
  state : Bridge

namespace Act

variable {ctx : ContextId} {b b₁ b₂ b' : Bridge} {d : Dispatch} {x y : Report} {re : Reentry}

/-- A message without arguments. -/
def asking (r : ObjectRef) (name : String) : Dispatch := .message .direct r { selector := name }

/-- A call up to the point where its code has ended. -/
def called (re : Reentry) (ctx : ContextId) (d : Dispatch) : Act (Plan × Option (List UInt8)) := do
  let p ← plan re ctx d
  return (p, ← callCode re ctx p.signature p.code p.words p.args)

lemma dispatch_eq_called : dispatch re ctx d = called re ctx d >>= fun made =>
    complete re ctx made.1.signature.ret made.2 := by
  unfold dispatch carryOut called
  simp only [bind_assoc, pure_bind]

lemma deepening_called (ctx : ContextId) (d : Dispatch) : Deepening (called · ctx d) :=
  fun _ _ h => (deepens_plan h ctx d).bind fun _ =>
    (deepens_callCode h ctx _ _ _ _).bind fun _ => .refl _

/-- **Raises**: the code of the call ends, and leaves an exception behind and no failure. The report on
the exception starts once it is taken. -/
def Raises (ctx : ContextId) (d : Dispatch) (b : Bridge) (x : Report) : Prop :=
  ∃ made b₁ b₂, ComesTo (called · ctx d) b (.ok made b₁) ∧
    EStateM.run (takePendingError ctx) b₁ = .ok none b₂ ∧
    EStateM.run (takeException ctx) b₂ = .ok (some x.exception) x.state

/-- What a text is taken from: a string, or what an object answers in turn. -/
def answerText (re : Reentry) (ctx : ContextId) : Option Value → Act (Option String)
  | some (.str s) => return some s
  | some (.object r) => return (← orNone (re.ask ctx r "UTF8String")).bind Value.toText?
  | _ => return none

lemma exceptionText_eq (re : Reentry) (ctx : ContextId) (r : ObjectRef) (field : String) :
    exceptionText re ctx r field = respondsTo ctx r field >>= fun known =>
      if known then orNone (re.ask ctx r field) >>= answerText re ctx else pure none := by
  rfl

end Act

namespace Report

variable {ctx : ContextId} {b b₁ b₂ b' : Bridge} {d : Dispatch} {x y : Report} {re : Reentry}
  {field s : String} {text : Option String} {k : Nat}

/-- The texts are asked for, and the call fails. -/
def tell (re : Reentry) (ctx : ContextId) (x : Report) : Act Value := do
  let name ← exceptionText re ctx x.exception "name"
  let reason ← exceptionText re ctx x.exception "reason"
  fail (.exception x.exception name reason)

/-- **Reads**: the state in which a text is asked for. The reason comes after the name. -/
inductive Reads (ctx : ContextId) (x : Report) : String → Bridge → Prop
  | name : Reads ctx x "name" x.state
  | reason {text : Option String} {b : Bridge}
      (h : ComesTo (exceptionText · ctx x.exception "name") x.state (.ok text b)) :
      Reads ctx x "reason" b

/-- **Asks**: a message that is sent for a text, and the state in which it is sent. -/
inductive Asks (ctx : ContextId) (x : Report) (field : String) (b : Bridge) : Dispatch → Bridge → Prop
  | accessor {b₁ : Bridge} (hknown : EStateM.run (respondsTo ctx x.exception field) b = .ok true b₁) :
      Asks ctx x field b (asking x.exception field) b₁
  | characters {b₁ b₂ : Bridge} {r : ObjectRef}
      (hknown : EStateM.run (respondsTo ctx x.exception field) b = .ok true b₁)
      (h : ComesTo (dispatch · ctx (asking x.exception field)) b₁ (.ok (.object r) b₂)) :
      Asks ctx x field b (asking r "UTF8String") b₂

/-- **Tells**: the text can be read from what the exception answers. -/
inductive Tells (ctx : ContextId) (x : Report) (field : String) (b : Bridge) : String → Prop
  | text {b₁ b₂ : Bridge} {s : String}
      (hknown : EStateM.run (respondsTo ctx x.exception field) b = .ok true b₁)
      (h : ComesTo (dispatch · ctx (asking x.exception field)) b₁ (.ok (.str s) b₂)) :
      Tells ctx x field b s
  | characters {b₁ b₂ b₃ : Bridge} {r : ObjectRef} {v : Value} {s : String}
      (hknown : EStateM.run (respondsTo ctx x.exception field) b = .ok true b₁)
      (h : ComesTo (dispatch · ctx (asking x.exception field)) b₁ (.ok (.object r) b₂))
      (htext : ComesTo (dispatch · ctx (asking r "UTF8String")) b₂ (.ok v b₃))
      (hv : v.toText? = some s) : Tells ctx x field b s

/-- **Told**: the text is there just if it can be read, and not if a message for it raises an
exception. -/
structure Told (ctx : ContextId) (x : Report) (field : String) (b : Bridge) (text : Option String) :
    Prop where
  text_iff : ∀ s, text = some s ↔ x.Tells ctx field b s
  none_of_raises : ∀ d b' y, x.Asks ctx field b d b' → Raises ctx d b' y → text = none

/-- **Next**: in the course of the first report, a message for a text raises the exception of the
second one. -/
def Next (ctx : ContextId) (x y : Report) : Prop :=
  ∃ field b d b', x.Reads ctx field b ∧ x.Asks ctx field b d b' ∧ Raises ctx d b' y

/-- **Orderly**: the exception can be looked at when a text is due, and each message that is sent for a
text raises an exception, or otherwise ends with an answer or an error. -/
structure Orderly (ctx : ContextId) (x : Report) : Prop where
  known : ∀ field b, x.Reads ctx field b →
    ∃ known b', EStateM.run (respondsTo ctx x.exception field) b = .ok known b'
  ends : ∀ field b d b', x.Reads ctx field b → x.Asks ctx field b d b' →
    (∃ y, Raises ctx d b' y) ∨ (∃ v b₁, ComesTo (dispatch · ctx d) b' (.ok v b₁)) ∨
      ∃ e b₁, ComesTo (dispatch · ctx d) b' (.error (.error e) b₁)

end Report

/-! ## What a call that raises comes to -/

namespace Act

variable {ctx : ContextId} {b b₁ b₂ b' : Bridge} {d : Dispatch} {x y : Report} {re : Reentry} {k : Nat}

/-- Asking from inside a call is a call that is one deeper. -/
lemma comesTo_ask {α : Type} {res : EStateM.Result Stop Bridge α} (f : Act Value → Act α)
    (r : ObjectRef) (name : String) :
    ComesTo (fun re => f (re.ask ctx r name)) b res ↔
      ComesTo (fun re => f (dispatch re ctx (asking r name))) b res := by
  constructor
  · rintro ⟨depth, h⟩
    exact ⟨depth, fun k hk => h (k + 1) (by omega)⟩
  · rintro ⟨depth, h⟩
    refine ⟨depth + 1, fun k hk => ?_⟩
    obtain ⟨j, rfl⟩ : ∃ j, k = j + 1 := ⟨k - 1, by omega⟩
    exact h j (by omega)

/-- **Yields**: what a call gives where its errors are passed over. -/
def Yields (ctx : ContextId) (d : Dispatch) (b : Bridge) (answer : Option Value) (b' : Bridge) : Prop :=
  ComesTo (fun re => orNone (dispatch re ctx d)) b (.ok answer b')

lemma run_orNone_eq_some {α : Type} {x : Act α} {a : α} :
    EStateM.run (orNone x) b = .ok (some a) b' ↔ EStateM.run x b = .ok a b' := by
  unfold orNone
  rw [run_recover, map_eq_pure_bind, EStateM.run_bind]
  cases EStateM.run x b with
  | ok a b₁ => simp
  | error stop b₁ => cases stop <;> simp

lemma run_orNone_of_error {α : Type} {x : Act α} {e : Error}
    (h : EStateM.run x b = .error (.error e) b') : EStateM.run (orNone x) b = .ok none b' := by
  unfold orNone
  rw [run_recover, map_eq_pure_bind, run_bind_error h]
  rfl

lemma yields_some_iff {v : Value} :
    Yields ctx d b (some v) b' ↔ ComesTo (dispatch · ctx d) b (.ok v b') := by
  constructor <;> rintro ⟨depth, h⟩
  · exact ⟨depth, fun k hk => ⟨run_orNone_eq_some.mp (h k hk).1, id⟩⟩
  · exact ⟨depth, fun k hk => ⟨run_orNone_eq_some.mpr (h k hk).1, id⟩⟩

lemma yields_none {e : Error} (h : ComesTo (dispatch · ctx d) b (.error (.error e) b')) :
    Yields ctx d b none b' := by
  obtain ⟨depth, h⟩ := h
  exact ⟨depth, fun k hk => ⟨run_orNone_of_error (h k hk).1, id⟩⟩

/-- An action that is nested too deeply is not passed over. -/
lemma Exhausts.orNone {α : Type} {x : Act α} (h : Exhausts x b) : Exhausts (Act.orNone x) b := by
  obtain ⟨b', hrun⟩ := exhausts_iff.mp h
  refine exhausts_iff.mpr ⟨b', ?_⟩
  unfold Act.orNone
  rw [run_recover, map_eq_pure_bind, run_bind_error hrun]

/-- What was left behind is reported. -/
lemma run_complete_of_taken {ret : Descriptor} {bytes : Option (List UInt8)}
    (hpending : EStateM.run (takePendingError ctx) b = .ok none b₁)
    (htake : EStateM.run (takeException ctx) b₁ = .ok (some x.exception) x.state) :
    EStateM.run (complete re ctx ret bytes) b = EStateM.run (x.tell re ctx) x.state := by
  unfold complete
  rw [run_bind_ok hpending]
  exact run_bind_ok htake

namespace Raises

/-- Where the code of a call is not nested too deeply, the call ends with the report. -/
lemma run_dispatch (h : Raises ctx d b x) (hne : ¬Exhausts (called (.within k) ctx d) b) :
    EStateM.run (dispatch (.within k) ctx d) b = EStateM.run (x.tell (.within k) ctx) x.state := by
  obtain ⟨made, b₁, b₂, hcalled, hpending, htake⟩ := h
  rw [dispatch_eq_called, run_bind_ok (hcalled.run_eq (deepening_called ctx d) hne)]
  exact run_complete_of_taken hpending htake

/-- A call that raises comes to what the report comes to. -/
lemma comesTo_iff (h : Raises ctx d b x) {r : EStateM.Result Stop Bridge Value} :
    ComesTo (dispatch · ctx d) b r ↔ ComesTo (x.tell · ctx) x.state r := by
  obtain ⟨depth, hcalled⟩ : ∃ depth, ∀ k, depth ≤ k → ¬Exhausts (called (.within k) ctx d) b := by
    obtain ⟨made, b₁, b₂, ⟨depth, hcalled⟩, -, -⟩ := h
    exact ⟨depth, fun k hk => not_exhausts_of_ok (hcalled k hk).1⟩
  constructor
  · rintro ⟨depth', hr⟩
    refine ⟨max depth depth', fun k hk => ?_⟩
    rw [← h.run_dispatch (hcalled k (by omega))]
    exact hr k (by omega)
  · rintro ⟨depth', hr⟩
    refine ⟨max depth depth', fun k hk => ?_⟩
    rw [h.run_dispatch (hcalled k (by omega))]
    exact hr k (by omega)

/-- A call that raises gives no answer. -/
lemma not_comesTo_ok (h : Raises ctx d b x) {v : Value} :
    ¬ComesTo (dispatch · ctx d) b (.ok v b') := by
  rw [h.comesTo_iff]
  rintro ⟨depth, hr⟩
  obtain ⟨name, b₁, -, hr⟩ := run_bind_eq_ok.mp (hr depth le_rfl).1
  obtain ⟨reason, b₂, -, hr⟩ := run_bind_eq_ok.mp hr
  cases hr

/-- A call raises one exception only. -/
lemma unique (hx : Raises ctx d b x) (hy : Raises ctx d b y) : x = y := by
  obtain ⟨made, b₁, b₂, hcalled, hpending, htake⟩ := hx
  obtain ⟨made', b₁', b₂', hcalled', hpending', htake'⟩ := hy
  obtain ⟨rfl, rfl⟩ := EStateM.Result.ok.inj (hcalled.unique hcalled')
  obtain ⟨-, rfl⟩ := EStateM.Result.ok.inj (hpending.symm.trans hpending')
  obtain ⟨hexception, hstate⟩ := EStateM.Result.ok.inj (htake.symm.trans htake')
  cases x
  cases y
  exact congrArg₂ Report.mk (Option.some.inj hexception) hstate

end Raises

end Act

namespace Report

variable {ctx : ContextId} {b b₁ b₂ b' : Bridge} {d : Dispatch} {x y z : Report}
  {field s : String} {text : Option String} {k : Nat}

/-! ## Texts -/

/-- What the answer to the accessor comes to as a text. -/
lemma comesTo_exceptionText {answer : Option Value} {res : EStateM.Result Stop Bridge (Option String)}
    (hknown : EStateM.run (respondsTo ctx x.exception field) b = .ok true b₁)
    (hyields : Yields ctx (asking x.exception field) b₁ answer b₂)
    (htext : ComesTo (answerText · ctx answer) b₂ res) :
    ComesTo (exceptionText · ctx x.exception field) b res :=
  ComesTo.bind (x := fun _ => respondsTo ctx x.exception field)
    (f := fun known re => if known then orNone (re.ask ctx x.exception field) >>= answerText re ctx
      else pure none)
    (.of_const hknown id)
    (ComesTo.bind (f := fun answer re => answerText re ctx answer)
      ((comesTo_ask orNone x.exception field).mpr hyields) htext)

lemma comesTo_answerText {r : ObjectRef} {answer : Option Value}
    (h : Yields ctx (asking r "UTF8String") b answer b') :
    ComesTo (answerText · ctx (some (.object r))) b (.ok (answer.bind Value.toText?) b') :=
  ComesTo.bind (x := fun re => orNone (re.ask ctx r "UTF8String"))
    (f := fun answer _ => pure (answer.bind Value.toText?))
    ((comesTo_ask orNone r "UTF8String").mpr h) (.of_const rfl id)

/-- A text that can be read is told. -/
lemma Tells.comesTo (h : x.Tells ctx field b s) :
    ∃ b', ComesTo (exceptionText · ctx x.exception field) b (.ok (some s) b') := by
  cases h with
  | text hknown h => exact ⟨_, comesTo_exceptionText hknown (yields_some_iff.mpr h) (.of_const rfl id)⟩
  | characters hknown h htext hv =>
    have h' := comesTo_answerText (yields_some_iff.mpr htext)
    rw [Option.bind_some, hv] at h'
    exact ⟨_, comesTo_exceptionText hknown (yields_some_iff.mpr h) h'⟩

/-- Whether an exception has a method is known at once. -/
lemma known_unique (h : EStateM.run (respondsTo ctx x.exception field) b = .ok true b₁)
    (h' : EStateM.run (respondsTo ctx x.exception field) b = .ok true b₂) : b₁ = b₂ :=
  (EStateM.Result.ok.inj (h.symm.trans h')).2

/-- No message for a text that can be read raises an exception. -/
lemma Tells.not_raises (h : x.Tells ctx field b s) (hask : x.Asks ctx field b d b') :
    ¬Raises ctx d b' y := by
  intro hraises
  cases hask with
  | accessor hknown =>
    cases h with
    | text hknown' h =>
      obtain rfl := known_unique hknown hknown'
      exact hraises.not_comesTo_ok h
    | characters hknown' h =>
      obtain rfl := known_unique hknown hknown'
      exact hraises.not_comesTo_ok h
  | characters hknown hobject =>
    cases h with
    | text hknown' h =>
      obtain rfl := known_unique hknown hknown'
      cases hobject.unique h
    | characters hknown' h htext =>
      obtain rfl := known_unique hknown hknown'
      cases hobject.unique h
      exact hraises.not_comesTo_ok htext

/-- A text is told as it comes. -/
lemma told_of_comesTo (h : ComesTo (exceptionText · ctx x.exception field) b (.ok text b'))
    (htells : ∀ s, text = some s → x.Tells ctx field b s) : x.Told ctx field b text where
  text_iff s := by
    refine ⟨htells s, fun hs => ?_⟩
    obtain ⟨b'', h'⟩ := hs.comesTo
    exact (EStateM.Result.ok.inj (h.unique h')).1
  none_of_raises d b'' y hask hraises := by
    cases text with
    | none => rfl
    | some s => exact absurd hraises ((htells s rfl).not_raises hask)

/-! ## Reports that end -/

section Ends

variable (hx : x.Orderly ctx)
  (hnext : ∀ y, x.Next ctx y → ∃ e b', ComesTo (y.tell · ctx) y.state (.error (.error e) b'))
include hx hnext

/-- Where nested reports end, each message for a text is answered. -/
lemma Orderly.exists_yields (hread : x.Reads ctx field b) (hask : x.Asks ctx field b d b') :
    ∃ answer b₁, Yields ctx d b' answer b₁ := by
  rcases hx.ends field b d b' hread hask with ⟨y, hraises⟩ | ⟨v, b₁, h⟩ | ⟨e, b₁, h⟩
  · obtain ⟨e, b₁, h⟩ := hnext y ⟨field, b, d, b', hread, hask, hraises⟩
    exact ⟨none, b₁, yields_none (hraises.comesTo_iff.mpr h)⟩
  · exact ⟨some v, b₁, yields_some_iff.mpr h⟩
  · exact ⟨none, b₁, yields_none h⟩

/-- So each text is told. -/
lemma Orderly.exists_text (hread : x.Reads ctx field b) :
    ∃ text b', ComesTo (exceptionText · ctx x.exception field) b (.ok text b') ∧
      x.Told ctx field b text := by
  suffices h : ∃ text b', ComesTo (exceptionText · ctx x.exception field) b (.ok text b') ∧
      ∀ s, text = some s → x.Tells ctx field b s by
    obtain ⟨text, b', h, htells⟩ := h
    exact ⟨text, b', h, told_of_comesTo h htells⟩
  obtain ⟨known, b₁, hknown⟩ := hx.known field b hread
  cases known with
  | false =>
    exact ⟨none, b₁, ⟨0, fun k _ => ⟨run_bind_ok hknown, id⟩⟩, fun s hs => by cases hs⟩
  | true =>
    obtain ⟨answer, b₂, hyields⟩ := hx.exists_yields hnext hread (.accessor hknown)
    have hother (hother : ∀ re, answerText re ctx answer = pure none) :
        ∃ text b', ComesTo (exceptionText · ctx x.exception field) b (.ok text b') ∧
          ∀ s, text = some s → x.Tells ctx field b s := by
      have hnone : ComesTo (answerText · ctx answer) b₂ (.ok none b₂) := by
        simp only [hother]
        exact .of_const rfl id
      exact ⟨none, b₂, comesTo_exceptionText hknown hyields hnone, fun s hs => by cases hs⟩
    cases answer with
    | none => exact hother fun _ => rfl
    | some v =>
      have hvalue := yields_some_iff.mp hyields
      cases v with
      | str s =>
        refine ⟨some s, b₂, comesTo_exceptionText hknown hyields (.of_const rfl id), ?_⟩
        rintro s' ⟨⟩
        exact .text hknown hvalue
      | object r =>
        obtain ⟨characters, b₃, hcharacters⟩ :=
          hx.exists_yields hnext hread (.characters hknown hvalue)
        refine ⟨_, b₃, comesTo_exceptionText hknown hyields (comesTo_answerText hcharacters), ?_⟩
        intro s hs
        obtain ⟨v, rfl, hv⟩ := Option.bind_eq_some_iff.mp hs
        exact .characters hknown hvalue (yields_some_iff.mp hcharacters) hv
      | _ => exact hother fun _ => rfl

end Ends

/-- **A report ends** and tells both texts, if all sequences of reports inside it are finite. -/
theorem exists_comesTo_of_acc (hacc : Acc (fun y x => x.Next ctx y) x)
    (horderly : ∀ y, Relation.ReflTransGen (Next ctx) x y → y.Orderly ctx) :
    ∃ name reason b₁ b', ComesTo (x.tell · ctx) x.state
        (.error (.error (.exception x.exception name reason)) b') ∧
      x.Told ctx "name" x.state name ∧ x.Reads ctx "reason" b₁ ∧ x.Told ctx "reason" b₁ reason := by
  induction hacc with
  | intro x _ ih =>
    have hnext (y : Report) (hy : x.Next ctx y) :
        ∃ e b', ComesTo (y.tell · ctx) y.state (.error (.error e) b') := by
      obtain ⟨_, _, _, b', h, -⟩ := ih y hy fun z hz => horderly z (.head hy hz)
      exact ⟨_, b', h⟩
    have hx := horderly x .refl
    obtain ⟨name, b₁, hname, htold⟩ := hx.exists_text hnext .name
    obtain ⟨reason, b₂, hreason, htold'⟩ := hx.exists_text hnext (.reason hname)
    have hfail : ComesTo (fun _ => fail (.exception x.exception name reason) : Reentry → Act Value) b₂
        (.error (.error (.exception x.exception name reason)) b₂) := .of_const rfl id
    refine ⟨name, reason, b₁, b₂, ?_, htold, .reason hname, htold'⟩
    exact hname.bind (f := fun name re => exceptionText re ctx x.exception "reason" >>= fun reason =>
      fail (.exception x.exception name reason))
      (hreason.bind (f := fun reason _ => fail (.exception x.exception name reason)) hfail)

/-! ## Reports inside a report that ends -/

/-- Each text of a report that ends is asked for. -/
lemma not_exhausts_of_reads (h : ¬Exhausts (x.tell (.within k) ctx) x.state)
    (hread : x.Reads ctx field b) :
    ¬Exhausts (exceptionText (.within k) ctx x.exception field) b := by
  intro hexhausts
  cases hread with
  | name => exact h (hexhausts.bind _)
  | reason hname =>
    have hrun := hname.run_eq (deepening_exceptionText ctx x.exception "name")
      fun hexhausts => h (hexhausts.bind _)
    exact h ((exhausts_bind_iff hrun).mpr (hexhausts.bind _))

/-- Each message for such a text is a call that is less deep. -/
lemma exists_not_exhausts_of_asks
    (h : ¬Exhausts (exceptionText (.within k) ctx x.exception field) b)
    (hask : x.Asks ctx field b d b') :
    ∃ j, k = j + 1 ∧ ¬Exhausts (dispatch (.within j) ctx d) b' := by
  have haccessor {b₁ : Bridge}
      (hknown : EStateM.run (respondsTo ctx x.exception field) b = .ok true b₁) :
      ¬Exhausts (orNone ((Reentry.within k).ask ctx x.exception field) >>=
        answerText (.within k) ctx) b₁ := by
    rwa [exceptionText_eq, exhausts_bind_iff hknown] at h
  obtain ⟨j, rfl⟩ : ∃ j, k = j + 1 := by
    obtain ⟨b₁, hknown⟩ : ∃ b₁, EStateM.run (respondsTo ctx x.exception field) b = .ok true b₁ := by
      cases hask with
      | accessor hknown => exact ⟨_, hknown⟩
      | characters hknown => exact ⟨_, hknown⟩
    cases k with
    | zero =>
      have hnone : Exhausts (Reentry.exhausted.ask ctx x.exception field) b₁ := trivial
      exact absurd (hnone.orNone.bind _) (haccessor hknown)
    | succ j => exact ⟨j, rfl⟩
  refine ⟨j, rfl, fun hexhausts => ?_⟩
  cases hask with
  | accessor hknown => exact haccessor hknown (hexhausts.orNone.bind _)
  | characters hknown hobject =>
    have hrun : EStateM.run (dispatch (.within j) ctx (asking x.exception field)) _ = _ :=
      hobject.run_eq (deepening_dispatch ctx _) fun hexhausts =>
        haccessor hknown (hexhausts.orNone.bind _)
    refine haccessor hknown ((exhausts_bind_iff (run_orNone_eq_some.mpr hrun)).mpr ?_)
    exact hexhausts.orNone.bind _

/-- **A report that ends** has only finite sequences of reports inside. -/
theorem acc_of_not_exhausts (h : ¬Exhausts (x.tell (.within k) ctx) x.state) :
    Acc (fun y x => x.Next ctx y) x := by
  induction k using Nat.strongRecOn generalizing x with
  | ind k ih =>
    refine .intro x fun y hy => ?_
    obtain ⟨field, b, d, b', hread, hask, hraises⟩ := hy
    obtain ⟨j, rfl, hcall⟩ := exists_not_exhausts_of_asks (not_exhausts_of_reads h hread) hask
    -- the message for the text ends with the report on the exception that it raises
    refine ih j (Nat.lt_succ_self j) fun hexhausts => hcall ?_
    by_cases hcalled : Exhausts (called (.within j) ctx d) b'
    · rw [dispatch_eq_called]
      exact hcalled.bind _
    · rwa [Exhausts, hraises.run_dispatch hcalled]

/-- So has one that comes to an end. -/
lemma acc_of_comesTo {r : EStateM.Result Stop Bridge Value}
    (h : ComesTo (x.tell · ctx) x.state r) : Acc (fun y x => x.Next ctx y) x := by
  obtain ⟨depth, htell⟩ := h
  obtain ⟨hrun, hr⟩ := htell depth le_rfl
  exact acc_of_not_exhausts fun hexhausts => hr (hrun ▸ hexhausts)

/-! ## What is asked for a text -/

section Asked

variable (hknown : EStateM.run (respondsTo ctx x.exception field) b = .ok true b₁)
include hknown

/-- After a message that raises an exception, no other one is sent for the text. -/
lemma asks_of_raises (hraises : Raises ctx (asking x.exception field) b₁ y)
    (hask : x.Asks ctx field b d b') : d = asking x.exception field ∧ b' = b₁ := by
  cases hask with
  | accessor hknown' => exact ⟨rfl, known_unique hknown' hknown⟩
  | characters hknown' h =>
    obtain rfl := known_unique hknown hknown'
    exact absurd h hraises.not_comesTo_ok

/-- Nor is there one after the answer that there is no text. -/
lemma asks_of_nil (hnil : ComesTo (dispatch · ctx (asking x.exception field)) b₁ (.ok .nil b₂))
    (hask : x.Asks ctx field b d b') : d = asking x.exception field ∧ b' = b₁ := by
  cases hask with
  | accessor hknown' => exact ⟨rfl, known_unique hknown' hknown⟩
  | characters hknown' h =>
    obtain rfl := known_unique hknown hknown'
    cases hnil.unique h

lemma comesTo_of_nil (hnil : ComesTo (dispatch · ctx (asking x.exception field)) b₁ (.ok .nil b₂)) :
    ComesTo (exceptionText · ctx x.exception field) b (.ok none b₂) :=
  comesTo_exceptionText hknown (yields_some_iff.mpr hnil) (.of_const rfl id)

end Asked

/-! ## Reports that do not end -/

/-- A report that comes again in its own course does not end. -/
lemma not_acc_of_next_self (h : x.Next ctx x) : ¬Acc (fun y x => x.Next ctx y) x :=
  not_acc_iff_exists_descending_chain.mpr ⟨fun _ => x, rfl, fun _ => h⟩

/-- Once it is known what comes of the name, it is known where the texts are asked for. -/
lemma reads_of_comesTo (h : ComesTo (exceptionText · ctx x.exception "name") x.state (.ok text b₁))
    (hread : x.Reads ctx field b) : field = "name" ∧ b = x.state ∨ field = "reason" ∧ b = b₁ := by
  cases hread with
  | name => exact .inl ⟨rfl, rfl⟩
  | reason hname => exact .inr ⟨rfl, (EStateM.Result.ok.inj (hname.unique h)).2⟩

/-- Where the reason is missing, a report is in order if the messages for the name are, and goes on with
what these raise. -/
lemma orderly_of_reason_nil {known : Bool} {b₃ b₄ : Bridge}
    (hname : EStateM.run (respondsTo ctx x.exception "name") x.state = .ok known b₁)
    (hasks : ∀ d b', x.Asks ctx "name" x.state d b' →
      (∃ y, Raises ctx d b' y) ∨ ∃ v b₁, ComesTo (dispatch · ctx d) b' (.ok v b₁))
    (htext : ComesTo (exceptionText · ctx x.exception "name") x.state (.ok text b₂))
    (hreason : EStateM.run (respondsTo ctx x.exception "reason") b₂ = .ok true b₃)
    (hnil : ComesTo (dispatch · ctx (asking x.exception "reason")) b₃ (.ok .nil b₄)) :
    x.Orderly ctx ∧
      ∀ y, x.Next ctx y → ∃ d b', x.Asks ctx "name" x.state d b' ∧ Raises ctx d b' y := by
  refine ⟨⟨fun field b hread => ?_, fun field b d b' hread hask => ?_⟩, fun y hy => ?_⟩
  · rcases reads_of_comesTo htext hread with ⟨rfl, rfl⟩ | ⟨rfl, rfl⟩
    · exact ⟨known, b₁, hname⟩
    · exact ⟨true, b₃, hreason⟩
  · rcases reads_of_comesTo htext hread with ⟨rfl, rfl⟩ | ⟨rfl, rfl⟩
    · exact (hasks d b' hask).imp_right .inl
    · obtain ⟨rfl, rfl⟩ := asks_of_nil hreason hnil hask
      exact .inr (.inl ⟨_, _, hnil⟩)
  · obtain ⟨field, b, d, b', hread, hask, hraises⟩ := hy
    rcases reads_of_comesTo htext hread with ⟨rfl, rfl⟩ | ⟨rfl, rfl⟩
    · exact ⟨d, b', hask, hraises⟩
    · obtain ⟨rfl, rfl⟩ := asks_of_nil hreason hnil hask
      exact absurd hnil hraises.not_comesTo_ok

/-- An exception whose texts are missing is in order, and raises no other one. -/
lemma orderly_of_nil {b₃ b₄ : Bridge}
    (hname : EStateM.run (respondsTo ctx x.exception "name") x.state = .ok true b₁)
    (hnil : ComesTo (dispatch · ctx (asking x.exception "name")) b₁ (.ok .nil b₂))
    (hreason : EStateM.run (respondsTo ctx x.exception "reason") b₂ = .ok true b₃)
    (hnil' : ComesTo (dispatch · ctx (asking x.exception "reason")) b₃ (.ok .nil b₄)) :
    x.Orderly ctx ∧ ∀ y, ¬x.Next ctx y := by
  have hasks (d : Dispatch) (b' : Bridge) (hask : x.Asks ctx "name" x.state d b') :
      ComesTo (dispatch · ctx d) b' (.ok .nil b₂) := by
    obtain ⟨rfl, rfl⟩ := asks_of_nil hname hnil hask
    exact hnil
  obtain ⟨horderly, hnext⟩ := orderly_of_reason_nil hname
    (fun d b' hask => .inr ⟨_, _, hasks d b' hask⟩) (comesTo_of_nil hname hnil) hreason hnil'
  refine ⟨horderly, fun y hy => ?_⟩
  obtain ⟨d, b', hask, hraises⟩ := hnext y hy
  exact hraises.not_comesTo_ok (hasks d b' hask)

/-- An exception that raises another one for its name and has no reason. -/
lemma orderly_of_raises {b₃ b₄ : Bridge}
    (hname : EStateM.run (respondsTo ctx x.exception "name") x.state = .ok true b₁)
    (hraises : Raises ctx (asking x.exception "name") b₁ y)
    (htext : ComesTo (exceptionText · ctx x.exception "name") x.state (.ok text b₂))
    (hreason : EStateM.run (respondsTo ctx x.exception "reason") b₂ = .ok true b₃)
    (hnil : ComesTo (dispatch · ctx (asking x.exception "reason")) b₃ (.ok .nil b₄)) :
    x.Orderly ctx ∧ ∀ z, x.Next ctx z → z = y := by
  have hasks (d : Dispatch) (b' : Bridge) (hask : x.Asks ctx "name" x.state d b') :
      Raises ctx d b' y := by
    obtain ⟨rfl, rfl⟩ := asks_of_raises hname hraises hask
    exact hraises
  obtain ⟨horderly, hnext⟩ := orderly_of_reason_nil hname
    (fun d b' hask => .inl ⟨y, hasks d b' hask⟩) htext hreason hnil
  refine ⟨horderly, fun z hz => ?_⟩
  obtain ⟨d, b', hask, hraises⟩ := hnext z hz
  exact hraises.unique (hasks d b' hask)

/-- Reports that go on with one other report and this one with itself at most. -/
lemma orderly_of_next (hx : x.Orderly ctx) (hnext : ∀ z, x.Next ctx z → z = y) (hy : y.Orderly ctx)
    (hnext' : ∀ z, y.Next ctx z → z = y) :
    ∀ z, Relation.ReflTransGen (Next ctx) x z → z.Orderly ctx := by
  intro z hz
  have h : z = x ∨ z = y := by
    induction hz with
    | refl => exact .inl rfl
    | tail _ hstep ih =>
      rcases ih with rfl | rfl
      · exact .inr (hnext _ hstep)
      · exact .inr (hnext' _ hstep)
  rcases h with rfl | rfl
  · exact hx
  · exact hy

section Stuck

variable (hknown : EStateM.run (respondsTo ctx x.exception "name") x.state = .ok true b₁)
  (hraises : Raises ctx (asking x.exception "name") b₁ y)
  (hy : ∀ r, ¬ComesTo (y.tell · ctx) y.state r)
include hknown hraises hy

/-- Where the message for the name raises an exception whose report does not end, the reason is not
asked for. -/
lemma reads_of_stuck (hread : x.Reads ctx field b) : field = "name" ∧ b = x.state := by
  cases hread with
  | name => exact ⟨rfl, rfl⟩
  | reason hname =>
    obtain ⟨depth, hname⟩ := hname
    obtain ⟨j, -, hcall⟩ := exists_not_exhausts_of_asks
      (not_exhausts_of_ok (hname depth le_rfl).1) (.accessor hknown)
    exact absurd (hraises.comesTo_iff.mp ((deepening_dispatch ctx _).comesTo hcall)) (hy _)

/-- The report is in order all the same. -/
lemma orderly_of_stuck : x.Orderly ctx where
  known field b hread := by
    obtain ⟨rfl, rfl⟩ := reads_of_stuck hknown hraises hy hread
    exact ⟨true, b₁, hknown⟩
  ends field b d b' hread hask := by
    obtain ⟨rfl, rfl⟩ := reads_of_stuck hknown hraises hy hread
    obtain ⟨rfl, rfl⟩ := asks_of_raises hknown hraises hask
    exact .inl ⟨y, hraises⟩

/-- It goes on with the other report. -/
lemma next_of_stuck (hz : x.Next ctx z) : z = y := by
  obtain ⟨field, b, d, b', hread, hask, hz⟩ := hz
  obtain ⟨rfl, rfl⟩ := reads_of_stuck hknown hraises hy hread
  obtain ⟨rfl, rfl⟩ := asks_of_raises hknown hraises hask
  exact hz.unique hraises

end Stuck

end Report

/-! ## Calls that raise an exception -/

namespace Act

variable {ctx : ContextId} {b : Bridge} {d : Dispatch} {x : Report}

/-- **Exceptions are reported**: where each message that is sent for a text raises an exception or ends
otherwise, a call that raises an exception comes to an end just if there is no endless sequence of
exceptions, beginning with this one, of which each is raised while the one before is reported. The end is
an error with the exception that the call raised, whatever else was raised on the way. It has those of the
two texts that can be read, and so none for which a message raises an exception. -/
theorem exception_reported (hraises : Raises ctx d b x)
    (horderly : ∀ y, Relation.ReflTransGen (Report.Next ctx) x y → y.Orderly ctx) :
    ((∃ r, ComesTo (dispatch · ctx d) b r) ↔
      ¬∃ reports : Nat → Report, reports 0 = x ∧
        ∀ i, (reports i).Next ctx (reports (i + 1))) ∧
    ∀ r, ComesTo (dispatch · ctx d) b r → ∃ name reason b₁ b',
      r = .error (.error (.exception x.exception name reason)) b' ∧
        x.Told ctx "name" x.state name ∧ x.Reads ctx "reason" b₁ ∧
          x.Told ctx "reason" b₁ reason := by
  have hchains : (¬∃ reports : Nat → Report, reports 0 = x ∧
      ∀ i, (reports i).Next ctx (reports (i + 1))) ↔ Acc (fun y x => x.Next ctx y) x := by
    have hchain := not_acc_iff_exists_descending_chain (r := fun y x => Report.Next ctx x y) (x := x)
    exact (not_congr hchain.symm).trans not_not
  have hacc {r : EStateM.Result Stop Bridge Value} (h : ComesTo (dispatch · ctx d) b r) :
      Acc (fun y x => x.Next ctx y) x := Report.acc_of_comesTo (hraises.comesTo_iff.mp h)
  rw [hchains]
  refine ⟨⟨fun h => h.elim fun _ => hacc, fun hx => ?_⟩, fun r h => ?_⟩
  · obtain ⟨name, reason, b₁, b', htell, -⟩ := Report.exists_comesTo_of_acc hx horderly
    exact ⟨_, hraises.comesTo_iff.mpr htell⟩
  · obtain ⟨name, reason, b₁, b', htell, htold⟩ := Report.exists_comesTo_of_acc (hacc h) horderly
    exact ⟨name, reason, b₁, b', (hraises.comesTo_iff.mp h).unique htell, htold⟩

/-! ## Exceptions whose names raise exceptions -/

lemma run_of_endsWith {α : Type} [DecidableEq α] {y : Act α} {a : α}
    (h : y.endsWith (fun a' _ => a' = a) b = true) : EStateM.run y b = .ok a (y.after b) := by
  obtain ⟨a', b', hrun, ha⟩ := exists_of_endsWith h
  obtain rfl := of_decide_eq_true ha
  rw [hrun, after_of_ok hrun]

/-- The exception that a call leaves behind without a failure. -/
def taken (depth : Nat) (d : Dispatch) : Act (Option ObjectRef) := do
  let _ ← called (.within depth) 0 d
  let pending ← takePendingError 0
  let exception ← takeException 0
  return if pending.isNone then exception else none

lemma raises_of_taken {depth : Nat} {e : ObjectRef} {b' : Bridge}
    (h : EStateM.run (taken depth d) b = .ok (some e) b') : Raises 0 d b ⟨e, b'⟩ := by
  obtain ⟨made, b₁, hcalled, h⟩ := run_bind_eq_ok.mp h
  obtain ⟨pending, b₂, hpending, h⟩ := run_bind_eq_ok.mp h
  obtain ⟨exception, b₃, htake, h⟩ := run_bind_eq_ok.mp h
  cases pending <;> cases h
  exact ⟨made, b₁, b₂, (deepening_called 0 d).comesTo_ok hcalled, hpending, htake⟩

/-- The exception that an object leaves behind that is asked for a text. -/
def takenFor (depth : Nat) (r : ObjectRef) (field : String) : Act (Option ObjectRef) := do
  if ← respondsTo 0 r field then taken depth (asking r field) else return none

lemma raises_of_takenFor {depth : Nat} {r e : ObjectRef} {field : String} {b' : Bridge}
    (h : EStateM.run (takenFor depth r field) b = .ok (some e) b') :
    ∃ b₁, EStateM.run (respondsTo 0 r field) b = .ok true b₁ ∧
      Raises 0 (asking r field) b₁ ⟨e, b'⟩ := by
  obtain ⟨known, b₁, hknown, h⟩ := run_bind_eq_ok.mp h
  cases known
  · cases h
  · exact ⟨b₁, hknown, raises_of_taken h⟩

/-- Whether an object has a method for a text and answers that there is none. -/
def answersNil (depth : Nat) (r : ObjectRef) (field : String) : Act Bool := do
  if ← respondsTo 0 r field then
    return (← dispatch (.within depth) 0 (asking r field)).isNil
  else return false

lemma nil_of_answersNil {depth : Nat} {r : ObjectRef} {field : String} {b' : Bridge}
    (h : EStateM.run (answersNil depth r field) b = .ok true b') :
    ∃ b₁, EStateM.run (respondsTo 0 r field) b = .ok true b₁ ∧
      ComesTo (dispatch · 0 (asking r field)) b₁ (.ok .nil b') := by
  obtain ⟨known, b₁, hknown, h⟩ := run_bind_eq_ok.mp h
  cases known
  · cases h
  · obtain ⟨v, b₂, hcall, h⟩ := run_bind_eq_ok.mp h
    cases v <;> cases h
    exact ⟨b₁, hknown, (deepening_dispatch 0 (asking r field)).comesTo_ok hcall⟩

/-- `Loud`, a class of exceptions with a method for their names, and an instance of it. -/
def loudScene (body : Body) : Act Value := do
  let p ← extend 0 (← classNamed? 0 "Exception") "Loud" 0
  p.addMethod "name" "*@:" body
  let p ← p.register
  send 0 p.classRef { selector := "new" }

/-- The state after that. -/
def loudBridge (body : Body) : Bridge := (loudScene body).after freshBridge

/-- The instance. -/
def loud : ObjectRef := ⟨3, 0x40000000000, false⟩

/-- The message that raises it. -/
def raiseLoud : Dispatch := asking loud "raise"

/-- The state in which it was raised. -/
def loudRaised (body : Body) : Bridge := (taken 9 raiseLoud).after (loudBridge body)

/-! ### An exception without texts -/

/-- The body that raises a new exception, which has no texts. -/
def raisesPlain : Body :=
  .seq [.throw (.send (.literal (.named "Exception")) "new" []), .literal .nil]

/-- The exception that is raised for the name. -/
def plain : ObjectRef := ⟨4, 0x40000000020, false⟩

/-- The state in which it was raised. -/
def plainRaised : Bridge := (takenFor 9 loud "name").after (loudRaised raisesPlain)

/-- The state in which its name is missing. -/
def plainNamed : Bridge := (answersNil 9 plain "name").after plainRaised

/-- The state in which the name of the first exception is missing. -/
def loudNamed : Bridge := (exceptionText (.within 9) 0 loud "name").after (loudRaised raisesPlain)

/-- What is raised and answered, and the states on the way. -/
lemma runs_plain : ∃ s t t' s',
    EStateM.run (taken 9 raiseLoud) (loudBridge raisesPlain) = .ok (some loud) s ∧
    EStateM.run (takenFor 9 loud "name") s = .ok (some plain) t ∧
    EStateM.run (answersNil 9 plain "name") t = .ok true t' ∧
    (∃ b, EStateM.run (answersNil 9 plain "reason") t' = .ok true b) ∧
    EStateM.run (exceptionText (.within 9) 0 loud "name") s = .ok none s' ∧
    ∃ b, EStateM.run (answersNil 9 loud "reason") s' = .ok true b :=
  ⟨loudRaised raisesPlain, plainRaised, plainNamed, loudNamed,
    run_of_endsWith (by decide +kernel), run_of_endsWith (by decide +kernel),
    run_of_endsWith (by decide +kernel), ⟨_, run_of_endsWith (by decide +kernel)⟩,
    run_of_endsWith (by decide +kernel), _, run_of_endsWith (by decide +kernel)⟩

/-- **An exception that is raised for the name of another one**: the other one is reported, without the
name. -/
theorem exception_reported_plain :
    ∃ x y : Report, Raises 0 raiseLoud (loudBridge raisesPlain) x ∧ x.exception = loud ∧
      (∀ z, Relation.ReflTransGen (Report.Next 0) x z → z.Orderly 0) ∧ x.Next 0 y ∧
      ∃ reason b', ComesTo (dispatch · 0 raiseLoud) (loudBridge raisesPlain)
        (.error (.error (.exception loud none reason)) b') := by
  obtain ⟨s, t, t', s', hraise, hname, hplain, ⟨_, hplain'⟩, htext, _, hreason⟩ := runs_plain
  have hraises := raises_of_taken hraise
  obtain ⟨b₁, hknown, hraises'⟩ := raises_of_takenFor hname
  obtain ⟨b₂, hknown₂, hnil₂⟩ := nil_of_answersNil hreason
  obtain ⟨b₃, hknown₃, hnil₃⟩ := nil_of_answersNil hplain
  obtain ⟨b₄, hknown₄, hnil₄⟩ := nil_of_answersNil hplain'
  have htext' := (deepening_exceptionText 0 loud "name").comesTo_ok htext
  obtain ⟨hx, hnext⟩ := Report.orderly_of_raises (x := ⟨loud, s⟩) hknown hraises' htext' hknown₂ hnil₂
  obtain ⟨hy, hlast⟩ := Report.orderly_of_nil (x := ⟨plain, t⟩) hknown₃ hnil₃ hknown₄ hnil₄
  have horderly := Report.orderly_of_next hx hnext hy fun z hz => absurd hz (hlast z)
  obtain ⟨hends, htold⟩ := exception_reported hraises horderly
  obtain ⟨r, hr⟩ := hends.mpr (by
    rintro ⟨reports, hfirst, hsteps⟩
    have hsecond := hnext _ (hfirst ▸ hsteps 0)
    exact hlast _ (hsecond ▸ hsteps 1))
  obtain ⟨name, reason, _, b', rfl, hnone, -⟩ := htold r hr
  obtain rfl := hnone.none_of_raises _ _ _ (.accessor hknown) hraises'
  exact ⟨_, _, hraises, rfl, horderly, ⟨"name", _, _, _, .name, .accessor hknown, hraises'⟩,
    reason, b', hr⟩

/-! ### An exception that raises itself -/

/-- The body that raises its receiver. -/
def raisesReceiver : Body := .seq [.throw .receiver, .literal .nil]

/-- Whether this is that body. -/
def isRaisesReceiver : Body → Bool
  | .seq [.throw .receiver, .literal .nil] => true
  | _ => false

lemma eq_of_isRaisesReceiver {body : Body} (h : isRaisesReceiver body = true) :
    body = raisesReceiver := by
  unfold isRaisesReceiver at h
  split at h
  · rfl
  · cases h

/-- The state in which the exception was raised for its own name. -/
def loudAgain : Bridge := (takenFor 9 loud "name").after (loudRaised raisesReceiver)

end Act

deriving instance DecidableEq for ImpCache, ClassRecord, ClassTable, Protocol, ProtocolTable,
  SelectorTable, AssociationTable, ObjectSpace, Translator

/-- Whether two contexts for which nothing was resolved and no names were added are the same. -/
def Context.sameAs (c c' : Context) : Bool :=
  (c.config = c'.config && c.capabilities = c'.capabilities && c.live = c'.live &&
    c.selectors = c'.selectors && c.tracked = c'.tracked && c.translator = c'.translator &&
      c.frames = c'.frames && c.published = c'.published && c.pendingError = c'.pendingError &&
        c.retained = c'.retained) &&
    c.resolved.isEmpty && c'.resolved.isEmpty && c.sources.isEmpty && c'.sources.isEmpty &&
      c.libraries.isEmpty && c'.libraries.isEmpty

lemma Context.eq_of_sameAs {c c' : Context} (h : c.sameAs c' = true) : c = c' := by
  cases c
  cases c'
  simp_all [sameAs]

/-- Whether two arrays hold one host body each, which raises its receiver, and are the same. -/
def Hosted.sameIn (hs hs' : Array Hosted) : Bool :=
  match hs.toList, hs'.toList with
  | [h], [h'] => h.context = h'.context && h.selector = h'.selector && h.signature = h'.signature &&
      isRaisesReceiver h.body && isRaisesReceiver h'.body
  | _, _ => false

lemma Hosted.eq_of_sameIn {hs hs' : Array Hosted} (h : sameIn hs hs' = true) : hs = hs' := by
  unfold sameIn at h
  split at h
  · next h₁ h₁' heq heq' =>
    simp only [Bool.and_eq_true, decide_eq_true_eq] at h
    obtain ⟨⟨⟨⟨hcontext, hselector⟩, hsignature⟩, hbody⟩, hbody'⟩ := h
    refine Array.toList_inj.mp (heq.trans (Eq.trans ?_ heq'.symm))
    cases h₁
    cases h₁'
    obtain rfl := eq_of_isRaisesReceiver hbody
    obtain rfl := eq_of_isRaisesReceiver hbody'
    simp_all
  · cases h

/-- Whether two states with such an array and one such context are the same. -/
def Bridge.sameAs (x y : Bridge) : Bool :=
  (x.space = y.space && x.nextSerial = y.nextSerial && x.loans = y.loans && x.names = y.names &&
    x.logger = y.logger) && x.trace.isEmpty && y.trace.isEmpty && Hosted.sameIn x.hosted y.hosted &&
    x.contexts.size = 1 && y.contexts.size = 1 && (x.contextAt 0).sameAs (y.contextAt 0)

lemma Bridge.eq_of_sameAs {x y : Bridge} (h : x.sameAs y = true) : x = y := by
  simp only [sameAs, Bool.and_eq_true, decide_eq_true_eq, List.isEmpty_iff] at h
  obtain ⟨⟨⟨⟨⟨⟨⟨⟨⟨⟨hspace, hserial⟩, hloans⟩, hnames⟩, hlogger⟩, htrace⟩, htrace'⟩, hhosted⟩, hsize⟩,
    hsize'⟩, hcontext⟩ := h
  have hcontexts : x.contexts = y.contexts := by
    refine Array.ext (hsize.trans hsize'.symm) fun i hi hi' => ?_
    obtain rfl : i = 0 := by omega
    have hat := Context.eq_of_sameAs hcontext
    simpa only [contextAt, Array.getElem?_eq_getElem hi, Array.getElem?_eq_getElem hi',
      Option.getD_some] using hat
  have := Hosted.eq_of_sameIn hhosted
  cases x
  cases y
  simp_all

namespace Act

/-- From the second time on, nothing changes when the exception is raised for its own name. -/
lemma runs_loud : ∃ s t,
    EStateM.run (taken 9 raiseLoud) (loudBridge raisesReceiver) = .ok (some loud) s ∧
    EStateM.run (takenFor 9 loud "name") s = .ok (some loud) t ∧
    EStateM.run (takenFor 9 loud "name") t = .ok (some loud) t := by
  have hagain : EStateM.run (takenFor 9 loud "name") loudAgain =
      .ok (some loud) ((takenFor 9 loud "name").after loudAgain) :=
    run_of_endsWith (by decide +kernel)
  have hsame : (takenFor 9 loud "name").after loudAgain = loudAgain :=
    Bridge.eq_of_sameAs (by decide +kernel)
  rw [hsame] at hagain
  exact ⟨loudRaised raisesReceiver, loudAgain, run_of_endsWith (by decide +kernel),
    run_of_endsWith (by decide +kernel), hagain⟩

/-- **An exception that is raised for its own name**: each message for its name ends, with the exception
once more, and the exception is never reported, however deep calls are nested. -/
theorem never_reported :
    ∃ x : Report, Raises 0 raiseLoud (loudBridge raisesReceiver) x ∧ x.exception = loud ∧
      (∀ y, Relation.ReflTransGen (Report.Next 0) x y → y.Orderly 0) ∧
      ∀ depth, Exhausts (dispatch (.within depth) 0 raiseLoud) (loudBridge raisesReceiver) := by
  obtain ⟨s, t, hraise, hname, hname'⟩ := runs_loud
  have hraises := raises_of_taken hraise
  obtain ⟨b₁, hknown, hraises₁⟩ := raises_of_takenFor hname
  obtain ⟨b₂, hknown', hraises₂⟩ := raises_of_takenFor hname'
  have hself : (Report.mk loud t).Next 0 ⟨loud, t⟩ :=
    ⟨"name", _, _, _, .name, .accessor hknown', hraises₂⟩
  have hself' := Report.not_acc_of_next_self hself
  have hy (r : EStateM.Result Stop Bridge Value) (h : ComesTo ((Report.mk loud t).tell · 0) t r) :
      False := hself' (Report.acc_of_comesTo h)
  have hx := Report.orderly_of_stuck (x := ⟨loud, s⟩) hknown hraises₁ hy
  have hnext (z : Report) := Report.next_of_stuck (x := ⟨loud, s⟩) (z := z) hknown hraises₁ hy
  have hx' := Report.orderly_of_stuck (x := ⟨loud, t⟩) hknown' hraises₂ hy
  have hnext' (z : Report) := Report.next_of_stuck (x := ⟨loud, t⟩) (z := z) hknown' hraises₂ hy
  refine ⟨⟨loud, s⟩, hraises, rfl, Report.orderly_of_next hx hnext hx' hnext', fun depth => ?_⟩
  -- a call that ends would make the sequence of reports finite
  by_contra hne
  have hacc := Report.acc_of_comesTo
    (hraises.comesTo_iff.mp ((deepening_dispatch 0 raiseLoud).comesTo hne))
  exact hself' (hacc.inv ⟨"name", _, _, _, .name, .accessor hknown, hraises₁⟩)

end Act

end MessageBridge
