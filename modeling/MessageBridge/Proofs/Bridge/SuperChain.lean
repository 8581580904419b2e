import MessageBridge.Proofs.Bridge.Sending

/-!
# Messages that are sent on above a class

A method that overrides another one can send the same message on to what it overrides: it starts above
the class that it belongs to, whatever the receiver is. Where every override along a chain of classes
does so, and the last one does not, a message visits all of them, each one once, from the class of the
receiver upwards, and then comes back the same way. This holds for classes that receive messages as it
does for instances. It fails where a class remembers code that is not the first on its chain any more:
an override is skipped then.

## Main definitions

* `Stage` — a class with a body for a message, and what the body does before and after it sends the
  message on.
* `Visits` — what stages write and answer, one inside the other.
* `Stage.Relays`, `Stage.Ends` — what a body does is what its stage says.
* `Bridge.Line` — stages that call each other.
* `Act.SetsOut` — a message starts at a class, and finds the code that is there or above.
* `Act.runsBody` — a test for bodies that make up a line.

## Main results

* `ClassTable.Ascends.exists_above` — the next override is found above the class of the last one.
* `Act.does_of_line` — a message does what a line of stages does.
* `Act.super_chain` — super chains visit each override once.
* `Act.skips_moved` — a message that skips an override.
-/

namespace MessageBridge

/-! ## Overrides along a chain -/

namespace ClassTable

variable {t : ClassTable} {c o : ClassId} {cs os : List ClassId} {sel : Selector}

/-- Whether a class itself has a method for the selector. -/
def overrides (t : ClassTable) (sel : Selector) (c : ClassId) : Bool :=
  ((t.get c).method? sel).isSome

/-- The first override on the way up is what a look-up of the method finds. -/
lemma Closed.findMethod?_eq (ht : t.Closed) (hc : t.Has c) (h : t.Ascends c cs)
    (ho : cs.filter (t.overrides sel) = o :: os) : t.findMethod? c sel = some ⟨o, sel⟩ := by
  have hfind : cs.find? (t.overrides sel) = some o := by
    rw [← List.head?_filter, ho, List.head?_cons]
  rw [findMethod?, ht.chain_eq h hc]
  exact congrArg (Option.map _) hfind

/-- **The next override** is the first one above the class of the last one. -/
lemma Ascends.exists_above (ht : t.Closed) (hc : t.Has c) (h : t.Ascends c cs) {p : ClassId}
    (ho : cs.filter (t.overrides sel) = o :: p :: os) :
    ∃ start ds, (t.get o).superclass? = some start ∧ t.Has start ∧ t.Ascends start ds ∧ ds ⊆ cs ∧
      ds.filter (t.overrides sel) = p :: os := by
  induction h with
  | @root c hroot =>
    have hle := List.length_filter_le (t.overrides sel) [c]
    rw [ho] at hle
    simp at hle
  | @up c q cs hbelow hq ih =>
    have hhas := ht.superclass c q hc hbelow
    rw [List.filter_cons] at ho
    split at ho
    · obtain ⟨rfl, habove⟩ := List.cons.inj ho
      exact ⟨q, cs, hbelow, hhas, hq, List.subset_cons_self c cs, habove⟩
    · obtain ⟨start, ds, hstart, hhas', hds, hsubset, hfilter⟩ := ih hhas ho
      exact ⟨start, ds, hstart, hhas', hds, List.subset_cons_of_subset c hsubset, hfilter⟩

end ClassTable

/-! ## Stages -/

/-- **Stage**: a class with a host body for a message, what the body writes before it sends the message
on, and what it writes and answers after that, given what was answered to it if it did. What is written
is listed with the latest first. -/
structure Stage where
  owner : ClassId
  hosted : Hosted
  before : List Value → Prop
  after : Option Value → List Value → Value → Prop

/-- **Visits**: every stage does its part once. All but the last one have the rest of the stages do
theirs in between. -/
inductive Visits : List Stage → List Value → Value → Prop
  | top {s : Stage} {w₁ w₂ : List Value} {v : Value} (hbefore : s.before w₁)
      (hafter : s.after none w₂ v) : Visits [s] (w₂ ++ w₁) v
  | up {s : Stage} {stages : List Stage} {w₁ w₂ w₃ : List Value} {u v : Value} (hbefore : s.before w₁)
      (hrest : Visits stages w₂ u) (hafter : s.after (some u) w₃ v) :
      Visits (s :: stages) (w₃ ++ w₂ ++ w₁) v

/-- **Leaves a mark**: the stage writes just the mark first, and nothing more later. -/
def Stage.Leaves (s : Stage) (mark : Value) : Prop :=
  (∀ w, s.before w → w = [mark]) ∧ ∀ u w v, s.after u w v → w = []

/-- **Marks** come in the order of the stages that leave them. -/
lemma Visits.marks {stages : List Stage} {w marks : List Value} {v : Value} (h : Visits stages w v)
    (hmarks : List.Forall₂ Stage.Leaves stages marks) : w.reverse = marks := by
  induction h generalizing marks with
  | @top s w₁ w₂ v h₁ h₂ =>
    obtain ⟨mark, _, ⟨hbefore, hafter⟩, hrest, rfl⟩ := List.forall₂_cons_left_iff.mp hmarks
    rw [hbefore w₁ h₁, hafter _ w₂ v h₂, List.forall₂_nil_left_iff.mp hrest]
    rfl
  | @up s stages w₁ w₂ w₃ u v h₁ _ h₃ ih =>
    obtain ⟨mark, marks, ⟨hbefore, hafter⟩, hrest, rfl⟩ := List.forall₂_cons_left_iff.mp hmarks
    rw [hbefore w₁ h₁, hafter _ w₃ v h₃, List.nil_append, List.reverse_append, ih hrest]
    rfl

open Act

/-- **Relays**: the body does something, sends the message on above the class of the stage, and does
something with the answer. -/
def Stage.Relays (s : Stage) (b : Bridge) (ctx : ContextId) (name : String) (re : Reentry)
    (self : ObjectRef) (answers : Value → Prop) : Prop :=
  ∃ (first : Act ObjectRef) (last : Value → Act Value),
    s.hosted.reply re ctx self = (do
      let c ← first
      let v ← sendSuperOfVia re s.hosted.context self c ⟨name, []⟩
      last v) ∧
    Does first b (fun w c => s.before w ∧ ∃ k, b.space.classes.Has k ∧ c.address = k.address ∧
      (if self.isClass then b.space.classes.metaclass k else k) = s.owner) ∧
    ∀ v, answers v → Does (last v) b (s.after (some v))

/-- **Ends**: the body sends nothing on. -/
def Stage.Ends (s : Stage) (b : Bridge) (ctx : ContextId) (re : Reentry) (self : ObjectRef) : Prop :=
  Does (s.hosted.reply re ctx self) b fun w v =>
    ∃ w₁ w₂, s.before w₁ ∧ s.after none w₂ v ∧ w = w₂ ++ w₁

/-- **A line of stages**: each one is called by the one before, from the context of its body, and all
but the last one send the message on. What bodies do by themselves is nested less than `depth` calls
deep. -/
inductive Bridge.Line (b : Bridge) (r : ObjectRef) (name : String) (sel : Selector) (depth : Nat) :
    ContextId → List Stage → Prop
  | top {ctx : ContextId} {s : Stage} (hserves : Serves s.hosted b ctx ⟨s.owner, sel⟩)
      (hends : ∀ n serial, depth ≤ n → s.Ends b ctx (.within n) ⟨serial, r.address, r.isClass⟩) :
      Line b r name sel depth ctx [s]
  | up {ctx : ContextId} {s : Stage} {stages : List Stage}
      (hserves : Serves s.hosted b ctx ⟨s.owner, sel⟩) (hquiet : b.Quiet s.hosted.context)
      (hrelays : ∀ n serial, depth ≤ n → s.Relays b ctx name (.within n)
        ⟨serial, r.address, r.isClass⟩ fun v => ∃ w, Visits stages w v)
      (hrest : Line b r name sel depth s.hosted.context stages) :
      Line b r name sel depth ctx (s :: stages)

/-! ## Messages along a line -/

namespace Act

variable {b : Bridge} {ctx : ContextId} {r r' : ObjectRef} {name : String} {sel : Selector}
  {route : Route} {depth n : Nat} {stages : List Stage} {o d start : ClassId}
  {cs above os : List ClassId} {Q : List Value → Value → Prop}

/-- **Sets out**: a message without arguments to the object starts at a class, and the code that the
classes from there upwards have for it is found. -/
structure SetsOut (b : Bridge) (ctx : ContextId) (r r' : ObjectRef) (route : Route) (name : String)
    (sel : Selector) (start : ClassId) (cs : List ClassId) : Prop where
  knows : b.space.selectors.Knows name sel
  nulFree : Text.hasNul name = false
  has : b.space.classes.Has start
  ascends : b.space.classes.Ascends start cs
  recalls : ∀ c ∈ cs, b.space.classes.Recalls c sel
  leads : ∃ t, Gives (target ctx r' route name) b (· = t) ∧ t.receiver.address = r.address ∧
    t.start = start ∧ t.sel = sel ∧
    ∀ re imp, b.space.classes.walk start sel = some imp → Gives (findCode re ctx t) b (· = some imp)

namespace SetsOut

/-- A message to an object sets out at the class of the object. -/
lemma direct (hb : b.Orderly) (hr : b.Receives r d) (hsel : b.space.selectors.Knows name sel)
    (hname : Text.hasNul name = false) (hd : b.space.classes.Has d) (hcs : b.space.classes.Ascends d cs)
    (hrecalls : ∀ c ∈ cs, b.space.classes.Recalls c sel)
    (hcap : (b.contextAt ctx).capabilities.lookup = true) :
    SetsOut b ctx r r .direct name sel d cs where
  knows := hsel
  nulFree := hname
  has := hd
  ascends := hcs
  recalls := hrecalls
  leads := ⟨_, gives_target_direct hb hr hsel hname ctx, rfl, rfl, rfl,
    fun re _ hwalk => gives_findCode_direct hr (hrecalls d hcs.mem_self) hwalk hcap re⟩

/-- **A message that is sent on** sets out above the class of the body, and ends at the next override. -/
lemma sentOn (hb : b.Orderly) (htaken : b.TakenAs r.address r.isClass)
    (h : SetsOut b ctx r r' route name sel start cs) {p : ClassId}
    (hover : cs.filter (b.space.classes.overrides sel) = o :: p :: os) {k : ClassId} {c : ObjectRef}
    (hk : b.space.classes.Has k) (hc : c.address = k.address)
    (horigin : (if r.isClass then b.space.classes.metaclass k else k) = o) (ctx' : ContextId)
    (serial : Nat) : ∃ start' ds,
      SetsOut b ctx' r ⟨serial, r.address, r.isClass⟩ (.superOf c) name sel start' ds ∧
      ds.filter (b.space.classes.overrides sel) = p :: os := by
  obtain ⟨start', ds, hsuper, hhas, hds, hsubset, hfilter⟩ :=
    h.ascends.exists_above hb.closed h.has hover
  have hrecalls (k : ClassId) (hk : k ∈ ds) := h.recalls k (hsubset hk)
  let r₁ : ObjectRef := ⟨serial, r.address, r.isClass⟩
  have htarget : Gives (Act.target ctx' r₁ (.superOf c) name) b (· = ⟨r₁, sel, start', true⟩) :=
    gives_target_above (r := r₁) hb hk hc horigin hsuper h.knows h.nulFree ctx'
  have hcode (re : Reentry) (imp : Implementation) (hwalk : b.space.classes.walk start' sel = some imp) :
      Gives (findCode re ctx' ⟨r₁, sel, start', true⟩) b (· = some imp) :=
    gives_findCode_above (r := r₁) htaken.address (hrecalls start' hds.mem_self) hwalk re
  refine ⟨start', ds, ?_, hfilter⟩
  exact ⟨h.knows, h.nulFree, hhas, hds, hrecalls, _, htarget, rfl, rfl, rfl, hcode⟩

/-- **The first override** answers the message. -/
lemma does (h : SetsOut b ctx r r' route name sel start cs) (hb : b.Orderly)
    (htaken : b.TakenAs r.address r.isClass) (hquiet : b.Quiet ctx)
    (hover : cs.filter (b.space.classes.overrides sel) = o :: os) {body : Hosted}
    (hserves : Serves body b ctx ⟨o, sel⟩)
    (hreply : ∀ serial, Does (body.reply (.within depth) ctx ⟨serial, r.address, r.isClass⟩) b Q) :
    Does (dispatch (.within (depth + 1)) ctx (.message route r' ⟨name, []⟩)) b Q := by
  obtain ⟨t, htarget, hreceiver, rfl, rfl, hcode⟩ := h.leads
  have hmethod := hb.closed.findMethod?_eq h.has h.ascends hover
  rw [← hreceiver] at htaken hreply
  refine does_dispatch htarget hmethod hserves (fun imp himp => hcode _ imp ?_) htaken hquiet hreply
  rw [ClassTable.walk, hmethod]
  exact himp

end SetsOut

/-- **A message does what a line of stages does**, wherever it sets out below the first one. -/
lemma does_of_line (hb : b.Orderly) (htaken : b.TakenAs r.address r.isClass)
    (hline : b.Line r name sel depth ctx stages) (hquiet : b.Quiet ctx)
    (hset : SetsOut b ctx r r' route name sel start cs)
    (hover : cs.filter (b.space.classes.overrides sel) = stages.map Stage.owner ++ above)
    (hn : depth + stages.length ≤ n) :
    Does (dispatch (.within n) ctx (.message route r' ⟨name, []⟩)) b (Visits stages) := by
  induction hline generalizing route r' start cs n with
  | @top ctx s hserves hends =>
    cases n with
    | zero => simp at hn
    | succ n =>
      refine hset.does hb htaken hquiet hover hserves fun serial => ?_
      refine (hends n serial (Nat.le_of_succ_le_succ hn)).mono fun w v hdone => ?_
      obtain ⟨w₁, w₂, hbefore, hafter, rfl⟩ := hdone
      exact .top hbefore hafter
  | @up ctx s stages hserves hquiet' hrelays hrest ih =>
    cases n with
    | zero => simp at hn
    | succ n =>
      have hn' : depth + stages.length ≤ n := Nat.le_of_succ_le_succ hn
      refine hset.does hb htaken hquiet hover hserves fun serial => ?_
      obtain ⟨first, last, hreply, hfirst, hlast⟩ :=
        hrelays n serial (Nat.le_trans (Nat.le_add_right _ _) hn')
      rw [hreply]
      refine hfirst.bind fun w₁ c hc => ?_
      obtain ⟨hbefore, k, hk, haddress, horigin⟩ := hc
      -- the line goes on, so there is an override further up
      obtain ⟨p, os, howners⟩ : ∃ p os, stages.map Stage.owner ++ above = p :: os := by
        cases hrest <;> exact ⟨_, _, rfl⟩
      obtain ⟨start', ds, hset', hfilter⟩ := hset.sentOn hb htaken
        (hover.trans (congrArg (s.owner :: ·) howners)) hk haddress horigin s.hosted.context serial
      have hsend := ih hquiet' hset' (hfilter.trans howners.symm) hn'
      refine hsend.bind (R := fun w v => Visits (s :: stages) (w ++ w₁) v) fun w₂ u hrest => ?_
      exact (hlast u ⟨w₂, hrest⟩).mono fun w₃ v hafter => .up hbefore hrest hafter

end Act

/-! ## Bodies that leave marks -/

/-- The body that writes a mark and answers one. -/
def Body.saying (mark : String) : Body := .seq [.log (.literal (.str mark)), .literal (.int 1)]

/-- The body that writes a mark and sends the message on above the class. -/
def Body.passingOn (mark className selector : String) : Body :=
  .seq [.log (.literal (.str mark)), .superOf className selector []]

/-- The stage that writes the mark first, and nothing later, and answers one. -/
def Stage.marking (owner : ClassId) (h : Hosted) (mark : String) : Stage :=
  ⟨owner, h, (· = [.str mark]), fun _ w v => w = [] ∧ v = .int 1⟩

/-- A message without arguments that is answered by a number. -/
def Signature.count : Signature := ⟨.scalar .int, [.object, .selector]⟩

namespace Act

variable {b : Bridge} {ctx : ContextId} {re : Reentry} {self c : ObjectRef} {h : Hosted} {o k : ClassId}
  {mark name className : String} {answers : Value → Prop}

lemma eval_saying (a : Activation) (mark : String) :
    (Body.saying mark).eval a = do log (.str mark); return .int 1 := by
  simp [Body.saying, Body.eval, Body.evalAll, evalLiteral, Literal.eval]

lemma eval_passingOn (a : Activation) (mark className selector : String) :
    (Body.passingOn mark className selector).eval a = (do
      log (.str mark)
      let c ← named a.context className
      sendSuperOfVia a.reentry a.context a.receiver c ⟨selector, []⟩) := by
  simp [Body.passingOn, Body.eval, Body.evalAll, evalLiteral, Literal.eval]

/-- What becomes of the value of a body until the caller has it. -/
def handOver (h : Hosted) (ctx : ContextId) (v : Value) : Act Value := do
  let bytes ← encodeResult h.context h.signature.ret v
  if h.signature.ret.isVoid then return .nil
  else decodeResult ctx h.signature.ret (padBytes bytes h.width)

lemma reply_eq : h.reply re ctx self =
    h.body.eval ⟨re, h.context, self, []⟩ >>= handOver h ctx := by
  unfold Hosted.reply Hosted.answer handOver
  rw [bind_assoc]

/-- A narrow result is handed over as what it becomes. -/
lemma gives_handOver {p : Primitive} {v w : Value} {bytes : List UInt8}
    (hret : h.signature.ret = .scalar p) (hp : p.isWidened = true) (hbytes : p.encode? v = some bytes)
    (hw : p.norm? v = some w) (ctx : ContextId) : Gives (handOver h ctx v) b (· = w) := by
  have hvoid : (Descriptor.scalar p).isVoid = false := isVoid_of_isWidened hp
  have hencode (b : Bridge) : EStateM.run (encodeResult h.context (.scalar p) v) b =
      .ok (wordBytes (p.widen bytes)) b := by
    rw [Descriptor.scalar, run_encodeResult_widened hp, hbytes]
  let padded : List UInt8 := padBytes (wordBytes (p.widen bytes)) h.width
  have hdecode : decodeResult ctx (.scalar p) padded = pure w := by
    have hscalar : (Descriptor.scalar p).scalar? = some p := rfl
    have hword : ofWordBytes padded = p.widen bytes := ofWordBytes_wordBytes_append _ _
    unfold decodeResult
    simp only [hscalar, hp, if_true, hword]
    rw [Option.some.inj (hw.symm.trans (Primitive.decode_narrow_widen hp hbytes))]
  have hrun (b : Bridge) : EStateM.run (handOver h ctx v) b = .ok w b := by
    unfold handOver
    rw [hret, run_bind_ok (hencode b), hvoid, hdecode]
    rfl
  exact fun b' hb' => ⟨w, b', [], hrun b', .refl hb'.sound, rfl, rfl, rfl⟩

/-- One is handed over as one. -/
lemma gives_handOver_one (hsignature : h.signature = .count) (ctx : ContextId) :
    Gives (handOver h ctx (.int 1)) b (· = .int 1) := by
  have hbytes : Primitive.encode? .int (.int 1) = some [1, 0, 0, 0] := rfl
  exact gives_handOver (congrArg Signature.ret hsignature) rfl hbytes rfl ctx

/-- The class that was registered under a name is found. -/
lemma gives_named (hname : b.names.lookup className = none)
    (hc : (b.contextAt ctx).published.lookup className = some c) :
    Gives (named ctx className) b (· = c) := by
  refine .of_moves (fun _ => upkeep_named ctx className) fun b' hb' => ⟨c, b', ?_, rfl⟩
  have hpublished : EStateM.run (classNamed? ctx className) b' = .ok (some c) b' := by
    unfold classNamed?
    rw [run_bind_ok (run_context ctx), hb'.published, hc]
    rfl
  have hget : EStateM.run (get : Act Bridge) b' = .ok b' b' := rfl
  unfold named
  rw [run_bind_ok hget, hb'.names, hname]
  simp only
  rw [run_bind_ok hpublished]
  rfl

lemma ends_saying (hbody : h.body = .saying mark) (hsignature : h.signature = .count) :
    (Stage.marking o h mark).Ends b ctx re self := by
  unfold Stage.Ends
  change Does (h.reply re ctx self) b _
  rw [reply_eq, hbody, eval_saying, bind_assoc]
  refine (does_log _).bind fun w₁ _ hw₁ => ?_
  rw [pure_bind]
  exact Does.mono (gives_handOver_one hsignature ctx) fun w₂ v hdone => ⟨w₁, w₂, hw₁, hdone, rfl⟩

lemma relays_passingOn (hbody : h.body = .passingOn mark className name)
    (hsignature : h.signature = .count) (hname : b.names.lookup className = none)
    (hc : (b.contextAt h.context).published.lookup className = some c)
    (hk : b.space.classes.Has k) (haddress : c.address = k.address)
    (howner : (if self.isClass then b.space.classes.metaclass k else k) = o)
    (hanswers : ∀ v, answers v → v = .int 1) :
    (Stage.marking o h mark).Relays b ctx name re self answers := by
  refine ⟨do log (.str mark); named h.context className, handOver h ctx, ?_, ?_, fun v hv => ?_⟩
  · change h.reply re ctx self = _
    rw [reply_eq, hbody, eval_passingOn]
    simp only [bind_assoc]
    rfl
  · refine (does_log _).bind fun w₁ _ hw₁ => Does.mono (gives_named hname hc) fun w₂ c' hgives => ?_
    obtain ⟨rfl, rfl⟩ := hgives
    exact ⟨hw₁, k, hk, haddress, howner⟩
  · rw [hanswers v hv]
    exact gives_handOver_one hsignature ctx

lemma leaves_marking (o : ClassId) (h : Hosted) (mark : String) :
    (Stage.marking o h mark).Leaves (.str mark) := ⟨fun _ hw => hw, fun _ _ _ hafter => hafter.1⟩

/-- What a line of stages that leave marks answers. -/
lemma eq_one_of_visits {stages : List Stage} {w : List Value} {v : Value}
    (h : Visits (.marking o h mark :: stages) w v) : v = .int 1 := by
  cases h with
  | top _ hafter => exact hafter.2
  | up _ _ hafter => exact hafter.2

/-! ### Lines that are read off a state -/

/-- Whether the body writes the mark and answers one. -/
def isSaying (mark : String) : Body → Bool
  | .seq [.log (.literal (.str s)), .literal (.int i)] => s == mark && i == 1
  | _ => false

/-- Whether the body writes the mark and sends the message on above the class. -/
def isPassingOn (mark className selector : String) : Body → Bool
  | .seq [.log (.literal (.str s)), .superOf c sel []] => s == mark && c == className && sel == selector
  | _ => false

lemma eq_saying {body : Body} (h : isSaying mark body = true) : body = .saying mark := by
  unfold isSaying at h
  split at h
  · simp only [Bool.and_eq_true, beq_iff_eq] at h
    obtain ⟨rfl, rfl⟩ := h
    rfl
  · cases h

lemma eq_passingOn {body : Body} (h : isPassingOn mark className name body = true) :
    body = .passingOn mark className name := by
  unfold isPassingOn at h
  split at h
  · simp only [Bool.and_eq_true, beq_iff_eq] at h
    obtain ⟨⟨rfl, rfl⟩, rfl⟩ := h
    rfl
  · cases h

/-- Whether a method that is answered by a number has a body of the context as its code that passes a
test, and the context reads its type string as what it is, without layouts. -/
def runsBody (ctx : ContextId) (m : MethodRef) (test : Body → Bool) (b : Bridge) : Bool :=
  (b.contextAt ctx).capabilities.typed && (b.contextAt ctx).live &&
    (b.contextAt ctx).translator.layouts.isEmpty &&
    (methodTypes ctx m).endsWith
      (fun s b' => s == .count && (b'.contextAt ctx).translator.layouts.isEmpty) b &&
    (b.space.classes.method? m).any fun method =>
      ((b.contextAt ctx).frames.lookup method.types).all (· == .count) &&
        method.implementation?.any fun imp => (List.range b.hosted.size).any fun i =>
          imp == .hosted i && b.hosted[i]?.any fun h =>
            h.context == ctx && h.signature == .count && test h.body

lemma exists_serves {m : MethodRef} {test : Body → Bool} (h : runsBody ctx m test b = true) :
    ∃ body : Hosted, Serves body b ctx m ∧ body.context = ctx ∧ body.signature = .count ∧
      test body.body = true := by
  simp only [runsBody, Bool.and_eq_true, Option.any_eq_true, List.any_eq_true, beq_iff_eq] at h
  obtain ⟨⟨⟨⟨htyped, hlive⟩, hlayouts⟩, htypes⟩, method, hm, hkept, imp, himp, i, -, rfl, body, hbody,
    ⟨rfl, hsignature⟩, htest⟩ := h
  obtain ⟨s, b₁, hrun, hs⟩ := exists_of_endsWith htypes
  rw [Bool.and_eq_true, beq_iff_eq] at hs
  obtain ⟨rfl, hlayouts'⟩ := hs
  have hfamiliar : Familiar body.context m .count b := by
    refine ⟨b₁, hrun, congrArg Translator.mk ?_⟩
    rw [List.isEmpty_iff.mp hlayouts, List.isEmpty_iff.mp hlayouts']
  have hframe : Gives (methodFrame body.context m) b (· = .count) := by
    refine gives_methodFrame_of_typed hfamiliar htyped hm fun s' hs' => ?_
    rw [hs'] at hkept
    exact eq_of_beq hkept
  have hcode : (b.space.classes.method? m).bind Method.implementation? = some (.hosted i) := by
    rw [hm]
    exact himp
  exact ⟨body, ⟨⟨i, hcode, hbody⟩, hsignature ▸ hframe, hsignature ▸ rfl, hlive⟩, rfl, hsignature, htest⟩

/-- A body that answers is a line. -/
lemma exists_line_top {r : ObjectRef} {sel : Selector}
    (h : runsBody ctx ⟨o, sel⟩ (isSaying mark) b = true) :
    ∃ body, b.Line r name sel 0 ctx [.marking o body mark] := by
  obtain ⟨body, hserves, rfl, hsignature, htest⟩ := exists_serves h
  exact ⟨body, .top hserves fun _ _ _ => ends_saying (eq_saying htest) hsignature⟩

/-- A body that sends the message on to a line is a longer line. -/
lemma exists_line_up {r : ObjectRef} {sel : Selector} {stages : List Stage}
    (h : runsBody ctx ⟨o, sel⟩ (isPassingOn mark className name) b = true) (hquiet : b.Quiet ctx)
    (hname : b.names.lookup className = none)
    (hc : (b.contextAt ctx).published.lookup className = some c) (hk : b.space.classes.Has k)
    (haddress : c.address = k.address)
    (howner : (if r.isClass then b.space.classes.metaclass k else k) = o)
    (hone : ∀ w v, Visits stages w v → v = .int 1) (hrest : b.Line r name sel 0 ctx stages) :
    ∃ body, b.Line r name sel 0 ctx (.marking o body mark :: stages) := by
  obtain ⟨body, hserves, rfl, hsignature, htest⟩ := exists_serves h
  refine ⟨body, .up hserves hquiet (fun _ _ _ => ?_) hrest⟩
  exact relays_passingOn (eq_passingOn htest) hsignature hname hc hk haddress howner
    fun v ⟨w, hvisits⟩ => hone w v hvisits

/-! ## Super chains -/

/-- **Super chains visit each override once.** Where the overrides of a message, from the class of an
object upwards, are a line of stages, each of which sends the message on above its class and the last one
of which does not, a message to the object ends well, and every stage does its part once, one inside the
other. Where each stage writes its mark first, the marks come in the order of the classes. This holds for
instances and for classes, in states that a host can lead to, where no class on the chain remembers other
code for the message than its superclasses lead to. -/
theorem super_chain (hreach : Relation.ReflTransGen HostChange default b) (hintact : b.Intact)
    (hr : b.Receives r d) (hsel : b.space.selectors.Knows name sel) (hname : Text.hasNul name = false)
    (hd : b.space.classes.Has d) (hcs : b.space.classes.Ascends d cs)
    (hrecalls : ∀ c ∈ cs, b.space.classes.Recalls c sel)
    (hover : cs.filter (b.space.classes.overrides sel) = stages.map Stage.owner ++ above)
    (hcap : (b.contextAt ctx).capabilities.lookup = true) (hquiet : b.Quiet ctx)
    (hline : b.Line r name sel depth ctx stages) (hn : depth + stages.length ≤ n) :
    ∃ v b' w, EStateM.run (sendVia (.within n) ctx r ⟨name, []⟩) b = .ok v b' ∧
      b'.trace = w ++ b.trace ∧ Visits stages w v ∧
      ∀ marks, List.Forall₂ Stage.Leaves stages marks → w.reverse = marks := by
  have hb := hintact.orderly (HostChange.named_of_start hreach)
  have hset := SetsOut.direct hb hr hsel hname hd hcs hrecalls hcap
  obtain ⟨v, b', w, hrun, -, htrace, hvisits⟩ :=
    does_of_line hb hr.taken hline hquiet hset hover hn b (.refl hb.sound)
  exact ⟨v, b', w, hrun, htrace, hvisits, fun _ => hvisits.marks⟩

/-! ### A class that overrides what a root has -/

/-- A root that answers a message, and a class below it, with one that does not override the message in
between, which sends the message on, both as an instance and as a class. Another class below the root
sends the message on as an instance. There is an instance of the first one. The instance variables of the
root lie where a class has its class and its superclass. -/
def superScene : Act (ObjectRef × ObjectRef) := do
  let upper ← extend 0 none "Upper" 0
  upper.addIvar "isa" "#" none none
  upper.addIvar "above" "#" none none
  upper.addMethod "who" "i@:" (.saying "upper")
  upper.addClassMethod "who" "i@:" (.saying "upper class")
  let upper ← upper.register
  let other ← extend 0 (some upper.classRef) "Other" 0
  other.addMethod "who" "i@:" (.passingOn "other" "Other" "who")
  let other ← other.register
  let middle ← extend 0 (some upper.classRef) "Middle" 0
  let middle ← middle.register
  let lower ← extend 0 (some middle.classRef) "Lower" 0
  lower.addMethod "who" "i@:" (.passingOn "lower" "Lower" "who")
  lower.addClassMethod "who" "i@:" (.passingOn "lower class" "Lower" "who")
  let lower ← lower.register
  let _ ← createInstance 0 lower.classRef 0
  return (middle.classRef, other.classRef)

/-- The state after that. -/
def superBridge : Bridge := superScene.after freshBridge

/-- The instance. -/
def superReceiver : ObjectRef := ⟨7, 0x40000000000, false⟩

/-- Its class. -/
def superClassRef : ObjectRef := ⟨5, ClassId.address ⟨11⟩, true⟩

lemma moves_superScene {b : Bridge} : Moves HostChange superScene b :=
  (moves_extend 0 none _ 0).bind fun upper _ _ => (moves_addIvar upper _ _ _ _).bind fun _ _ _ =>
    (moves_addIvar upper _ _ _ _).bind fun _ _ _ =>
      (moves_addPendingMethod upper _ _ _).bind fun _ _ _ =>
        (moves_addClassMethod upper _ _ _).bind fun _ _ _ => (moves_register upper).bind fun upper _ _ =>
          (moves_extend 0 (some upper.classRef) _ 0).bind fun other _ _ =>
            (moves_addPendingMethod other _ _ _).bind fun _ _ _ =>
              (moves_register other).bind fun _ _ _ =>
                (moves_extend 0 (some upper.classRef) _ 0).bind fun middle _ _ =>
                  (moves_register middle).bind fun middle _ _ =>
                    (moves_extend 0 (some middle.classRef) _ 0).bind fun lower _ _ =>
                      (moves_addPendingMethod lower _ _ _).bind fun _ _ _ =>
                        (moves_addClassMethod lower _ _ _).bind fun _ _ _ =>
                          (moves_register lower).bind fun _ _ _ =>
                            (moves_createInstance 0 _ 0).bind fun _ _ _ => moves_pure _

lemma run_superBridge : Relation.ReflTransGen HostChange default superBridge := by
  have hopened : Relation.ReflTransGen HostChange default freshBridge :=
    .single (HostChange.openContext {} {} {})
  exact hopened.trans moves_superScene

lemma intact_superBridge : superBridge.Intact :=
  .of_tables (by decide +kernel) (by decide +kernel) (by decide +kernel)

lemma quiet_superBridge : superBridge.Quiet 0 :=
  ⟨Option.isNone_iff_eq_none.mp (by decide +kernel), by decide +kernel⟩

/-- The two bodies are a line, be it of instances or of classes. -/
lemma exists_line_superBridge {r : ObjectRef} {o p : ClassId} {x y : String}
    (hlower : runsBody 0 ⟨o, ⟨21⟩⟩ (isPassingOn x "Lower" "who") superBridge = true)
    (hupper : runsBody 0 ⟨p, ⟨21⟩⟩ (isSaying y) superBridge = true)
    (howner : (if r.isClass then superBridge.space.classes.metaclass ⟨11⟩ else ⟨11⟩) = o) :
    ∃ lower upper, superBridge.Line r "who" ⟨21⟩ 0 0 [.marking o lower x, .marking p upper y] := by
  obtain ⟨upper, hline⟩ : ∃ upper, superBridge.Line r "who" ⟨21⟩ 0 0 [.marking p upper y] :=
    exists_line_top hupper
  have hclass : (superBridge.contextAt 0).published.lookup "Lower" = some superClassRef := by
    decide +kernel
  have hhas : superBridge.space.classes.Has ⟨11⟩ := by decide +kernel
  obtain ⟨lower, hline⟩ := exists_line_up hlower quiet_superBridge (by decide +kernel) hclass hhas rfl
    howner (fun _ _ => eq_one_of_visits) hline
  exact ⟨lower, upper, hline⟩

/-- What is overridden is said after what overrides it, whatever classes are in between. -/
theorem super_chain_superBridge :
    (Relation.ReflTransGen HostChange default superBridge ∧ superBridge.Intact ∧
      superBridge.space.selectors.Knows "who" ⟨21⟩ ∧ Text.hasNul "who" = false ∧
      (superBridge.contextAt 0).capabilities.lookup = true ∧ superBridge.Quiet 0) ∧
    (∃ b', EStateM.run (send 0 superReceiver ⟨"who", []⟩) superBridge = .ok (.int 1) b' ∧
      b'.trace = [.str "upper", .str "lower"] ++ superBridge.trace) ∧
    ∃ b', EStateM.run (send 0 superClassRef ⟨"who", []⟩) superBridge = .ok (.int 1) b' ∧
      b'.trace = [.str "upper class", .str "lower class"] ++ superBridge.trace := by
  have hsel : superBridge.space.selectors.Knows "who" ⟨21⟩ := by decide +kernel
  have hname : Text.hasNul "who" = false := by decide +kernel
  have hcap : (superBridge.contextAt 0).capabilities.lookup = true := by decide +kernel
  have hdepth : 0 + 2 ≤ nestingLimit := by decide
  have hchain {r : ObjectRef} {d o p : ClassId} {cs above : List ClassId} {x y : String}
      (hr : superBridge.Receives r d) (hd : superBridge.space.classes.Has d)
      (hcs : superBridge.space.classes.Ascends d cs)
      (hnone : ∀ c ∈ cs, (superBridge.space.classes.get c).cache.find?
        superBridge.space.classes.epoch ⟨21⟩ = none)
      (hover : cs.filter (superBridge.space.classes.overrides ⟨21⟩) = o :: p :: above)
      (hlower : runsBody 0 ⟨o, ⟨21⟩⟩ (isPassingOn x "Lower" "who") superBridge = true)
      (hupper : runsBody 0 ⟨p, ⟨21⟩⟩ (isSaying y) superBridge = true)
      (howner : (if r.isClass then superBridge.space.classes.metaclass ⟨11⟩ else ⟨11⟩) = o) :
      ∃ b', EStateM.run (send 0 r ⟨"who", []⟩) superBridge = .ok (.int 1) b' ∧
        b'.trace = [.str y, .str x] ++ superBridge.trace := by
    obtain ⟨lower, upper, hline⟩ := exists_line_superBridge hlower hupper howner
    obtain ⟨v, b', w, hrun, htrace, hvisits, hmarks⟩ := super_chain run_superBridge intact_superBridge
      hr hsel hname hd hcs
      (fun c hc imp himp => absurd (himp.symm.trans (hnone c hc)) (Option.some_ne_none imp))
      hover hcap quiet_superBridge hline hdepth
    cases eq_one_of_visits hvisits
    have hw : w.reverse = [.str x, .str y] :=
      hmarks _ (.cons (leaves_marking _ _ _) (.cons (leaves_marking _ _ _) .nil))
    refine ⟨b', hrun, ?_⟩
    rw [htrace, ← List.reverse_reverse w, hw]
    rfl
  refine ⟨⟨run_superBridge, intact_superBridge, hsel, hname, hcap, quiet_superBridge⟩, ?_, ?_⟩
  · have hr : superBridge.Receives superReceiver ⟨11⟩ :=
      ⟨⟨by decide, by decide +kernel, nofun⟩, by decide +kernel,
        .of_tracked (by decide) (by decide +kernel) (by decide +kernel)⟩
    have hcs : superBridge.space.classes.Ascends ⟨11⟩ [⟨11⟩, ⟨9⟩, ⟨5⟩] :=
      .up (by decide +kernel) (.up (by decide +kernel) (.root (by decide +kernel)))
    have hover : [⟨11⟩, ⟨9⟩, (⟨5⟩ : ClassId)].filter (superBridge.space.classes.overrides ⟨21⟩) =
        [⟨11⟩, ⟨5⟩] := by decide +kernel
    exact hchain hr (by decide +kernel) hcs (by decide +kernel) hover (by decide +kernel)
      (by decide +kernel) rfl
  · have hr : superBridge.Receives superClassRef ⟨10⟩ :=
      ⟨⟨by decide, by decide +kernel, fun _ => ⟨⟨11⟩, by decide +kernel, rfl⟩⟩, by decide +kernel,
        .of_tracked (by decide) (by decide +kernel) (by decide +kernel)⟩
    have hcs : superBridge.space.classes.Ascends ⟨10⟩ [⟨10⟩, ⟨8⟩, ⟨4⟩, ⟨5⟩] :=
      .up (by decide +kernel) (.up (by decide +kernel) (.up (by decide +kernel)
        (.root (by decide +kernel))))
    have hover : [⟨10⟩, ⟨8⟩, ⟨4⟩, (⟨5⟩ : ClassId)].filter
        (superBridge.space.classes.overrides ⟨21⟩) = [⟨10⟩, ⟨4⟩, ⟨5⟩] := by decide +kernel
    exact hchain hr (by decide +kernel) hcs (by decide +kernel) hover (by decide +kernel)
      (by decide +kernel) (by decide +kernel)

/-! ### A class that is moved in memory, below another one -/

/-- The instance is sent the message once. Then the instance variable of the class in between that lies
on its superclass is set to the other class below the root. -/
def skippedScene : Act Unit := do
  let classes ← superScene
  let _ ← send 0 superReceiver ⟨"who", []⟩
  setIvar 0 classes.1 "above" (.object classes.2)

/-- The state after that. -/
def skippedBridge : Bridge := skippedScene.after freshBridge

lemma run_skippedBridge : Relation.ReflTransGen HostChange default skippedBridge := by
  have hopened : Relation.ReflTransGen HostChange default freshBridge :=
    .single (HostChange.openContext {} {} {})
  refine hopened.trans ?_
  exact moves_superScene.bind fun _ _ _ => (moves_call _ 0 _).bind fun _ _ _ => moves_setIvar 0 _ _ _

/-- **A message that skips an override**: the class in between remembers what it found above it before it
was moved, so that the override that is above it now is not visited. -/
theorem skips_moved :
    Relation.ReflTransGen HostChange default skippedBridge ∧ skippedBridge.Intact ∧
      skippedBridge.Receives superReceiver ⟨11⟩ ∧ skippedBridge.Quiet 0 ∧
      skippedBridge.space.classes.Ascends ⟨11⟩ [⟨11⟩, ⟨9⟩, ⟨7⟩, ⟨5⟩] ∧
      ∃ lower other upper,
        let stages : List Stage :=
          [.marking ⟨11⟩ lower "lower", .marking ⟨7⟩ other "other", .marking ⟨5⟩ upper "upper"]
        [⟨11⟩, ⟨9⟩, ⟨7⟩, ⟨5⟩].filter (skippedBridge.space.classes.overrides ⟨21⟩) =
          stages.map Stage.owner ∧
        skippedBridge.Line superReceiver "who" ⟨21⟩ 0 0 stages ∧
        ∃ v b', EStateM.run (send 0 superReceiver ⟨"who", []⟩) skippedBridge = .ok v b' ∧
          b'.trace.map Value.toText? =
            [some "upper", some "lower"] ++ skippedBridge.trace.map Value.toText? ∧
          ¬∃ w, b'.trace = w ++ skippedBridge.trace ∧ Visits stages w v := by
  have hquiet : skippedBridge.Quiet 0 :=
    ⟨Option.isNone_iff_eq_none.mp (by decide +kernel), by decide +kernel⟩
  have hreceives : skippedBridge.Receives superReceiver ⟨11⟩ :=
    ⟨⟨by decide, by decide +kernel, nofun⟩, by decide +kernel,
      .of_tracked (by decide) (by decide +kernel) (by decide +kernel)⟩
  have hascends : skippedBridge.space.classes.Ascends ⟨11⟩ [⟨11⟩, ⟨9⟩, ⟨7⟩, ⟨5⟩] :=
    .up (by decide +kernel) (.up (by decide +kernel) (.up (by decide +kernel)
      (.root (by decide +kernel))))
  have hover : [⟨11⟩, ⟨9⟩, ⟨7⟩, (⟨5⟩ : ClassId)].filter
      (skippedBridge.space.classes.overrides ⟨21⟩) = [⟨11⟩, ⟨7⟩, ⟨5⟩] := by decide +kernel
  obtain ⟨upper, hupper⟩ : ∃ upper, skippedBridge.Line superReceiver "who" ⟨21⟩ 0 0
      [.marking ⟨5⟩ upper "upper"] := exists_line_top (by decide +kernel)
  have hclass : (skippedBridge.contextAt 0).published.lookup "Other" =
      some ⟨3, ClassId.address ⟨7⟩, true⟩ := by decide +kernel
  have hbody : runsBody 0 ⟨⟨7⟩, ⟨21⟩⟩ (isPassingOn "other" "Other" "who") skippedBridge = true := by
    decide +kernel
  have hhas : skippedBridge.space.classes.Has ⟨7⟩ := by decide +kernel
  obtain ⟨other, hother⟩ := exists_line_up hbody hquiet (by decide +kernel) hclass hhas rfl rfl
    (fun _ _ => eq_one_of_visits) hupper
  have hclass : (skippedBridge.contextAt 0).published.lookup "Lower" = some superClassRef := by
    decide +kernel
  have hbody : runsBody 0 ⟨⟨11⟩, ⟨21⟩⟩ (isPassingOn "lower" "Lower" "who") skippedBridge = true := by
    decide +kernel
  have hhas : skippedBridge.space.classes.Has ⟨11⟩ := by decide +kernel
  obtain ⟨lower, hlower⟩ := exists_line_up hbody hquiet (by decide +kernel) hclass hhas rfl rfl
    (fun _ _ => eq_one_of_visits) hother
  have hends : (send 0 superReceiver ⟨"who", []⟩).endsWith (fun _ b' => b'.trace.map Value.toText? ==
      [some "upper", some "lower"] ++ skippedBridge.trace.map Value.toText?) skippedBridge = true := by
    decide +kernel
  obtain ⟨v, b', hrun, htrace⟩ := exists_of_endsWith hends
  refine ⟨run_skippedBridge, .of_tables (by decide +kernel) (by decide +kernel) (by decide +kernel),
    hreceives, hquiet, hascends, lower, other, upper, hover, hlower, v, b', hrun, eq_of_beq htrace, ?_⟩
  rintro ⟨w, hw, hvisits⟩
  -- two marks are written, and there are three stages
  have htwo : w.length = 2 := by
    have hlength := congrArg List.length (eq_of_beq htrace)
    rw [hw, List.length_map, List.length_append, List.length_append, List.length_map] at hlength
    exact Nat.add_right_cancel hlength
  have hthree := congrArg List.length (hvisits.marks (.cons (leaves_marking _ _ _)
    (.cons (leaves_marking _ _ _) (.cons (leaves_marking _ _ _) .nil))))
  rw [List.length_reverse, htwo] at hthree
  cases hthree

end Act

end MessageBridge
