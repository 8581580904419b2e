import MessageBridge.Bridge.Execution
import MessageBridge.Proofs.Marshal.Transit

/-!
# Arguments and results

What is passed to a host body and what it answers. Arguments are encoded one after another on one side
and decoded one after another on the other side, and each is what it arrives as. A result goes one of
two ways: a narrow integer through a whole register, and everything else like an argument.

## Main results

* `Act.exists_decodeArguments` — the arguments that were encoded are decoded as what they arrive as.
* `Act.exists_decodeResult` — so is the result.
-/

namespace MessageBridge.Act

variable {ctx : ContextId} {index : Nat} {b₀ b b' : Bridge}

/-! ## Buffers -/

lemma le_slotSize (size : Nat) : size ≤ slotSize size := by
  unfold slotSize wordSize
  omega

lemma zeroed_slot (size : Nat) : Zeroed (slot size) := .replicate _

lemma length_slot (size : Nat) : (slot size).length = slotSize size := List.length_replicate

/-! ## Arguments -/

lemma keeps_of_encodeArguments {args : List (Descriptor × Value)}
    {r : List (List UInt8) × List Address} (hb : b.Sound)
    (h : EStateM.run (encodeArguments ctx index args) b = .ok r b') : b.Keeps b' :=
  Upkeep.keeps_of_run ((upkeep_encodeArguments ctx index args).of_ok h) hb

/-- **Arguments** that were encoded are decoded as what they arrive as, in any later state. -/
theorem exists_decodeArguments {args : List (Descriptor × Value)}
    {r : List (List UInt8) × List Address} (hplain : ∀ arg ∈ args, arg.1.Plain)
    (hread : ∀ arg ∈ args, Readable ctx b arg.1.shape arg.2) (hkeeps : b₀.Keeps b)
    (hctx : ctx < b.contexts.size)
    (h : EStateM.run (encodeArguments ctx index args) b = .ok r b') {b₁ : Bridge}
    (hb₁ : b'.Keeps b₁) :
    ∃ ws b₂, EStateM.run (decodeArguments ctx ((args.map Prod.fst).zip (r.1.map some))) b₁ =
        .ok ws b₂ ∧ b₁.Keeps b₂ ∧
      List.Forall₂ (fun arg w => Arrives ctx b₀ b₂ arg.1.shape arg.2 w) args ws := by
  induction args generalizing index b b' b₁ r with
  | nil =>
    cases h
    exact ⟨[], b₁, rfl, .refl hb₁.sound, .nil⟩
  | cons arg args ih =>
    obtain ⟨d, v⟩ := arg
    obtain ⟨⟨bytes, blocks⟩, b₂, hbytes, h⟩ := run_bind_eq_ok.mp h
    obtain ⟨⟨slots, more⟩, b₃, hslots, h⟩ := run_bind_eq_ok.mp h
    cases h
    have hd : d.Plain := hplain (d, v) (List.mem_cons_self ..)
    have hv : Readable ctx b d.shape v := hread (d, v) (List.mem_cons_self ..)
    have hb₂ : b.Keeps b₂ := keeps_of_encode hkeeps.sound hbytes
    have hb₃ : b₂.Keeps b' := keeps_of_encodeArguments hb₂.sound hslots
    obtain ⟨-, hholds⟩ := carries_plain hd hkeeps hctx hv
      (by rw [length_slot]; exact le_slotSize _) (zeroed_slot _) hbytes
    -- the first argument is read before the others, in the state that the call was made in
    obtain ⟨w, b₄, hw, harrives⟩ := hholds [] b₁ (hb₃.trans hb₁)
    rw [List.append_nil] at hw
    have hb₄ : b₁.Keeps b₄ := keeps_of_decodeShape hb₁.sound hw
    obtain ⟨ws, b₅, hws, hb₅, hall⟩ := ih (fun arg ha => hplain arg (List.mem_cons_of_mem _ ha))
      (fun arg ha => (hread arg (List.mem_cons_of_mem _ ha)).mono hb₂) (hkeeps.trans hb₂)
      (by rwa [hb₂.size]) hslots (hb₁.trans hb₄)
    refine ⟨w :: ws, b₅, ?_, hb₄.trans hb₅, .cons (harrives.mono hb₅) hall⟩
    simp only [List.map_cons, List.zip_cons_cons]
    unfold decodeArguments
    rw [run_bind_ok (run_require_some _ _)]
    unfold decode
    rw [run_bind_ok hw, run_bind_ok hws]
    rfl

/-! ## Results -/

/-- A result that does not fill a register on its own is decoded like an argument. -/
lemma decodeResult_eq_decode {d : Descriptor} (h : d.scalar?.filter Primitive.isWidened = none)
    (bytes : List UInt8) : decodeResult ctx d bytes = decode ctx d bytes := by
  obtain ⟨encoding, shape⟩ := d
  cases shape with
  | scalar p =>
    have hp : p.isWidened = false := by simpa [Descriptor.scalar?, Descriptor.shape] using h
    unfold decodeResult decode decodeShape
    simp only [Descriptor.scalar?, Descriptor.shape, hp, Bool.false_eq_true, if_false]
  | object | classRef | selector | cString | pointer | aggregate => rfl

/-- A narrow integer is a result. -/
lemma isVoid_of_isWidened {encoding : String} {p : Primitive} (hp : p.isWidened = true) :
    (Descriptor.mk encoding (.scalar p)).isVoid = false := by
  cases p <;> first | rfl | cases hp

/-- A narrow integer is encoded as a whole register. -/
lemma run_encodeResult_widened {encoding : String} {p : Primitive} {v : Value}
    (hp : p.isWidened = true) : EStateM.run (encodeResult ctx (.mk encoding (.scalar p)) v) b =
      match p.encode? v with
      | some bytes => .ok (wordBytes (p.widen bytes)) b
      | none => .error (.error (.argumentTypeMismatch 0 encoding v.kindName)) b := by
  have hscalar : (Descriptor.mk encoding (.scalar p)).scalar?.filter Primitive.isWidened = some p :=
    Option.filter_some_pos hp
  unfold encodeResult
  simp only [isVoid_of_isWidened hp, hscalar, Bool.false_eq_true, if_false]
  cases p.encode? v <;> rfl

/-- Any other result is encoded like an argument. -/
lemma run_encodeResult_other {d : Descriptor} {v : Value} (hvoid : d.isVoid = false)
    (h : d.scalar?.filter Primitive.isWidened = none) :
    encodeResult ctx d v = (do
      let r ← encode ctx 0 d (List.replicate d.size 0) v
      retain ctx r.2
      return r.1) := by
  unfold encodeResult
  simp only [hvoid, h, Bool.false_eq_true, if_false]

/-- **The result** that was encoded is decoded as what it arrives as, in any later state. -/
theorem exists_decodeResult {d : Descriptor} {v : Value} {bytes : List UInt8} (hd : d.Plain)
    (hb : b.Sound) (hctx : ctx < b.contexts.size) (hv : Readable ctx b d.shape v)
    (h : EStateM.run (encodeResult ctx d v) b = .ok bytes b') :
    b.Keeps b' ∧ ∀ b₁, b'.Keeps b₁ → ∃ w b₂,
      EStateM.run (decodeResult ctx d (padBytes bytes (max d.size wordSize))) b₁ = .ok w b₂ ∧
        Arrives ctx b b₂ d.shape v w := by
  cases hwidened : d.scalar?.filter Primitive.isWidened with
  | some p =>
    obtain ⟨encoding, shape⟩ := d
    obtain ⟨hscalar, hp⟩ := Option.filter_eq_some_iff.mp hwidened
    cases shape with
    | scalar q =>
      obtain rfl : q = p := Option.some.inj hscalar
      rw [run_encodeResult_widened hp] at h
      split at h
      · next bytes' hbytes =>
        cases h
        refine ⟨.refl hb, fun b₁ _ => ⟨_, b₁, ?_, .scalar (Primitive.decode_narrow_widen hp hbytes)⟩⟩
        have hword : ofWordBytes (padBytes (wordBytes (q.widen bytes'))
            (max (Descriptor.mk encoding (.scalar q)).size wordSize)) = q.widen bytes' :=
          ofWordBytes_wordBytes_append _ _
        unfold decodeResult
        rw [hscalar]
        simp only [hp, if_true, hword]
        rfl
      · cases h
    | object | classRef | selector | cString | pointer | aggregate => cases hscalar
  | none =>
    rw [run_encodeResult_other (hd.isVoid) hwidened] at h
    obtain ⟨r, b₁, hencode, h⟩ := run_bind_eq_ok.mp h
    obtain ⟨_, b₂, hretain, h⟩ := run_bind_eq_ok.mp h
    cases h
    have hb₁ : b.Keeps b₁ := keeps_of_encode hb hencode
    have hb' : b₁.Keeps b' := Upkeep.keeps_of_run ((upkeep_retain ctx r.2).of_ok hretain) hb₁.sound
    obtain ⟨-, hholds⟩ := carries_plain hd (.refl hb) hctx hv
      (Nat.le_of_eq (List.length_replicate).symm) (.replicate _) hencode
    refine ⟨hb₁.trans hb', fun b₂ hb₂ => ?_⟩
    rw [decodeResult_eq_decode hwidened]
    exact hholds _ b₂ (hb'.trans hb₂)

end MessageBridge.Act
