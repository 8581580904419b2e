import MessageBridge.Bridge.Dispatch
import MessageBridge.Proofs.Act.Relates

/-!
# Values as bytes, side by side

Writing a value asks for selectors and hands out blocks, and apart from that only computes. So in two
states in which selectors and blocks are given out alike, a value is written alike. The position of an
argument is seen in nothing but the error about a value that does not fit. In the same way, values are
read alike where the object space reads the same and references are given out alike.

## Main definitions

* `Stop.Similar` — two reasons to stop that differ at most in the position of an argument.
* `Act.GivesAlike` — selectors and blocks are given out alike.
* `Act.ReadsAlike` — the object space reads the same, and references are given out alike.

## Main results

* `Act.relates_encode`, `Act.relates_encodeArguments` — values and arguments are written alike.
* `Act.ReadsAlike.decodeShape` — values are read alike.
-/

namespace MessageBridge

/-- **Similar**: the reasons to stop are the same, but for the position of an argument that does not fit,
or for whether the receiver and the selector are counted among the arguments. -/
inductive Stop.Similar : Stop → Stop → Prop
  | refl (stop : Stop) : Similar stop stop
  | mismatch (i j : Nat) (expected found : String) :
      Similar (.error (.argumentTypeMismatch i expected found))
        (.error (.argumentTypeMismatch j expected found))
  | count (name : String) (expected found : Nat) :
      Similar (.error (.argumentCountMismatch name expected found))
        (.error (.argumentCountMismatch name (expected + 2) (found + 2)))

namespace Act

variable {α : Type} {E : Likeness} {S : Stop → Stop → Prop} {ctx : ContextId} {i j : Nat}

lemma Blind.similar {x : Act α} (h : Blind E x) : Relates E Stop.Similar x x :=
  Relates.mono (S := Eq) (fun stop _ heq => heq ▸ .refl stop) h

/-- **Gives alike**: in related states, names are checked and get selectors alike, and bytes get blocks
alike. -/
structure GivesAlike (E : Likeness) (S : Stop → Stop → Prop) (ctx : ContextId) : Prop where
  name : ∀ name, Relates E S (checkName name) (checkName name)
  selector : ∀ name, Relates E S (selector ctx name) (selector ctx name)
  block : ∀ size bytes, Relates E S (keepBlock size bytes) (keepBlock size bytes)

mutual

/-- **Values are written alike**, whatever position they are in. -/
theorem relates_encode (h : GivesAlike E S ctx) (hmismatch : ∀ expected found,
    S (.error (.argumentTypeMismatch i expected found)) (.error (.argumentTypeMismatch j expected found)))
    (d : Descriptor) (out : List UInt8) (v : Value) :
    Relates E S (encode ctx i d out v) (encode ctx j d out v) := by
  have hstring (text : String) : Relates E S (keepString text) (keepString text) :=
    (h.name text).bind fun _ => h.block _ _
  unfold encode
  split
  · split
    · exact .pure _
    · exact .throw (hmismatch _ _)
  · exact .ite (relates_encodeFields h hmismatch _ out _) (.throw (hmismatch _ _))
  · exact .throw (hmismatch _ _)
  · exact .pure _
  · exact .pure _
  · exact .pure _
  · exact .pure _
  · exact .pure _
  · exact (h.selector _).bind fun _ => .pure _
  · exact (h.selector _).bind fun _ => .pure _
  · exact (hstring _).bind fun _ => .pure _
  · exact (hstring _).bind fun _ => .pure _
  · exact (relates_encodeFields h hmismatch _ _ _).bind fun _ => (h.block _ _).bind fun _ => .pure _
  · exact .throw (hmismatch _ _)

theorem relates_encodeFields (h : GivesAlike E S ctx) (hmismatch : ∀ expected found,
    S (.error (.argumentTypeMismatch i expected found)) (.error (.argumentTypeMismatch j expected found)))
    (fields : List Field) (out : List UInt8) (vs : List Value) :
    Relates E S (encodeFields ctx i fields out vs) (encodeFields ctx j fields out vs) := by
  cases vs with
  | nil => unfold encodeFields; exact .pure _
  | cons v vs =>
    unfold encodeFields
    cases fields with
    | nil => exact .pure _
    | cons f fs =>
      have hrest (r : List UInt8 × List Address) :=
        relates_encodeFields h hmismatch fs r.1 vs
      exact .ite ((Relates.pure _).bind fun _ => (hrest _).bind fun _ => .pure _)
        ((relates_encode h hmismatch f.descriptor _ v).bind fun _ => (Relates.pure _).bind fun _ =>
          (hrest _).bind fun _ => .pure _)

end

/-- **Reads alike**: in related states the object space reads the same, and the same references are
given out. -/
structure ReadsAlike (E : Likeness) (ctx : ContextId) : Prop where
  space : ∀ {α : Type} (g : ObjectSpace → α), Blind E (fromSpace g)
  read : ∀ {α : Type} (g : ObjectSpace → Option α), Blind E (readSpace g)
  cached : ∀ a, Blind E (cached? ctx a)
  newRef : ∀ a isClass, Blind E (newRef ctx a isClass)

lemma ReadsAlike.wrap (h : ReadsAlike E ctx) (a : Address) : Blind E (wrap ctx a) := by
  refine .ite (.pure _) ((h.cached a).bind fun r => ?_)
  split
  · exact .pure _
  · exact (h.read _).bind fun _ => (h.newRef a _).bind fun _ => .pure _

lemma ReadsAlike.wrapClass (h : ReadsAlike E ctx) (a : Address) : Blind E (wrapClass ctx a) :=
  (h.wrap a).bind fun _ => .pure _

mutual

/-- **Values are read alike.** -/
theorem ReadsAlike.decodeShape (h : ReadsAlike E ctx) (bytes : List UInt8) (s : Shape) :
    Blind E (decodeShape ctx bytes s) := by
  unfold Act.decodeShape
  split
  · exact .pure _
  · exact h.decodeLayout bytes _
  · exact (h.wrap _).bind fun _ => .pure _
  · exact (h.wrap _).bind fun _ => .pure _
  · exact .ite (.pure _) ((h.read _).bind fun _ => (h.space _).bind fun _ => .pure _)
  · exact .ite (.pure _) ((h.read _).bind fun _ => .pure _)
  · exact .pure _
  · exact .ite (.pure _) ((h.read _).bind fun _ => h.decodeLayout _ _)

theorem ReadsAlike.decodeLayout (h : ReadsAlike E ctx) (bytes : List UInt8) (l : Layout) :
    Blind E (decodeLayout ctx bytes l) := by
  cases l with
  | mk name fields size alignment =>
    unfold Act.decodeLayout
    exact (h.decodeFields bytes fields).bind fun _ => .pure _

theorem ReadsAlike.decodeFields (h : ReadsAlike E ctx) (bytes : List UInt8) (fields : List Field) :
    Blind E (decodeFields ctx bytes fields) := by
  cases fields with
  | nil => unfold Act.decodeFields; exact .pure _
  | cons f fields =>
    obtain ⟨name, offset, ⟨encoding, shape⟩⟩ := f
    unfold Act.decodeFields
    exact (h.decodeShape _ shape).bind fun _ => (h.decodeFields bytes fields).bind fun _ => .pure _

end

/-- **Arguments are written alike**, whatever position the first of them is in. -/
theorem relates_encodeArguments (h : GivesAlike E Stop.Similar ctx) (args : List (Descriptor × Value)) :
    Relates E Stop.Similar (encodeArguments ctx i args) (encodeArguments ctx j args) := by
  induction args generalizing i j with
  | nil => exact .pure _
  | cons arg args ih =>
    exact (relates_encode h (.mismatch i j) arg.1 _ arg.2).bind fun _ => ih.bind fun _ => .pure _

end Act

end MessageBridge
