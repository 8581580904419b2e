import MessageBridge.Proofs.Bridge.Persistence
import MessageBridge.Proofs.Marshal.Layout
import MessageBridge.Proofs.Marshal.Scalar

/-!
# What a value arrives as

What comes out on the other side of a call when a value is passed as a type: a scalar is converted, a
selector or a text keeps its text, an object is the one reference that the context has for it, and a
struct arrives field by field.

What an address arrives as depends on the two states between which it travels, the one in which it is
passed and the one in which it is read. It goes on to be so as long as records are only kept.

## Main definitions

* `Descriptor.Laid` — a type whose structs are laid out by the C rules.
* `Descriptor.Plain` — a scalar, an address that is not followed into a struct, or a struct of such.
* `Shape.zero` — the value of zero bytes.
* `Arrives` — what a value arrives as.
* `Readable` — the addresses in a value can be read as the type says.

## Main results

* `Arrives.mono`, `Readable.mono` — both outlast record keeping.
* `Arrives.unique` — what a value arrives as is determined.
-/

namespace MessageBridge

/-! ## Types -/

/-- **Plain**: a scalar that takes room, an address that is not followed into a struct, or a struct of
such that is laid out by the C rules. -/
inductive Descriptor.Plain : Descriptor → Prop
  | scalar {encoding : String} {p : Primitive} (hp : p ≠ .void) : Plain (.mk encoding (.scalar p))
  | address {encoding : String} {s : Shape} (hs : s.isAddress = true)
      (hl : (Descriptor.mk encoding s).layout? = none) : Plain (.mk encoding s)
  | struct {encoding name : String} {fields : List (Option String × Descriptor)}
      (hfields : ∀ f ∈ fields, Plain f.2) : Plain (.mk encoding (.aggregate (.ofFields name fields)))

/-- **Laid**: a type whose structs are laid out by the C rules at any depth, also behind pointers. -/
inductive Descriptor.Laid : Descriptor → Prop
  | scalar {encoding : String} {p : Primitive} (hp : p ≠ .void) : Laid (.mk encoding (.scalar p))
  | address {encoding : String} {s : Shape} (hs : s.isAddress = true)
      (hl : (Descriptor.mk encoding s).layout? = none) : Laid (.mk encoding s)
  | struct {encoding name : String} {fields : List (Option String × Descriptor)}
      (hfields : ∀ f ∈ fields, Laid f.2) : Laid (.mk encoding (.aggregate (.ofFields name fields)))
  | pointee {encoding name : String} {n : Nat} {fields : List (Option String × Descriptor)}
      (hfields : ∀ f ∈ fields, Laid f.2) :
      Laid (.mk encoding (.pointer n (some (.ofFields name fields))))

lemma Descriptor.Plain.laid {d : Descriptor} (hd : d.Plain) : d.Laid := by
  induction hd with
  | scalar hp => exact .scalar hp
  | address hs hl => exact .address hs hl
  | struct _ ih => exact .struct ih

lemma Descriptor.Plain.isVoid {d : Descriptor} (hd : d.Plain) : d.isVoid = false := by
  cases hd with
  | @scalar _ p hp => simpa [Descriptor.isVoid, Descriptor.scalar?, Descriptor.shape] using hp
  | @address _ s hs => cases s <;> first | rfl | cases hs
  | struct => rfl

/-- Whether a native value of this shape is the address of an object. -/
def Shape.isReference : Shape → Bool
  | .object _ | .classRef => true
  | _ => false

lemma Shape.isAddress_of_isReference {s : Shape} (h : s.isReference = true) : s.isAddress = true := by
  cases s <;> first | rfl | cases h

/-- An address is not written in place. -/
lemma Shape.not_isInline {s : Shape} (h : s.isAddress = true) : ¬s.isInline = true := by
  rw [isInline, h]
  decide

mutual

/-- Whether a value of this shape holds no address that is passed as it is: neither the shape nor any
field is a pointer. -/
def Shape.isPointerFree : Shape → Bool
  | .pointer _ _ => false
  | .aggregate l => l.isPointerFree
  | .scalar _ | .object _ | .classRef | .selector | .cString => true

/-- The same for all fields of a struct. -/
def Layout.isPointerFree : Layout → Bool
  | .mk _ fields _ _ => Field.arePointerFree fields

/-- The same for fields. -/
def Field.arePointerFree : List Field → Bool
  | [] => true
  | .mk _ _ (.mk _ shape) :: fields => shape.isPointerFree && Field.arePointerFree fields

end

mutual

/-- The value of a shape that is zero in every byte. -/
def Shape.zero : Shape → Value
  | .scalar p => p.zero
  | .aggregate l => l.zero
  | .object _ | .classRef | .selector | .cString | .pointer _ _ => .nil

/-- The struct that is zero in every byte. -/
def Layout.zero : Layout → Value
  | .mk name fields size alignment => .struct (.mk name fields size alignment) (Field.zeros fields)

/-- The values of fields that are zero in every byte. -/
def Field.zeros : List Field → List Value
  | [] => []
  | .mk _ _ (.mk _ shape) :: fields => shape.zero :: Field.zeros fields

end

lemma Field.length_zeros (fields : List Field) : (zeros fields).length = fields.length := by
  induction fields with
  | nil => rfl
  | cons f fields ih =>
    obtain ⟨name, offset, ⟨encoding, shape⟩⟩ := f
    rw [zeros, List.length_cons, List.length_cons, ih]

/-! ## Addresses -/

/-- The address that a value stands for. -/
def Value.address? : Value → Option Address
  | .nil => some 0
  | .pointer a => some a
  | .object r => some r.address
  | _ => none

/-- A name is no address. -/
lemma Value.address?_of_toText? {v : Value} {name : String} (h : v.toText? = some name) :
    v.address? = none := by
  cases v <;> first | rfl | cases h

/-- Whether what lies at an address can be read as the shape says: an object, a selector or a text. An
address that is not followed need not lead anywhere. -/
def Bridge.CanRead (b : Bridge) (ctx : ContextId) (s : Shape) (a : Address) : Prop :=
  match s with
  | .object _ | .classRef => (b.current? ctx a).isSome ∨ (b.space.isClass? a).isSome
  | .selector => (b.space.selectors.ofAddress? a).isSome
  | .cString => (b.space.readString? a).isSome
  | _ => True

lemma Bridge.CanRead.mono {b b' : Bridge} {ctx : ContextId} {s : Shape} {a : Address}
    (hkeeps : b.Keeps b') (h : b.CanRead ctx s a) : b'.CanRead ctx s a := by
  cases s with
  | object | classRef =>
    refine h.imp (fun h => ?_) fun h => ?_
    · obtain ⟨r, hr⟩ := Option.isSome_iff_exists.mp h
      exact Option.isSome_iff_exists.mpr ⟨r, hkeeps.refs hr⟩
    · obtain ⟨isClass, ho⟩ := Option.isSome_iff_exists.mp h
      exact Option.isSome_iff_exists.mpr ⟨isClass, hkeeps.objects ho⟩
  | selector =>
    obtain ⟨sel, hsel⟩ := Option.isSome_iff_exists.mp h
    exact Option.isSome_iff_exists.mpr
      ⟨sel, (SelectorTable.ofAddress?_of_extends hkeeps.selectors hsel).1⟩
  | cString =>
    obtain ⟨bytes, ht⟩ := Option.isSome_iff_exists.mp h
    exact Option.isSome_iff_exists.mpr ⟨bytes, hkeeps.texts ht⟩
  | scalar | pointer | aggregate => trivial

section Values

variable (ctx : ContextId)

mutual

/-- **Readable**: every address in a value is null, or can be read as the shape says. -/
inductive Readable (b : Bridge) : Shape → Value → Prop
  | nil {s : Shape} : Readable b s .nil
  | scalar {p : Primitive} {v : Value} : Readable b (.scalar p) v
  | address {s : Shape} {v : Value} (hs : s.isAddress = true)
      (h : ∀ a, v.address? = some a → a ≠ 0 → b.CanRead ctx s a) : Readable b s v
  | struct {l layout : Layout} {vs : List Value} (h : ReadableFields b l.fields vs) :
      Readable b (.aggregate l) (.struct layout vs)

/-- The same for the values of fields. -/
inductive ReadableFields (b : Bridge) : List Field → List Value → Prop
  | nil : ReadableFields b [] []
  | cons {f : Field} {fields : List Field} {v : Value} {vs : List Value}
      (h : Readable b f.descriptor.shape v) (hs : ReadableFields b fields vs) :
      ReadableFields b (f :: fields) (v :: vs)

end

mutual

/-- **Arrives**: passed in the state `b` as the shape says, and read in the state `b'`, a value is what
the second value is. -/
inductive Arrives (b b' : Bridge) : Shape → Value → Value → Prop
  /-- A number or a truth value is converted to the type. -/
  | scalar {p : Primitive} {v w : Value} (h : p.norm? v = some w) : Arrives b b' (.scalar p) v w
  /-- Where nothing is passed, nil arrives. -/
  | void {v : Value} : Arrives b b' (.scalar .void) v .nil
  /-- Nil in a struct is zero where the value is written in place. -/
  | zero {s : Shape} (hs : s.isInline = true) : Arrives b b' s .nil s.zero
  /-- The null address is nil. -/
  | null {s : Shape} {v : Value} (hs : s.isAddress = true) (hv : v.address? = some 0) :
      Arrives b b' s v .nil
  /-- An object arrives as the reference that the context has for it. If the context had one before,
  it is still the same. -/
  | object {s : Shape} {v : Value} {a : Address} {r : ObjectRef} (hs : s.isReference = true)
      (hv : v.address? = some a) (ha : a ≠ 0) (hr : b'.current? ctx a = some r)
      (hsame : ∀ r', b.current? ctx a = some r' → r = r') : Arrives b b' s v (.object r)
  /-- A selector keeps its name. -/
  | selector {v : Value} {name : String} (hv : v.toText? = some name) :
      Arrives b b' .selector v (.selector name)
  /-- The address of a selector arrives as the selector. -/
  | selectorAt {v : Value} {a : Address} {sel : Selector} (hv : v.address? = some a) (ha : a ≠ 0)
      (h : b'.space.selectors.ofAddress? a = some sel) :
      Arrives b b' .selector v (.selector (b'.space.selectors.name sel))
  /-- A text stays the same. -/
  | text {text : String} : Arrives b b' .cString (.str text) (.str text)
  /-- The address of a text arrives as the text. -/
  | textAt {v : Value} {a : Address} {bytes : List UInt8} (hv : v.address? = some a) (ha : a ≠ 0)
      (h : b'.space.readString? a = some bytes) :
      Arrives b b' .cString v (.str (Text.ofUtf8Lossy bytes))
  /-- An address that is not followed stays the same. -/
  | pointer {n : Nat} {v : Value} {a : Address} (hv : v.address? = some a) (ha : a ≠ 0) :
      Arrives b b' (.pointer n none) v (.pointer a)
  /-- A text arrives as the address where it lies. -/
  | storedText {n : Nat} {text : String} {a : Address} (ha : a ≠ 0)
      (h : b'.space.readString? a = some (Text.toUtf8 text)) :
      Arrives b b' (.pointer n none) (.str text) (.pointer a)
  /-- A struct arrives as the address where it lies. -/
  | storedStruct {n : Nat} {layout : Layout} {vs : List Value} {a : Address} (ha : a ≠ 0) :
      Arrives b b' (.pointer n none) (.struct layout vs) (.pointer a)
  /-- A struct arrives field by field, with the declared layout. -/
  | struct {l layout : Layout} {vs ws : List Value} (h : ArriveFields b b' l.fields vs ws) :
      Arrives b b' (.aggregate l) (.struct layout vs) (.struct l ws)

/-- The same for the values of fields. -/
inductive ArriveFields (b b' : Bridge) : List Field → List Value → List Value → Prop
  | nil : ArriveFields b b' [] [] []
  | cons {f : Field} {fields : List Field} {v w : Value} {vs ws : List Value}
      (h : Arrives b b' f.descriptor.shape v w) (hs : ArriveFields b b' fields vs ws) :
      ArriveFields b b' (f :: fields) (v :: vs) (w :: ws)

end

end Values

section Mono

variable {ctx : ContextId} {b b' b'' : Bridge}

mutual

/-- **What can be read** can still be read after record keeping. -/
theorem Readable.mono (hkeeps : b.Keeps b') {s : Shape} {v : Value} (h : Readable ctx b s v) :
    Readable ctx b' s v := by
  cases h with
  | nil => exact .nil
  | scalar => exact .scalar
  | address hs h => exact .address hs fun a hv ha => (h a hv ha).mono hkeeps
  | struct h => exact .struct (h.mono hkeeps)

theorem ReadableFields.mono (hkeeps : b.Keeps b') {fields : List Field} {vs : List Value}
    (h : ReadableFields ctx b fields vs) : ReadableFields ctx b' fields vs := by
  cases h with
  | nil => exact .nil
  | cons h hs => exact .cons (h.mono hkeeps) (hs.mono hkeeps)

end

mutual

/-- **What arrived** is still the same after record keeping. -/
theorem Arrives.mono (hkeeps : b'.Keeps b'') {s : Shape} {v w : Value}
    (h : Arrives ctx b b' s v w) : Arrives ctx b b'' s v w := by
  cases h with
  | scalar h => exact .scalar h
  | void => exact .void
  | zero hs => exact .zero hs
  | null hs hv => exact .null hs hv
  | object hs hv ha hr hsame => exact .object hs hv ha (hkeeps.refs hr) hsame
  | selector hv => exact .selector hv
  | selectorAt hv ha h =>
    obtain ⟨hsel, hname⟩ := SelectorTable.ofAddress?_of_extends hkeeps.selectors h
    rw [← hname]
    exact .selectorAt hv ha hsel
  | text => exact .text
  | textAt hv ha h => exact .textAt hv ha (hkeeps.texts h)
  | pointer hv ha => exact .pointer hv ha
  | storedText ha h => exact .storedText ha (hkeeps.texts h)
  | storedStruct ha => exact .storedStruct ha
  | struct h => exact .struct (h.mono hkeeps)

theorem ArriveFields.mono (hkeeps : b'.Keeps b'') {fields : List Field} {vs ws : List Value}
    (h : ArriveFields ctx b b' fields vs ws) : ArriveFields ctx b b'' fields vs ws := by
  cases h with
  | nil => exact .nil
  | cons h hs => exact .cons (h.mono hkeeps) (hs.mono hkeeps)

end

/-- A scalar that is not nil arrives as what it becomes. -/
lemma Arrives.norm?_eq {p : Primitive} {v w : Value} (hp : p ≠ .void) (hv : v ≠ .nil)
    (h : Arrives ctx b b' (.scalar p) v w) : p.norm? v = some w := by
  cases h with
  | scalar h => exact h
  | void => exact absurd rfl hp
  | zero => exact absurd rfl hv
  | null hs => cases hs
  | object hs => cases hs

lemma Arrives.of_isVoid {d : Descriptor} {v : Value} (h : d.isVoid = true) :
    Arrives ctx b b' d.shape v .nil := by
  obtain ⟨encoding, shape⟩ := d
  cases shape with
  | scalar p =>
    obtain rfl : p = .void := by
      simpa [Descriptor.isVoid, Descriptor.scalar?, Descriptor.shape] using h
    exact .void
  | object | classRef | selector | cString | pointer | aggregate => cases h

lemma ArriveFields.length_eq {fields : List Field} {vs ws : List Value}
    (h : ArriveFields ctx b b' fields vs ws) : ws.length = fields.length := by
  induction ws generalizing fields vs with
  | nil =>
    cases h with
    | nil => rfl
  | cons w ws ih =>
    cases h with
    | cons _ hs => rw [List.length_cons, List.length_cons, ih hs]

mutual

/-- **Uniqueness**: what a value arrives as is determined, but for the places where texts and structs
are stored for a pointer. -/
theorem Arrives.unique {s : Shape} {v w w' : Value} (hfree : s.isPointerFree = true)
    (h : Arrives ctx b b' s v w) (h' : Arrives ctx b b' s v w') : w = w' := by
  cases h with
  | @scalar p _ _ h =>
    cases h' with
    | scalar h' => exact Option.some.inj (h.symm.trans h')
    | void => cases h
    | zero => rw [p.norm?_nil] at h; cases h
    | null hs => cases hs
    | object hs => cases hs
  | void =>
    cases h' with
    | scalar h' => cases h'
    | void | zero => rfl
    | null hs => cases hs
    | object hs => cases hs
  | zero hin =>
    cases h' with
    | @scalar p _ _ h' => rw [p.norm?_nil] at h'; cases h'
    | void | zero => rfl
    | null hs => exact absurd hin (Shape.not_isInline hs)
    | object hs => exact absurd hin (Shape.not_isInline (Shape.isAddress_of_isReference hs))
    | selector | selectorAt | textAt | pointer => cases hin
  | null hs hv =>
    cases h' with
    | scalar | void | struct => cases hs
    | zero hin => exact absurd hin (Shape.not_isInline hs)
    | null => rfl
    | object _ hv' ha | selectorAt hv' ha | textAt hv' ha =>
      exact absurd (Option.some.inj (hv'.symm.trans hv)) ha
    | selector hv' => rw [Value.address?_of_toText? hv'] at hv; cases hv
    | text => cases hv
    | pointer | storedText | storedStruct => cases hfree
  | object hs hv ha hr =>
    cases h' with
    | scalar | void | selector | selectorAt | text | textAt | pointer | storedText | storedStruct
    | struct => cases hs
    | zero hin => exact absurd hin (Shape.not_isInline (Shape.isAddress_of_isReference hs))
    | null _ hv' => exact absurd (Option.some.inj (hv.symm.trans hv')) ha
    | object _ hv' _ hr' =>
      obtain rfl := Option.some.inj (hv.symm.trans hv')
      rw [Option.some.inj (hr.symm.trans hr')]
  | selector hv =>
    cases h' with
    | zero hin => cases hin
    | null _ hv' | selectorAt hv' => rw [Value.address?_of_toText? hv] at hv'; cases hv'
    | object hs => cases hs
    | selector hv' => rw [Option.some.inj (hv.symm.trans hv')]
  | selectorAt hv ha h =>
    cases h' with
    | zero hin => cases hin
    | null _ hv' => exact absurd (Option.some.inj (hv.symm.trans hv')) ha
    | object hs => cases hs
    | selector hv' => rw [Value.address?_of_toText? hv'] at hv; cases hv
    | selectorAt hv' _ h' =>
      obtain rfl := Option.some.inj (hv.symm.trans hv')
      rw [Option.some.inj (h.symm.trans h')]
  | text =>
    cases h' with
    | null _ hv | textAt hv => cases hv
    | object hs => cases hs
    | text => rfl
  | textAt hv ha h =>
    cases h' with
    | zero hin => cases hin
    | null _ hv' => exact absurd (Option.some.inj (hv.symm.trans hv')) ha
    | object hs => cases hs
    | text => cases hv
    | textAt hv' _ h' =>
      obtain rfl := Option.some.inj (hv.symm.trans hv')
      rw [Option.some.inj (h.symm.trans h')]
  | pointer | storedText | storedStruct => cases hfree
  | @struct l _ _ _ h =>
    cases h' with
    | null hs => cases hs
    | object hs => cases hs
    | struct h' =>
      obtain ⟨name, fields, size, alignment⟩ := l
      rw [h.unique hfree h']

theorem ArriveFields.unique {fields : List Field} {vs ws ws' : List Value}
    (hfree : Field.arePointerFree fields = true) (h : ArriveFields ctx b b' fields vs ws)
    (h' : ArriveFields ctx b b' fields vs ws') : ws = ws' := by
  cases h with
  | nil =>
    cases h' with
    | nil => rfl
  | @cons f fields v w vs ws h hfields =>
    obtain ⟨name, offset, ⟨encoding, shape⟩⟩ := f
    obtain ⟨hshape, hrest⟩ := Bool.and_eq_true_iff.mp hfree
    cases h' with
    | cons h' hfields' => rw [h.unique hshape h', hfields.unique hrest hfields']

end

end Mono

end MessageBridge
