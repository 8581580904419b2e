import MessageBridge.Encoding.Primitive

/-!
# Descriptors and layouts

A `Descriptor` is the native shape that one type encoding denotes, and a `Layout` is the C layout
of a struct. The two refer to each other: a struct passed by value is described by its layout, and
the fields of a layout are descriptors.

## Main definitions

* `Shape` : how a value crosses the call boundary; `Descriptor` pairs it with its encoding.
* `Layout.ofFields` : lays fields out by the C rules, each at the next multiple of its alignment
  and the whole rounded up to the largest alignment.

## Main results

* `Descriptor.same_iff`, `Layout.same_iff` : the structural tests decide equality, so descriptors
  and layouts have decidable equality.
-/

namespace MessageBridge

mutual

/-- The native shape of one type encoding, with the text it was read from. -/
inductive Descriptor where
  | mk (encoding : String) (shape : Shape)

/-- How a value crosses the call boundary. A pointer to one struct of a registered layout carries
that layout. -/
inductive Shape where
  | scalar (p : Primitive)
  | object (className : Option String)
  | classRef
  | selector
  | cString
  | pointer (levels : Nat) (pointee : Option Layout)
  | aggregate (layout : Layout)

/-- The C layout of a struct. -/
inductive Layout where
  | mk (name : String) (fields : List Field) (size alignment : Nat)

/-- One field of a layout, at a byte offset from the start of the struct. -/
inductive Field where
  | mk (name : Option String) (offset : Nat) (descriptor : Descriptor)

end

namespace Field

/-- The name, where the encoding gives one. -/
def name : Field → Option String
  | mk n _ _ => n

/-- The byte offset inside the struct. -/
def offset : Field → Nat
  | mk _ o _ => o

/-- The shape of the field. -/
def descriptor : Field → Descriptor
  | mk _ _ d => d

end Field

namespace Layout

/-- The name of the struct. -/
def name : Layout → String
  | mk n _ _ _ => n

/-- The fields in declaration order. -/
def fields : Layout → List Field
  | mk _ fs _ _ => fs

/-- The size in bytes, tail padding included. -/
def size : Layout → Nat
  | mk _ _ s _ => s

/-- The alignment in bytes. -/
def alignment : Layout → Nat
  | mk _ _ _ a => a

/-- The position of the first field called `name`. -/
def fieldIndex? (l : Layout) (name : String) : Option Nat :=
  l.fields.findIdx? (fun f => f.name == some name)

end Layout

namespace Shape

/-- The size of a native value of this shape. -/
def size : Shape → Nat
  | scalar p => p.size
  | aggregate l => l.size
  | _ => wordSize

/-- The alignment of a native value of this shape. -/
def alignment : Shape → Nat
  | scalar p => p.alignment
  | aggregate l => l.alignment
  | _ => wordSize

/-- The name of the shape in descriptions. -/
def kindName : Shape → String
  | scalar p => p.name
  | object _ => "Object"
  | classRef => "Class"
  | selector => "Selector"
  | cString => "CString"
  | pointer _ _ => "Pointer"
  | aggregate _ => "Aggregate"

/-- Whether a native value of this shape is an address. -/
def isAddress : Shape → Bool
  | scalar _ | aggregate _ => false
  | _ => true

end Shape

namespace Descriptor

/-- The encoding without its leading qualifiers. -/
def encoding : Descriptor → String
  | mk e _ => e

/-- How the value crosses the call boundary. -/
def shape : Descriptor → Shape
  | mk _ s => s

/-- The descriptor of a scalar. -/
def scalar (p : Primitive) : Descriptor := mk (String.singleton p.code) (.scalar p)

/-- The descriptor of a plain object reference. -/
def object : Descriptor := mk "@" (.object none)

/-- The descriptor of a selector. -/
def selector : Descriptor := mk ":" .selector

/-- The size of a native value in bytes. -/
def size (d : Descriptor) : Nat := d.shape.size

/-- The alignment of a native value in bytes. -/
def alignment (d : Descriptor) : Nat := d.shape.alignment

/-- The scalar type, if the descriptor is a scalar. -/
def scalar? (d : Descriptor) : Option Primitive :=
  match d.shape with
  | .scalar p => some p
  | _ => none

/-- The layout of an aggregate, or of the struct that a pointer points at. -/
def layout? (d : Descriptor) : Option Layout :=
  match d.shape with
  | .aggregate l => some l
  | .pointer _ l => l
  | _ => none

/-- The number of pointer levels, zero for anything that is no pointer. -/
def indirection (d : Descriptor) : Nat :=
  match d.shape with
  | .pointer n _ => n
  | _ => 0

/-- The class that an object encoding names. -/
def className? (d : Descriptor) : Option String :=
  match d.shape with
  | .object c => c
  | _ => none

/-- Whether the descriptor is `void`. -/
def isVoid (d : Descriptor) : Bool := d.scalar? == some .void

end Descriptor

/-! ## Layout by the C rules -/

/-- The least multiple of `a` that is at least `n`, for a positive `a`. -/
def roundUp (n a : Nat) : Nat :=
  if n % a = 0 then n else n + (a - n % a)

namespace Layout

/-- Places fields one after another from `start`, each at the next multiple of its alignment, and
returns them with the offset just past the last one. -/
def place (start : Nat) : List (Option String × Descriptor) → List Field × Nat
  | [] => ([], start)
  | (name, d) :: rest =>
    let offset := roundUp start d.alignment
    let (fields, stop) := place (offset + d.size) rest
    (.mk name offset d :: fields, stop)

/-- The largest alignment among the fields, at least one byte. -/
def maxAlignment (fields : List (Option String × Descriptor)) : Nat :=
  fields.foldl (fun a f => max a f.2.alignment) 1

/-- The struct `name` with the given fields, laid out by the C rules. -/
def ofFields (name : String) (fields : List (Option String × Descriptor)) : Layout :=
  let align := maxAlignment fields
  let (placed, stop) := place 0 fields
  .mk name placed (roundUp stop align) align

theorem length_place (start : Nat) (fields : List (Option String × Descriptor)) :
    (place start fields).1.length = fields.length := by
  induction fields generalizing start with
  | nil => rfl
  | cons f fields ih => simp [place, ih]

theorem length_fields_ofFields (name : String) (fields : List (Option String × Descriptor)) :
    (ofFields name fields).fields.length = fields.length :=
  length_place 0 fields

end Layout

/-! ## Decidable equality -/

mutual

/-- Structural equality of descriptors. -/
def Descriptor.same : Descriptor → Descriptor → Bool
  | ⟨e, s⟩, ⟨e', s'⟩ => e == e' && s.same s'

/-- Structural equality of shapes. -/
def Shape.same : Shape → Shape → Bool
  | .scalar p, .scalar q => p == q
  | .object c, .object c' => c == c'
  | .classRef, .classRef => true
  | .selector, .selector => true
  | .cString, .cString => true
  | .pointer n l, .pointer n' l' => n == n' && Layout.sameOption l l'
  | .aggregate l, .aggregate l' => l.same l'
  | _, _ => false

/-- Structural equality of layouts. -/
def Layout.same : Layout → Layout → Bool
  | ⟨n, fs, s, a⟩, ⟨n', fs', s', a'⟩ => n == n' && s == s' && a == a' && Field.sameAll fs fs'

/-- Structural equality of optional layouts. -/
def Layout.sameOption : Option Layout → Option Layout → Bool
  | none, none => true
  | some l, some l' => l.same l'
  | _, _ => false

/-- Structural equality of lists of fields. -/
def Field.sameAll : List Field → List Field → Bool
  | [], [] => true
  | f :: fs, g :: gs => f.same g && Field.sameAll fs gs
  | _, _ => false

/-- Structural equality of fields. -/
def Field.same : Field → Field → Bool
  | ⟨n, o, d⟩, ⟨n', o', d'⟩ => n == n' && o == o' && d.same d'

end

mutual

theorem Descriptor.same_iff : ∀ {d d' : Descriptor}, d.same d' = true ↔ d = d'
  | ⟨e, s⟩, ⟨e', s'⟩ => by simp [Descriptor.same, @Shape.same_iff s s']

theorem Shape.same_iff : ∀ {s s' : Shape}, s.same s' = true ↔ s = s'
  | .scalar p, s' => by cases s' <;> simp [Shape.same]
  | .object c, s' => by cases s' <;> simp [Shape.same]
  | .classRef, s' => by cases s' <;> simp [Shape.same]
  | .selector, s' => by cases s' <;> simp [Shape.same]
  | .cString, s' => by cases s' <;> simp [Shape.same]
  | .pointer n l, s' => by
    cases s' with
    | pointer n' l' => simp [Shape.same, @Layout.sameOption_iff l l']
    | _ => simp [Shape.same]
  | .aggregate l, s' => by
    cases s' with
    | aggregate l' => simp [Shape.same, @Layout.same_iff l l']
    | _ => simp [Shape.same]

theorem Layout.same_iff : ∀ {l l' : Layout}, l.same l' = true ↔ l = l'
  | ⟨n, fs, s, a⟩, ⟨n', fs', s', a'⟩ => by
    simp only [Layout.same, Bool.and_eq_true, beq_iff_eq, Layout.mk.injEq,
      @Field.sameAll_iff fs fs']
    constructor
    · rintro ⟨⟨⟨h₁, h₂⟩, h₃⟩, h₄⟩; exact ⟨h₁, h₄, h₂, h₃⟩
    · rintro ⟨h₁, h₄, h₂, h₃⟩; exact ⟨⟨⟨h₁, h₂⟩, h₃⟩, h₄⟩

theorem Layout.sameOption_iff : ∀ {l l' : Option Layout}, Layout.sameOption l l' = true ↔ l = l'
  | none, none => by simp [Layout.sameOption]
  | some l, some l' => by simp [Layout.sameOption, @Layout.same_iff l l']
  | none, some _ => by simp [Layout.sameOption]
  | some _, none => by simp [Layout.sameOption]

theorem Field.sameAll_iff : ∀ {fs gs : List Field}, Field.sameAll fs gs = true ↔ fs = gs
  | [], [] => by simp [Field.sameAll]
  | f :: fs, g :: gs => by
    simp [Field.sameAll, @Field.same_iff f g, @Field.sameAll_iff fs gs]
  | [], _ :: _ => by simp [Field.sameAll]
  | _ :: _, [] => by simp [Field.sameAll]

theorem Field.same_iff : ∀ {f g : Field}, f.same g = true ↔ f = g
  | ⟨n, o, d⟩, ⟨n', o', d'⟩ => by
    simp [Field.same, @Descriptor.same_iff d d', and_assoc]

end

instance : DecidableEq Descriptor := fun _ _ => decidable_of_iff _ Descriptor.same_iff

instance : DecidableEq Layout := fun _ _ => decidable_of_iff _ Layout.same_iff

end MessageBridge
