import MessageBridge.Encoding.Reader
import MessageBridge.Encoding.Signature

/-!
# Translating encodings

A translator reads type encodings against a table of registered struct layouts. Registration is the
only state, and the latest layout of a name counts.

## Main definitions

* `Translator` : the table; `Translator.insert` and `Translator.layout?`.
* `Translator.translate` : the descriptor of one type encoding.
* `Translator.split`, `Translator.parseSignature` : the descriptors and the signature of a type
  string, whose types may each be followed by a stack offset.
-/

namespace MessageBridge

/-- A table of registered struct layouts, the latest first. -/
structure Translator where
  layouts : List Layout := []

namespace Translator

open Encoding

/-- The layout registered under the name. -/
def layout? (t : Translator) (name : String) : Option Layout :=
  t.layouts.find? (·.name == name)

/-- Registers a layout under its own name. -/
def insert (t : Translator) (layout : Layout) : Translator :=
  ⟨layout :: t.layouts⟩

@[simp] theorem layout?_insert_self (t : Translator) (l : Layout) :
    (t.insert l).layout? l.name = some l := by
  simp [insert, layout?]

theorem layout?_insert_of_ne (t : Translator) {l : Layout} {name : String} (h : l.name ≠ name) :
    (t.insert l).layout? name = t.layout? name := by
  simp [insert, layout?, h]

/-- Reads one type at the front of the characters. -/
def readOne (t : Translator) : Reader Descriptor := fun s => do
  refuseUnsupported s
  readType t.layout? (s.length + 1) false s

/-- The descriptor of a type encoding, which must be read to its end. -/
def translate (t : Translator) (encoding : String) : Except Error Descriptor :=
  match t.readOne encoding.toList with
  | .ok (d, []) => .ok d
  | .ok (_, rest) => .error (Refusal.toError encoding (.malformed .trailingCharacters rest))
  | .error refusal => .error (refusal.toError encoding)

/-- The descriptors of several type encodings, in order. -/
def translateAll (t : Translator) (encodings : List String) : Except Error (List Descriptor) :=
  encodings.mapM t.translate

/-- Reads types one after another, each with the stack offset after it, at most `count` of them. -/
def readAll (t : Translator) : Nat → List Char → Except Refusal (List Descriptor)
  | 0, _ => .ok []
  | count + 1, s =>
    match s with
    | [] => .ok []
    | _ :: _ => do
      let (d, rest) ← t.readOne s
      let ds ← t.readAll count (skipOffset rest)
      return d :: ds

/-- The descriptors of a type string. -/
def split (t : Translator) (types : String) : Except Error (List Descriptor) :=
  (t.readAll types.toList.length types.toList).mapError (Refusal.toError types)

/-- The signature of a method type string. -/
def parseSignature (t : Translator) (types : String) : Except Error Signature := do
  match ← t.split types with
  | [] => throw (.invalidSignature types)
  | ret :: args =>
    let s : Signature := ⟨ret, args⟩
    if s.isMethod then return s else throw (.invalidSignature types)

/-- The method signature whose types are given one by one. -/
def signatureOfParts (t : Translator) (ret : String) (args : List String) :
    Except Error Signature := do
  let ret ← t.translate ret
  let args ← t.translateAll args
  Signature.method ret args

/-- The signature of a function whose types are given one by one. -/
def functionSignature (t : Translator) (ret : String) (args : List String) :
    Except Error Signature := do
  let ret ← t.translate ret
  let args ← t.translateAll args
  return ⟨ret, args⟩

/-- The layout of an encoding that must be a struct passed by value. -/
def structLayout (t : Translator) (encoding : String) : Except Error Layout := do
  match (← t.translate encoding).shape with
  | .aggregate layout => return layout
  | _ => throw (.malformedEncoding encoding "expected a struct encoding")

/-- Reads a struct encoding and registers its layout. -/
def register (t : Translator) (encoding : String) : Except Error (Layout × Translator) := do
  let layout ← t.structLayout encoding
  return (layout, t.insert layout)

end Translator

end MessageBridge
