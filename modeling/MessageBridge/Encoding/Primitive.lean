/-!
# Scalar types

The fourteen scalar types of the encoding grammar, with the one-letter codes that denote them.
A 64-bit platform is assumed: `long` and pointers take eight bytes.

## Main definitions

* `Primitive` : the scalar types; `Primitive.code` and `Primitive.ofCode?` go between a type and
  its letter.
* `Primitive.size` : the native width in bytes.
* `wordSize` : the width of a pointer.
-/

namespace MessageBridge

/-- The width of a pointer, and of a register, in bytes. -/
def wordSize : Nat := 8

/-- A scalar type of fixed width. -/
inductive Primitive where
  | char
  | uchar
  | short
  | ushort
  | int
  | uint
  | long
  | ulong
  | longLong
  | ulongLong
  | float
  | double
  | bool
  | void
deriving DecidableEq, Repr

namespace Primitive

/-- The letter that denotes the type in an encoding. -/
def code : Primitive → Char
  | char => 'c'
  | uchar => 'C'
  | short => 's'
  | ushort => 'S'
  | int => 'i'
  | uint => 'I'
  | long => 'l'
  | ulong => 'L'
  | longLong => 'q'
  | ulongLong => 'Q'
  | float => 'f'
  | double => 'd'
  | bool => 'B'
  | void => 'v'

/-- All scalar types. -/
def all : List Primitive :=
  [char, uchar, short, ushort, int, uint, long, ulong, longLong, ulongLong, float, double, bool,
    void]

theorem mem_all (p : Primitive) : p ∈ all := by
  cases p <;> decide

/-- The scalar type that a letter denotes. -/
def ofCode? (c : Char) : Option Primitive :=
  all.find? (·.code == c)

@[simp] theorem ofCode?_code (p : Primitive) : ofCode? p.code = some p := by
  cases p <;> rfl

theorem code_of_ofCode?_eq_some {c : Char} {p : Primitive} (h : ofCode? c = some p) :
    p.code = c := by
  simpa using List.find?_some h

/-- The native width in bytes. `void` has none. -/
def size : Primitive → Nat
  | char | uchar | bool => 1
  | short | ushort => 2
  | int | uint | float => 4
  | long | ulong | longLong | ulongLong | double => 8
  | void => 0

/-- The natural alignment: the width, except that `void` counts as one byte. -/
def alignment (p : Primitive) : Nat := max p.size 1

/-- Whether the type is a signed integer. -/
def isSigned : Primitive → Bool
  | char | short | int | long | longLong => true
  | _ => false

/-- Whether the type is a floating-point number. -/
def isFloat : Primitive → Bool
  | float | double => true
  | _ => false

/-- Whether a return value of this type fills a whole register although it is narrower. -/
def isWidened (p : Primitive) : Bool :=
  !p.isFloat && p != void && p.size < wordSize

/-- The name of the type in descriptions. -/
def name : Primitive → String
  | char => "Char"
  | uchar => "UChar"
  | short => "Short"
  | ushort => "UShort"
  | int => "Int"
  | uint => "UInt"
  | long => "Long"
  | ulong => "ULong"
  | longLong => "LongLong"
  | ulongLong => "ULongLong"
  | float => "Float"
  | double => "Double"
  | bool => "Bool"
  | void => "Void"

end Primitive

end MessageBridge
