/-!
# Text as bytes

Texts cross the call boundary as UTF-8 bytes. Bytes that come back need not be valid, and each
invalid stretch then reads as one replacement character.

## Main definitions

* `Text.toUtf8` : the bytes of a text.
* `Text.ofUtf8Lossy` : the text of arbitrary bytes.
-/

namespace MessageBridge.Text

/-- The UTF-8 bytes of the text. -/
def toUtf8 (s : String) : List UInt8 := s.toList.flatMap String.utf8EncodeChar

/-- Whether the text holds a NUL character, so that it cannot be passed as a C string. -/
def hasNul (s : String) : Bool := s.toList.contains '\x00'

/-- The character that stands for bytes that are no UTF-8. -/
def replacement : Char := '\ufffd'

/-- Whether a byte continues a multibyte character. -/
def isContinuation (b : UInt8) : Bool := 0x80 ≤ b && b ≤ 0xbf

/-- Whether `b₁` may follow the lead byte `b` of a character of three or four bytes: overlong forms,
surrogates and numbers beyond the last code point are refused here. -/
def isSecond (b b₁ : UInt8) : Bool :=
  if b = 0xe0 then 0xa0 ≤ b₁ && b₁ ≤ 0xbf
  else if b = 0xed then 0x80 ≤ b₁ && b₁ ≤ 0x9f
  else if b = 0xf0 then 0x90 ≤ b₁ && b₁ ≤ 0xbf
  else if b = 0xf4 then 0x80 ≤ b₁ && b₁ ≤ 0x8f
  else isContinuation b₁

/-- The payload bits of a continuation byte, above those read so far. -/
def extend (n : Nat) (b : UInt8) : Nat := n * 64 + (b.toNat - 0x80)

/-- Reads one character that starts with the byte `b`, and says how many of the bytes after `b`
belong to it. An invalid character takes the bytes up to the first one that cannot continue it. -/
def readChar (b : UInt8) (rest : List UInt8) : Char × Nat :=
  if b < 0x80 then (Char.ofNat b.toNat, 0)
  else if 0xc2 ≤ b && b ≤ 0xdf then
    match rest with
    | b₁ :: _ =>
      if isContinuation b₁ then (Char.ofNat (extend (b.toNat - 0xc0) b₁), 1) else (replacement, 0)
    | [] => (replacement, 0)
  else if 0xe0 ≤ b && b ≤ 0xef then
    match rest with
    | b₁ :: r₁ =>
      if isSecond b b₁ then
        match r₁ with
        | b₂ :: _ =>
          if isContinuation b₂ then (Char.ofNat (extend (extend (b.toNat - 0xe0) b₁) b₂), 2)
          else (replacement, 1)
        | [] => (replacement, 1)
      else (replacement, 0)
    | [] => (replacement, 0)
  else if 0xf0 ≤ b && b ≤ 0xf4 then
    match rest with
    | b₁ :: r₁ =>
      if isSecond b b₁ then
        match r₁ with
        | b₂ :: r₂ =>
          if isContinuation b₂ then
            match r₂ with
            | b₃ :: _ =>
              if isContinuation b₃ then
                (Char.ofNat (extend (extend (extend (b.toNat - 0xf0) b₁) b₂) b₃), 3)
              else (replacement, 2)
            | [] => (replacement, 2)
          else (replacement, 1)
        | [] => (replacement, 1)
      else (replacement, 0)
    | [] => (replacement, 0)
  else (replacement, 0)

/-- The characters of the bytes after the first `skip`, invalid ones replaced. -/
def decodeFrom (skip : Nat) : List UInt8 → List Char
  | [] => []
  | b :: rest =>
    match skip with
    | k + 1 => decodeFrom k rest
    | 0 =>
      let (c, k) := readChar b rest
      c :: decodeFrom k rest

/-- The text of arbitrary bytes, in which each invalid stretch is one replacement character. -/
def ofUtf8Lossy (bytes : List UInt8) : String := String.ofList (decodeFrom 0 bytes)

/-- The text of the bytes, if they are valid UTF-8. -/
def ofUtf8? (bytes : List UInt8) : Option String :=
  let s := ofUtf8Lossy bytes
  if toUtf8 s = bytes then some s else none

end MessageBridge.Text
