import MessageBridge.Text.Utf8
import Mathlib.Tactic.Common

/-!
# Texts and their bytes

The bytes of a text are read back as the text: no character is taken for an invalid one, and each is
read with exactly the bytes that it was written in. A text without NUL has no zero among its bytes, so
that a C string does not end inside it.

## Main results

* `Text.readChar_utf8EncodeChar` — a character is read with the bytes that it was written in.
* `Text.ofUtf8Lossy_toUtf8` — so is a whole text.
* `Text.ne_zero_of_mem_toUtf8` — only NUL is written with a zero byte.
-/

namespace MessageBridge.Text

variable {n : Nat}

/-! ## Single bytes -/

lemma toNat_ofNat_of_lt (h : n < 256) : (UInt8.ofNat n).toNat = n := by
  rw [UInt8.toNat_ofNat']
  exact Nat.mod_eq_of_lt h

lemma not_ofNat_lt {hi : UInt8} (hn : n < 256) (h : hi.toNat ≤ n) : ¬UInt8.ofNat n < hi := by
  rw [UInt8.lt_iff_toNat_lt, toNat_ofNat_of_lt hn]
  omega

lemma between_ofNat {lo hi : UInt8} (hn : n < 256) (h : lo.toNat ≤ n ∧ n ≤ hi.toNat) :
    (decide (lo ≤ UInt8.ofNat n) && decide (UInt8.ofNat n ≤ hi)) = true := by
  rw [Bool.and_eq_true, decide_eq_true_eq, decide_eq_true_eq, UInt8.le_iff_toNat_le,
    UInt8.le_iff_toNat_le, toNat_ofNat_of_lt hn]
  exact h

lemma not_between_ofNat {lo hi : UInt8} (hn : n < 256) (h : hi.toNat < n) :
    ¬(decide (lo ≤ UInt8.ofNat n) && decide (UInt8.ofNat n ≤ hi)) = true := by
  rw [Bool.and_eq_true, decide_eq_true_eq, decide_eq_true_eq, UInt8.le_iff_toNat_le,
    UInt8.le_iff_toNat_le, toNat_ofNat_of_lt hn]
  omega

lemma ofNat_eq_iff {b : UInt8} (hn : n < 256) : UInt8.ofNat n = b ↔ n = b.toNat := by
  rw [← UInt8.toNat_inj, toNat_ofNat_of_lt hn]

/-- Six bits with the mark of a continuation byte are one. -/
lemma isContinuation_ofNat (n : Nat) : isContinuation (UInt8.ofNat (n % 64 + 0x80)) = true := by
  have hb : n % 64 + 0x80 < 256 := by omega
  exact between_ofNat hb ⟨Nat.le_add_left _ _, by change _ ≤ 0xbf; omega⟩

/-- The payload of a continuation byte are the six bits. -/
lemma extend_ofNat (m n : Nat) : extend m (UInt8.ofNat (n % 64 + 0x80)) = m * 64 + n % 64 := by
  have hb : n % 64 + 0x80 < 256 := by omega
  unfold extend
  rw [toNat_ofNat_of_lt hb]
  omega

/-! ## Characters -/

section Char

variable (c : Char) (rest : List UInt8)

/-- What a character cannot be: a surrogate, or beyond the last code point. -/
lemma val_lt : c.val.toNat < 0xd800 ∨ 0xdfff < c.val.toNat ∧ c.val.toNat < 0x110000 := c.valid

lemma readChar_one (h : c.val.toNat ≤ 0x7f) :
    readChar (UInt8.ofNat c.val.toNat) rest = (c, 0) := by
  have hb := toNat_ofNat_of_lt (n := c.val.toNat) (by omega)
  unfold readChar
  rw [if_pos (by rw [UInt8.lt_iff_toNat_lt, hb]; change _ < 0x80; omega), hb]
  exact congrArg (·, 0) (Char.ofNat_toNat c)

lemma readChar_two (h : 0x7f < c.val.toNat) (h' : c.val.toNat ≤ 0x7ff) :
    readChar (UInt8.ofNat (c.val.toNat / 64 % 0x20 + 0xc0))
      (UInt8.ofNat (c.val.toNat % 0x40 + 0x80) :: rest) = (c, 1) := by
  have hb : c.val.toNat / 64 % 0x20 + 0xc0 < 256 := by omega
  unfold readChar
  rw [if_neg (not_ofNat_lt hb (by change 0x80 ≤ _; omega)),
    if_pos (between_ofNat hb ⟨by change 0xc2 ≤ _; omega, by change _ ≤ 0xdf; omega⟩)]
  simp only [isContinuation_ofNat, if_true, extend_ofNat, toNat_ofNat_of_lt hb]
  rw [show (c.val.toNat / 64 % 0x20 + 0xc0 - 0xc0) * 64 + c.val.toNat % 64 = c.toNat by
    change _ = c.val.toNat; omega, Char.ofNat_toNat]

/-- The second of three bytes is one that may follow the first: the form is not overlong, and the
character is no surrogate. -/
lemma isSecond_three (h : 0x7ff < c.val.toNat) (h' : c.val.toNat ≤ 0xffff) :
    isSecond (UInt8.ofNat (c.val.toNat / 4096 % 0x10 + 0xe0))
      (UInt8.ofNat (c.val.toNat / 64 % 0x40 + 0x80)) = true := by
  have hb : c.val.toNat / 4096 % 0x10 + 0xe0 < 256 := by omega
  have hb₁ : c.val.toNat / 64 % 0x40 + 0x80 < 256 := by omega
  have hval := val_lt c
  unfold isSecond
  simp only [ofNat_eq_iff hb]
  split
  · next heq =>
    change _ = 0xe0 at heq
    exact between_ofNat hb₁ ⟨by change 0xa0 ≤ _; omega, by change _ ≤ 0xbf; omega⟩
  · split
    · next heq =>
      change _ = 0xed at heq
      exact between_ofNat hb₁ ⟨by change 0x80 ≤ _; omega, by change _ ≤ 0x9f; omega⟩
    · rw [if_neg (by change ¬_ = 0xf0; omega), if_neg (by change ¬_ = 0xf4; omega)]
      exact isContinuation_ofNat _

lemma readChar_three (h : 0x7ff < c.val.toNat) (h' : c.val.toNat ≤ 0xffff) :
    readChar (UInt8.ofNat (c.val.toNat / 4096 % 0x10 + 0xe0))
      (UInt8.ofNat (c.val.toNat / 64 % 0x40 + 0x80) ::
        UInt8.ofNat (c.val.toNat % 0x40 + 0x80) :: rest) = (c, 2) := by
  have hb : c.val.toNat / 4096 % 0x10 + 0xe0 < 256 := by omega
  unfold readChar
  rw [if_neg (not_ofNat_lt hb (by change 0x80 ≤ _; omega)),
    if_neg (not_between_ofNat hb (by change 0xdf < _; omega)),
    if_pos (between_ofNat hb ⟨by change 0xe0 ≤ _; omega, by change _ ≤ 0xef; omega⟩)]
  simp only [isSecond_three c h h', isContinuation_ofNat, if_true, extend_ofNat,
    toNat_ofNat_of_lt hb]
  rw [show ((c.val.toNat / 4096 % 0x10 + 0xe0 - 0xe0) * 64 + c.val.toNat / 64 % 64) * 64 +
    c.val.toNat % 64 = c.toNat by change _ = c.val.toNat; omega, Char.ofNat_toNat]

/-- The second of four bytes is one that may follow the first: the form is not overlong, and the
character is not beyond the last code point. -/
lemma isSecond_four (h : 0xffff < c.val.toNat) :
    isSecond (UInt8.ofNat (c.val.toNat / 262144 % 0x08 + 0xf0))
      (UInt8.ofNat (c.val.toNat / 4096 % 0x40 + 0x80)) = true := by
  have hb : c.val.toNat / 262144 % 0x08 + 0xf0 < 256 := by omega
  have hb₁ : c.val.toNat / 4096 % 0x40 + 0x80 < 256 := by omega
  have hval := val_lt c
  unfold isSecond
  simp only [ofNat_eq_iff hb]
  rw [if_neg (by change ¬_ = 0xe0; omega), if_neg (by change ¬_ = 0xed; omega)]
  split
  · next heq =>
    change _ = 0xf0 at heq
    exact between_ofNat hb₁ ⟨by change 0x90 ≤ _; omega, by change _ ≤ 0xbf; omega⟩
  · split
    · next heq =>
      change _ = 0xf4 at heq
      exact between_ofNat hb₁ ⟨by change 0x80 ≤ _; omega, by change _ ≤ 0x8f; omega⟩
    · exact isContinuation_ofNat _

lemma readChar_four (h : 0xffff < c.val.toNat) :
    readChar (UInt8.ofNat (c.val.toNat / 262144 % 0x08 + 0xf0))
      (UInt8.ofNat (c.val.toNat / 4096 % 0x40 + 0x80) ::
        UInt8.ofNat (c.val.toNat / 64 % 0x40 + 0x80) ::
          UInt8.ofNat (c.val.toNat % 0x40 + 0x80) :: rest) = (c, 3) := by
  have hb : c.val.toNat / 262144 % 0x08 + 0xf0 < 256 := by omega
  have hval := val_lt c
  unfold readChar
  rw [if_neg (not_ofNat_lt hb (by change 0x80 ≤ _; omega)),
    if_neg (not_between_ofNat hb (by change 0xdf < _; omega)),
    if_neg (not_between_ofNat hb (by change 0xef < _; omega)),
    if_pos (between_ofNat hb ⟨by change 0xf0 ≤ _; omega, by change _ ≤ 0xf4; omega⟩)]
  simp only [isSecond_four c h, isContinuation_ofNat, if_true, extend_ofNat, toNat_ofNat_of_lt hb]
  rw [show (((c.val.toNat / 262144 % 0x08 + 0xf0 - 0xf0) * 64 + c.val.toNat / 4096 % 64) * 64 +
    c.val.toNat / 64 % 64) * 64 + c.val.toNat % 64 = c.toNat by
      change _ = c.val.toNat; omega, Char.ofNat_toNat]

/-- **A character** is read with the bytes that it was written in. -/
lemma readChar_utf8EncodeChar : ∃ b bs, String.utf8EncodeChar c = b :: bs ∧
    readChar b (bs ++ rest) = (c, bs.length) := by
  simp only [String.utf8EncodeChar]
  split
  · next h => exact ⟨_, [], rfl, readChar_one c rest h⟩
  · next h =>
    split
    · next h' => exact ⟨_, [_], rfl, readChar_two c rest (by omega) h'⟩
    · next h' =>
      split
      · next h'' => exact ⟨_, [_, _], rfl, readChar_three c rest (by omega) h''⟩
      · exact ⟨_, [_, _, _], rfl, readChar_four c rest (by omega)⟩

/-- Only NUL is written with a zero byte. -/
lemma ne_zero_of_mem_utf8EncodeChar {x : UInt8} (hc : c ≠ '\x00')
    (hx : x ∈ String.utf8EncodeChar c) : x ≠ 0 := by
  have hpos : c.val.toNat ≠ 0 := by
    intro h
    exact hc (Char.ext (UInt32.toNat_inj.mp h))
  have hne {n : Nat} (hn : n < 256) (h : n ≠ 0) : UInt8.ofNat n ≠ 0 := by
    rw [Ne, ofNat_eq_iff hn]
    exact h
  simp only [String.utf8EncodeChar] at hx
  split at hx
  · simp only [List.mem_singleton] at hx
    exact hx ▸ hne (by omega) hpos
  · split at hx
    · simp only [List.mem_cons, List.not_mem_nil, or_false] at hx
      rcases hx with rfl | rfl
      · exact hne (by omega) (by omega)
      · exact hne (by omega) (by omega)
    · split at hx
      · simp only [List.mem_cons, List.not_mem_nil, or_false] at hx
        rcases hx with rfl | rfl | rfl
        · exact hne (by omega) (by omega)
        · exact hne (by omega) (by omega)
        · exact hne (by omega) (by omega)
      · simp only [List.mem_cons, List.not_mem_nil, or_false] at hx
        rcases hx with rfl | rfl | rfl | rfl
        · exact hne (by omega) (by omega)
        · exact hne (by omega) (by omega)
        · exact hne (by omega) (by omega)
        · exact hne (by omega) (by omega)

end Char

/-! ## Texts -/

/-- The bytes of a character that was read are passed over. -/
lemma decodeFrom_append (bs rest : List UInt8) :
    decodeFrom bs.length (bs ++ rest) = decodeFrom 0 rest := by
  induction bs with
  | nil => rfl
  | cons b bs ih =>
    rw [List.length_cons, List.cons_append, decodeFrom]
    exact ih

lemma decodeFrom_flatMap (cs : List Char) : decodeFrom 0 (cs.flatMap String.utf8EncodeChar) = cs := by
  induction cs with
  | nil => rfl
  | cons c cs ih =>
    obtain ⟨b, bs, hbytes, hread⟩ := readChar_utf8EncodeChar c (cs.flatMap String.utf8EncodeChar)
    rw [List.flatMap_cons, hbytes, List.cons_append, decodeFrom]
    simp only [hread]
    rw [decodeFrom_append, ih]

/-- **A text** is read back from its bytes. -/
@[simp] theorem ofUtf8Lossy_toUtf8 (s : String) : ofUtf8Lossy (toUtf8 s) = s := by
  rw [ofUtf8Lossy, toUtf8, decodeFrom_flatMap, String.ofList_toList]

/-- A text without NUL has no zero among its bytes. -/
theorem ne_zero_of_mem_toUtf8 {s : String} (h : hasNul s = false) {x : UInt8} (hx : x ∈ toUtf8 s) :
    x ≠ 0 := by
  obtain ⟨c, hc, hx⟩ := List.mem_flatMap.mp hx
  refine ne_zero_of_mem_utf8EncodeChar c ?_ hx
  rintro rfl
  rw [hasNul, List.contains_iff_mem.mpr hc] at h
  cases h

end MessageBridge.Text
