import MessageBridge.Encoding.Reader
import MessageBridge.Proofs.Text.Utf8
import Mathlib.Data.List.Basic
import Mathlib.Data.String.Basic

/-!
# Texts by position

The readers of type encodings take a text apart character by character. The text is kept as bytes,
and where it is read in place there is a position instead: single bytes are looked at, the position
moves on byte by byte, also through the middle of a character, and pieces are cut out between two
positions. More can go wrong then. A position can leave the text, a piece can begin or end inside a
character, a bracket can be closed that was never opened, and a loop can go round for ever. Here every
access is checked, and what fails a check is a slip.

What is left to read, a list of characters, starts at a position of the text, its place. At places the
loops over bytes do what the readers do with characters, because they only ask for characters of one
byte: the bytes of any other character are all alike to them.

## Main definitions

* `Cursor.Slip` — what goes wrong when a text is read in place.
* `Cursor.byte?`, `Cursor.slice` — a byte, and the piece between two positions.
* `Cursor.skip`, `Cursor.find`, `Cursor.close` — the loops over bytes.
* `Cursor.place` — where what is left to read starts.

## Main results

* `Cursor.isValid_iff_exists_place` — places are the positions between characters.
* `Cursor.slice_place` — a piece between two places can be cut out.
* `Cursor.skip_place`, `Cursor.find_place`, `Cursor.close_place` — from a place each loop comes to the
  place that the readers come to.
-/

namespace MessageBridge.Encoding

/-! ## Counting bytes -/

section ByteCount

variable {c : Char} {u v : List Char}

@[simp] lemma byteCount_nil : byteCount [] = 0 := rfl

@[simp] lemma byteCount_cons : byteCount (c :: v) = c.utf8Size + byteCount v := rfl

@[simp] lemma byteCount_append : byteCount (u ++ v) = byteCount u + byteCount v := by
  induction u with
  | nil => simp
  | cons c u ih => simp [ih, Nat.add_assoc]

lemma byteCount_eq_utf8Len (v : List Char) : byteCount v = String.utf8Len v := by
  induction v with
  | nil => rfl
  | cons c v ih => rw [byteCount_cons, String.utf8Len_cons, ih, Nat.add_comm]

lemma byteCount_toList (s : String) : byteCount s.toList = s.utf8ByteSize := by
  rw [byteCount_eq_utf8Len, ← String.utf8ByteSize_ofList, String.ofList_toList]

/-- A character takes at least one byte. -/
lemma length_le_byteCount (v : List Char) : v.length ≤ byteCount v := by
  induction v with
  | nil => simp
  | cons c v ih =>
    have hpos := c.utf8Size_pos
    simp only [List.length_cons, byteCount_cons]
    omega

lemma length_toUtf8 (s : String) : (Text.toUtf8 s).length = s.utf8ByteSize := by
  rw [← byteCount_toList, Text.toUtf8]
  induction s.toList with
  | nil => rfl
  | cons c v ih => simp [ih]

end ByteCount

namespace Cursor

/-! ## Reading in place -/

/-- **Slips**: what goes wrong when a text is read in place. -/
inductive Slip where
  /-- A position is behind the end of the text. -/
  | outside
  /-- A piece begins or ends inside a character. -/
  | insideCharacter
  /-- A bracket is closed that was not opened. -/
  | unopened
  /-- A loop goes round more often than the text has bytes. -/
  | endless
deriving DecidableEq, Repr

section Access

variable (s : String)

/-- The byte at the position, as the character of its number. -/
def byte? (i : Nat) : Option Char := (Text.toUtf8 s)[i]?.map fun b => Char.ofNat b.toNat

/-- The piece from one position to another. -/
def slice (i j : Nat) : Except Slip String :=
  if i ≤ j ∧ j ≤ s.utf8ByteSize then
    if String.Pos.Raw.IsValid s ⟨i⟩ ∧ String.Pos.Raw.IsValid s ⟨j⟩ then
      .ok (String.Pos.Raw.extract s ⟨i⟩ ⟨j⟩)
    else .error .insideCharacter
  else .error .outside

/-- How often a loop may go round: once for every byte, and once for the end. -/
def rounds : Nat := s.utf8ByteSize + 1

/-- Moves on while the byte at the position satisfies `p`. -/
def skipFrom (p : Char → Bool) : Nat → Nat → Except Slip Nat
  | 0, _ => .error .endless
  | n + 1, i =>
    match byte? s i with
    | some c => if p c then skipFrom p n (i + 1) else .ok i
    | none => .ok i

/-- The first position from `i` on whose byte does not satisfy `p`, if only that of the end. -/
def skip (p : Char → Bool) (i : Nat) : Except Slip Nat := skipFrom s p (rounds s) i

/-- The first position from `i` on whose byte satisfies `p`. -/
def find (p : Char → Bool) (i : Nat) : Except Slip (Option Nat) :=
  if i ≤ s.utf8ByteSize then do
    let j ← skip s (!p ·) i
    return if j < s.utf8ByteSize then some j else none
  else .error .outside

/-- One bracket less is open. -/
def lower : Nat → Except Slip Nat
  | 0 => .error .unopened
  | depth + 1 => .ok depth

/-- Moves on to where the group is closed, `depth` brackets being open. -/
def closeFrom (opening closing : Char) : Nat → Nat → Bool → Nat → Except Slip (Option Nat)
  | 0, _, _, _ => .error .endless
  | n + 1, depth, quoted, i =>
    match byte? s i with
    | none => .ok none
    | some c =>
      if c = '"' then closeFrom opening closing n depth (!quoted) (i + 1)
      else if quoted then closeFrom opening closing n depth quoted (i + 1)
      else if c = opening then closeFrom opening closing n (depth + 1) quoted (i + 1)
      else if c = closing then do
        let depth ← lower depth
        if depth = 0 then return some (i + 1)
        closeFrom opening closing n depth quoted (i + 1)
      else closeFrom opening closing n depth quoted (i + 1)

/-- The position behind the bracketed group at `i`, if it is closed. -/
def close (opening closing : Char) (i : Nat) : Except Slip (Option Nat) :=
  closeFrom s opening closing (rounds s) 0 false i

/-- Where what is left to read starts. -/
def place (v : List Char) : Nat := byteCount s.toList - byteCount v

end Access

/-! ## Places -/

section Place

variable {s : String} {c : Char} {u v w : List Char} {i k : Nat}

lemma place_of_eq (h : s.toList = u ++ v) : place s v = byteCount u := by
  rw [place, h, byteCount_append, Nat.add_sub_cancel]

lemma place_toList (s : String) : place s s.toList = 0 := Nat.sub_self _

lemma place_nil (s : String) : place s [] = s.utf8ByteSize := byteCount_toList s

lemma place_add (h : v <:+ s.toList) : place s v + byteCount v = s.utf8ByteSize := by
  obtain ⟨u, hu⟩ := h
  rw [place_of_eq hu.symm, ← byteCount_toList, ← hu, byteCount_append]

lemma place_append (h : u ++ v <:+ s.toList) : place s v = place s (u ++ v) + byteCount u := by
  have hsum := place_add h
  have hsum' := place_add ((List.suffix_append u v).trans h)
  rw [byteCount_append] at hsum
  omega

lemma place_cons (h : c :: v <:+ s.toList) : place s v = place s (c :: v) + c.utf8Size :=
  place_append (u := [c]) h

lemma place_succ (h : c :: v <:+ s.toList) (hc : c.utf8Size = 1) :
    place s (c :: v) + 1 = place s v := by
  rw [place_cons h, hc]

lemma place_le (v : List Char) : place s v ≤ s.utf8ByteSize := by
  rw [← byteCount_toList]
  exact Nat.sub_le _ _

lemma place_le_place (h : v <:+ w) : place s w ≤ place s v := by
  obtain ⟨u, rfl⟩ := h
  simp only [place, byteCount_append]
  omega

lemma place_lt (h : c :: v <:+ s.toList) : place s (c :: v) < s.utf8ByteSize := by
  have hpos := c.utf8Size_pos
  have hsum := place_add h
  rw [byteCount_cons] at hsum
  omega

/-- **Places are the positions between characters.** -/
theorem isValid_iff_exists_place :
    String.Pos.Raw.IsValid s ⟨i⟩ ↔ ∃ v, v <:+ s.toList ∧ place s v = i := by
  rw [String.Pos.Raw.isValid_iff_exists_append]
  constructor
  · rintro ⟨s₁, s₂, rfl, hi⟩
    refine ⟨s₂.toList, ⟨s₁.toList, String.toList_append.symm⟩, ?_⟩
    rw [place_of_eq String.toList_append, byteCount_toList]
    exact (congrArg String.Pos.Raw.byteIdx hi).symm
  · rintro ⟨v, ⟨u, hu⟩, rfl⟩
    refine ⟨String.ofList u, String.ofList v, ?_, ?_⟩
    · rw [← String.ofList_append, hu, String.ofList_toList]
    · rw [place_of_eq hu.symm, byteCount_eq_utf8Len, ← String.utf8ByteSize_ofList]
      rfl

lemma isValid_place (h : v <:+ s.toList) : String.Pos.Raw.IsValid s ⟨place s v⟩ :=
  isValid_iff_exists_place.mpr ⟨v, h, rfl⟩

/-- There is no place inside a character. -/
lemma not_isValid_inside (h : c :: v <:+ s.toList) (hpos : 0 < k) (hk : k < c.utf8Size) :
    ¬ String.Pos.Raw.IsValid s ⟨place s (c :: v) + k⟩ := by
  intro hvalid
  obtain ⟨w, hw, hplace⟩ := isValid_iff_exists_place.mp hvalid
  have hcons := place_cons h
  -- what starts there either holds the character or is held in what is behind it
  rcases List.suffix_or_suffix_of_suffix h hw with hle | hle
  · have := place_le_place (s := s) hle
    omega
  · rcases List.suffix_cons_iff.mp hle with rfl | hle
    · omega
    · have := place_le_place (s := s) hle
      omega

/-- **A piece between two places** can be cut out. -/
theorem slice_place (hv : v <:+ w) (hw : w <:+ s.toList) :
    slice s (place s w) (place s v) = .ok (textBetween w v) := by
  rw [slice, if_pos ⟨place_le_place hv, place_le v⟩,
    if_pos ⟨isValid_place hw, isValid_place (hv.trans hw)⟩]
  obtain ⟨m, rfl⟩ := hv
  obtain ⟨l, hl⟩ := hw
  have hs : s = String.ofList (l ++ m ++ v) := by
    rw [List.append_assoc, hl, String.ofList_toList]
  have hplace : place s v = byteCount l + byteCount m := by
    rw [place_of_eq (u := l ++ m) (by rw [List.append_assoc, hl]), byteCount_append]
  have htext : textBetween (m ++ v) v = String.ofList m := by simp [textBetween]
  rw [place_of_eq hl.symm, hplace, htext, byteCount_eq_utf8Len, byteCount_eq_utf8Len]
  conv_lhs => rw [hs]
  rw [String.extract_of_valid]

end Place

/-! ## Bytes of characters -/

section Bytes

variable {s : String} {c d : Char} {v : List Char} {k : Nat}

/-- A byte beyond ASCII is no character of one byte. -/
lemma utf8Size_ofNat_ne_one {n : Nat} (hn : n < 256) (h : 0x7f < n) :
    (Char.ofNat (UInt8.ofNat n).toNat).utf8Size ≠ 1 := by
  have hvalid : n.isValidChar := Or.inl (by omega)
  have hnat : (Char.ofNat n).toNat = n := by
    rw [Char.ofNat, dif_pos hvalid]
    rfl
  rw [Text.toNat_ofNat_of_lt hn, Ne, Char.utf8Size_eq_one_iff, UInt32.le_iff_toNat_le]
  change ¬ (Char.ofNat n).toNat ≤ 127
  omega

/-- **The bytes of a character**: a character of one byte is this byte, and any other has only bytes
beyond ASCII. -/
lemma utf8EncodeChar_cases (c : Char) :
    (c.utf8Size = 1 ∧ (String.utf8EncodeChar c).map (fun b => Char.ofNat b.toNat) = [c]) ∨
      (c.utf8Size ≠ 1 ∧ ∀ b ∈ String.utf8EncodeChar c, (Char.ofNat b.toNat).utf8Size ≠ 1) := by
  have hsize := Char.utf8Size_eq_one_iff (c := c)
  rw [UInt32.le_iff_toNat_le] at hsize
  change _ ↔ c.val.toNat ≤ 127 at hsize
  have hval := Text.val_lt c
  simp only [String.utf8EncodeChar]
  split
  · next h =>
    left
    refine ⟨hsize.mpr h, ?_⟩
    rw [List.map_singleton, Text.toNat_ofNat_of_lt (by omega)]
    exact congrArg (fun x => [x]) (Char.ofNat_toNat c)
  · next h =>
    right
    refine ⟨fun hc => h (hsize.mp hc), ?_⟩
    have hwide {n : Nat} (hn : n < 256) (h : 0x7f < n) := utf8Size_ofNat_ne_one hn h
    split
    · simp only [List.forall_mem_cons, List.not_mem_nil, false_implies, implies_true, and_true]
      exact ⟨hwide (by omega) (by omega), hwide (by omega) (by omega)⟩
    · split
      · simp only [List.forall_mem_cons, List.not_mem_nil, false_implies, implies_true, and_true]
        exact ⟨hwide (by omega) (by omega), hwide (by omega) (by omega), hwide (by omega) (by omega)⟩
      · simp only [List.forall_mem_cons, List.not_mem_nil, false_implies, implies_true, and_true]
        exact ⟨hwide (by omega) (by omega), hwide (by omega) (by omega), hwide (by omega) (by omega),
          hwide (by omega) (by omega)⟩

/-- The lead byte is the first one. -/
lemma head?_utf8EncodeChar (c : Char) :
    (String.utf8EncodeChar c).head?.map (fun b => Char.ofNat b.toNat) =
      some (readType.leadByte c) := by
  have hval := Text.val_lt c
  have hsize := String.length_utf8EncodeChar c
  -- which of the four forms the character has decides its size and its lead byte
  have hlead {n m : Nat} (hn : n < 256) (hnm : n = m) :
      some (Char.ofNat (UInt8.ofNat n).toNat) = some (Char.ofNat m) := by
    rw [Text.toNat_ofNat_of_lt hn, hnm]
  unfold readType.leadByte
  simp only [String.utf8EncodeChar] at hsize ⊢
  split at hsize
  · next h =>
    have hsize : c.utf8Size = 1 := hsize.symm
    rw [if_pos h, if_pos hsize, List.head?_cons, Option.map_some, hlead (by omega) rfl]
    exact congrArg some (Char.ofNat_toNat c)
  · next h =>
    rw [if_neg h]
    split at hsize
    · next h' =>
      have hsize : c.utf8Size = 2 := hsize.symm
      rw [if_pos h', if_neg (by omega), if_pos hsize]
      exact hlead (by omega) (by change _ = 192 + c.val.toNat / 64; omega)
    · next h' =>
      rw [if_neg h']
      split at hsize
      · next h'' =>
        have hsize : c.utf8Size = 3 := hsize.symm
        rw [if_pos h'', if_neg (by omega), if_neg (by omega), if_pos hsize]
        exact hlead (by omega) (by change _ = 224 + c.val.toNat / 4096; omega)
      · next h'' =>
        have hsize : c.utf8Size = 4 := hsize.symm
        rw [if_neg h'', if_neg (by omega), if_neg (by omega), if_neg (by omega)]
        exact hlead (by omega) (by change _ = 240 + c.val.toNat / 262144; omega)

/-- What stands at a place are the bytes of what is left. -/
lemma byte?_place_add (h : v <:+ s.toList) (k : Nat) :
    byte? s (place s v + k) =
      (v.flatMap String.utf8EncodeChar)[k]?.map fun b => Char.ofNat b.toNat := by
  obtain ⟨u, hu⟩ := h
  have hlen : (u.flatMap String.utf8EncodeChar).length = byteCount u := by
    rw [byteCount_eq_utf8Len, ← String.utf8ByteSize_ofList, ← length_toUtf8, Text.toUtf8,
      String.toList_ofList]
  rw [byte?, Text.toUtf8, place_of_eq hu.symm, ← hu, List.flatMap_append,
    List.getElem?_append_right (by omega), hlen, Nat.add_sub_cancel_left]

lemma byte?_place_nil : byte? s (place s []) = none := by
  have h := byte?_place_add (s := s) List.nil_suffix 0
  simpa using h

lemma byte?_place_cons (h : c :: v <:+ s.toList) :
    byte? s (place s (c :: v)) = some (readType.leadByte c) := by
  have hbyte := byte?_place_add h 0
  obtain ⟨b, bs, hbytes, -⟩ := Text.readChar_utf8EncodeChar c []
  have hhead := head?_utf8EncodeChar c
  rw [hbytes] at hhead
  rw [Nat.add_zero, List.flatMap_cons, hbytes] at hbyte
  rw [hbyte, ← hhead]
  rfl

/-- **A byte inside a character** is the character, if it has one byte, and otherwise beyond ASCII. -/
lemma exists_byte?_inside (h : c :: v <:+ s.toList) (hk : k < c.utf8Size) :
    ∃ b, byte? s (place s (c :: v) + k) = some b ∧
      (c.utf8Size = 1 ∧ b = c ∨ c.utf8Size ≠ 1 ∧ b.utf8Size ≠ 1) := by
  have hlen := String.length_utf8EncodeChar c
  have hget : (String.utf8EncodeChar c)[k]? = some (String.utf8EncodeChar c)[k] :=
    List.getElem?_eq_getElem (by omega)
  have hmem : (String.utf8EncodeChar c)[k] ∈ String.utf8EncodeChar c := List.getElem_mem _
  refine ⟨Char.ofNat (String.utf8EncodeChar c)[k].toNat, ?_, ?_⟩
  · rw [byte?_place_add h, List.flatMap_cons, List.getElem?_append_left (by omega), hget]
    rfl
  · rcases utf8EncodeChar_cases c with ⟨hc, hone⟩ | ⟨hc, hwide⟩
    · refine .inl ⟨hc, List.mem_singleton.mp ?_⟩
      rw [← hone]
      exact List.mem_map_of_mem hmem
    · exact .inr ⟨hc, hwide _ hmem⟩

end Bytes

/-! ## Loops over bytes -/

/-- **Coarse**: the characters of more than one byte are all alike to `p`. -/
def Coarse (p : Char → Bool) : Prop :=
  ∀ c d : Char, c.utf8Size ≠ 1 → d.utf8Size ≠ 1 → p c = p d

section Loops

variable {s : String} {p : Char → Bool} {c d : Char} {v : List Char} {i k n : Nat}

lemma ne_of_utf8Size (hc : c.utf8Size ≠ 1) (hd : d.utf8Size = 1) : c ≠ d := by
  rintro rfl
  exact hc hd

/-- A predicate of ASCII characters only is coarse. -/
lemma Coarse.of_ascii (h : ∀ c, p c = true → c.utf8Size = 1) : Coarse p := by
  have hfalse (c : Char) (hc : c.utf8Size ≠ 1) : p c = false :=
    Bool.eq_false_iff.mpr fun hp => hc (h c hp)
  intro c d hc hd
  rw [hfalse c hc, hfalse d hd]

lemma Coarse.not (h : Coarse p) : Coarse (!p ·) := by
  intro c d hc hd
  simp only [h c d hc hd]

lemma coarse_isQualifier : Coarse isQualifier := by
  apply Coarse.of_ascii
  intro c hc
  simp only [isQualifier, List.contains_eq_mem, List.mem_cons, List.not_mem_nil, or_false,
    decide_eq_true_eq] at hc
  rcases hc with rfl | rfl | rfl | rfl | rfl | rfl | rfl <;> rfl

lemma coarse_isOffset : Coarse isOffset := by
  apply Coarse.of_ascii
  intro c hc
  simp only [isOffset, Char.isDigit, Bool.or_eq_true, Bool.and_eq_true, decide_eq_true_eq,
    beq_iff_eq] at hc
  rcases hc with ⟨-, hc⟩ | rfl
  · rw [Char.utf8Size_eq_one_iff]
    exact UInt32.le_trans hc (by decide)
  · rfl

lemma utf8Size_of_endsName (h : endsName c = true) : c.utf8Size = 1 := by
  simp only [endsName, Bool.or_eq_true, beq_iff_eq] at h
  rcases h with rfl | rfl <;> rfl

lemma coarse_endsName : Coarse endsName := .of_ascii fun _ => utf8Size_of_endsName

lemma coarse_quote : Coarse (· == '"') := by
  apply Coarse.of_ascii
  intro c hc
  obtain rfl : c = '"' := by simpa using hc
  rfl

/-- What is asked of the bytes of a character is what is asked of the character. -/
lemma Coarse.exists_byte? (hp : Coarse p) (h : c :: v <:+ s.toList) (hk : k < c.utf8Size) :
    ∃ b, byte? s (place s (c :: v) + k) = some b ∧ p b = p c := by
  obtain ⟨b, hbyte, ⟨-, rfl⟩ | ⟨hc, hb⟩⟩ := exists_byte?_inside h hk
  · exact ⟨b, hbyte, rfl⟩
  · exact ⟨b, hbyte, hp b c hb hc⟩

/-- As many bytes as there are to skip are skipped one by one. -/
lemma skipFrom_add (h : ∀ j < k, ∃ b, byte? s (i + j) = some b ∧ p b = true) :
    skipFrom s p (n + k) i = skipFrom s p n (i + k) := by
  induction k generalizing i with
  | zero => rfl
  | succ k ih =>
    obtain ⟨b, hbyte, hb⟩ := h 0 (Nat.succ_pos k)
    rw [Nat.add_zero] at hbyte
    rw [← Nat.add_assoc, skipFrom, hbyte]
    simp only [hb, if_true]
    have hrest : ∀ j < k, ∃ b, byte? s (i + 1 + j) = some b ∧ p b = true := by
      intro j hj
      rw [Nat.add_right_comm, Nat.add_assoc]
      exact h (j + 1) (by omega)
    rw [ih hrest, Nat.add_right_comm, Nat.add_assoc i]

lemma skipFrom_place (hp : Coarse p) (h : v <:+ s.toList) (hn : byteCount v < n) :
    skipFrom s p n (place s v) = .ok (place s (v.dropWhile p)) := by
  induction v generalizing n with
  | nil =>
    obtain ⟨n, rfl⟩ := Nat.exists_eq_add_of_lt hn
    rw [byteCount_nil, Nat.zero_add, skipFrom, byte?_place_nil]
    rfl
  | cons c v ih =>
    have htail : v <:+ s.toList := (List.suffix_cons c v).trans h
    rw [byteCount_cons] at hn
    cases hc : p c with
    | true =>
      obtain ⟨n, rfl⟩ : ∃ m, n = m + c.utf8Size := ⟨n - c.utf8Size, by omega⟩
      rw [skipFrom_add fun j hj => (hp.exists_byte? h hj).imp fun b hb => ⟨hb.1, hb.2.trans hc⟩,
        ← place_cons h, ih htail (by omega), List.dropWhile_cons_of_pos hc]
    | false =>
      have hpos := c.utf8Size_pos
      obtain ⟨n, rfl⟩ : ∃ m, n = m + 1 := ⟨n - 1, by omega⟩
      obtain ⟨b, hbyte, hb⟩ := hp.exists_byte? h hpos
      rw [Nat.add_zero] at hbyte
      rw [skipFrom, hbyte]
      simp only [hb, hc, Bool.false_eq_true, if_false]
      rw [List.dropWhile_cons_of_neg (by simp [hc])]

lemma byteCount_lt_rounds (h : v <:+ s.toList) : byteCount v < rounds s := by
  have hsum := place_add h
  rw [rounds]
  omega

/-- There are no more characters left than a loop may go round. -/
lemma length_lt_rounds (h : v <:+ s.toList) : v.length < rounds s :=
  (length_le_byteCount v).trans_lt (byteCount_lt_rounds h)

/-- **Skipping** comes to the place that the readers skip to. -/
theorem skip_place (hp : Coarse p) (h : v <:+ s.toList) :
    skip s p (place s v) = .ok (place s (v.dropWhile p)) :=
  skipFrom_place hp h (byteCount_lt_rounds h)

/-- **Finding** a character comes to the place in front of it. -/
theorem find_place (hp : Coarse p) (h : v <:+ s.toList) :
    find s p (place s v) =
      .ok (match v.dropWhile (!p ·) with
        | [] => none
        | c :: w => some (place s (c :: w))) := by
  rw [find, if_pos (place_le v), skip_place hp.not h]
  have hsuffix : v.dropWhile (!p ·) <:+ s.toList := (List.dropWhile_suffix _).trans h
  generalize v.dropWhile (!p ·) = w at hsuffix
  cases w with
  | nil => simp [bind, Except.bind, pure, Except.pure, place_nil]
  | cons c w => simp [bind, Except.bind, pure, Except.pure, place_lt hsuffix]

/-- Where no bracket of ASCII and no quote stands, the brackets that are open stay as they are. -/
lemma closeFrom_add {opening closing : Char} {depth : Nat} {quoted : Bool}
    (ho : opening.utf8Size = 1) (hc : closing.utf8Size = 1)
    (h : ∀ j < k, ∃ b, byte? s (i + j) = some b ∧ b.utf8Size ≠ 1) :
    closeFrom s opening closing (n + k) depth quoted i =
      closeFrom s opening closing n depth quoted (i + k) := by
  induction k generalizing i with
  | zero => rfl
  | succ k ih =>
    obtain ⟨b, hbyte, hb⟩ := h 0 (Nat.succ_pos k)
    rw [Nat.add_zero] at hbyte
    have hrest : ∀ j < k, ∃ b, byte? s (i + 1 + j) = some b ∧ b.utf8Size ≠ 1 := by
      intro j hj
      rw [Nat.add_right_comm, Nat.add_assoc]
      exact h (j + 1) (by omega)
    rw [← Nat.add_assoc, closeFrom, hbyte]
    simp only [ne_of_utf8Size hb (show '"'.utf8Size = 1 from rfl), ne_of_utf8Size hb ho,
      ne_of_utf8Size hb hc, if_false, ite_self]
    rw [ih hrest, Nat.add_right_comm, Nat.add_assoc i]

lemma closeFrom_place {opening closing : Char} {depth : Nat} {quoted : Bool}
    (ho : opening.utf8Size = 1) (hc : closing.utf8Size = 1) (h : v <:+ s.toList)
    (hn : byteCount v < n) (hdepth : 0 < depth) :
    closeFrom s opening closing n depth quoted (place s v) =
      .ok ((closeGroup opening closing depth quoted v).map (place s)) := by
  induction v generalizing n depth quoted with
  | nil =>
    obtain ⟨n, rfl⟩ := Nat.exists_eq_add_of_lt hn
    rw [byteCount_nil, Nat.zero_add, closeFrom, byte?_place_nil]
    rfl
  | cons c v ih =>
    have htail : v <:+ s.toList := (List.suffix_cons c v).trans h
    rw [byteCount_cons] at hn
    by_cases hsize : c.utf8Size = 1
    · obtain ⟨n, rfl⟩ : ∃ m, n = m + 1 := ⟨n - 1, by omega⟩
      have hbyte : byte? s (place s (c :: v)) = some c := by
        rw [byte?_place_cons h, readType.leadByte, if_pos hsize]
      have hplace := place_succ h hsize
      have hrest {depth : Nat} (hdepth : 0 < depth) (quoted : Bool) :
          closeFrom s opening closing n depth quoted (place s v) =
            .ok ((closeGroup opening closing depth quoted v).map (place s)) :=
        ih htail (by omega) hdepth
      rw [closeFrom, hbyte, closeGroup]
      simp only [hplace]
      split_ifs with hquote hquoted hopening hclosing hone
      · exact hrest hdepth _
      · exact hrest hdepth _
      · exact hrest (Nat.succ_pos depth) _
      · obtain rfl : depth = 1 := by omega
        rfl
      · obtain ⟨depth, rfl⟩ : ∃ m, depth = m + 2 := ⟨depth - 2, by omega⟩
        have hlower : lower (depth + 2) = .ok (depth + 1) := rfl
        rw [hlower]
        exact hrest (Nat.succ_pos depth) _
      · exact hrest hdepth _
    · obtain ⟨n, rfl⟩ : ∃ m, n = m + c.utf8Size := ⟨n - c.utf8Size, by omega⟩
      have hbytes : ∀ j < c.utf8Size, ∃ b, byte? s (place s (c :: v) + j) = some b ∧
          b.utf8Size ≠ 1 := by
        intro j hj
        obtain ⟨b, hbyte, ⟨hone, -⟩ | ⟨-, hb⟩⟩ := exists_byte?_inside h hj
        · exact absurd hone hsize
        · exact ⟨b, hbyte, hb⟩
      rw [closeFrom_add ho hc hbytes, ← place_cons h, ih htail (by omega) hdepth, closeGroup]
      simp only [ne_of_utf8Size hsize (show '"'.utf8Size = 1 from rfl), ne_of_utf8Size hsize ho,
        ne_of_utf8Size hsize hc, if_false, ite_self]

/-- **Closing** a group comes to the place behind it. -/
theorem close_place {opening closing : Char} (ho : opening.utf8Size = 1)
    (hc : closing.utf8Size = 1) (hquote : opening ≠ '"') (h : opening :: v <:+ s.toList) :
    close s opening closing (place s (opening :: v)) =
      .ok ((closeGroup opening closing 0 false (opening :: v)).map (place s)) := by
  have htail : v <:+ s.toList := (List.suffix_cons _ v).trans h
  have hbyte : byte? s (place s (opening :: v)) = some opening := by
    rw [byte?_place_cons h, readType.leadByte, if_pos ho]
  have hplace := place_succ h ho
  have hcount := byteCount_lt_rounds h
  rw [byteCount_cons, rounds, ho] at hcount
  -- the first character is the bracket that opens the group
  rw [close, rounds, closeFrom, hbyte, closeGroup]
  simp only [if_neg hquote, Bool.false_eq_true, if_false, if_true, hplace]
  exact closeFrom_place ho hc htail (by omega) Nat.one_pos

end Loops

end Cursor

end MessageBridge.Encoding
