import MessageBridge.Marshal.Scalar
import Mathlib.Tactic.Common

/-!
# Scalars that cross the call boundary

What comes out on the other side when a value is passed as a scalar type: an integer is reduced to the
width of the type, a truth value stays what it is, and a number is converted to the floating-point
type. A narrow result takes the same way through a whole register and comes out the same.

## Main definitions

* `Primitive.reduce` — the integer of the type that agrees with a given one in all bits of the type.
* `Primitive.norm?` — what a value becomes as a scalar type.
* `Primitive.zero` — the value of a scalar type that is zero in every byte.

## Main results

* `Primitive.decode_of_encode?` — bytes that were written for a value are read as what it becomes.
* `Primitive.encode?_decode` — a value that was read is written as the bytes that it was read from.
* `Primitive.decode_narrow_widen` — so are those that came through a register.
* `Primitive.exists_toInteger?_reduce` — what an integer is reduced to lies in the range of the type.
-/

namespace MessageBridge

/-! ## Words -/

lemma wordCount_eight : wordCount 8 = 18446744073709551616 := rfl

/-- The lower bytes of a word are the word in fewer bytes. -/
lemma take_leBytes {width k : Nat} (h : k ≤ width) (n : Nat) :
    (leBytes width n).take k = leBytes k n := by
  induction width generalizing k n with
  | zero =>
    obtain rfl : k = 0 := by omega
    rfl
  | succ width ih =>
    cases k with
    | zero => rfl
    | succ k => rw [leBytes, List.take_succ_cons, ih (by omega), leBytes]

/-- Only the bits that fit are written. -/
lemma leBytes_congr {width n n' : Nat} (h : n % wordCount width = n' % wordCount width) :
    leBytes width n = leBytes width n' := by
  have hread (n : Nat) : leBytes width (n % wordCount width) = leBytes width n := by
    rw [← ofLeBytes_leBytes]
    simpa using leBytes_ofLeBytes (leBytes width n)
  rw [← hread n, h, hread n']

/-- A number that was written into bytes is read back in two's complement. -/
lemma ofLeBytesSigned_leBytes (width n : Nat) :
    ofLeBytesSigned (leBytes width n) = Int.bmod n (wordCount width) := by
  rw [ofLeBytesSigned, length_leBytes, ofLeBytes_leBytes, Int.natCast_emod, Int.emod_bmod]

/-! ## Integers -/

/-- The integer that a value stands for: itself, or one for true and zero for false. -/
def Value.toInteger? : Value → Option Int
  | .int i => some i.toInt
  | .uint u => some u.toNat
  | .bool b => some (if b then 1 else 0)
  | _ => none

/-- The bits of an integer are those of the word that it is passed as. -/
lemma Value.toInteger?_of_toBits? {v : Value} {w : UInt64} (h : v.toBits? = some w) :
    ∃ z, v.toInteger? = some z ∧ (w.toNat : Int) = z % wordCount 8 := by
  cases v with
  | int i =>
    have hbits : i.toInt = Int.bmod i.toUInt64.toNat (wordCount 8) :=
      BitVec.toInt_eq_toNat_bmod i.toBitVec
    have hlt := i.toUInt64.toNat_lt
    cases h
    refine ⟨i.toInt, rfl, ?_⟩
    rw [hbits, Int.bmod_emod, wordCount_eight]
    omega
  | uint u =>
    have hlt := u.toNat_lt
    cases h
    exact ⟨_, rfl, by rw [wordCount_eight]; omega⟩
  | bool b =>
    cases h
    cases b <;> exact ⟨_, rfl, rfl⟩
  | nil | float | object | selector | str | pointer | struct => cases h

namespace Primitive

/-- Whether the type is one of integers. -/
def isInteger (p : Primitive) : Bool := !p.isFloat && p != .void && p != .bool

/-- The integer of the type that agrees with the given one in all bits of the type. -/
def reduce (p : Primitive) (z : Int) : Value :=
  if p.isSigned then .int (Int64.ofInt (z.bmod (wordCount p.size)))
  else .uint (UInt64.ofNat (z % wordCount p.size).toNat)

/-- What a value becomes as a scalar type. -/
def norm? (p : Primitive) (v : Value) : Option Value :=
  match p with
  | void => none
  | bool => v.toBool?.map .bool
  | float => v.toFloat?.map fun x => .float (.ofSingle x.toSingle)
  | double => v.toFloat?.map .float
  | _ => v.toInteger?.map p.reduce

lemma norm?_nil (p : Primitive) : p.norm? .nil = none := by
  cases p <;> rfl

/-- The value of a scalar type that is zero in every byte. -/
def zero (p : Primitive) : Value :=
  match p with
  | void => .nil
  | bool => .bool false
  | float | double => .float ⟨0⟩
  | _ => p.reduce 0

variable {p : Primitive}

lemma size_le (p : Primitive) : p.size ≤ 8 := by
  cases p <;> decide

/-- Only the bits of the type matter. -/
lemma reduce_congr {z z' : Int} (h : z % wordCount p.size = z' % wordCount p.size) :
    p.reduce z = p.reduce z' := by
  have hbmod : z.bmod (wordCount p.size) = z'.bmod (wordCount p.size) := by
    rw [← Int.emod_bmod, h, Int.emod_bmod]
  rw [reduce, reduce, h, hbmod]

/-- The bits of a word determine those of a narrower one. -/
lemma emod_wordCount_size (z : Int) :
    z % wordCount 8 % wordCount p.size = z % wordCount p.size := by
  have hdvd : (wordCount p.size : Int) ∣ wordCount 8 := by cases p <;> decide
  exact Int.emod_emod_of_dvd z hdvd

/-- Twice a balanced remainder lies within the modulus. -/
lemma two_mul_bmod {m : Nat} (h : 0 < m / 2 ∧ m % 2 = 0) (z : Int) :
    -(m : Int) ≤ 2 * z.bmod m ∧ 2 * z.bmod m < m := by
  have hle := Int.le_bmod (x := z) (m := m) (by omega)
  have hlt := Int.bmod_lt (x := z) (m := m) (by omega)
  omega

/-- A balanced remainder of a narrower word is one of a wider word. -/
lemma bmod_bmod_of_le {m n : Nat} (h : 0 < m / 2 ∧ m % 2 = 0) (hle : m ≤ n) (z : Int) :
    (z.bmod m).bmod n = z.bmod m := by
  have hrange := two_mul_bmod h z
  exact Int.bmod_eq_of_le (by omega) (by omega)

/-- **Range**: what an integer is reduced to is an integer of the type that agrees with it in all bits
of the type. -/
lemma exists_toInteger?_reduce (h : p.isInteger = true) (z : Int) :
    ∃ z', (p.reduce z).toInteger? = some z' ∧ z' % wordCount p.size = z % wordCount p.size ∧
      if p.isSigned then -(wordCount p.size : Int) ≤ 2 * z' ∧ 2 * z' < wordCount p.size
      else 0 ≤ z' ∧ z' < wordCount p.size := by
  cases p with
  | void | bool | float | double => cases h
  | char | short | int | long | longLong =>
    refine ⟨_, rfl, ?_⟩
    rw [Int64.toInt_ofInt, bmod_bmod_of_le (by decide) (by decide), Int.bmod_emod]
    exact ⟨rfl, two_mul_bmod (by decide) z⟩
  | uchar | ushort | uint | ulong | ulongLong =>
    refine ⟨_, rfl, ?_⟩
    simp only [isSigned, Bool.false_eq_true, if_false, size, wordCount]
    rw [UInt64.toNat_ofNat']
    omega

/-- Bytes that were written for an integer are read as the integer reduced to the type. -/
lemma decode_leBytes (h : p.isInteger = true) (n : Nat) (rest : List UInt8) :
    p.decode (leBytes p.size n ++ rest) = p.reduce n := by
  have htake : (leBytes p.size n ++ rest).take p.size = leBytes p.size n :=
    List.take_left' (length_leBytes _ _)
  have hunsigned : UInt64.ofNat (ofLeBytes (leBytes p.size n)) =
      UInt64.ofNat ((n : Int) % wordCount p.size).toNat := by
    rw [ofLeBytes_leBytes, ← Int.natCast_emod, Int.toNat_natCast]
  cases p with
  | void | bool | float | double => cases h
  | char | short | int | long | longLong =>
    simp only [decode, reduce, isSigned, if_true, htake, ofLeBytesSigned_leBytes]
  | uchar | ushort | uint | ulong | ulongLong =>
    simp only [decode, reduce, isSigned, Bool.false_eq_true, if_false, htake, hunsigned]

/-- The bytes of an integer type are those of the word that the value is passed as. -/
lemma encode?_of_isInteger (h : p.isInteger = true) (v : Value) :
    p.encode? v = v.toBits?.map fun w => leBytes p.size w.toNat := by
  cases p with
  | void | bool | float | double => cases h
  | char | short | int | long | longLong | uchar | ushort | uint | ulong | ulongLong => rfl

lemma norm?_of_isInteger (h : p.isInteger = true) (v : Value) :
    p.norm? v = v.toInteger?.map p.reduce := by
  cases p with
  | void | bool | float | double => cases h
  | char | short | int | long | longLong | uchar | ushort | uint | ulong | ulongLong => rfl

/-- **Bytes that were written for a value** are read as what the value becomes. -/
lemma decode_of_encode? {v : Value} {bytes : List UInt8} (h : p.encode? v = some bytes)
    (rest : List UInt8) : p.norm? v = some (p.decode (bytes ++ rest)) := by
  by_cases hint : p.isInteger = true
  · rw [encode?_of_isInteger hint] at h
    obtain ⟨w, hw, rfl⟩ := Option.map_eq_some_iff.mp h
    obtain ⟨z, hz, hmod⟩ := Value.toInteger?_of_toBits? hw
    have hreduce : p.reduce z = p.reduce w.toNat :=
      reduce_congr (by rw [hmod, emod_wordCount_size])
    rw [norm?_of_isInteger hint, hz, decode_leBytes hint, ← hreduce]
    rfl
  · cases p with
    | void => cases h
    | bool =>
      obtain ⟨b, hb, rfl⟩ := Option.map_eq_some_iff.mp h
      simp only [norm?, hb, Option.map_some]
      cases b <;> rfl
    | float =>
      obtain ⟨x, hx, rfl⟩ := Option.map_eq_some_iff.mp h
      have htake : (leBytes 4 x.toSingle.toNat ++ rest).take 4 = leBytes 4 x.toSingle.toNat :=
        List.take_left' (length_leBytes _ _)
      have hlt := x.toSingle.toNat_lt
      have hword : UInt32.ofNat (x.toSingle.toNat % wordCount 4) = x.toSingle := by
        have hcount : wordCount 4 = 4294967296 := rfl
        rw [hcount, Nat.mod_eq_of_lt hlt, UInt32.ofNat_toNat]
      simp only [norm?, hx, Option.map_some, decode, htake, ofLeBytes_leBytes, hword]
    | double =>
      obtain ⟨x, hx, rfl⟩ := Option.map_eq_some_iff.mp h
      have hword : ofWordBytes (leBytes 8 x.bits.toNat ++ rest) = x.bits :=
        ofWordBytes_wordBytes_append x.bits rest
      simp only [norm?, hx, Option.map_some, decode, hword]
    | char | short | int | long | longLong | uchar | ushort | uint | ulong | ulongLong =>
      exact absurd rfl hint

/-- A value is refused as a scalar type just when it becomes nothing there. -/
lemma encode?_eq_none_iff {v : Value} : p.encode? v = none ↔ p.norm? v = none := by
  constructor
  · intro h
    by_cases hint : p.isInteger = true
    · rw [encode?_of_isInteger hint, Option.map_eq_none_iff] at h
      rw [norm?_of_isInteger hint, Option.map_eq_none_iff]
      cases v <;> first | rfl | cases h
    · cases p with
      | void => rfl
      | bool | float | double =>
        simp only [encode?, Option.map_eq_none_iff] at h
        simp only [norm?, h, Option.map_none]
      | char | short | int | long | longLong | uchar | ushort | uint | ulong | ulongLong =>
        exact absurd rfl hint
  · intro h
    cases hbytes : p.encode? v with
    | none => rfl
    | some bytes =>
      rw [decode_of_encode? hbytes []] at h
      cases h

/-- As many bytes are written as the type takes. -/
lemma length_of_encode? {v : Value} {bytes : List UInt8} (h : p.encode? v = some bytes) :
    bytes.length = p.size := by
  by_cases hint : p.isInteger = true
  · rw [encode?_of_isInteger hint] at h
    obtain ⟨w, -, rfl⟩ := Option.map_eq_some_iff.mp h
    exact length_leBytes _ _
  · cases p with
    | void => cases h
    | bool =>
      obtain ⟨b, -, rfl⟩ := Option.map_eq_some_iff.mp h
      rfl
    | float | double =>
      obtain ⟨x, -, rfl⟩ := Option.map_eq_some_iff.mp h
      exact length_leBytes _ _
    | char | short | int | long | longLong | uchar | ushort | uint | ulong | ulongLong =>
      exact absurd rfl hint

/-- The word in which an integer of a narrow type fills a register is the integer itself. -/
lemma toBits?_widen (h : p.isInteger = true) (n : Nat) :
    (p.reduce n).toBits? = some (p.widen (leBytes p.size n)) := by
  have hdecode : p.decode (leBytes p.size n) = p.reduce n := by
    simpa using decode_leBytes h n []
  unfold widen
  rw [hdecode]
  unfold reduce
  split <;> rfl

/-- **Bytes that were read** are written back as they were, but that a truth value is written as zero
or one. -/
lemma encode?_decode (hvoid : p ≠ .void) (hfloat : p ≠ .float) {bytes : List UInt8}
    (hlength : p.size ≤ bytes.length)
    (htruth : p = .bool → bytes[0]? = some 0 ∨ bytes[0]? = some 1) :
    p.encode? (p.decode bytes) = some (bytes.take p.size) := by
  have hwidth : (bytes.take p.size).length = p.size := List.length_take_of_le hlength
  by_cases hint : p.isInteger = true
  · have hbytes : leBytes p.size (ofLeBytes (bytes.take p.size)) = bytes.take p.size := by
      simpa only [hwidth] using leBytes_ofLeBytes (bytes.take p.size)
    generalize ofLeBytes (bytes.take p.size) = n at hbytes
    have hdecode : p.decode bytes = p.reduce n := by
      rw [← List.take_append_drop p.size bytes, ← hbytes]
      exact decode_leBytes hint n _
    have hbits := toBits?_widen hint n
    obtain ⟨z, hz, hmod⟩ := Value.toInteger?_of_toBits? hbits
    obtain ⟨z', hz', hsame, -⟩ := exists_toInteger?_reduce hint n
    obtain rfl : z = z' := Option.some.inj (hz.symm.trans hz')
    rw [hdecode, encode?_of_isInteger hint, hbits, Option.map_some, ← hbytes]
    refine congrArg some (leBytes_congr ?_)
    have hword : ((p.widen (leBytes p.size n)).toNat : Int) % wordCount p.size =
        (n : Int) % wordCount p.size := by
      rw [hmod, emod_wordCount_size, hsame]
    exact_mod_cast hword
  · cases p with
    | void => exact absurd rfl hvoid
    | float => exact absurd rfl hfloat
    | bool =>
      cases bytes with
      | nil => cases hlength
      | cons x bytes =>
        rcases htruth rfl with h | h
        all_goals
          obtain rfl := Option.some.inj h
          rfl
    | double =>
      have hbytes : leBytes 8 (ofLeBytes (bytes.take 8)) = bytes.take 8 := by
        have := leBytes_ofLeBytes (bytes.take 8)
        rwa [show (bytes.take 8).length = 8 from hwidth] at this
      simp only [decode, encode?, Value.toFloat?, Option.map_some, size]
      rw [← hbytes]
      refine congrArg some (leBytes_congr ?_)
      rw [ofWordBytes, UInt64.toNat_ofNat', wordCount_eight, Nat.mod_mod]
    | char | short | int | long | longLong | uchar | ushort | uint | ulong | ulongLong =>
      exact absurd rfl hint

/-- **A narrow result that came through a register** is read as what the value becomes. -/
lemma decode_narrow_widen {v : Value} {bytes : List UInt8} (hwidened : p.isWidened = true)
    (h : p.encode? v = some bytes) :
    p.norm? v = some (p.decode (p.narrow (p.widen bytes))) := by
  by_cases hint : p.isInteger = true
  · rw [encode?_of_isInteger hint] at h
    obtain ⟨w, hw, rfl⟩ := Option.map_eq_some_iff.mp h
    obtain ⟨z, hz, hmod⟩ := Value.toInteger?_of_toBits? hw
    obtain ⟨z', hz', hmod'⟩ := Value.toInteger?_of_toBits? (toBits?_widen hint w.toNat)
    obtain ⟨z'', hz'', hsame, -⟩ := exists_toInteger?_reduce hint w.toNat
    obtain rfl : z' = z'' := Option.some.inj (hz'.symm.trans hz'')
    have hnarrow : p.narrow (p.widen (leBytes p.size w.toNat)) =
        leBytes p.size (p.widen (leBytes p.size w.toNat)).toNat := take_leBytes p.size_le _
    have hread : p.decode (leBytes p.size (p.widen (leBytes p.size w.toNat)).toNat) =
        p.reduce (p.widen (leBytes p.size w.toNat)).toNat := by
      simpa using decode_leBytes hint (p.widen (leBytes p.size w.toNat)).toNat []
    rw [norm?_of_isInteger hint, hz, hnarrow, hread]
    refine congrArg some (reduce_congr ?_)
    rw [hmod', emod_wordCount_size, hsame, hmod, emod_wordCount_size]
  · cases p with
    | bool =>
      obtain ⟨b, hb, rfl⟩ := Option.map_eq_some_iff.mp h
      simp only [norm?, hb, Option.map_some]
      cases b <;> rfl
    | void | float | double => cases hwidened
    | char | short | int | long | longLong | uchar | ushort | uint | ulong | ulongLong =>
      exact absurd rfl hint

/-- Zero bytes are read as zero. -/
lemma decode_zero (h : p ≠ .void) (rest : List UInt8) :
    p.decode (List.replicate p.size 0 ++ rest) = p.zero := by
  cases p with
  | void => exact absurd rfl h
  | bool | double => rfl
  | float =>
    have hzero : Binary64.ofSingle 0 = ⟨0⟩ := by decide +kernel
    exact congrArg Value.float hzero
  | char | short | int | long | longLong | uchar | ushort | uint | ulong | ulongLong =>
    exact decode_leBytes rfl 0 rest

/-- No more bytes are read than the type takes. -/
lemma decode_take {n : Nat} (h : p.size ≤ n) (bytes : List UInt8) :
    p.decode (bytes.take n) = p.decode bytes := by
  have htake {k : Nat} (hk : k ≤ n) : (bytes.take n).take k = bytes.take k := by
    rw [List.take_take, Nat.min_eq_left hk]
  cases p with
  | void => rfl
  | bool => simp only [decode, htake (k := 1) h]
  | float => simp only [decode, htake (k := 4) h]
  | double => simp only [decode, ofWordBytes, htake (k := 8) h]
  | char | short | int | long | longLong | uchar | ushort | uint | ulong | ulongLong =>
    simp only [decode, htake h]

end Primitive

end MessageBridge
