/-!
# Little-endian words

Numbers stored in memory least significant byte first.

## Main definitions

* `Address` : a native address; zero is the null address.
* `wordCount` : how many numbers a width in bytes can hold.
* `leBytes`, `ofLeBytes` : the bytes of a number in a given width, and the number that a list of
  bytes stores.

## Main results

* `ofLeBytes_leBytes` : reading back gives the number modulo the count of words of that width.
* `leBytes_ofLeBytes` : writing back gives the bytes.
-/

namespace MessageBridge

/-- A native address. Zero is null. -/
abbrev Address := UInt64

/-- How many numbers fit into `width` bytes. -/
def wordCount : Nat → Nat
  | 0 => 1
  | width + 1 => wordCount width * 256

/-- The `width` low bytes of `n`, least significant first. -/
def leBytes : Nat → Nat → List UInt8
  | 0, _ => []
  | width + 1, n => UInt8.ofNat n :: leBytes width (n / 256)

/-- The number that the bytes store, least significant first. -/
def ofLeBytes : List UInt8 → Nat
  | [] => 0
  | b :: bs => b.toNat + 256 * ofLeBytes bs

@[simp] theorem length_leBytes (width n : Nat) : (leBytes width n).length = width := by
  induction width generalizing n with
  | zero => rfl
  | succ width ih => simp [leBytes, ih]

theorem ofLeBytes_leBytes (width n : Nat) : ofLeBytes (leBytes width n) = n % wordCount width := by
  induction width generalizing n with
  | zero => simp [leBytes, ofLeBytes, wordCount, Nat.mod_one]
  | succ width ih =>
    have h : (UInt8.ofNat n).toNat = n % 256 := by simp
    rw [leBytes, ofLeBytes, ih, h, wordCount, Nat.mul_comm (wordCount width), Nat.mod_mul]

theorem ofLeBytes_lt (bs : List UInt8) : ofLeBytes bs < wordCount bs.length := by
  induction bs with
  | nil => simp [ofLeBytes, wordCount]
  | cons b bs ih =>
    have hb := b.toNat_lt
    simp only [ofLeBytes, List.length_cons, wordCount]
    omega

theorem leBytes_ofLeBytes (bs : List UInt8) : leBytes bs.length (ofLeBytes bs) = bs := by
  induction bs with
  | nil => rfl
  | cons b bs ih =>
    have hb := b.toNat_lt
    have hdiv : (b.toNat + 256 * ofLeBytes bs) / 256 = ofLeBytes bs := by omega
    have hmod : UInt8.ofNat (b.toNat + 256 * ofLeBytes bs) = b := by
      apply UInt8.toNat.inj
      rw [UInt8.toNat_ofNat']
      omega
    simp only [List.length_cons, ofLeBytes, leBytes, hdiv, hmod, ih]

/-- The number that the bytes store in two's complement. -/
def ofLeBytesSigned (bs : List UInt8) : Int :=
  Int.bmod (ofLeBytes bs) (wordCount bs.length)

/-- The eight bytes of an address. -/
def wordBytes (a : Address) : List UInt8 := leBytes 8 a.toNat

/-- The address that the first eight bytes store. -/
def ofWordBytes (bs : List UInt8) : Address := UInt64.ofNat (ofLeBytes (bs.take 8))

@[simp] theorem length_wordBytes (a : Address) : (wordBytes a).length = 8 := length_leBytes _ _

@[simp] theorem ofWordBytes_wordBytes_append (a : Address) (bs : List UInt8) :
    ofWordBytes (wordBytes a ++ bs) = a := by
  have h : (wordBytes a ++ bs).take 8 = wordBytes a :=
    List.take_left' (length_wordBytes a)
  rw [ofWordBytes, h, wordBytes, ofLeBytes_leBytes]
  apply UInt64.toNat.inj
  have ha := a.toNat_lt
  have hw : wordCount 8 = 18446744073709551616 := rfl
  rw [UInt64.toNat_ofNat', hw]
  omega

@[simp] theorem ofWordBytes_wordBytes (a : Address) : ofWordBytes (wordBytes a) = a := by
  simpa using ofWordBytes_wordBytes_append a []

end MessageBridge
