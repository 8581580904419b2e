import MessageBridge.Marshal.Basic
import MessageBridge.Proofs.Native.Zero

/-!
# Bytes inside a struct

A struct is written field by field into a zeroed buffer. Every field lies behind the ones before it, so
that what was written for one field is still there when the others have been written.

## Main results

* `getElem?_overwriteBytes` — writing, byte by byte.
* `sliceBytes_overwriteBytes`, `sliceBytes_congr` — what was written is there, and stays there while the
  bytes up to its end stay.
* `Layout.le_place`, `Layout.place_le_size` — fields are placed one after another, inside the struct.
-/

namespace MessageBridge

/-! ## Bytes -/

section Bytes

variable {bytes new out : List UInt8} {offset count n : Nat}

lemma length_overwriteBytes (h : offset + new.length ≤ bytes.length) :
    (overwriteBytes bytes offset new).length = bytes.length := by
  simp only [overwriteBytes, List.length_append, List.length_take, List.length_drop]
  omega

lemma take_overwriteBytes (h : offset + new.length ≤ bytes.length) :
    (overwriteBytes bytes offset new).take offset = bytes.take offset := by
  rw [overwriteBytes, List.append_assoc]
  exact List.take_left' (by rw [List.length_take]; omega)

lemma drop_overwriteBytes (h : offset + new.length ≤ bytes.length) :
    (overwriteBytes bytes offset new).drop (offset + new.length) =
      bytes.drop (offset + new.length) :=
  List.drop_left' (by rw [List.length_append, List.length_take]; omega)

/-- What was written is there. -/
lemma sliceBytes_overwriteBytes (h : offset + new.length ≤ bytes.length) :
    sliceBytes (overwriteBytes bytes offset new) offset new.length = new := by
  have hdrop : (overwriteBytes bytes offset new).drop offset =
      new ++ bytes.drop (offset + new.length) := by
    rw [overwriteBytes, List.append_assoc]
    exact List.drop_left' (by rw [List.length_take]; omega)
  rw [sliceBytes, hdrop]
  exact List.take_left' rfl

/-- Byte by byte, what was written is there, and the rest is as before. -/
lemma getElem?_overwriteBytes (h : offset + new.length ≤ bytes.length) (i : Nat) :
    (overwriteBytes bytes offset new)[i]? =
      if offset ≤ i ∧ i < offset + new.length then new[i - offset]? else bytes[i]? := by
  rw [overwriteBytes]
  split
  · next hi =>
    rw [List.getElem?_append_left (by simp; omega), List.getElem?_append_right (by simp; omega),
      List.length_take_of_le (by omega)]
  · next hi =>
    by_cases hlt : i < offset
    · rw [List.getElem?_append_left (by simp; omega), List.getElem?_append_left (by simp; omega),
        List.getElem?_take_of_lt hlt]
    · rw [List.getElem?_append_right (by simp; omega), List.getElem?_drop, List.length_append,
        List.length_take_of_le (by omega)]
      congr 1
      omega

lemma getElem?_sliceBytes (bytes : List UInt8) (offset count i : Nat) :
    (sliceBytes bytes offset count)[i]? = if i < count then bytes[offset + i]? else none := by
  rw [sliceBytes, List.getElem?_take, List.getElem?_drop]

lemma length_sliceBytes (h : offset + count ≤ bytes.length) :
    (sliceBytes bytes offset count).length = count := by
  rw [sliceBytes, List.length_take, List.length_drop]
  omega

/-- A slice depends only on the bytes up to its end. -/
lemma sliceBytes_congr (htake : bytes.take n = out.take n) (h : offset + count ≤ n) :
    sliceBytes bytes offset count = sliceBytes out offset count := by
  have hprefix : bytes.take (offset + count) = out.take (offset + count) := by
    have := congrArg (List.take (offset + count)) htake
    rwa [List.take_take, List.take_take, Nat.min_eq_left h] at this
  rw [sliceBytes, sliceBytes, List.take_drop, List.take_drop, hprefix]

lemma sliceBytes_append (h : offset + count ≤ bytes.length) (rest : List UInt8) :
    sliceBytes (bytes ++ rest) offset count = sliceBytes bytes offset count :=
  sliceBytes_congr (List.take_left' rfl |>.trans (List.take_length).symm) h

/-- Zeroed bytes are as many zeros. -/
lemma Zeroed.eq_replicate (h : Zeroed bytes) : bytes = List.replicate bytes.length 0 :=
  List.eq_replicate_of_mem h

/-- The address that was written is read. -/
lemma ofWordBytes_writeWord (out rest : List UInt8) (a : Address) :
    ofWordBytes (Act.writeWord out a ++ rest) = a := by
  rw [Act.writeWord, overwriteBytes, List.take_zero, List.nil_append, List.append_assoc,
    ofWordBytes_wordBytes_append]

end Bytes

/-! ## Layouts -/

lemma le_roundUp (n a : Nat) : n ≤ roundUp n a := by
  unfold roundUp
  split <;> omega

namespace Layout

variable (start : Nat) (name : Option String) (d : Descriptor)
  (fields : List (Option String × Descriptor))

lemma place_cons : place start ((name, d) :: fields) =
    (.mk name (roundUp start d.alignment) d ::
      (place (roundUp start d.alignment + d.size) fields).1,
      (place (roundUp start d.alignment + d.size) fields).2) := rfl

/-- Fields are placed one after another. -/
lemma le_place : start ≤ (place start fields).2 := by
  induction fields generalizing start with
  | nil => exact Nat.le_refl start
  | cons f fields ih =>
    obtain ⟨name, d⟩ := f
    have hstart := le_roundUp start d.alignment
    have hrest := ih (roundUp start d.alignment + d.size)
    rw [place_cons]
    simp only
    omega

/-- Every field lies behind the start, and ends before the next one begins. -/
lemma mem_place {f : Field} (h : f ∈ (place start fields).1) :
    start ≤ f.offset ∧ f.offset + f.descriptor.size ≤ (place start fields).2 ∧
      (f.name, f.descriptor) ∈ fields := by
  induction fields generalizing start with
  | nil => cases h
  | cons g fields ih =>
    obtain ⟨name, d⟩ := g
    have hstart := le_roundUp start d.alignment
    rw [place_cons] at h ⊢
    rcases List.mem_cons.mp h with rfl | h
    · exact ⟨hstart, le_place _ fields, List.mem_cons_self ..⟩
    · obtain ⟨hle, hend, hmem⟩ := ih _ h
      exact ⟨by omega, hend, List.mem_cons_of_mem _ hmem⟩

/-- All fields lie inside the struct. -/
lemma place_le_size (name : String) : (place 0 fields).2 ≤ (ofFields name fields).size :=
  le_roundUp _ _

end Layout

end MessageBridge
