import MessageBridge.Native.Registers
import MessageBridge.Number.Word
import Mathlib.Tactic.Common

/-!
# Words in registers

Calls in which everything is a word: as long as there are general registers for all of them, the words
arrive in their order, and a word comes back as it was left.

## Main definitions

* `Descriptor.IsWord` — a type that is passed in one general register.

## Main results

* `Registers.place_words` — how words are passed.
* `Descriptor.IsWord.toBytes?_word` — how a word comes back.
-/

namespace MessageBridge

lemma take_wordBytes (w : UInt64) : (wordBytes w).take wordSize = wordBytes w :=
  List.take_of_length_le (Nat.le_of_eq (length_wordBytes w))

/-- **A word**: the type is passed in one general register and read back as it was written. -/
structure Descriptor.IsWord (d : Descriptor) : Prop where
  registers : d.registers? = some [.general]
  scalar : d.scalar? = none
  size : d.size = wordSize

namespace Descriptor.IsWord

variable {d : Descriptor}

lemma words_eq (h : d.IsWord) (w : UInt64) : d.words (wordBytes w) = [w] := by
  have hslice : sliceBytes ((wordBytes w).take wordSize) 0 8 = wordBytes w := by
    rw [sliceBytes, List.drop_zero, take_wordBytes]
    exact take_wordBytes w
  have hrange : List.range ((wordSize + 7) / wordSize) = [0] := rfl
  simp only [Descriptor.words, h.scalar, h.size, hrange, List.map_cons, List.map_nil, Nat.mul_zero,
    hslice, ofWordBytes_wordBytes]

/-- The result of a routine is the word that it leaves. -/
lemma toBytes?_word (h : d.IsWord) (w : UInt64) :
    (Returned.word w).toBytes? d = some (wordBytes w) := by
  have hpad : padBytes (wordBytes w) wordSize = wordBytes w := by
    rw [padBytes, length_wordBytes]
    exact List.append_nil _
  have hbytes : Registers.bytesOf wordSize [some w] = some (wordBytes w) := by
    have htake : (wordBytes w ++ []).take wordSize = wordBytes w := by
      rw [List.append_nil, take_wordBytes]
    rw [← htake]
    rfl
  simp only [Returned.toBytes?, h.registers, h.scalar, h.size]
  exact (congrArg (Option.map (padBytes · wordSize)) hbytes).trans (congrArg some hpad)

end Descriptor.IsWord

@[simp] lemma Descriptor.isWord_object : Descriptor.object.IsWord :=
  ⟨by decide, by decide, by decide⟩

@[simp] lemma Descriptor.isWord_selector : Descriptor.selector.IsWord :=
  ⟨by decide, by decide, by decide⟩

namespace Registers

/-- A word goes to the next general register. -/
lemma placeOne_word {d : Descriptor} (hd : d.IsWord) {ws : List UInt64} (hroom : ws.length < 6)
    (w : UInt64) : ({ general := ws.map some } : Registers).placeOne d (wordBytes w) =
      { general := (ws ++ [w]).map some } := by
  have hfits : fits (ws.map some).length 0 [.general] = true := by
    simp [fits, generalCount, vectorCount]
    omega
  simp only [placeOne, hd.registers, hd.words_eq, List.length_nil, hfits, if_true, List.map_append]
  rfl

/-- **Calls of words**: as long as there are registers for all of them, the words are passed in
order. -/
lemma place_words {ret : Descriptor} {args : List Descriptor} {ws : List UInt64}
    (hret : ret.registers?.isSome) (hargs : ∀ d ∈ args, d.IsWord) (hlength : args.length = ws.length)
    (hroom : ws.length ≤ 6) :
    place ret (args.zip (ws.map wordBytes)) = { general := ws.map some } := by
  have hfold (args : List Descriptor) (before ws : List UInt64) (hargs : ∀ d ∈ args, d.IsWord)
      (hlength : args.length = ws.length) (hroom : before.length + ws.length ≤ 6) :
      (args.zip (ws.map wordBytes)).foldl (fun r a => r.placeOne a.1 a.2)
        ({ general := before.map some } : Registers) = { general := (before ++ ws).map some } := by
    induction args generalizing before ws with
    | nil =>
      obtain rfl := List.eq_nil_of_length_eq_zero hlength.symm
      rw [List.append_nil]
      rfl
    | cons d args ih =>
      cases ws with
      | nil => cases hlength
      | cons w ws =>
        rw [List.length_cons] at hroom
        rw [List.map_cons, List.zip_cons_cons, List.foldl_cons,
          placeOne_word (hargs d List.mem_cons_self) (by omega),
          ih _ _ (fun e he => hargs e (List.mem_cons_of_mem _ he)) (Nat.succ.inj hlength)
            (by rw [List.length_append, List.length_singleton]; omega),
          List.append_assoc, List.singleton_append]
  have hstart : ret.registers?.isNone = false := by
    rw [← Option.not_isSome, hret]
    rfl
  rw [place, hstart]
  exact hfold args [] ws hargs hlength (by rwa [List.length_nil, Nat.zero_add])

end Registers

end MessageBridge
