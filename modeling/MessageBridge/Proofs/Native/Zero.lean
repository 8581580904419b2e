import MessageBridge.Bridge.Reentry
import Mathlib.Tactic.Common

/-!
# Results that read as zero

A host body that fails leaves zeros behind. Whatever type the caller expects, and however many
routines hand the result on, what the caller reads is zero in every byte, or nothing at all.

## Main definitions

* `Zeroed` — all bytes are zero.
* `Returned.Zeroed` — all registers and bytes that a call left behind are zero.
* `ReadsZero` — a result is zero in every byte, if there is one.

## Main results

* `Returned.readsZero_toBytes?` — zeros are read as zeros, as any type.
* `Call.readsZero_result` — zeros that a callee leaves behind reach the caller as zeros.
-/

namespace MessageBridge

/-- **Zeroed**: all bytes are zero. -/
def Zeroed (bytes : List UInt8) : Prop := ∀ x ∈ bytes, x = 0

namespace Zeroed

variable {bytes more : List UInt8}

lemma replicate (n : Nat) : Zeroed (List.replicate n 0) := fun _ h => (List.mem_replicate.mp h).2

lemma append (h : Zeroed bytes) (h' : Zeroed more) : Zeroed (bytes ++ more) := by
  intro x hx
  rcases List.mem_append.mp hx with hx | hx
  · exact h x hx
  · exact h' x hx

lemma take (h : Zeroed bytes) (n : Nat) : Zeroed (bytes.take n) :=
  fun x hx => h x (List.mem_of_mem_take hx)

lemma drop (h : Zeroed bytes) (n : Nat) : Zeroed (bytes.drop n) :=
  fun x hx => h x (List.mem_of_mem_drop hx)

lemma padBytes (h : Zeroed bytes) (n : Nat) : Zeroed (padBytes bytes n) :=
  h.append (.replicate _)

lemma ofLeBytes_eq (h : Zeroed bytes) : ofLeBytes bytes = 0 := by
  induction bytes with
  | nil => rfl
  | cons x bytes ih =>
    have hx : x = 0 := h x (List.mem_cons_self ..)
    have htail : ofLeBytes bytes = 0 := ih fun y hy => h y (List.mem_cons_of_mem x hy)
    rw [ofLeBytes, hx, htail]
    rfl

lemma ofWordBytes_eq (h : Zeroed bytes) : ofWordBytes bytes = 0 := by
  rw [ofWordBytes, (h.take 8).ofLeBytes_eq]
  rfl

lemma ofLeBytesSigned_eq (h : Zeroed bytes) : ofLeBytesSigned bytes = 0 := by
  rw [ofLeBytesSigned, h.ofLeBytes_eq]
  exact Int.bmod_eq_of_le (by omega) (by have := ofLeBytes_lt bytes; omega)

lemma wordBytes : Zeroed (wordBytes 0) := by
  have hzero : MessageBridge.wordBytes 0 = List.replicate 8 0 := rfl
  rw [hzero]
  exact replicate 8

lemma flatMap_wordBytes {ws : List UInt64} (h : ∀ w ∈ ws, w = 0) :
    Zeroed (ws.flatMap MessageBridge.wordBytes) := by
  intro x hx
  obtain ⟨w, hw, hx⟩ := List.mem_flatMap.mp hx
  rw [h w hw] at hx
  exact wordBytes x hx

/-- As whole words zeros are zeros. -/
lemma words (h : Zeroed bytes) (d : Descriptor) : ∀ w ∈ d.words bytes, w = 0 := by
  intro w hw
  unfold Descriptor.words at hw
  split at hw
  · split at hw
    · rw [List.mem_singleton.mp hw, (h.take _).ofLeBytesSigned_eq]
      rfl
    · rw [List.mem_singleton.mp hw, (h.take _).ofWordBytes_eq]
  · obtain ⟨i, -, rfl⟩ := List.mem_map.mp hw
    exact (((h.take _).drop _).take _).ofWordBytes_eq

end Zeroed

/-- **Reads zero**: the result is zero in every byte, if there is one. -/
def ReadsZero (result : Option (List UInt8)) : Prop := ∀ bytes, result = some bytes → Zeroed bytes

namespace Registers

variable {r : Registers}

/-- What is popped off zeroed registers is zero. -/
lemma mem_pop (hgeneral : ∀ w, some w ∈ r.general → w = 0) (hvector : ∀ w, some w ∈ r.vector → w = 0)
    (kinds : List RegisterKind) : ∀ w, some w ∈ (r.pop kinds).1 → w = 0 := by
  induction kinds generalizing r with
  | nil => intro w hw; cases hw
  | cons kind kinds ih =>
    intro w hw
    cases kind with
    | general =>
      rcases List.mem_cons.mp hw with hw | hw
      · cases hg : r.general with
        | nil => rw [hg] at hw; cases hw
        | cons g gs =>
          rw [hg] at hw
          cases g with
          | none => cases hw
          | some g => exact hgeneral w (by rw [hg]; exact List.mem_cons.mpr (.inl hw))
      · exact ih (r := { r with general := r.general.drop 1 })
          (fun w hw => hgeneral w (List.mem_of_mem_drop hw)) hvector w hw
    | vector =>
      rcases List.mem_cons.mp hw with hw | hw
      · cases hv : r.vector with
        | nil => rw [hv] at hw; cases hw
        | cons v vs =>
          rw [hv] at hw
          cases v with
          | none => cases hw
          | some v => exact hvector w (by rw [hv]; exact List.mem_cons.mpr (.inl hw))
      · exact ih (r := { r with vector := r.vector.drop 1 }) hgeneral
          (fun w hw => hvector w (List.mem_of_mem_drop hw)) w hw

/-- Words that are all there are their own list. -/
lemma eq_map_some_of_mapM {words : List (Option UInt64)} {ws : List UInt64}
    (h : words.mapM id = some ws) : words = ws.map some := by
  induction words generalizing ws with
  | nil => cases h; rfl
  | cons o words ih =>
    rw [List.mapM_cons] at h
    cases o with
    | none => cases h
    | some w =>
      cases hrest : words.mapM id with
      | none => rw [hrest] at h; cases h
      | some rest =>
        rw [hrest] at h
        cases h
        rw [ih hrest, List.map_cons]

lemma readsZero_bytesOf {words : List (Option UInt64)} (h : ∀ w, some w ∈ words → w = 0)
    (size : Nat) : ReadsZero (bytesOf size words) := by
  intro bytes hbytes
  unfold bytesOf at hbytes
  obtain ⟨ws, hws, rfl⟩ := Option.map_eq_some_iff.mp hbytes
  refine (Zeroed.flatMap_wordBytes fun w hw => h w ?_).take size
  rw [eq_map_some_of_mapM hws]
  exact List.mem_map_of_mem hw

end Registers

namespace Returned

/-- **Zeroed**: everything that a call left behind is zero. -/
structure Zeroed (r : Returned) : Prop where
  general : ∀ w ∈ r.general, w = 0
  vector : ∀ w ∈ r.vector, w = 0
  memory : ReadsZero r.memory?

lemma zeroed_word : (word 0).Zeroed :=
  ⟨fun _ h => List.mem_singleton.mp h, fun _ h => (by cases h), fun _ h => (by cases h)⟩

lemma zeroed_nothing : nothing.Zeroed :=
  ⟨fun _ h => (by cases h), fun _ h => (by cases h), fun _ h => (by cases h)⟩

/-- Zeros stay zeros on their way into registers. -/
lemma zeroed_ofBytes {bytes : List UInt8} (h : MessageBridge.Zeroed bytes) (ret : Descriptor) :
    (ofBytes ret bytes).Zeroed := by
  unfold ofBytes
  split
  · exact zeroed_word
  · split
    · have hwords (p : RegisterKind × UInt64 → Bool) (kinds : List RegisterKind) :
          ∀ w ∈ ((kinds.zip (ret.words bytes)).filter p).map Prod.snd, w = 0 := by
        intro w hw
        obtain ⟨⟨kind, w⟩, hmem, rfl⟩ := List.mem_map.mp hw
        exact h.words ret _ (List.of_mem_zip ((List.mem_filter.mp hmem).1)).2
      exact ⟨hwords _ _, hwords _ _, fun _ h => (by cases h)⟩
    · refine ⟨fun _ h => (by cases h), fun _ h => (by cases h), fun taken htaken => ?_⟩
      cases htaken
      exact h.take _

/-- **Zeros are read as zeros**, whatever type they are read as. -/
lemma readsZero_toBytes? {r : Returned} (h : r.Zeroed) (ret : Descriptor) :
    ReadsZero (r.toBytes? ret) := by
  intro bytes hbytes
  unfold toBytes? at hbytes
  split at hbytes
  · next kinds _ =>
    have hsome {ws : List UInt64} (hws : ∀ w ∈ ws, w = 0) : ∀ w, some w ∈ ws.map some → w = 0 := by
      intro w hw
      obtain ⟨w', hw', hsome⟩ := List.mem_map.mp hw
      cases hsome
      exact hws w hw'
    have hread := Registers.readsZero_bytesOf (Registers.mem_pop
      (r := ⟨r.general.map some, r.vector.map some, []⟩) (hsome h.general) (hsome h.vector) kinds)
      ret.size
    split at hbytes
    next words rest hpop =>
    rw [hpop] at hread
    split at hbytes
    · split at hbytes
      · obtain ⟨read, hr, rfl⟩ := Option.map_eq_some_iff.mp hbytes
        exact (hread read hr).padBytes _
      · obtain ⟨read, hr, rfl⟩ := Option.map_eq_some_iff.mp hbytes
        exact .flatMap_wordBytes ((hread read hr).words ret)
    · obtain ⟨read, hr, rfl⟩ := Option.map_eq_some_iff.mp hbytes
      exact (hread read hr).padBytes _
  · cases hbytes
    cases hm : r.memory? with
    | none => exact .replicate _
    | some memory => exact h.memory memory hm

end Returned

/-- **Zeros that a callee leaves behind** reach the caller as zeros. -/
lemma Call.readsZero_result (c : Call) (ret : Descriptor) {bytes : List UInt8}
    (h : Zeroed bytes) : ReadsZero (c.result ret bytes) := by
  unfold Call.result
  split
  · rintro _ ⟨⟩
    exact h
  · exact Returned.readsZero_toBytes? (Returned.zeroed_ofBytes h ret) _

end MessageBridge
