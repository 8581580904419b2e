import MessageBridge.Proofs.Encoding.Reading

/-!
# Type strings of signatures

A signature forgets the stack offsets and the qualifiers of the type string it was read from, and its
own type string is its types side by side. Read back, each type ends where it ended before, unless it
can take in the start of the next one. That happens in one place only: a text that ends with the sign
of an object takes in a question mark, the sign of something unknown, and the two become a block.

## Main definitions

* `Descriptor.Absorbs` — a type that takes in the start of the next.
* `Signature.Apart` — no type of the signature absorbs the next.

## Main results

* `Translator.reparses_iff` — a signature that was read is read back from its own type string if and
  only if its types are apart.
-/

namespace MessageBridge

open Encoding

instance decidableEqExcept {ε α : Type} [DecidableEq ε] [DecidableEq α] : DecidableEq (Except ε α)
  | .ok a, .ok b => decidable_of_iff (a = b) (by simp)
  | .error e, .error e' => decidable_of_iff (e = e') (by simp)
  | .ok _, .error _ | .error _, .ok _ => isFalse nofun

/-- **Spelled**: the descriptor is what its own encoding denotes. -/
def Descriptor.Spelled (layout? : String → Option Layout) (d : Descriptor) : Prop :=
  ∃ tail, Spells layout? false d.encoding.toList d.shape tail

/-- **Absorbs**: side by side, the first text takes in the start of the second. -/
def Descriptor.Absorbs (d e : Descriptor) : Prop :=
  d.encoding.toList.getLast? = some '@' ∧ e.encoding.toList.head? = some '?'

instance (d e : Descriptor) : Decidable (d.Absorbs e) :=
  inferInstanceAs (Decidable (_ ∧ _))

/-- **Apart**: no type of the signature absorbs the next. -/
def Signature.Apart (sig : Signature) : Prop :=
  (sig.ret :: sig.args).IsChain fun d e => ¬ d.Absorbs e

instance (sig : Signature) : Decidable sig.Apart :=
  inferInstanceAs (Decidable (List.IsChain _ _))

/-! ## Neighbours -/

section Neighbours

variable {layout? : String → Option Layout} {d : Descriptor} {ds : List Descriptor}

/-- Types side by side start as a type does. -/
lemma starts_flatMap (h : ∀ d ∈ ds, d.Spelled layout?) :
    ∀ c ∈ (ds.flatMap (·.encoding.toList)).head?, Starts c := by
  intro c hc
  cases ds with
  | nil => cases hc
  | cons d ds =>
    obtain ⟨tail, hd⟩ := h d List.mem_cons_self
    obtain ⟨x, v, hcons, hstart⟩ := hd.exists_cons
    rw [List.flatMap_cons, hcons] at hc
    cases hc
    exact hstart

/-- No type has an empty text. -/
lemma length_le_flatMap (h : ∀ d ∈ ds, d.Spelled layout?) :
    ds.length ≤ (ds.flatMap (·.encoding.toList)).length := by
  induction ds with
  | nil => exact Nat.zero_le _
  | cons d ds ih =>
    obtain ⟨_, hd⟩ := h d List.mem_cons_self
    obtain ⟨c, v, hcons, -⟩ := hd.exists_cons
    have hle := ih fun e he => h e (List.mem_cons_of_mem _ he)
    simp only [List.flatMap_cons, List.length_cons, List.length_append, hcons]
    omega

end Neighbours

/-! ## Reading back -/

namespace Translator

variable {t : Translator} {d : Descriptor} {ds : List Descriptor} {s rest : List Char}

/-- What is read is spelled by its encoding. -/
lemma spelled_of_readOne (h : t.readOne s = .ok (d, rest)) : d.Spelled t.layout? := by
  obtain ⟨q, u, shape, tail, -, -, hu, rfl, -⟩ := readOne_eq_ok_iff.mp h
  exact ⟨tail, by simpa [Descriptor.encoding, Descriptor.shape] using hu⟩

lemma spelled_of_readAll {count : Nat} (h : t.readAll count s = .ok ds) :
    ∀ d ∈ ds, d.Spelled t.layout? := by
  induction count generalizing s ds with
  | zero =>
    cases h
    simp
  | succ count ih =>
    cases s with
    | nil =>
      cases h
      simp
    | cons c s =>
      obtain ⟨⟨d, rest⟩, hone, h⟩ := bind_eq_ok.mp h
      obtain ⟨ds', hrest, h⟩ := bind_eq_ok.mp h
      cases h
      exact List.forall_mem_cons.mpr ⟨spelled_of_readOne hone, ih hrest⟩

/-- **The first of several types**: it is read back just if it does not absorb what follows. -/
lemma readAll_append (hd : d.Spelled t.layout?) (hrest : ∀ c ∈ rest.head?, Starts c) (count : Nat) :
    t.readAll (count + 1) (d.encoding.toList ++ rest) = .ok (d :: ds) ↔
      ¬ (d.encoding.toList.getLast? = some '@' ∧ rest.head? = some '?') ∧
        t.readAll count rest = .ok ds := by
  have happart : ∀ c ∈ rest.head?, c ≠ '"' ∧ isOffset c = false := fun c hc =>
    ⟨(hrest c hc).ne_quote, (hrest c hc).isOffset⟩
  have hoffset : skipOffset rest = rest := by
    cases rest with
    | nil => rfl
    | cons c rest => simp [skipOffset, (hrest c rfl).isOffset]
  obtain ⟨tail, hd⟩ := hd
  obtain ⟨c, v, hcons, hstart⟩ := hd.exists_cons
  have hstep : t.readAll (count + 1) (d.encoding.toList ++ rest) =
      t.readOne (d.encoding.toList ++ rest) >>= fun r =>
        t.readAll count (skipOffset r.2) >>= fun ds => .ok (r.1 :: ds) := by
    rw [hcons]
    rfl
  constructor
  · intro h
    rw [hstep] at h
    obtain ⟨⟨d', after⟩, hone, h⟩ := bind_eq_ok.mp h
    obtain ⟨ds', hall, h⟩ := bind_eq_ok.mp h
    cases h
    obtain ⟨q, u, shape, tail', hs, hq, hu, rfl, hstop⟩ := readOne_eq_ok_iff.mp hone
    -- the text starts with no qualifier, and what was read has the same length
    obtain rfl : q = [] := by
      cases q with
      | nil => rfl
      | cons x q =>
        obtain rfl : c = x := by simpa [hcons] using congrArg List.head? hs
        exact absurd (hq _ List.mem_cons_self) (by simp [hstart.isQualifier])
    simp only [Descriptor.encoding, String.toList_ofList, List.nil_append,
      List.append_cancel_left_eq] at hs ⊢
    subst hs
    rw [hoffset] at hall
    exact ⟨(hu.stops_iff happart).mp hstop, hall⟩
  · rintro ⟨habsorbs, hall⟩
    have hparts : d = .mk (String.ofList d.encoding.toList) d.shape := by
      cases d
      simp [Descriptor.encoding, Descriptor.shape]
    have hone : t.readOne (d.encoding.toList ++ rest) = .ok (d, rest) :=
      readOne_eq_ok_iff.mpr ⟨[], _, _, tail, rfl, Qualifiers.nil, hd, hparts,
        (hd.stops_iff happart).mpr habsorbs⟩
    rw [hstep, hone, ok_bind, hoffset, hall, ok_bind]

/-- **Types side by side** are read back just if none absorbs the next. -/
theorem readAll_flatMap_iff (h : ∀ d ∈ ds, d.Spelled t.layout?) {count : Nat}
    (hcount : ds.length ≤ count) :
    t.readAll count (ds.flatMap (·.encoding.toList)) = .ok ds ↔
      ds.IsChain fun d e => ¬ d.Absorbs e := by
  induction ds generalizing count with
  | nil => cases count <;> simp [readAll]
  | cons d ds ih =>
    obtain ⟨count, rfl⟩ : ∃ k, count = k + 1 := ⟨count - 1, by simp at hcount; omega⟩
    have hrest : ∀ e ∈ ds, e.Spelled t.layout? := fun e he => h e (List.mem_cons_of_mem _ he)
    rw [List.flatMap_cons, readAll_append (h d List.mem_cons_self) (starts_flatMap hrest),
      ih hrest (by simpa using hcount)]
    cases ds with
    | nil => simp
    | cons e ds =>
      obtain ⟨_, he⟩ := hrest e List.mem_cons_self
      obtain ⟨c, v, hcons, -⟩ := he.exists_cons
      rw [List.isChain_cons_cons, Descriptor.Absorbs, List.flatMap_cons, hcons]
      rfl

lemma parseSignature_eq_bind (types : String) :
    t.parseSignature types = t.split types >>= fun
      | [] => .error (.invalidSignature types)
      | ret :: args =>
        if (Signature.mk ret args).isMethod then .ok ⟨ret, args⟩
        else .error (.invalidSignature types) := rfl

/-- How a type string is read as a signature. -/
lemma parseSignature_eq_ok_iff {types : String} {sig : Signature} :
    t.parseSignature types = .ok sig ↔
      t.readAll types.toList.length types.toList = .ok (sig.ret :: sig.args) ∧
        sig.isMethod = true := by
  rw [parseSignature_eq_bind, split]
  obtain ⟨ret, args⟩ := sig
  cases t.readAll types.toList.length types.toList with
  | error refusal => simp [Except.mapError, bind, Except.bind]
  | ok ds =>
    rw [Except.mapError, ok_bind]
    cases ds with
    | nil => simp
    | cons ret' args' =>
      by_cases hmethod : (Signature.mk ret' args').isMethod = true
      · simp only [hmethod, if_true, Except.ok.injEq, Signature.mk.injEq, List.cons.injEq]
        refine (and_iff_left_of_imp ?_).symm
        rintro ⟨rfl, rfl⟩
        exact hmethod
      · simp only [hmethod, Except.ok.injEq, List.cons.injEq]
        refine iff_of_false (by simp) ?_
        rintro ⟨⟨rfl, rfl⟩, h⟩
        exact hmethod h

/-- **Reading back**: a signature that was read from a type string is read back from its own type
string, with equal descriptors, if and only if none of its types absorbs the next. -/
theorem reparses_iff {types : String} {sig : Signature} (h : t.parseSignature types = .ok sig) :
    t.parseSignature sig.encoding = .ok sig ↔ sig.Apart := by
  obtain ⟨hread, hmethod⟩ := parseSignature_eq_ok_iff.mp h
  have hspelled := spelled_of_readAll hread
  have htext : sig.encoding.toList = (sig.ret :: sig.args).flatMap (·.encoding.toList) := by
    simp [Signature.encoding, String.toList_join, List.flatMap_map]
  have hcount : (sig.ret :: sig.args).length ≤ sig.encoding.toList.length := by
    rw [htext]
    exact length_le_flatMap hspelled
  rw [parseSignature_eq_ok_iff, and_iff_left hmethod, htext,
    readAll_flatMap_iff hspelled (htext ▸ hcount)]
  rfl

/-- The signature of a setter is read back, without the offsets. -/
theorem reparses_setter :
    ∃ sig, ({} : Translator).parseSignature "v24@0:8@16" = .ok sig ∧ sig.encoding = "v@:@" ∧
      ({} : Translator).parseSignature sig.encoding = .ok sig := by
  have hsetter : ({} : Translator).parseSignature "v24@0:8@16" =
      .ok ⟨.scalar .void, [.object, .selector, .object]⟩ := by decide +kernel
  exact ⟨_, hsetter, by decide +kernel, (reparses_iff hsetter).mpr (by decide +kernel)⟩

/-- An object and a function pointer, kept apart by the offset between them, are read back as one
block. -/
theorem swallows_function_pointer :
    ∃ sig sig' : Signature, ({} : Translator).parseSignature "q@:@16?24" = .ok sig ∧
      sig.encoding = "q@:@?" ∧ ({} : Translator).parseSignature sig.encoding = .ok sig' ∧
      sig.args.length = 4 ∧ sig'.args.length = 3 :=
  ⟨⟨.scalar .longLong, [.object, .selector, .object, .mk "?" (.pointer 1 none)]⟩,
    ⟨.scalar .longLong, [.object, .selector, .mk "@?" (.object none)]⟩,
    by decide +kernel, by decide +kernel, by decide +kernel, rfl, rfl⟩

end Translator

end MessageBridge
