import MessageBridge.Proofs.Encoding.CLayout
import MessageBridge.Proofs.Space.Growth
import MessageBridge.Proofs.Space.Variables

/-!
# Sizes

The offset of an instance variable, the size of the instances of a class and the number of bytes that
an instance is given are sums of words, and they wrap. Only the offset is checked, after it was computed.
So each of them is what it is in numbers without bound just if the sum is a word, or if the request is
refused for another reason.

## Main definitions

* `ClassTable.ivarStart`, `ClassTable.neededBytes` — the sums, in numbers without bound.
* `SizeRequest` — the requests that make such sums, among the others about classes.
* `ObjectSpace.Exact` — the request is refused, or served with the exact sums.
* `ObjectSpace.Wraps` — the request is served with a sum that is not a word.
* `ObjectSpace.Throughout` — something holds of every request of a run.

## Main results

* `ClassTable.toNat_nextMultiple` — rounding up is exact but for the wrap.
* `ObjectSpace.exact_iff` — one request.
* `ObjectSpace.throughout_exact_iff` — a run of requests.
-/

namespace MessageBridge

/-! ## Rounding up -/

namespace ClassTable

variable {t t' : ClassTable} {c d : ClassId} {name types : String} {size : UInt64} {e : UInt8}

/-- **The next multiple** is the exact one, wrapped. -/
lemma toNat_nextMultiple {n a : UInt64} {k : Nat} (ha : a.toNat = 2 ^ k) :
    (nextMultiple n a).toNat = roundUp n.toNat (2 ^ k) % 2 ^ 64 := by
  have hmod : (n % a).toNat = n.toNat % 2 ^ k := by rw [UInt64.toNat_mod, ha]
  have hzero : n % a = 0 ↔ n.toNat % 2 ^ k = 0 := by
    rw [← hmod]
    exact ⟨fun h => by rw [h]; rfl, fun h => UInt64.toNat.inj h⟩
  have hlt := Nat.mod_lt n.toNat (Nat.two_pow_pos k)
  unfold nextMultiple roundUp
  simp only
  split
  · next h => rw [if_pos (hzero.mp h), Nat.mod_eq_of_lt n.toNat_lt]
  · next h =>
    have hle : n % a ≤ a := by
      rw [UInt64.le_iff_toNat_le, hmod, ha]
      exact hlt.le
    rw [if_neg (mt hzero.mpr h), UInt64.toNat_add, UInt64.toNat_sub_of_le _ _ hle, hmod, ha]

/-! ## Variables -/

/-- Where a variable with the alignment `2 ^ e` begins, in numbers without bound. -/
def ivarStart (t : ClassTable) (c : ClassId) (e : UInt8) : Nat :=
  roundUp (t.get c).instanceSize.toNat (2 ^ e.toNat)

/-- **Accepts**: nothing is wrong with the variable but perhaps where it would end. -/
structure Accepts (t : ClassTable) (c : ClassId) (name : String) (size : UInt64) (e : UInt8) :
    Prop where
  isMeta : (t.get c).isMeta = false
  registered : (t.get c).registered = false
  size : size ≠ 0
  exponent : e < 16
  name : (t.get c).ivar? name = none

/-- The table in which a class has one more variable. -/
def withIvar (t : ClassTable) (c : ClassId) (i : Ivar) : ClassTable :=
  t.modify c fun r => { r with instanceSize := i.offset + i.size, ivars := r.ivars ++ [i] }

lemma get_withIvar_self (hc : t.Has c) (i : Ivar) :
    (t.withIvar c i).get c =
      { t.get c with instanceSize := i.offset + i.size, ivars := (t.get c).ivars ++ [i] } := by
  rw [withIvar, get_modify, if_pos ⟨rfl, hc⟩]

lemma get_withIvar_of_ne (hd : d ≠ c) (i : Ivar) : (t.withIvar c i).get d = t.get d := by
  rw [withIvar, get_modify, if_neg fun h => hd h.1]

/-- **What adding a variable does**: it is refused, or the variable is the last one then. -/
lemma addIvar?_eq_some_iff : t.addIvar? c name size e types = some t' ↔
    t.Accepts c name size e ∧ t.ivarStart c e % 2 ^ 64 < 2 ^ 63 ∧
      ∃ i : Ivar, i.name = name ∧ i.types = types ∧ i.size = size ∧
        i.offset.toNat = t.ivarStart c e % 2 ^ 64 ∧ t' = t.withIvar c i := by
  have hoffset (he : e < 16) : (nextMultiple (t.get c).instanceSize (1 <<< e.toUInt64)).toNat =
      t.ivarStart c e % 2 ^ 64 :=
    toNat_nextMultiple (toNat_one_shiftLeft he)
  have hlow {o : UInt64} : ¬0x8000000000000000 ≤ o ↔ o.toNat < 2 ^ 63 := by
    rw [UInt64.not_le, UInt64.lt_iff_toNat_lt]
    rfl
  unfold addIvar?
  simp only
  split
  · next hguard =>
    simp only [Bool.or_eq_true, decide_eq_true_eq] at hguard
    refine ⟨fun h => (by cases h), fun ⟨haccepts, _⟩ => ?_⟩
    rcases hguard with (((hmeta | hregistered) | hsize) | hexponent) | hname
    · cases haccepts.isMeta.symm.trans hmeta
    · cases haccepts.registered.symm.trans hregistered
    · exact absurd hsize haccepts.size
    · exact absurd haccepts.exponent (UInt8.not_lt.mpr hexponent)
    · rw [haccepts.name] at hname
      cases hname
  · next hguard =>
    simp only [Bool.or_eq_true, not_or, decide_eq_true_eq, Bool.not_eq_true,
      Option.isSome_eq_false_iff, Option.isNone_iff_eq_none] at hguard
    obtain ⟨⟨⟨⟨hmeta, hregistered⟩, hsize⟩, hexponent⟩, hname⟩ := hguard
    have hexponent : e < 16 := UInt8.not_le.mp hexponent
    split
    · next hhigh =>
      refine ⟨fun h => (by cases h), fun ⟨_, hlt, _⟩ => ?_⟩
      rw [← hoffset hexponent] at hlt
      exact absurd hhigh (hlow.mpr hlt)
    · next hhigh =>
      refine ⟨fun h => ?_, ?_⟩
      · let i : Ivar := ⟨name, types, nextMultiple (t.get c).instanceSize (1 <<< e.toUInt64), size⟩
        refine ⟨⟨hmeta, hregistered, hsize, hexponent, hname⟩, ?_,
          i, rfl, rfl, rfl, hoffset hexponent, (Option.some.inj h).symm⟩
        rw [← hoffset hexponent]
        exact hlow.mp hhigh
      · rintro ⟨-, -, ⟨_, _, offset, _⟩, rfl, rfl, rfl, hplace, rfl⟩
        obtain rfl := UInt64.toNat.inj (hplace.trans (hoffset hexponent).symm)
        rfl

/-- **Sized alike**: the classes are still there, with instances of the size that they had. -/
def SizedAlike (t t' : ClassTable) : Prop :=
  ∀ c, t.Has c → t'.Has c ∧ (t'.get c).instanceSize = (t.get c).instanceSize

namespace SizedAlike

lemma refl (t : ClassTable) : t.SizedAlike t := fun _ hc => ⟨hc, rfl⟩

lemma trans {t'' : ClassTable} (h : t.SizedAlike t') (h' : t'.SizedAlike t'') : t.SizedAlike t'' :=
  fun c hc => ⟨(h' c (h c hc).1).1, (h' c (h c hc).1).2.trans (h c hc).2⟩

lemma modify {f : ClassRecord → ClassRecord} (hf : ∀ r, (f r).instanceSize = r.instanceSize)
    (t : ClassTable) (c : ClassId) : t.SizedAlike (t.modify c f) :=
  fun d hd => ⟨has_modify.mpr hd, get_modify_of_eq ClassRecord.instanceSize hf t c d⟩

lemma lookup (t : ClassTable) (c : ClassId) (sel : Selector) :
    t.SizedAlike (t.lookup c sel).2 := fun d hd =>
  ⟨(SameLayout.lookup t c sel).has_iff.mpr hd, (SameLayout.lookup t c sel).instanceSize d⟩

lemma addMethod? {sel : Selector} {imp : Implementation}
    (h : t.addMethod? c sel imp types = some t') : t.SizedAlike t' := by
  unfold ClassTable.addMethod? at h
  split at h
  · cases h
  · cases h
    exact .modify (by exact fun _ => rfl) _ _

lemma swapImplementation (t : ClassTable) (m : MethodRef) (imp : Option Implementation) :
    t.SizedAlike (t.swapImplementation m imp).2 := .modify (by exact fun _ => rfl) _ _

lemma replaceMethod (t : ClassTable) (c : ClassId) (sel : Selector) (imp : Option Implementation) :
    t.SizedAlike (t.replaceMethod c sel imp types).2 := by
  unfold ClassTable.replaceMethod
  split
  · exact .swapImplementation _ _ _
  · cases himp : imp.bind fun i => t.addMethod? c sel i types with
    | none => exact .refl _
    | some t' =>
      obtain ⟨i, -, h⟩ := Option.bind_eq_some_iff.mp himp
      exact .addMethod? h

lemma register (t : ClassTable) (c : ClassId) : t.SizedAlike (t.register c) := by
  unfold ClassTable.register
  split
  · exact .refl _
  · exact (SizedAlike.modify (by exact fun _ => rfl) _ _).trans
      (.modify (by exact fun _ => rfl) _ _)

lemma setSuperclass (t : ClassTable) (c p : ClassId) : t.SizedAlike (t.setSuperclass c p).2 := by
  unfold ClassTable.setSuperclass
  split
  · exact (SizedAlike.modify (by exact fun _ => rfl) _ _).trans
      (.modify (by exact fun _ => rfl) _ _)
  · exact .refl _

end SizedAlike

/-- The number of bytes that an instance of a class needs, in numbers without bound. -/
def neededBytes (t : ClassTable) (c : ClassId) (extra : UInt64) : Nat :=
  max (t.get c).instanceSize.toNat 8 + extra.toNat

lemma toNat_allocationSize (t : ClassTable) (c : ClassId) (extra : UInt64) :
    (ObjectSpace.allocationSize (t.get c).instanceSize extra).toNat =
      t.neededBytes c extra % 2 ^ 64 := by
  have hmax (n : UInt64) : (if n < 8 then (8 : UInt64) else n).toNat = max n.toNat 8 := by
    split
    · next h =>
      rw [UInt64.lt_iff_toNat_lt] at h
      exact (Nat.max_eq_right h.le).symm
    · next h =>
      rw [UInt64.not_lt, UInt64.le_iff_toNat_le] at h
      exact (Nat.max_eq_left h).symm
  rw [ObjectSpace.allocationSize, UInt64.toNat_add, hmax, neededBytes]

end ClassTable

/-! ## Requests -/

/-- A request that makes sums of sizes, or any other one about classes. -/
inductive SizeRequest where
  /-- Adds an instance variable. -/
  | addIvar (c : ClassId) (name : String) (size : UInt64) (exponent : UInt8) (types : String)
  /-- Creates an instance with extra bytes. -/
  | createInstance (c : ClassId) (extra : UInt64)
  /-- Asks for anything else. -/
  | other (r : ClassRequest)

/-- The classes that a request names. -/
def SizeRequest.classes : SizeRequest → List ClassId
  | addIvar c _ _ _ _ | createInstance c _ => [c]
  | other r => r.classes

namespace ObjectSpace

variable {s s' : ObjectSpace} {c : ClassId} {r : SizeRequest} {rs : List SizeRequest}

/-- The space after a request. -/
def comply (s : ObjectSpace) : SizeRequest → ObjectSpace
  | .addIvar c name size e types => (s.addIvar (some c) name size e types).2
  | .createInstance c extra => (s.createInstance c extra).2
  | .other r => s.serve r

/-- **Exact**: the request is refused and changes nothing, or what it computes is what it is in numbers
without bound. -/
def Exact (s : ObjectSpace) : SizeRequest → Prop
  | .addIvar c name size e types =>
    s.addIvar (some c) name size e types = (false, s) ∨
      ∃ i s', s.addIvar (some c) name size e types = (true, s') ∧
        (s'.classes.get c).ivars = (s.classes.get c).ivars ++ [i] ∧
        i.offset.toNat = s.classes.ivarStart c e ∧
        (s'.classes.get c).instanceSize.toNat = s.classes.ivarStart c e + size.toNat
  | .createInstance c extra =>
    s.createInstance c extra = (0, s) ∨
      ∃ a B s', s.createInstance c extra = (a, s') ∧ s'.memory.blocks = B :: s.memory.blocks ∧
        B.base = a.toNat ∧ B.size = s.classes.neededBytes c extra
  | .other r => s.classes.SizedAlike (s.serve r).classes

/-- **Wraps**: the request is granted although what it computes is not a word. -/
def Wraps (s : ObjectSpace) : SizeRequest → Prop
  | .addIvar c name size e _ =>
    s.classes.Accepts c name size e ∧ s.classes.ivarStart c e % 2 ^ 64 < 2 ^ 63 ∧
      2 ^ 64 ≤ s.classes.ivarStart c e + size.toNat
  | .createInstance c extra =>
    (s.classes.get c).isMeta = false ∧ 2 ^ 64 ≤ s.classes.neededBytes c extra ∧
      (s.memory.allocate (s.classes.neededBytes c extra % 2 ^ 64) []).isSome = true
  | .other _ => False

instance (t : ClassTable) (c : ClassId) (name : String) (size : UInt64) (e : UInt8) :
    Decidable (t.Accepts c name size e) :=
  decidable_of_iff ((t.get c).isMeta = false ∧ (t.get c).registered = false ∧ size ≠ 0 ∧ e < 16 ∧
      ((t.get c).ivar? name).isNone = true)
    ⟨fun ⟨hmeta, hregistered, hsize, hexponent, hname⟩ =>
        ⟨hmeta, hregistered, hsize, hexponent, Option.isNone_iff_eq_none.mp hname⟩,
      fun ⟨hmeta, hregistered, hsize, hexponent, hname⟩ =>
        ⟨hmeta, hregistered, hsize, hexponent, Option.isNone_iff_eq_none.mpr hname⟩⟩

instance (s : ObjectSpace) : (r : SizeRequest) → Decidable (s.Wraps r)
  | .addIvar _ _ _ _ _ => inferInstanceAs (Decidable (_ ∧ _ ∧ _))
  | .createInstance _ _ => inferInstanceAs (Decidable (_ ∧ _ ∧ _))
  | .other _ => inferInstanceAs (Decidable False)

/-- **Throughout**: it holds of every request of a run, in the space that the run has led to by then. -/
def Throughout (P : ObjectSpace → SizeRequest → Prop) : ObjectSpace → List SizeRequest → Prop
  | _, [] => True
  | s, r :: rs => P s r ∧ Throughout P (s.comply r) rs

/-- What is decidable of every request is decidable of a run. -/
def decidableThroughout (P : ObjectSpace → SizeRequest → Prop) [∀ s r, Decidable (P s r)] :
    (s : ObjectSpace) → (rs : List SizeRequest) → Decidable (Throughout P s rs)
  | _, [] => .isTrue trivial
  | s, r :: rs => @instDecidableAnd _ _ _ (decidableThroughout P (s.comply r) rs)

instance (P : ObjectSpace → SizeRequest → Prop) [∀ s r, Decidable (P s r)] (s : ObjectSpace)
    (rs : List SizeRequest) : Decidable (Throughout P s rs) := decidableThroughout P s rs

/-! ### One request -/

lemma addIvar_some_eq (s : ObjectSpace) (c : ClassId) (name : String) (size : UInt64) (e : UInt8)
    (types : String) : s.addIvar (some c) name size e types =
      match s.classes.addIvar? c name size e types with
      | some classes => (true, s.withClasses classes)
      | none => (false, s) := rfl

lemma exact_addIvar_iff {name types : String} {size : UInt64} {e : UInt8} (hc : s.classes.Has c) :
    s.Exact (.addIvar c name size e types) ↔ ¬s.Wraps (.addIvar c name size e types) := by
  simp only [Exact, Wraps, addIvar_some_eq]
  cases hadd : s.classes.addIvar? c name size e types with
  | none =>
    refine iff_of_true (.inl rfl) fun ⟨haccepts, hlow, _⟩ => ?_
    have hlt := Nat.mod_lt (s.classes.ivarStart c e) (Nat.two_pow_pos 64)
    have hgranted := ClassTable.addIvar?_eq_some_iff.mpr ⟨haccepts, hlow,
      ⟨name, types, UInt64.ofNat (s.classes.ivarStart c e % 2 ^ 64), size⟩, rfl, rfl, rfl,
      UInt64.toNat_ofNat_of_lt' hlt, rfl⟩
    cases hadd.symm.trans hgranted
  | some classes =>
    obtain ⟨haccepts, hlow, i, -, -, rfl, hoffset, rfl⟩ := ClassTable.addIvar?_eq_some_iff.mp hadd
    have hget := ClassTable.get_withIvar_self hc i
    have hsum : (i.offset + i.size).toNat = (s.classes.ivarStart c e + i.size.toNat) % 2 ^ 64 := by
      rw [UInt64.toNat_add, hoffset, Nat.mod_add_mod]
    constructor
    · rintro (h | ⟨_, _, h, -, -, hsize⟩) ⟨-, -, hwraps⟩
      · cases h
      · cases h
        have hlt := ((s.classes.withIvar c i).get c).instanceSize.toNat_lt
        change ((s.classes.withIvar c i).get c).instanceSize.toNat = _ at hsize
        omega
    · intro h
      have hfits : s.classes.ivarStart c e + i.size.toNat < 2 ^ 64 :=
        Nat.lt_of_not_le fun hwraps => h ⟨haccepts, hlow, hwraps⟩
      refine .inr ⟨i, _, rfl, ?_, ?_, ?_⟩
      · exact congrArg ClassRecord.ivars hget
      · rw [hoffset, Nat.mod_eq_of_lt (Nat.lt_of_le_of_lt (Nat.le_add_right _ _) hfits)]
      · exact (congrArg (fun r => r.instanceSize.toNat) hget).trans
          (hsum.trans (Nat.mod_eq_of_lt hfits))

/-- Whether a request is granted does not depend on what the block begins with. -/
lemma isSome_allocate (m : Memory) (size : Nat) (contents : List UInt8) :
    (m.allocate size contents).isSome = (m.allocate size []).isSome := by
  unfold Memory.allocate
  split <;> rfl

lemma exact_createInstance_iff {extra : UInt64} :
    s.Exact (.createInstance c extra) ↔ ¬s.Wraps (.createInstance c extra) := by
  have hsize := s.classes.toNat_allocationSize c extra
  simp only [Exact, Wraps]
  rcases createInstance_eq s c extra with heq | ⟨a, memory, hmemory, heq⟩
  · refine iff_of_true (.inl heq) fun ⟨hmeta, _, hroom⟩ => ?_
    rw [createInstance, ← hsize, ← isSome_allocate _ _ (wordBytes c.address)] at *
    obtain ⟨⟨a, memory⟩, hgrant⟩ := Option.isSome_iff_exists.mp hroom
    simp only [hmeta, Bool.false_eq_true, if_false, hgrant] at heq
    have hblocks := congrArg (fun r => r.2.memory.blocks.length) heq
    obtain ⟨-, -, rfl⟩ := Memory.allocate_eq_some hgrant
    simp at hblocks
  · have hmeta : (s.classes.get c).isMeta = false := by
      by_contra hmeta
      rw [createInstance, if_pos (Bool.of_not_eq_false hmeta)] at heq
      have hblocks := congrArg (fun r => r.2.memory.blocks.length) heq
      obtain ⟨-, -, rfl⟩ := Memory.allocate_eq_some hmemory
      simp at hblocks
    obtain ⟨ha, -, rfl⟩ := Memory.allocate_eq_some hmemory
    rw [hsize] at hmemory heq
    constructor
    · rintro (h | ⟨_, _, _, h, hblocks, -, hbytes⟩) ⟨-, hwraps, -⟩
      · have hblocks := congrArg (fun r => r.2.memory.blocks.length) (heq.symm.trans h)
        simp at hblocks
      · cases heq.symm.trans h
        obtain ⟨rfl, -⟩ := List.cons.inj hblocks
        have hlt := Nat.mod_lt (s.classes.neededBytes c extra) (Nat.two_pow_pos 64)
        simp only at hbytes
        omega
    · intro h
      have hroom : (s.memory.allocate (s.classes.neededBytes c extra % 2 ^ 64) []).isSome = true := by
        rw [← isSome_allocate, hmemory]
        rfl
      have hfits : s.classes.neededBytes c extra < 2 ^ 64 :=
        Nat.lt_of_not_le fun hwraps => h ⟨hmeta, hwraps, hroom⟩
      exact .inr ⟨a, _, _, heq, rfl, ha.symm, Nat.mod_eq_of_lt hfits⟩

/-- **Requests about classes and methods** leave the sizes of instances alone. -/
lemma sizedAlike_serve (s : ObjectSpace) (r : ClassRequest) :
    s.classes.SizedAlike (s.serve r).classes := by
  cases r with
  | allocatePair parent name extra =>
    simp only [serve]
    cases hpair : s.allocatePair parent name extra with
    | mk k s' =>
      cases k with
      | none => exact eq_of_allocatePair hpair ▸ .refl _
      | some k =>
        have h := allocated_of_allocatePair hpair
        exact fun c hc => ⟨h.has hc, by rw [h.get_eq c hc]⟩
  | registerPair k =>
    cases k with
    | none => exact .refl _
    | some k => exact .register _ _
  | addMethod k sel imp types =>
    simp only [serve, addMethod]
    split
    · split
      · next h => exact .addMethod? h
      · exact .refl _
    · exact .refl _
  | replaceMethod k sel imp types =>
    simp only [serve, replaceMethod]
    split
    · exact .replaceMethod _ _ _ _
    · exact .refl _
  | setImplementation m imp =>
    simp only [serve, setImplementation]
    split
    · exact .swapImplementation _ _ _
    · exact .refl _
  | exchange m k =>
    cases m with
    | none => exact .refl _
    | some m =>
      cases k with
      | none => exact .refl _
      | some k =>
        exact (ClassTable.SizedAlike.modify (by exact fun _ => rfl) _ _).trans
          (.modify (by exact fun _ => rfl) _ _)
  | setSuperclass k parent =>
    simp only [serve, setSuperclass]
    split
    · exact .setSuperclass _ _ _
    · exact .refl _
  | lookup k sel => exact .lookup _ _ _

/-- **One request** is exact just if it does not wrap. -/
lemma exact_iff (hr : ∀ c ∈ r.classes, s.classes.Has c) : s.Exact r ↔ ¬s.Wraps r := by
  cases r with
  | addIvar c => exact exact_addIvar_iff (hr c (List.mem_singleton_self c))
  | createInstance c extra => exact exact_createInstance_iff
  | other r => exact iff_of_true (s.sizedAlike_serve r) id

/-- The classes are still there after a request, and one that is exact makes none of them smaller. -/
lemma Exact.instanceSize_le (h : s.Exact r) {d : ClassId} (hd : s.classes.Has d) :
    (s.comply r).classes.Has d ∧
      (s.classes.get d).instanceSize ≤ ((s.comply r).classes.get d).instanceSize := by
  cases r with
  | addIvar c name size e types =>
    have hrun := s.addIvar_some_eq c name size e types
    simp only [comply]
    cases hadd : s.classes.addIvar? c name size e types with
    | none =>
      rw [hadd] at hrun
      exact hrun ▸ ⟨hd, UInt64.le_refl _⟩
    | some classes =>
      rw [hadd] at hrun
      obtain ⟨-, -, j, -, -, -, -, rfl⟩ := ClassTable.addIvar?_eq_some_iff.mp hadd
      rw [hrun]
      refine ⟨ClassTable.has_modify.mpr hd, ?_⟩
      by_cases hdc : d = c
      · subst hdc
        rcases h with h | ⟨i, s', h, -, -, hsize⟩
        · cases h.symm.trans hrun
        · cases h.symm.trans hrun
          rw [UInt64.le_iff_toNat_le, hsize]
          exact (le_roundUp _ _).trans (Nat.le_add_right _ _)
      · exact (ClassTable.get_withIvar_of_ne hdc j).symm ▸ UInt64.le_refl _
  | createInstance c extra =>
    have hclasses : (s.comply (.createInstance c extra)).classes = s.classes :=
      classes_createInstance s c extra
    rw [hclasses]
    exact ⟨hd, UInt64.le_refl _⟩
  | other r =>
    obtain ⟨hhas, hsize⟩ := h d hd
    refine ⟨hhas, ?_⟩
    change _ ≤ ((s.serve r).classes.get d).instanceSize
    exact hsize.symm ▸ UInt64.le_refl _

/-- **Roomy**: the instance that the request creates, if it does, has room for all that its class
declares. -/
def Roomy (s : ObjectSpace) : SizeRequest → Prop
  | .createInstance c extra => ∀ a s', s.createInstance c extra = (a, s') → a ≠ 0 →
      ∃ B, s'.memory.blocks = B :: s.memory.blocks ∧ B.base = a.toNat ∧
        (s.classes.get c).instanceSize.toNat ≤ B.size
  | _ => True

lemma Exact.roomy (h : s.Exact r) : s.Roomy r := by
  cases r with
  | createInstance c extra =>
    intro a s' hrun ha
    rcases h with h | ⟨_, B, _, h, hblocks, hbase, hsize⟩
    · cases hrun.symm.trans h
      exact absurd rfl ha
    · cases hrun.symm.trans h
      refine ⟨B, hblocks, hbase, hsize ▸ ?_⟩
      exact (Nat.le_max_left _ _).trans (Nat.le_add_right _ _)
  | addIvar => trivial
  | other => trivial

/-! ### Runs of requests -/

namespace Throughout

variable {P Q : ObjectSpace → SizeRequest → Prop}

lemma imp (h : ∀ s r, P s r → Q s r) (hrun : Throughout P s rs) : Throughout Q s rs := by
  induction rs generalizing s with
  | nil => trivial
  | cons r rs ih => exact ⟨h s r hrun.1, ih hrun.2⟩

lemma congr {V : ObjectSpace → SizeRequest → Prop} (h : ∀ s r, V s r → (P s r ↔ Q s r))
    (hvalid : Throughout V s rs) : Throughout P s rs ↔ Throughout Q s rs := by
  induction rs generalizing s with
  | nil => exact Iff.rfl
  | cons r rs ih => exact and_congr (h s r hvalid.1) (ih hvalid.2)

end Throughout

/-- **Runs are exact** just if no request wraps. Then no class has smaller instances in the end than it
had at first, and every instance has room for what its class declares. -/
theorem throughout_exact_iff
    (hvalid : Throughout (fun s r => ∀ c ∈ r.classes, s.classes.Has c) s rs) :
    (Throughout Exact s rs ↔ Throughout (fun s r => ¬s.Wraps r) s rs) ∧
    (Throughout (fun s r => ¬s.Wraps r) s rs →
      Throughout Roomy s rs ∧
      ∀ c, s.classes.Has c →
        (s.classes.get c).instanceSize ≤ ((rs.foldl comply s).classes.get c).instanceSize) := by
  have hiff : Throughout Exact s rs ↔ Throughout (fun s r => ¬s.Wraps r) s rs :=
    Throughout.congr (fun _ _ => exact_iff) hvalid
  refine ⟨hiff, fun h => ?_⟩
  replace h := hiff.mpr h
  refine ⟨h.imp fun _ _ => Exact.roomy, ?_⟩
  clear hvalid hiff
  induction rs generalizing s with
  | nil => exact fun _ _ => UInt64.le_refl _
  | cons r rs ih =>
    intro c hc
    obtain ⟨hhas, hle⟩ := h.1.instanceSize_le hc
    exact UInt64.le_trans hle (ih h.2 c hhas)

/-- Variables up to the last byte that a word can count, another one after it, and instances. -/
def atTheLimit : List SizeRequest :=
  [.other (.allocatePair (some ⟨1⟩) "Wide" 0), .addIvar ⟨5⟩ "low" 0x7ffffffffffffff7 0 "",
    .addIvar ⟨5⟩ "high" 0x8000000000000000 0 "", .addIvar ⟨5⟩ "more" 1 0 "",
    .createInstance ⟨5⟩ 0, .createInstance ⟨1⟩ 16]

/-- The run up to the limit is exact, and its class ends with the largest size there is. -/
theorem throughout_exact_atTheLimit :
    Throughout Exact initial atTheLimit ∧ Throughout Roomy initial atTheLimit ∧
      ((atTheLimit.foldl comply initial).classes.get ⟨5⟩).instanceSize = 0xffffffffffffffff := by
  have hvalid : Throughout (fun s r => ∀ c ∈ r.classes, s.classes.Has c) initial atTheLimit := by
    decide +kernel
  obtain ⟨hiff, hroomy⟩ := throughout_exact_iff hvalid
  have hwraps : Throughout (fun s r => ¬s.Wraps r) initial atTheLimit := by decide +kernel
  exact ⟨hiff.mpr hwraps, (hroomy hwraps).1, by decide +kernel⟩

/-- A class below `Object` that is about to get a variable. -/
def unsized : ObjectSpace := initial.comply (.other (.allocatePair (some ⟨1⟩) "Huge" 0))

/-- **Sums that wrap**: a variable as large as a word can say makes the instances of its class smaller
than its offset, and an instance with as many extra bytes is given a block without a byte. -/
theorem not_exact_unsized :
    ¬unsized.Exact (.addIvar ⟨5⟩ "a" 0xffffffffffffffff 0 "q") ∧
    (unsized.classes.get ⟨5⟩).instanceSize = 8 ∧
    ((unsized.comply (.addIvar ⟨5⟩ "a" 0xffffffffffffffff 0 "q")).classes.get ⟨5⟩).instanceSize
      = 7 ∧
    ¬unsized.Exact (.createInstance ⟨1⟩ 0xfffffffffffffff8) ∧
    (unsized.comply (.createInstance ⟨1⟩ 0xfffffffffffffff8)).memory.blocks.map Block.size = [0] := by
  refine ⟨?_, by decide +kernel, by decide +kernel, ?_, by decide +kernel⟩
  · rw [exact_iff (by decide +kernel)]
    decide +kernel
  · rw [exact_iff (by decide +kernel)]
    decide +kernel

end ObjectSpace

end MessageBridge
