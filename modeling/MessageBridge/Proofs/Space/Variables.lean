import MessageBridge.Proofs.Space.Coherence
import Mathlib.Data.List.Pairwise

/-!
# Where instance variables lie

An instance variable gets the next suitable offset behind all that instances of its class hold at the
time, and a class takes over the size of its superclass when it is allocated. So the variables of one
class lie one behind the other, and those of a class lie behind those of the superclass, unless the
superclass got more of them later. Offsets and sizes are words, and their sums wrap.

Which offset a variable gets depends on sizes that are gone later. They are kept in a ledger, which is
written while classes are built.

## Main definitions

* `Ivar.Apart` — no byte belongs to both variables.
* `Ledger` — what was asked for and found while classes were built.
* `ClassTable.LaidOut` — the variables along a chain lie apart, as asked for, inside the instance and
  clear of the class word.
* `ClassTable.Orderly` — nothing went wrong while the classes of a chain were built.
* `ClassTable.Founded` — every class of a chain was built on a registered one.
* `ClassTable.Accounts` — the ledger accounts for every size and offset of the table.

## Main results

* `ClassTable.Accounts.laidOut_iff_orderly` — variables are laid out just if the chain is orderly.
* `ClassTable.Accounts.orderly_of_founded` — a founded chain is orderly.
* `ClassTable.Accounts.allocated`, `ClassTable.Accounts.added`, `ClassTable.Accounts.registered` — the
  ledger goes on to account for the table.
-/

namespace MessageBridge

/-! ## Variables -/

namespace Ivar

/-- Where the variable ends. -/
def stop (i : Ivar) : Nat := i.offset.toNat + i.size.toNat

/-- **Apart**: no byte belongs to both variables. -/
def Apart (i j : Ivar) : Prop := i.stop ≤ j.offset.toNat ∨ j.stop ≤ i.offset.toNat

instance (i j : Ivar) : Decidable (i.Apart j) :=
  inferInstanceAs (Decidable (i.stop ≤ j.offset.toNat ∨ j.stop ≤ i.offset.toNat))

variable {i j : Ivar}

lemma Apart.symm (h : i.Apart j) : j.Apart i := Or.symm h

instance : Std.Symm fun x y : ClassId × Ivar => x.2.Apart y.2 := ⟨fun _ _ h => h.symm⟩

/-- Two variables at the same place are not apart. -/
lemma not_apart_of_offset_eq (hi : i.size ≠ 0) (hj : j.size ≠ 0) (h : i.offset = j.offset) :
    ¬i.Apart j := by
  have hpos {k : Ivar} (hk : k.size ≠ 0) : 0 < k.size.toNat :=
    Nat.pos_of_ne_zero fun hzero => hk (UInt64.toNat.inj hzero)
  have hi := hpos hi
  have hj := hpos hj
  unfold Apart stop
  rw [h]
  omega

end Ivar

/-! ## Multiples -/

lemma toNat_one_shiftLeft {e : UInt8} (h : e < 16) :
    ((1 : UInt64) <<< e.toUInt64).toNat = 2 ^ e.toNat := by
  have hlt : e.toNat < 16 := h
  rw [UInt64.toNat_shiftLeft, UInt8.toNat_toUInt64, UInt64.toNat_one, Nat.one_shiftLeft,
    Nat.mod_eq_of_lt (show e.toNat < 64 by omega)]
  exact Nat.mod_eq_of_lt (Nat.pow_lt_pow_right (by decide) (by omega))

namespace ClassTable

lemma nextMultiple_zero (a : UInt64) : nextMultiple 0 a = 0 := by simp [nextMultiple]

/-- **The next multiple** is a multiple, and it is not passed unless it is beyond all words. -/
lemma nextMultiple_spec {n a : UInt64} {k : Nat} (hk : k < 64) (ha : a.toNat = 2 ^ k) :
    (nextMultiple n a).toNat % 2 ^ k = 0 ∧
      (n.toNat ≤ (nextMultiple n a).toNat ∨ nextMultiple n a = 0 ∧ n ≠ 0) := by
  have hn := n.toNat_lt
  have hdvd : 2 ^ k ∣ 2 ^ 64 := Nat.pow_dvd_pow 2 (by omega)
  have hpos : 0 < 2 ^ k := Nat.two_pow_pos k
  unfold nextMultiple
  simp only
  split
  · next hmod =>
    have hmod : n.toNat % 2 ^ k = 0 := by
      rw [← ha, ← UInt64.toNat_mod, hmod]
      rfl
    exact ⟨hmod, .inl (Nat.le_refl _)⟩
  · next hmod =>
    have hlt : n.toNat % 2 ^ k < 2 ^ k := Nat.mod_lt _ hpos
    have hstep : (a - n % a).toNat = 2 ^ k - n.toNat % 2 ^ k := by
      rw [UInt64.toNat_sub_of_le _ _ (by rw [UInt64.le_iff_toNat_le, UInt64.toNat_mod, ha]; omega),
        UInt64.toNat_mod, ha]
    have hsum : n.toNat + (2 ^ k - n.toNat % 2 ^ k) = 2 ^ k * (n.toNat / 2 ^ k + 1) := by
      have := Nat.div_add_mod n.toNat (2 ^ k)
      rw [Nat.mul_add]
      omega
    have hnext : (n + (a - n % a)).toNat = 2 ^ k * (n.toNat / 2 ^ k + 1) % 2 ^ 64 := by
      rw [UInt64.toNat_add, hstep, hsum]
    -- the words are a multiple of the alignment, so that a sum beyond them wraps to zero
    obtain ⟨count, hcount⟩ := hdvd
    have hle : 2 ^ k * (n.toNat / 2 ^ k + 1) ≤ 2 ^ 64 := by
      rw [hcount]
      refine Nat.mul_le_mul_left _ (Nat.succ_le_of_lt ?_)
      rw [Nat.div_lt_iff_lt_mul hpos, Nat.mul_comm, ← hcount]
      exact hn
    rcases Nat.lt_or_eq_of_le hle with hlt' | heq
    · rw [hnext, Nat.mod_eq_of_lt hlt']
      exact ⟨Nat.mul_mod_right _ _, .inl (by omega)⟩
    · have hzero : (n + (a - n % a)).toNat = 0 := by rw [hnext, heq, Nat.mod_self]
      refine ⟨by rw [hzero, Nat.zero_mod], .inr ⟨UInt64.toNat.inj hzero, ?_⟩⟩
      rintro rfl
      exact hmod (UInt64.zero_mod)

/-! ## Along a chain -/

variable {t t' : ClassTable} {c k p q m : ClassId} {cs ms : List ClassId}

/-- The instance variables along the chain of a class, each with the class that declares it. -/
def ivarsAlong (t : ClassTable) (c : ClassId) : List (ClassId × Ivar) :=
  (t.chain c).flatMap fun k => (t.get k).ivars.map fun i => (k, i)

lemma mem_ivarsAlong {x : ClassId × Ivar} :
    x ∈ t.ivarsAlong c ↔ x.1 ∈ t.chain c ∧ x.2 ∈ (t.get x.1).ivars := by
  obtain ⟨k, i⟩ := x
  simp only [ivarsAlong, List.mem_flatMap, List.mem_map, Prod.mk.injEq]
  constructor
  · rintro ⟨_, hk, _, hi, rfl, rfl⟩
    exact ⟨hk, hi⟩
  · rintro ⟨hk, hi⟩
    exact ⟨k, hk, i, hi, rfl, rfl⟩

namespace Ascends

/-- The superclass of a class on the way up is on the way up, and is not where the way begins. -/
lemma mem_parent (h : t.Ascends m ms) (hk : k ∈ ms) (hq : (t.get k).superclass? = some q) :
    q ∈ ms ∧ q ≠ m := by
  obtain ⟨ks, hsuffix, hks⟩ := h.exists_suffix hk
  cases hks with
  | root hroot => cases hroot.symm.trans hq
  | @up _ _ qs hup hqs =>
    obtain rfl := Option.some.inj (hup.symm.trans hq)
    have hmem : ∀ d ∈ qs, d ∈ ms := fun d hd => hsuffix.subset (List.mem_cons_of_mem k hd)
    refine ⟨hmem _ hqs.mem_self, ?_⟩
    rintro rfl
    have hle := hsuffix.length_le
    rw [hqs.unique h, List.length_cons] at hle
    omega

/-- Whatever is above a class is the superclass of a class on the way up. -/
lemma exists_below (h : t.Ascends m ms) (hq : q ∈ ms) (hne : q ≠ m) :
    ∃ k ∈ ms, (t.get k).superclass? = some q := by
  induction h with
  | root => exact absurd (List.mem_singleton.mp hq) hne
  | @up c p cs hbelow hp ih =>
    have hq := (List.mem_cons.mp hq).resolve_left hne
    by_cases hqp : q = p
    · exact ⟨c, List.mem_cons_self, hqp ▸ hbelow⟩
    · obtain ⟨k, hk, hkq⟩ := ih hq hqp
      exact ⟨k, List.mem_cons_of_mem c hk, hkq⟩

/-- What relates every class on a way up to those above it relates the way in order. -/
lemma pairwise {R : ClassId → ClassId → Prop} (h : t.Ascends c cs)
    (hR : ∀ m ∈ cs, ∀ ms, t.Ascends m ms → ∀ q ∈ ms, q ≠ m → R m q) : cs.Pairwise R := by
  induction h with
  | root => exact List.pairwise_singleton _ _
  | @up c p cs hbelow hp ih =>
    have hall : t.Ascends c (c :: cs) := .up hbelow hp
    refine List.pairwise_cons.mpr ⟨fun q hq => ?_, ih fun m hm => hR m (List.mem_cons_of_mem c hm)⟩
    refine hR c List.mem_cons_self _ hall q (List.mem_cons_of_mem c hq) ?_
    rintro rfl
    exact (List.nodup_cons.mp hall.nodup).1 hq

end Ascends

end ClassTable

/-! ## Ledgers -/

/-- **Ledger**: what was asked for and found while classes were built. -/
structure Ledger where
  /-- The size that instances of the superclass had when the class was allocated. -/
  taken : ClassId → UInt64
  /-- Whether the superclass was registered then. -/
  settled : ClassId → Bool
  /-- The size that instances of the class had when the variable was added. -/
  found : IvarRef → UInt64
  /-- The exponent of the alignment that was asked for. -/
  exponent : IvarRef → UInt8

/-- The name of a variable on a chain. -/
def IvarRef.of (x : ClassId × Ivar) : IvarRef := ⟨x.1, x.2.name⟩

/-- The variable gets its place behind what instances hold so far. -/
structure Ledger.Places (l : Ledger) (c : ClassId) (start : UInt64) (i : Ivar) : Prop where
  found : l.found ⟨c, i.name⟩ = start
  exponent : l.exponent ⟨c, i.name⟩ < 16
  offset : i.offset = ClassTable.nextMultiple start (1 <<< (l.exponent ⟨c, i.name⟩).toUInt64)
  size : i.size ≠ 0

/-- **Stacks**: the variables get their places one after another, from one size to another. -/
def Ledger.Stacks (l : Ledger) (c : ClassId) : UInt64 → List Ivar → UInt64 → Prop
  | start, [], stop => start = stop
  | start, i :: is, stop => l.Places c start i ∧ l.Stacks c (i.offset + i.size) is stop

namespace Ledger

variable {l l' : Ledger} {c : ClassId} {start stop : UInt64} {is js : List Ivar} {i : Ivar}

/-- **Exact**: the variable lies behind what was there, and its end is a word. -/
def Exact (l : Ledger) (x : ClassId × Ivar) : Prop :=
  (l.found (.of x)).toNat ≤ x.2.offset.toNat ∧ x.2.stop < 2 ^ 64

namespace Places

lemma aligned (h : l.Places c start i) :
    i.offset.toNat % 2 ^ (l.exponent ⟨c, i.name⟩).toNat = 0 := by
  have hlt : (l.exponent ⟨c, i.name⟩).toNat < 16 := h.exponent
  rw [h.offset]
  exact (ClassTable.nextMultiple_spec (by omega) (toNat_one_shiftLeft h.exponent)).1

/-- A place that does not lie behind what was there is the very first one. -/
lemma le_or_eq_zero (h : l.Places c start i) :
    start.toNat ≤ i.offset.toNat ∨ i.offset = 0 ∧ start ≠ 0 := by
  have hlt : (l.exponent ⟨c, i.name⟩).toNat < 16 := h.exponent
  rw [h.offset]
  exact (ClassTable.nextMultiple_spec (by omega) (toNat_one_shiftLeft h.exponent)).2

lemma congr (h : l.Places c start i) (hfound : l'.found ⟨c, i.name⟩ = l.found ⟨c, i.name⟩)
    (hexponent : l'.exponent ⟨c, i.name⟩ = l.exponent ⟨c, i.name⟩) : l'.Places c start i where
  found := hfound.trans h.found
  exponent := hexponent ▸ h.exponent
  offset := hexponent ▸ h.offset
  size := h.size

end Places

namespace Stacks

lemma congr (h : l.Stacks c start is stop)
    (hl : ∀ i ∈ is, l'.found ⟨c, i.name⟩ = l.found ⟨c, i.name⟩ ∧
      l'.exponent ⟨c, i.name⟩ = l.exponent ⟨c, i.name⟩) : l'.Stacks c start is stop := by
  induction is generalizing start with
  | nil => exact h
  | cons i is ih =>
    obtain ⟨hfound, hexponent⟩ := hl i List.mem_cons_self
    exact ⟨h.1.congr hfound hexponent, ih h.2 fun j hj => hl j (List.mem_cons_of_mem i hj)⟩

lemma append {mid : UInt64} (h : l.Stacks c start is mid) (h' : l.Stacks c mid js stop) :
    l.Stacks c start (is ++ js) stop := by
  induction is generalizing start with
  | nil =>
    obtain rfl : start = mid := h
    exact h'
  | cons i is ih => exact ⟨h.1, ih h.2⟩

/-- Where the first variables end, the others begin. -/
lemma of_append {mid : UInt64} (h : l.Stacks c start is mid)
    (h' : l.Stacks c start (is ++ js) stop) : l.Stacks c mid js stop := by
  induction is generalizing start with
  | nil =>
    obtain rfl : start = mid := h
    exact h'
  | cons i is ih => exact ih h.2 h'.2

lemma exists_places (h : l.Stacks c start is stop) (hi : i ∈ is) :
    ∃ start', l.Places c start' i := by
  induction is generalizing start with
  | nil => cases hi
  | cons j is ih =>
    rcases List.mem_cons.mp hi with rfl | hi
    · exact ⟨start, h.1⟩
    · exact ih h.2 hi

/-- **Stacked variables** that are exact lie one behind the other, from the first size to the last. -/
lemma bounds (h : l.Stacks c start is stop) (hexact : ∀ i ∈ is, l.Exact (c, i)) :
    start.toNat ≤ stop.toNat ∧
      (∀ i ∈ is, start.toNat ≤ i.offset.toNat ∧ i.stop ≤ stop.toNat) ∧
        is.Pairwise fun i j => i.stop ≤ j.offset.toNat := by
  induction is generalizing start with
  | nil =>
    obtain rfl : start = stop := h
    exact ⟨Nat.le_refl _, fun _ hi => (by cases hi), List.Pairwise.nil⟩
  | cons i is ih =>
    obtain ⟨hle, hlt⟩ := hexact i List.mem_cons_self
    rw [IvarRef.of, h.1.found] at hle
    have hend : (i.offset + i.size).toNat = i.stop := by
      rw [UInt64.toNat_add]
      exact Nat.mod_eq_of_lt hlt
    obtain ⟨hstop, hmem, hpairwise⟩ := ih h.2 fun j hj => hexact j (List.mem_cons_of_mem i hj)
    rw [hend] at hstop hmem
    have hi : i.offset.toNat ≤ i.stop := Nat.le_add_right _ _
    simp only at hle
    refine ⟨by omega, List.forall_mem_cons.mpr ⟨⟨hle, hstop⟩, fun j hj => ?_⟩,
      List.pairwise_cons.mpr ⟨fun j hj => (hmem j hj).1, hpairwise⟩⟩
    have := hmem j hj
    exact ⟨by omega, this.2⟩

end Stacks

end Ledger

namespace ClassTable

variable {t t' : ClassTable} {l l' : Ledger} {c k m p q : ClassId} {cs ms : List ClassId}

/-! ## Layouts -/

/-- The word that holds the class: the variable `isa` of a root class. -/
def IsClassWord (t : ClassTable) (x : ClassId × Ivar) : Prop :=
  (t.get x.1).superclass? = none ∧ x.2.name = "isa" ∧ x.2.offset = 0 ∧ x.2.size = 8

/-- **Laid out**: the variables along the chain of a class lie apart from each other, aligned as was
asked for, inside an instance and clear of the word that holds the class. -/
structure LaidOut (t : ClassTable) (l : Ledger) (c : ClassId) : Prop where
  apart : (t.ivarsAlong c).Pairwise fun x y => x.2.Apart y.2
  aligned : ∀ x ∈ t.ivarsAlong c, x.2.offset.toNat % 2 ^ (l.exponent (.of x)).toNat = 0
  inside : ∀ x ∈ t.ivarsAlong c, x.2.stop ≤ (t.get c).instanceSize.toNat
  classWord : ∀ x ∈ t.ivarsAlong c, t.IsClassWord x ∨ 8 ≤ x.2.offset.toNat

/-- **Orderly**: if there are variables at all, then the root begins with the class word; no place and
no sum wrapped; and what a class got after a class below it had been allocated stays inside an instance
and clear of the variables below. -/
structure Orderly (t : ClassTable) (l : Ledger) (c : ClassId) : Prop where
  root : t.ivarsAlong c = [] ∨ ∃ r ∈ t.chain c, (t.get r).superclass? = none ∧
    ∃ i, (t.get r).ivars.head? = some i ∧ i.name = "isa" ∧ i.size = 8
  exact : ∀ x ∈ t.ivarsAlong c, l.Exact x
  late : ∀ m ∈ t.chain c, ∀ k ∈ t.chain m, ∀ q, (t.get k).superclass? = some q →
    ∀ j ∈ (t.get q).ivars, (l.taken k).toNat < j.stop →
      j.stop ≤ (t.get c).instanceSize.toNat ∧ ∀ i ∈ (t.get m).ivars, i.Apart j

/-- **Founded**: every class of the chain was allocated when its superclass was registered, the root begins
with the class word, and no place and no sum wrapped. -/
structure Founded (t : ClassTable) (l : Ledger) (c : ClassId) : Prop where
  settled : ∀ k ∈ t.chain c, l.settled k = true
  root : ∃ r ∈ t.chain c, (t.get r).superclass? = none ∧
    ∃ i, (t.get r).ivars.head? = some i ∧ i.name = "isa" ∧ i.size = 8
  exact : ∀ x ∈ t.ivarsAlong c, l.Exact x

/-- **Accounts**: the ledger accounts for every size and every offset of the table. -/
structure Accounts (t : ClassTable) (l : Ledger) : Prop where
  hierarchy : t.Hierarchy
  /-- The variables of a class begin where those of the superclass ended once. -/
  own : ∀ c, t.HasClass c → l.Stacks c (l.taken c) (t.get c).ivars (t.get c).instanceSize
  root : ∀ c, t.HasClass c → (t.get c).superclass? = none → l.taken c = 0
  above : ∀ c p, t.HasClass c → (t.get c).superclass? = some p →
    ∃ before after, (t.get p).ivars = before ++ after ∧ l.Stacks p (l.taken p) before (l.taken c)
  /-- A superclass that was registered has got no more variables. -/
  settled : ∀ c p, t.HasClass c → l.settled c = true → (t.get c).superclass? = some p →
    (t.get p).registered = true ∧ l.taken c = (t.get p).instanceSize

namespace Accounts

/-! ## Building on a superclass -/

/-- The variables of a superclass end where those of the class begin, or begin behind that. -/
lemma stop_le_or_le_offset (h : t.Accounts l) (hk : t.HasClass k)
    (hq : (t.get k).superclass? = some q) (hexact : ∀ j ∈ (t.get q).ivars, l.Exact (q, j)) :
    (l.taken q).toNat ≤ (l.taken k).toNat ∧
      ∀ j ∈ (t.get q).ivars, j.stop ≤ (l.taken k).toNat ∨ (l.taken k).toNat ≤ j.offset.toNat := by
  obtain ⟨before, after, hivars, hstacks⟩ := h.above k q hk hq
  have hown := h.own q (h.hierarchy.parent k q hk hq)
  rw [hivars] at hown hexact ⊢
  obtain ⟨hle, hbefore, -⟩ :=
    hstacks.bounds fun j hj => hexact j (List.mem_append_left _ hj)
  obtain ⟨-, hafter, -⟩ :=
    (hstacks.of_append hown).bounds fun j hj => hexact j (List.mem_append_right _ hj)
  refine ⟨hle, fun j hj => ?_⟩
  rcases List.mem_append.mp hj with hj | hj
  · exact .inl (hbefore j hj).2
  · exact .inr (hafter j hj).1

/-- Going up, classes began with ever smaller sizes. -/
lemma taken_le (h : t.Accounts l) (hms : t.Ascends m ms) (hm : t.HasClass m)
    (hexact : ∀ q ∈ ms, ∀ j ∈ (t.get q).ivars, l.Exact (q, j)) (hk : k ∈ ms) :
    (l.taken k).toNat ≤ (l.taken m).toNat := by
  induction hms with
  | root =>
    exact Nat.le_of_eq (by rw [List.mem_singleton.mp hk])
  | @up m p ms hbelow hp ih =>
    rcases List.mem_cons.mp hk with rfl | hk
    · exact Nat.le_refl _
    · have hp' : p ∈ m :: ms := List.mem_cons_of_mem m hp.mem_self
      have hstep := (h.stop_le_or_le_offset hm hbelow (hexact p hp')).1
      exact Nat.le_trans (ih (h.hierarchy.parent m p hm hbelow)
        (fun q hq => hexact q (List.mem_cons_of_mem m hq)) hk) hstep

/-- **The first place**: unless no class on the way up has variables, one of them lies at the very
beginning. -/
lemma exists_first (h : t.Accounts l) (hms : t.Ascends m ms) (hm : t.HasClass m) :
    (∀ k ∈ ms, (t.get k).ivars = []) ∧ (t.get m).instanceSize = 0 ∨
      ∃ k ∈ ms, ∃ i, (t.get k).ivars.head? = some i ∧ i.offset = 0 ∧ l.found ⟨k, i.name⟩ = 0 := by
  have hfirst {k : ClassId} (hk : t.HasClass k) (htaken : l.taken k = 0) :
      (t.get k).ivars = [] ∧ (t.get k).instanceSize = 0 ∨
        ∃ i, (t.get k).ivars.head? = some i ∧ i.offset = 0 ∧ l.found ⟨k, i.name⟩ = 0 := by
    have hown := h.own k hk
    rw [htaken] at hown
    cases hivars : (t.get k).ivars with
    | nil =>
      rw [hivars] at hown
      exact .inl ⟨rfl, hown.symm⟩
    | cons i is =>
      rw [hivars] at hown
      refine .inr ⟨i, rfl, ?_, hown.1.found⟩
      rw [hown.1.offset, nextMultiple_zero]
  induction hms with
  | root hroot =>
    rcases hfirst hm (h.root _ hm hroot) with ⟨hnil, hsize⟩ | hsome
    · exact .inl ⟨List.forall_mem_singleton.mpr hnil, hsize⟩
    · exact .inr ⟨_, List.mem_singleton_self _, hsome⟩
  | @up m p ms hbelow hp ih =>
    rcases ih (h.hierarchy.parent m p hm hbelow) with ⟨hnone, hsize⟩ | ⟨k, hk, hsome⟩
    · have htaken : l.taken m = 0 := by
        obtain ⟨before, after, hivars, hstacks⟩ := h.above m p hm hbelow
        rw [hnone p hp.mem_self] at hivars
        obtain rfl := (List.append_eq_nil_iff.mp hivars.symm).1
        have hown := h.own p (h.hierarchy.parent m p hm hbelow)
        rw [hnone p hp.mem_self, hsize] at hown
        have htaken : l.taken p = l.taken m := hstacks
        have hzero : l.taken p = 0 := hown
        rw [← htaken, hzero]
      rcases hfirst hm htaken with ⟨hnil, hsize⟩ | hsome
      · exact .inl ⟨List.forall_mem_cons.mpr ⟨hnil, hnone⟩, hsize⟩
      · exact .inr ⟨m, List.mem_cons_self, hsome⟩
    · exact .inr ⟨k, List.mem_cons_of_mem m hk, hsome⟩

/-! ## Orderly chains are laid out -/

lemma size_ne_zero (h : t.Accounts l) (hk : t.HasClass k) {i : Ivar} (hi : i ∈ (t.get k).ivars) :
    i.size ≠ 0 := by
  obtain ⟨start, hplaces⟩ := (h.own k hk).exists_places hi
  exact hplaces.size

/-- The classes on a chain, with what an orderly chain says about them. -/
lemma pairwise_apart (h : t.Accounts l) (hc : t.HasClass c) (ho : t.Orderly l c) :
    (t.ivarsAlong c).Pairwise fun x y => x.2.Apart y.2 := by
  have hcs := h.hierarchy.ascends_chain hc.1
  have hexact {q : ClassId} (hq : q ∈ t.chain c) : ∀ j ∈ (t.get q).ivars, l.Exact (q, j) :=
    fun j hj => ho.exact (q, j) (mem_ivarsAlong.mpr ⟨hq, hj⟩)
  refine List.pairwise_flatMap.mpr ⟨fun k hk => List.pairwise_map.mpr ?_,
    hcs.pairwise fun m hm ms hms q hq hne x hx y hy => ?_⟩
  · have hown := h.own k (h.hierarchy.hasClass_of_mem hcs hc k hk)
    exact (hown.bounds (hexact hk)).2.2.imp fun hle => .inl hle
  · obtain ⟨i, hi, rfl⟩ := List.mem_map.mp hx
    obtain ⟨j, hj, rfl⟩ := List.mem_map.mp hy
    have hmc := h.hierarchy.hasClass_of_mem hcs hc m hm
    obtain ⟨ds, hsuffix, hds⟩ := hcs.exists_suffix hm
    obtain rfl := hds.unique hms
    obtain ⟨k, hk, hkq⟩ := hms.exists_below hq hne
    -- what the class above had when the class below was allocated ends before the class below begins
    by_cases hlate : (l.taken k).toNat < j.stop
    · have hkm : k ∈ t.chain m := by rwa [h.hierarchy.chain_eq hms hmc.1]
      exact (ho.late m hm k hkm q hkq j hj hlate).2 i hi
    · have hle := h.taken_le hms hmc (fun q hq => hexact (hsuffix.subset hq)) hk
      have hi := ((h.own m hmc).bounds (hexact hm)).2.1 i hi
      exact .inr (by simp only; omega)

/-- **Orderly chains** are laid out. -/
lemma laidOut_of_orderly (h : t.Accounts l) (hc : t.HasClass c) (ho : t.Orderly l c) :
    t.LaidOut l c := by
  have hcs := h.hierarchy.ascends_chain hc.1
  have hclass {x : ClassId × Ivar} (hx : x ∈ t.ivarsAlong c) : t.HasClass x.1 :=
    h.hierarchy.hasClass_of_mem hcs hc x.1 (mem_ivarsAlong.mp hx).1
  have hexact {q : ClassId} (hq : q ∈ t.chain c) : ∀ j ∈ (t.get q).ivars, l.Exact (q, j) :=
    fun j hj => ho.exact (q, j) (mem_ivarsAlong.mpr ⟨hq, hj⟩)
  have hapart := h.pairwise_apart hc ho
  refine ⟨hapart, fun x hx => ?_, fun x hx => ?_, fun x hx => ?_⟩
  · obtain ⟨start, hplaces⟩ := (h.own x.1 (hclass hx)).exists_places (mem_ivarsAlong.mp hx).2
    exact hplaces.aligned
  · obtain ⟨q, j⟩ := x
    obtain ⟨hq, hj⟩ := mem_ivarsAlong.mp hx
    have hown := (h.own c hc).bounds (hexact hcs.mem_self)
    by_cases hqc : q = c
    · subst hqc
      exact (hown.2.1 j hj).2
    · obtain ⟨k, hk, hkq⟩ := hcs.exists_below hq hqc
      by_cases hlate : (l.taken k).toNat < j.stop
      · exact (ho.late c hcs.mem_self k hk q hkq j hj hlate).1
      · have hle := h.taken_le hcs hc (fun q hq => hexact hq) hk
        simp only
        omega
  · rcases ho.root with hnil | ⟨r, hr, hroot, i, hi, hname, hsize⟩
    · rw [hnil] at hx
      cases hx
    · have hri : (r, i) ∈ t.ivarsAlong c := mem_ivarsAlong.mpr ⟨hr, List.mem_of_mem_head? hi⟩
      have hoffset : i.offset = 0 := by
        have hown := h.own r (hclass hri)
        obtain ⟨is, his⟩ : ∃ is, (t.get r).ivars = i :: is := List.head?_eq_some_iff.mp hi
        rw [his, h.root r (hclass hri) hroot] at hown
        rw [hown.1.offset, nextMultiple_zero]
      by_cases hxi : x = (r, i)
      · rw [hxi]
        exact .inl ⟨hroot, hname, hoffset, hsize⟩
      · right
        have := hapart.forall hx hri hxi
        have hpos : 0 < x.2.size.toNat := Nat.pos_of_ne_zero fun hzero =>
          h.size_ne_zero (hclass hx) (mem_ivarsAlong.mp hx).2 (UInt64.toNat.inj hzero)
        simp only [Ivar.Apart, Ivar.stop, hoffset, hsize, UInt64.reduceToNat] at this
        omega

/-! ## Laid out chains are orderly -/

/-- **Chains that are laid out** are orderly. -/
lemma orderly_of_laidOut (h : t.Accounts l) (hc : t.HasClass c) (hl : t.LaidOut l c) :
    t.Orderly l c := by
  have hcs := h.hierarchy.ascends_chain hc.1
  have hclass {x : ClassId × Ivar} (hx : x ∈ t.ivarsAlong c) : t.HasClass x.1 :=
    h.hierarchy.hasClass_of_mem hcs hc x.1 (mem_ivarsAlong.mp hx).1
  have hfirst := h.exists_first hcs hc
  refine ⟨?_, fun x hx => ⟨?_, ?_⟩, fun m hm k hk q hkq j hj hlate => ?_⟩
  · rcases hfirst with ⟨hnone, -⟩ | ⟨k, hk, i, hi, hoffset, -⟩
    · exact .inl (List.eq_nil_iff_forall_not_mem.mpr fun x hx => by
        have := mem_ivarsAlong.mp hx
        rw [hnone _ this.1] at this
        exact List.not_mem_nil this.2)
    · have hki : (k, i) ∈ t.ivarsAlong c := mem_ivarsAlong.mpr ⟨hk, List.mem_of_mem_head? hi⟩
      rcases hl.classWord _ hki with ⟨hroot, hname, -, hsize⟩ | hle
      · exact .inr ⟨k, hk, hroot, i, hi, hname, hsize⟩
      · rw [hoffset] at hle
        cases hle
  · obtain ⟨start, hplaces⟩ := (h.own x.1 (hclass hx)).exists_places (mem_ivarsAlong.mp hx).2
    rcases hplaces.le_or_eq_zero with hle | ⟨hzero, hstart⟩
    · rw [IvarRef.of, hplaces.found]
      exact hle
    · exfalso
      rcases hfirst with ⟨hnone, -⟩ | ⟨k, hk, i, hi, hoffset, hfound⟩
      · have := (mem_ivarsAlong.mp hx).2
        rw [hnone _ (mem_ivarsAlong.mp hx).1] at this
        cases this
      · have hki : (k, i) ∈ t.ivarsAlong c := mem_ivarsAlong.mpr ⟨hk, List.mem_of_mem_head? hi⟩
        have hne : x ≠ (k, i) := by
          rintro rfl
          exact hstart (hplaces.found.symm.trans hfound)
        exact Ivar.not_apart_of_offset_eq (h.size_ne_zero (hclass hx) (mem_ivarsAlong.mp hx).2)
          (h.size_ne_zero (hclass hki) (List.mem_of_mem_head? hi)) (hzero.trans hoffset.symm)
          (hl.apart.forall hx hki hne)
  · exact Nat.lt_of_le_of_lt (hl.inside x hx) (UInt64.toNat_lt _)
  · obtain ⟨ms, hsuffix, hms⟩ := hcs.exists_suffix hm
    rw [h.hierarchy.chain_eq hms (h.hierarchy.hasClass_of_mem hcs hc m hm).1] at hk
    obtain ⟨hq, hne⟩ := hms.mem_parent hk hkq
    have hqj : (q, j) ∈ t.ivarsAlong c := mem_ivarsAlong.mpr ⟨hsuffix.subset hq, hj⟩
    refine ⟨hl.inside _ hqj, fun i hi => ?_⟩
    have hmi : (m, i) ∈ t.ivarsAlong c := mem_ivarsAlong.mpr ⟨hm, hi⟩
    exact hl.apart.forall hmi hqj fun heq => hne (congrArg Prod.fst heq).symm

/-- **Layouts**: the variables along the chain of a class are laid out just if the chain is orderly. -/
lemma laidOut_iff_orderly (h : t.Accounts l) (hc : t.HasClass c) : t.LaidOut l c ↔ t.Orderly l c :=
  ⟨h.orderly_of_laidOut hc, h.laidOut_of_orderly hc⟩

/-- A variable that is laid out begins inside an instance. -/
lemma offset_lt (h : t.Accounts l) (hc : t.HasClass c) (hl : t.LaidOut l c) {x : ClassId × Ivar}
    (hx : x ∈ t.ivarsAlong c) : x.2.offset.toNat < (t.get c).instanceSize.toNat := by
  obtain ⟨hmem, hi⟩ := mem_ivarsAlong.mp hx
  have hclass := h.hierarchy.hasClass_of_mem (h.hierarchy.ascends_chain hc.1) hc x.1 hmem
  have hpos : 0 < x.2.size.toNat :=
    Nat.pos_of_ne_zero fun hzero => h.size_ne_zero hclass hi (UInt64.toNat.inj hzero)
  have hinside := hl.inside x hx
  unfold Ivar.stop at hinside
  omega

/-- **Founded chains** are orderly: what a superclass had when it was registered is all that it has. -/
lemma orderly_of_founded (h : t.Accounts l) (hc : t.HasClass c) (hf : t.Founded l c) :
    t.Orderly l c := by
  have hcs := h.hierarchy.ascends_chain hc.1
  refine ⟨.inr hf.root, hf.exact, fun m hm k hk q hkq j hj hlate => ?_⟩
  obtain ⟨ms, hsuffix, hms⟩ := hcs.exists_suffix hm
  have hmc := h.hierarchy.hasClass_of_mem hcs hc m hm
  rw [h.hierarchy.chain_eq hms hmc.1] at hk
  have hkc := hsuffix.subset hk
  have hqc := hsuffix.subset (hms.mem_parent hk hkq).1
  have hclass := h.hierarchy.hasClass_of_mem hcs hc
  have htaken := (h.settled k q (hclass k hkc) (hf.settled k hkc) hkq).2
  have hstop := ((h.own q (hclass q hqc)).bounds fun j hj =>
    hf.exact (q, j) (mem_ivarsAlong.mpr ⟨hqc, hj⟩)).2.1 j hj
  rw [htaken] at hlate
  omega

end Accounts

/-! ## Keeping the ledger -/

/-- **Same layout**: as many classes, with the same superclasses, sizes and variables. -/
structure SameLayout (t t' : ClassTable) : Prop extends AlikeAbove t t' where
  registered : ∀ c, (t'.get c).registered = (t.get c).registered
  instanceSize : ∀ c, (t'.get c).instanceSize = (t.get c).instanceSize
  ivars : ∀ c, (t'.get c).ivars = (t.get c).ivars

namespace SameLayout

lemma refl (t : ClassTable) : t.SameLayout t :=
  ⟨⟨rfl, fun _ => rfl, fun _ => rfl, fun _ => rfl⟩, fun _ => rfl, fun _ => rfl, fun _ => rfl⟩

lemma trans {t'' : ClassTable} (h : t.SameLayout t') (h' : t'.SameLayout t'') : t.SameLayout t'' :=
  ⟨h.toAlikeAbove.trans h'.toAlikeAbove, fun c => (h'.registered c).trans (h.registered c),
    fun c => (h'.instanceSize c).trans (h.instanceSize c),
    fun c => (h'.ivars c).trans (h.ivars c)⟩

lemma ivar?_eq (h : t.SameLayout t') (i : IvarRef) : t'.ivar? i = t.ivar? i := by
  rw [ivar?, ClassRecord.ivar?, h.ivars, ← ClassRecord.ivar?, ← ivar?]

lemma findIvar?_eq (h : t.SameLayout t') (c : ClassId) (name : String) :
    t'.findIvar? c name = t.findIvar? c name := by
  simp only [findIvar?, h.chain_eq, ClassRecord.ivar?, h.ivars]

/-- A look-up changes no more than a cache. -/
lemma lookup (t : ClassTable) (c : ClassId) (sel : Selector) : t.SameLayout (t.lookup c sel).2 := by
  unfold ClassTable.lookup
  split
  · exact .refl t
  · split
    · exact ⟨.modify (by exact fun _ => rfl) (by exact fun _ => rfl) (by exact fun _ => rfl) t c,
        get_modify_of_eq ClassRecord.registered (by exact fun _ => rfl) t c,
        get_modify_of_eq ClassRecord.instanceSize (by exact fun _ => rfl) t c,
        get_modify_of_eq ClassRecord.ivars (by exact fun _ => rfl) t c⟩
    · exact .refl t

end SameLayout

/-- What an allocation that succeeds says about instances of the new class. -/
structure AllocatedEmpty (t : ClassTable) (above : Option ClassId) (c : ClassId)
    (t' : ClassTable) : Prop extends Allocated t above c t' where
  ivars : (t'.get c).ivars = []
  instanceSize : (t'.get c).instanceSize = (above.map fun p => (t.get p).instanceSize).getD 0

lemma allocatedEmpty_of_allocatePair? {parent : Option ClassId} {name : String}
    {metaStorage classStorage : Option Address}
    (h : t.allocatePair? parent name metaStorage classStorage = some (c, t')) :
    t.AllocatedEmpty parent c t' := by
  refine ⟨allocated_of_allocatePair? h, ?_, ?_⟩
  all_goals
    unfold allocatePair? at h
    split at h
    · cases h
    · simp only [Option.some.injEq, Prod.mk.injEq] at h
      obtain ⟨rfl, rfl⟩ := h
      simp only [get, Array.getElem?_push, Array.size_push, if_true, Option.getD_some]

/-- What adding a variable does if it succeeds. -/
structure Added (t : ClassTable) (c : ClassId) (e : UInt8) (t' : ClassTable) : Prop
    extends AlikeAbove t t' where
  fresh : (t.get c).registered = false
  registered : ∀ d, (t'.get d).registered = (t.get d).registered
  get_eq : ∀ d, d ≠ c → t'.get d = t.get d
  /-- The variable is new, and lies behind what instances of the class held so far. -/
  ivar : ∃ i, (t.get c).ivar? i.name = none ∧ (t'.get c).ivars = (t.get c).ivars ++ [i] ∧
    (t'.get c).instanceSize = i.offset + i.size ∧ i.size ≠ 0 ∧ e < 16 ∧
      i.offset = nextMultiple (t.get c).instanceSize (1 <<< e.toUInt64)

lemma added_of_addIvar? {name types : String} {size : UInt64} {e : UInt8} (hc : t.Has c)
    (h : t.addIvar? c name size e types = some t') : t.Added c e t' := by
  have habove := (Retains.addIvar? h).toAlikeAbove
  unfold addIvar? at h
  simp only at h
  split at h
  · cases h
  · next hguard =>
    simp only [Bool.or_eq_true, not_or, decide_eq_true_eq, Bool.not_eq_true] at hguard
    obtain ⟨⟨⟨⟨hmeta, hregistered⟩, hsize⟩, hexponent⟩, hname⟩ := hguard
    split at h
    · cases h
    · cases h
      let i : Ivar :=
        ⟨name, types, nextMultiple (t.get c).instanceSize (1 <<< e.toUInt64), size⟩
      refine ⟨habove, hregistered, ?_, fun d hd => ?_, ⟨i, ?_, ?_, ?_, hsize, ?_, rfl⟩⟩
      · exact get_modify_of_eq ClassRecord.registered (by exact fun _ => rfl) t c
      · rw [get_modify, if_neg fun h => hd h.1]
      · simpa using hname
      · rw [get_modify, if_pos ⟨rfl, hc⟩]
      · rw [get_modify, if_pos ⟨rfl, hc⟩]
      · exact UInt8.not_le.mp hexponent

end ClassTable

namespace Ledger

variable {l : Ledger} {t t' : ClassTable}

open ClassTable

/-- The ledger after a step from one table to another, with what is new in the latter. -/
def noted (l : Ledger) (t t' : ClassTable) (e : UInt8) : Ledger where
  taken c := if t.Has c then l.taken c else (t'.get c).instanceSize
  settled c := if t.Has c then l.settled c
    else (t'.get c).superclass?.all fun p => (t'.get p).registered
  found i := if (t.ivar? i).isSome then l.found i else (t.get i.owner).instanceSize
  exponent i := if (t.ivar? i).isSome then l.exponent i else e

/-- What is new is the same in tables with the same layout. -/
lemma noted_congr {t₁ t₁' : ClassTable} (h : t.SameLayout t₁) (h' : t₁'.SameLayout t') (e : UInt8) :
    l.noted t t' e = l.noted t₁ t₁' e := by
  have hhas (c : ClassId) : t₁.Has c ↔ t.Has c := h.has_iff
  simp only [noted, h.ivar?_eq, hhas, h.instanceSize, h'.instanceSize, h'.superclass, h'.registered]

/-- The ledger goes on to say about a class what it said. -/
lemma noted_of_has {c : ClassId} (hc : t.Has c) (e : UInt8) :
    (l.noted t t' e).taken c = l.taken c ∧ (l.noted t t' e).settled c = l.settled c :=
  ⟨if_pos hc, if_pos hc⟩

/-- The ledger goes on to say about a variable what it said. -/
lemma noted_of_mem {c : ClassId} {i : Ivar} (hi : i ∈ (t.get c).ivars) (e : UInt8) :
    (l.noted t t' e).found ⟨c, i.name⟩ = l.found ⟨c, i.name⟩ ∧
      (l.noted t t' e).exponent ⟨c, i.name⟩ = l.exponent ⟨c, i.name⟩ := by
  have hsome : (t.ivar? ⟨c, i.name⟩).isSome := by
    rw [ivar?, ClassRecord.ivar?, List.find?_isSome]
    exact ⟨i, hi, beq_self_eq_true _⟩
  exact ⟨if_pos hsome, if_pos hsome⟩

end Ledger

/-! ## Accounting goes on -/

namespace ClassTable.Accounts

variable {t t' : ClassTable} {l l' : Ledger} {c : ClassId} {e : UInt8}

/-- Only what the ledger says about the classes and variables that there are matters. -/
lemma congr (h : t.Accounts l)
    (hclass : ∀ c, t.Has c → l'.taken c = l.taken c ∧ l'.settled c = l.settled c)
    (hivar : ∀ c, ∀ i ∈ (t.get c).ivars, l'.found ⟨c, i.name⟩ = l.found ⟨c, i.name⟩ ∧
      l'.exponent ⟨c, i.name⟩ = l.exponent ⟨c, i.name⟩) : t.Accounts l' where
  hierarchy := h.hierarchy
  own c hc := by
    rw [(hclass c hc.1).1]
    exact (h.own c hc).congr (hivar c)
  root c hc hroot := (hclass c hc.1).1.trans (h.root c hc hroot)
  above c p hc hp := by
    obtain ⟨before, after, hivars, hstacks⟩ := h.above c p hc hp
    refine ⟨before, after, hivars, ?_⟩
    rw [(hclass c hc.1).1, (hclass p (h.hierarchy.parent c p hc hp).1).1]
    exact hstacks.congr fun i hi => hivar p i (hivars ▸ List.mem_append_left _ hi)
  settled c p hc hsettled hp := by
    rw [(hclass c hc.1).2] at hsettled
    rw [(hclass c hc.1).1]
    exact h.settled c p hc hsettled hp

lemma noted (h : t.Accounts l) (t' : ClassTable) (e : UInt8) : t.Accounts (l.noted t t' e) :=
  h.congr (fun _ hc => Ledger.noted_of_has hc e) fun _ _ hi => Ledger.noted_of_mem hi e

/-- The ledger accounts for any table with the same layout. -/
lemma same (h : t.Accounts l) (hs : t.SameLayout t') : t'.Accounts l where
  hierarchy := hs.hierarchy h.hierarchy
  own c hc := by
    rw [hs.ivars, hs.instanceSize]
    exact h.own c (hs.hasClass_iff.mp hc)
  root c hc hroot := h.root c (hs.hasClass_iff.mp hc) ((hs.superclass c).symm.trans hroot)
  above c p hc hp := by
    rw [hs.ivars]
    exact h.above c p (hs.hasClass_iff.mp hc) ((hs.superclass c).symm.trans hp)
  settled c p hc hsettled hp := by
    rw [hs.registered, hs.instanceSize]
    exact h.settled c p (hs.hasClass_iff.mp hc) hsettled ((hs.superclass c).symm.trans hp)

/-- **A new class** takes over the size of its superclass. -/
lemma allocated {parent : Option ClassId} (h : t.Accounts l) (ha : t.AllocatedEmpty parent c t')
    (hparent : ∀ p ∈ parent, t.Has p) : t'.Accounts (l.noted t t' e) := by
  have ht' := ha.hierarchy h.hierarchy hparent
  have hn := h.noted t' e
  have hold {d : ClassId} (hd : t'.HasClass d) (hdc : d ≠ c) : t.HasClass d :=
    (ha.hasClass_iff.mp hd).resolve_right hdc
  have htaken : (l.noted t t' e).taken c = (t'.get c).instanceSize := if_neg ha.new_class
  have hget {p : ClassId} (hp : p ∈ parent) : t'.get p = t.get p := ha.get_eq p (hparent p hp)
  exact {
    hierarchy := ht'
    own := fun d hd => by
      by_cases hdc : d = c
      · subst hdc
        rw [ha.ivars, htaken]
        rfl
      · rw [ha.get_eq d (hold hd hdc).1]
        exact hn.own d (hold hd hdc)
    root := fun d hd hroot => by
      by_cases hdc : d = c
      · subst hdc
        rw [htaken, ha.instanceSize, ← ha.superclass, hroot]
        rfl
      · rw [ha.get_eq d (hold hd hdc).1] at hroot
        exact hn.root d (hold hd hdc) hroot
    above := fun d p hd hp => by
      by_cases hdc : d = c
      · subst hdc
        have hmem : p ∈ parent := ha.superclass.symm.trans hp
        have hpc : t.HasClass p := ⟨hparent p hmem, ha.parent p hmem⟩
        refine ⟨(t.get p).ivars, [], by rw [hget hmem, List.append_nil], ?_⟩
        rw [htaken, ha.instanceSize, Option.mem_def.mp hmem]
        exact hn.own p hpc
      · rw [ha.get_eq d (hold hd hdc).1] at hp
        rw [ha.get_eq p (h.hierarchy.parent d p (hold hd hdc) hp).1]
        exact hn.above d p (hold hd hdc) hp
    settled := fun d p hd hsettled hp => by
      by_cases hdc : d = c
      · subst hdc
        have hmem : p ∈ parent := ha.superclass.symm.trans hp
        refine ⟨?_, ?_⟩
        · have hall : (l.noted t t' e).settled d =
              (t'.get d).superclass?.all fun p => (t'.get p).registered := if_neg ha.new_class
          rwa [hsettled, hp, eq_comm] at hall
        · rw [htaken, ha.instanceSize, Option.mem_def.mp hmem, hget hmem]
          rfl
      · rw [ha.get_eq d (hold hd hdc).1] at hp
        rw [ha.get_eq p (h.hierarchy.parent d p (hold hd hdc) hp).1]
        exact hn.settled d p (hold hd hdc) hsettled hp }

/-- **A new variable** lies behind what instances of the class held so far. -/
lemma added (h : t.Accounts l) (ha : t.Added c e t') : t'.Accounts (l.noted t t' e) := by
  have hn := h.noted t' e
  obtain ⟨i, hfresh, hivars, hsize, hne, hexponent, hoffset⟩ := ha.ivar
  have hnone : ¬(t.ivar? ⟨c, i.name⟩).isSome := by
    rw [ivar?, hfresh]
    decide
  have hasked : (l.noted t t' e).exponent ⟨c, i.name⟩ = e := if_neg hnone
  have hplaces : (l.noted t t' e).Places c (t.get c).instanceSize i :=
    ⟨if_neg hnone, hasked.symm ▸ hexponent, hasked.symm ▸ hoffset, hne⟩
  have hbehind : (l.noted t t' e).Stacks c (t.get c).instanceSize [i] (t'.get c).instanceSize :=
    ⟨hplaces, hsize.symm⟩
  exact {
    hierarchy := ha.hierarchy h.hierarchy
    own := fun d hd => by
      have hd := ha.hasClass_iff.mp hd
      by_cases hdc : d = c
      · subst hdc
        rw [hivars]
        exact (hn.own d hd).append hbehind
      · rw [ha.get_eq d hdc]
        exact hn.own d hd
    root := fun d hd hroot =>
      hn.root d (ha.hasClass_iff.mp hd) ((ha.superclass d).symm.trans hroot)
    above := fun d p hd hp => by
      obtain ⟨before, after, hbefore, hstacks⟩ :=
        hn.above d p (ha.hasClass_iff.mp hd) ((ha.superclass d).symm.trans hp)
      by_cases hpc : p = c
      · subst hpc
        exact ⟨before, after ++ [i], by rw [hivars, hbefore, List.append_assoc], hstacks⟩
      · rw [ha.get_eq p hpc]
        exact ⟨before, after, hbefore, hstacks⟩
    settled := fun d p hd hsettled hp => by
      obtain ⟨hregistered, htaken⟩ :=
        hn.settled d p (ha.hasClass_iff.mp hd) hsettled ((ha.superclass d).symm.trans hp)
      by_cases hpc : p = c
      · subst hpc
        cases hregistered.symm.trans ha.fresh
      · rw [ha.get_eq p hpc]
        exact ⟨hregistered, htaken⟩ }

/-- **Registering** a class changes no layout. -/
lemma registered (h : t.Accounts l) (c : ClassId) : (t.register c).Accounts l := by
  have habove := (Retains.register t c).toAlikeAbove
  have hkeep {α : Type} (g : ClassRecord → α) (hg : ∀ r, g { r with registered := true } = g r)
      (d : ClassId) : g ((t.register c).get d) = g (t.get d) := by
    unfold register
    split
    · rfl
    · exact (get_modify_of_eq g hg _ _ d).trans (get_modify_of_eq g hg _ _ d)
  have hivars := hkeep ClassRecord.ivars fun _ => rfl
  have hsize := hkeep ClassRecord.instanceSize fun _ => rfl
  have hregistered (d : ClassId) (hd : (t.get d).registered = true) :
      ((t.register c).get d).registered = true := by
    unfold register
    split
    · exact hd
    · rw [get_modify, get_modify]
      split
      · rfl
      · split
        · rfl
        · exact hd
  exact {
    hierarchy := habove.hierarchy h.hierarchy
    own := fun d hd => by
      rw [hivars, hsize]
      exact h.own d (habove.hasClass_iff.mp hd)
    root := fun d hd hroot =>
      h.root d (habove.hasClass_iff.mp hd) ((habove.superclass d).symm.trans hroot)
    above := fun d p hd hp => by
      rw [hivars]
      exact h.above d p (habove.hasClass_iff.mp hd) ((habove.superclass d).symm.trans hp)
    settled := fun d p hd hsettled hp => by
      obtain ⟨hp, htaken⟩ :=
        h.settled d p (habove.hasClass_iff.mp hd) hsettled ((habove.superclass d).symm.trans hp)
      exact ⟨hregistered p hp, by rw [hsize, htaken]⟩ }

end ClassTable.Accounts

/-! ## The root classes -/

/-- The ledger of the root classes. -/
def Ledger.roots : Ledger where
  taken c := if c = ⟨3⟩ then 8 else 0
  settled _ := true
  found i := if i.name = "name" then 8 else if i.name = "reason" then 16 else 0
  exponent _ := 3

/-- The ledger of the root classes accounts for them. -/
lemma accounts_roots : ObjectSpace.initial.classes.Accounts .roots := by
  have hclass (c : ClassId) (hc : ObjectSpace.initial.classes.HasClass c) : c = ⟨1⟩ ∨ c = ⟨3⟩ := by
    obtain ⟨i⟩ := c
    have hi : i < 4 := Nat.lt_of_lt_of_eq hc.1 (by decide +kernel)
    have hclasses : ∀ i < 4, (ObjectSpace.initial.classes.get ⟨i⟩).isMeta = false → i = 1 ∨ i = 3 := by
      decide +kernel
    exact (hclasses i hi hc.2).imp (congrArg ClassId.mk) (congrArg ClassId.mk)
  have hobject : (ObjectSpace.initial.classes.get ⟨1⟩).superclass? = none ∧
      (ObjectSpace.initial.classes.get ⟨1⟩).ivars = [⟨"isa", "#", 0, 8⟩] ∧
      (ObjectSpace.initial.classes.get ⟨1⟩).instanceSize = 8 ∧
      (ObjectSpace.initial.classes.get ⟨1⟩).registered = true := by decide +kernel
  have hexception : (ObjectSpace.initial.classes.get ⟨3⟩).superclass? = some ⟨1⟩ ∧
      (ObjectSpace.initial.classes.get ⟨3⟩).ivars =
        [⟨"name", "*", 8, 8⟩, ⟨"reason", "*", 16, 8⟩] ∧
      (ObjectSpace.initial.classes.get ⟨3⟩).instanceSize = 24 := by decide +kernel
  have hplaces {c : ClassId} {name types : String} {start size : UInt64} {i : Ivar}
      (hi : i = ⟨name, types, start, size⟩) (hfound : Ledger.roots.found ⟨c, name⟩ = start)
      (hstart : ClassTable.nextMultiple start 8 = start) (hsize : size ≠ 0) :
      Ledger.roots.Places c start i := by
    subst hi
    exact ⟨hfound, (by decide : (3 : UInt8) < 16), hstart.symm, hsize⟩
  refine ⟨ObjectSpace.untouched_initial.hierarchy, fun c hc => ?_, fun c hc hroot => ?_,
    fun c p hc hp => ?_, fun c p hc _ hp => ?_⟩
  all_goals rcases hclass c hc with rfl | rfl
  · rw [hobject.2.1, hobject.2.2.1]
    exact ⟨hplaces rfl (by decide) (by decide) (by decide), (by decide : (0 : UInt64) + 8 = 8)⟩
  · rw [hexception.2.1, hexception.2.2]
    exact ⟨hplaces rfl (by decide) (by decide) (by decide),
      hplaces rfl (by decide) (by decide) (by decide), (by decide : (16 : UInt64) + 8 = 24)⟩
  · decide
  · cases hroot.symm.trans hexception.1
  · cases hobject.1.symm.trans hp
  · obtain rfl := Option.some.inj (hexception.1.symm.trans hp)
    refine ⟨_, [], (List.append_nil _).symm, ?_⟩
    rw [hobject.2.1]
    exact ⟨hplaces rfl (by decide) (by decide) (by decide), (by decide : (0 : UInt64) + 8 = 8)⟩
  · cases hobject.1.symm.trans hp
  · obtain rfl := Option.some.inj (hexception.1.symm.trans hp)
    exact ⟨hobject.2.2.2, by rw [hobject.2.2.1]; decide⟩

end MessageBridge
