import MessageBridge.Proofs.Space.Lineage
import Mathlib.Data.Fintype.Pigeonhole
import Mathlib.Data.Nat.SuccPred
import Mathlib.Order.SuccPred.Relation

/-!
# Conformance

A protocol conforms to itself and to what the protocols conform to that it adopts. The search for a
protocol follows what is adopted, depth first and in order, and stops at a hit. It does not remember where
it has been, and nothing keeps protocols from adopting each other in a circle. Whether it comes back is
decided by one thing: if it meets a protocol again on the way down, it goes round forever, and if it does
not, it is no deeper than there are protocols.

## Main definitions

* `ProtocolTable.Reaches` — a protocol conforms to another one, by any number of adoptions.
* `ProtocolTable.LeadsTo`, `ProtocolTable.Tries` — the search goes on to a protocol.
* `ProtocolTable.Circles` — the search gets into a circle.
* `ObjectSpace.Chartered` — the spaces that requests about classes and protocols lead to.

## Main results

* `ProtocolTable.eq_true_iff_reaches` — an answer is right.
* `ProtocolTable.Closed.circles_iff` — the search has no answer just if it gets into a circle.
* `ObjectSpace.Chartered.conformance` — both for protocols and for classes.
* `ObjectSpace.Chartered.conformance_of_acyclic` — where no protocol comes to adopt itself, all searches
  come back.
* `ObjectSpace.endless_entwined` — two protocols between which a search goes round.
-/

namespace MessageBridge

open Relation (ReflTransGen TransGen)

namespace ProtocolTable

variable {t t' : ProtocolTable} {p q goal : ProtocolId} {ps : List ProtocolId} {depth : Nat}
  {search : ProtocolId → Option Bool}

/-! ## Adoption -/

/-- The protocol is in the table. -/
def Has (t : ProtocolTable) (p : ProtocolId) : Prop := p.index < t.protocols.size

instance (t : ProtocolTable) (p : ProtocolId) : Decidable (t.Has p) :=
  inferInstanceAs (Decidable (p.index < t.protocols.size))

/-- The first protocol adopts the second. -/
def Adopts (t : ProtocolTable) (p q : ProtocolId) : Prop := q ∈ (t.get p).adopted

/-- **Reaches**: the second protocol is the first, or it is adopted by one that the first reaches. -/
def Reaches (t : ProtocolTable) : ProtocolId → ProtocolId → Prop := ReflTransGen t.Adopts

/-! ## The search -/

/-- **Leads to**: a search through protocols that are visited in order goes on to one of them, because
none before it reaches what is searched for. -/
def LeadsTo (t : ProtocolTable) (goal : ProtocolId) (ps : List ProtocolId) (q : ProtocolId) : Prop :=
  ∃ before after, ps = before ++ q :: after ∧ ∀ w ∈ before, ¬ t.Reaches w goal

/-- **Tries**: the search goes on from a protocol to one that it adopts. -/
def Tries (t : ProtocolTable) (goal p q : ProtocolId) : Prop :=
  p ≠ goal ∧ t.LeadsTo goal (t.get p).adopted q

/-- **Circles**: the search comes to a protocol that it then comes to again. -/
def Circles (t : ProtocolTable) (goal p : ProtocolId) : Prop :=
  ∃ r, ReflTransGen (t.Tries goal) p r ∧ TransGen (t.Tries goal) r r

lemma LeadsTo.mem (h : t.LeadsTo goal ps q) : q ∈ ps := by
  obtain ⟨before, after, rfl, -⟩ := h
  exact List.mem_append_right _ (List.mem_cons_self ..)

lemma Tries.adopts (h : t.Tries goal p q) : t.Adopts p q := h.2.mem

/-- Where no protocol comes to adopt itself, no search gets into a circle. -/
lemma not_circles_of_acyclic (h : ∀ r, ¬ TransGen t.Adopts r r) : ¬ t.Circles goal p := by
  rintro ⟨r, -, hcircle⟩
  exact h r (TransGen.mono (fun _ _ => Tries.adopts) _ _ hcircle)

/-! ## Through a list -/

/-- Right: where the search of a protocol has an answer, it is whether the protocol reaches the goal. -/
def Right (t : ProtocolTable) (goal : ProtocolId) (search : ProtocolId → Option Bool) : Prop :=
  ∀ p b, search p = some b → (b = true ↔ t.Reaches p goal)

lemma anyEnding_cons (hp : search p = some false) : anyEnding search (p :: ps) = anyEnding search ps := by
  rw [anyEnding, hp]
  rfl

/-- **Through a list**, the search finds what one of the protocols reaches. -/
lemma Right.eq_true_iff (h : t.Right goal search) {b : Bool} (hps : anyEnding search ps = some b) :
    b = true ↔ ∃ p ∈ ps, t.Reaches p goal := by
  induction ps with
  | nil =>
    cases hps
    simp
  | cons p ps ih =>
    rw [List.exists_mem_cons_iff]
    cases hp : search p with
    | none =>
      rw [anyEnding, hp] at hps
      cases hps
    | some found =>
      have hright := h p found hp
      cases found with
      | false =>
        rw [anyEnding_cons hp] at hps
        rw [← hright, ih hps]
        simp
      | true =>
        rw [anyEnding, hp] at hps
        cases hps
        simp [← hright]

/-- **It has no answer** just if it goes on to a protocol where it has none. -/
lemma Right.eq_none_iff (h : t.Right goal search) :
    anyEnding search ps = none ↔ ∃ q, t.LeadsTo goal ps q ∧ search q = none := by
  induction ps with
  | nil =>
    refine ⟨nofun, ?_⟩
    rintro ⟨q, hq, -⟩
    cases hq.mem
  | cons p ps ih =>
    cases hp : search p with
    | none =>
      rw [anyEnding, hp]
      exact ⟨fun _ => ⟨p, ⟨[], ps, rfl, nofun⟩, hp⟩, fun _ => rfl⟩
    | some found =>
      have hright := h p found hp
      have hcons {q : ProtocolId} (hq : search q = none) :
          t.LeadsTo goal (p :: ps) q ↔ ¬ t.Reaches p goal ∧ t.LeadsTo goal ps q := by
        constructor
        · rintro ⟨before, after, hsplit, hbefore⟩
          cases before with
          | nil =>
            obtain ⟨rfl, -⟩ := List.cons.inj hsplit
            cases hp.symm.trans hq
          | cons p' before =>
            obtain ⟨rfl, hrest⟩ := List.cons.inj hsplit
            rw [List.forall_mem_cons] at hbefore
            exact ⟨hbefore.1, before, after, hrest, hbefore.2⟩
        · rintro ⟨hreach, before, after, rfl, hbefore⟩
          exact ⟨p :: before, after, rfl, List.forall_mem_cons.mpr ⟨hreach, hbefore⟩⟩
      cases found with
      | false =>
        have hreach : ¬ t.Reaches p goal := fun hreach => nomatch hright.mpr hreach
        rw [anyEnding_cons hp, ih]
        refine exists_congr fun q => and_congr_left fun hq => ?_
        rw [hcons hq, and_iff_right hreach]
      | true =>
        rw [anyEnding, hp]
        refine ⟨nofun, ?_⟩
        rintro ⟨q, hq, hnone⟩
        exact absurd (hright.mp rfl) ((hcons hnone).mp hq).1

/-! ## Through what is adopted -/

lemma conformsWithin_self : t.conformsWithin goal depth goal = some true := by
  cases depth <;> exact if_pos rfl

lemma conformsWithin_succ (hp : p ≠ goal) : t.conformsWithin goal (depth + 1) p =
    anyEnding (t.conformsWithin goal depth) (t.get p).adopted := if_neg hp

lemma reaches_iff (hp : p ≠ goal) : t.Reaches p goal ↔ ∃ q ∈ (t.get p).adopted, t.Reaches q goal := by
  rw [Reaches, ReflTransGen.cases_head_iff, or_iff_right hp]
  rfl

/-- **Answers are right**, however deep the search may go. -/
theorem eq_true_iff_reaches (t : ProtocolTable) (goal : ProtocolId) (depth : Nat) :
    t.Right goal (t.conformsWithin goal depth) := by
  induction depth with
  | zero =>
    intro p b h
    unfold conformsWithin at h
    split at h
    · next hp =>
      cases h
      exact iff_of_true rfl (hp ▸ .refl)
    · cases h
  | succ depth ih =>
    intro p b h
    by_cases hp : p = goal
    · rw [hp, conformsWithin_self] at h
      cases h
      exact iff_of_true rfl (hp ▸ .refl)
    · rw [conformsWithin_succ hp] at h
      rw [ih.eq_true_iff h, reaches_iff hp]

/-- **One step** of a search that has no answer. -/
lemma conformsWithin_succ_eq_none : t.conformsWithin goal (depth + 1) p = none ↔
    ∃ q, t.Tries goal p q ∧ t.conformsWithin goal depth q = none := by
  by_cases hp : p = goal
  · rw [hp, conformsWithin_self]
    refine ⟨nofun, ?_⟩
    rintro ⟨q, ⟨hne, -⟩, -⟩
    exact absurd rfl hne
  · rw [conformsWithin_succ hp, (t.eq_true_iff_reaches goal depth).eq_none_iff]
    exact exists_congr fun q => and_congr_left fun _ => (and_iff_right hp).symm

lemma conformsWithin_zero_eq_none : t.conformsWithin goal 0 p = none ↔ p ≠ goal := by
  rw [conformsWithin]
  split <;> simp_all

/-- A search that has no answer has none if it may go less deep. -/
lemma conformsWithin_eq_none_of_succ (h : t.conformsWithin goal (depth + 1) p = none) :
    t.conformsWithin goal depth p = none := by
  induction depth generalizing p with
  | zero =>
    obtain ⟨q, htries, -⟩ := conformsWithin_succ_eq_none.mp h
    exact conformsWithin_zero_eq_none.mpr htries.1
  | succ depth ih =>
    obtain ⟨q, htries, hq⟩ := conformsWithin_succ_eq_none.mp h
    exact conformsWithin_succ_eq_none.mpr ⟨q, htries, ih hq⟩

/-- Nor does it have one where the search goes on to such a protocol. -/
lemma conformsWithin_eq_none_of_tries (h : ReflTransGen (t.Tries goal) p q)
    (hq : t.conformsWithin goal depth q = none) : t.conformsWithin goal depth p = none := by
  induction h using ReflTransGen.head_induction_on with
  | refl => exact hq
  | head htries _ ih =>
    exact conformsWithin_eq_none_of_succ (conformsWithin_succ_eq_none.mpr ⟨_, htries, ih⟩)

/-! ## Circles -/

/-- **A circle never ends.** -/
theorem Circles.endless (h : t.Circles goal p) (depth : Nat) : t.conformsWithin goal depth p = none := by
  obtain ⟨r, hr, hcircle⟩ := h
  refine conformsWithin_eq_none_of_tries hr ?_
  obtain ⟨q, htries, hback⟩ := TransGen.head'_iff.mp hcircle
  induction depth with
  | zero => exact conformsWithin_zero_eq_none.mpr htries.1
  | succ depth ih =>
    exact conformsWithin_succ_eq_none.mpr ⟨q, htries, conformsWithin_eq_none_of_tries hback ih⟩

/-- A search without an answer has gone down as deep as it may. -/
lemma exists_path_of_eq_none (h : t.conformsWithin goal depth p = none) :
    ∃ path : Nat → ProtocolId, path 0 = p ∧ ∀ i < depth, t.Tries goal (path i) (path (i + 1)) := by
  induction depth generalizing p with
  | zero => exact ⟨fun _ => p, rfl, fun i hi => absurd hi (Nat.not_lt_zero i)⟩
  | succ depth ih =>
    obtain ⟨q, htries, hq⟩ := conformsWithin_succ_eq_none.mp h
    obtain ⟨path, hstart, hpath⟩ := ih hq
    refine ⟨fun i => i.casesOn p path, rfl, fun i hi => ?_⟩
    cases i with
    | zero =>
      subst hstart
      exact htries
    | succ i => exact hpath i (Nat.lt_of_succ_lt_succ hi)

/-- A way down that meets a protocol twice is in a circle. -/
lemma circles_of_path {path : Nat → ProtocolId} {i j : Nat} (hij : i < j)
    (hpath : ∀ k < j, t.Tries goal (path k) (path (k + 1))) (heq : path i = path j) :
    t.Circles goal (path 0) := by
  have hdown : ReflTransGen (t.Tries goal) (path 0) (path i) :=
    (reflTransGen_of_succ_of_le (fun a b => t.Tries goal (path a) (path b))
      (fun k hk => hpath k (Nat.lt_trans hk.2 hij)) (Nat.zero_le i)).lift path fun _ _ => id
  have hround : TransGen (t.Tries goal) (path i) (path j) :=
    (transGen_of_succ_of_lt (fun a b => t.Tries goal (path a) (path b))
      (fun k hk => hpath k hk.2) hij).lift path fun _ _ => id
  exact ⟨path i, hdown, heq ▸ hround⟩

/-- **Closed**: protocols of the table adopt protocols of the table. -/
def Closed (t : ProtocolTable) : Prop := ∀ p q, t.Adopts p q → t.Has p ∧ t.Has q

/-- **A search has no answer** just if it gets into a circle: a way down that is as long as the table
meets a protocol twice. -/
theorem Closed.circles_iff (ht : t.Closed) (hgoal : t.Has goal) :
    t.conforms? p goal = none ↔ t.Circles goal p := by
  refine ⟨fun h => ?_, fun h => h.endless _⟩
  obtain ⟨path, rfl, hpath⟩ := exists_path_of_eq_none h
  have hsize : 0 < t.protocols.size := Nat.zero_lt_of_lt hgoal
  have hhas (i : Fin (t.protocols.size + 1)) : t.Has (path i) := by
    obtain ⟨i, hi⟩ := i
    cases i with
    | zero => exact (ht _ _ (hpath 0 hsize).adopts).1
    | succ i => exact (ht _ _ (hpath i (Nat.lt_of_succ_lt_succ hi)).adopts).2
  obtain ⟨i, j, hne, heq⟩ := Fintype.exists_ne_map_eq_of_card_lt
    (fun i : Fin (t.protocols.size + 1) => (⟨(path i).index, hhas i⟩ : Fin t.protocols.size)) (by simp)
  have hsame : path i = path j := by
    have hindex : (path i).index = (path j).index := congrArg Fin.val heq
    cases hi : path i
    cases hj : path j
    rw [hi, hj] at hindex
    exact congrArg ProtocolId.mk hindex
  have hbefore (k : Fin (t.protocols.size + 1)) (i : Nat) (hi : i < k) :
      t.Tries goal (path i) (path (i + 1)) := hpath i (Nat.lt_of_lt_of_le hi (Nat.le_of_lt_succ k.isLt))
  rcases lt_or_gt_of_ne hne with hij | hji
  · exact circles_of_path hij (hbefore j) hsame
  · exact circles_of_path hji (hbefore i) hsame.symm

/-- **The depth is no limit**: where the search comes back at all, the table is deep enough. -/
theorem Closed.conforms?_eq_some_iff (ht : t.Closed) (hgoal : t.Has goal) {b : Bool} :
    t.conforms? p goal = some b ↔ ∃ depth, t.conformsWithin goal depth p = some b := by
  refine ⟨fun h => ⟨_, h⟩, ?_⟩
  rintro ⟨depth, h⟩
  have hright := t.eq_true_iff_reaches goal depth p b h
  cases hconforms : t.conforms? p goal with
  | none =>
    rw [((ht.circles_iff hgoal).mp hconforms).endless depth] at h
    cases h
  | some b' =>
    have hright' := t.eq_true_iff_reaches goal _ p b' hconforms
    rw [Bool.eq_iff_iff.mpr (hright'.trans hright.symm)]

/-! ## Building protocols -/

namespace Closed

lemma empty : Closed {} := fun p q h => by
  rw [Adopts, get, Array.getElem?_eq_none (Nat.zero_le _)] at h
  cases h

/-- Other protocols adopt what they did before. -/
lemma adopts_of_modifyPending {f : Protocol → Protocol} (ht : t.Closed)
    (hf : ∀ r, ∀ q ∈ (f r).adopted, q ∈ r.adopted ∨ t.Has q) (p : ProtocolId) :
    (t.modifyPending p f).Closed := by
  intro r q h
  have hhas (r : ProtocolId) : (t.modifyPending p f).Has r ↔ t.Has r := by simp [Has, modifyPending]
  rw [hhas, hhas]
  by_cases hr : t.Has r
  · refine ⟨hr, ?_⟩
    have hget : q ∈ (t.get r).adopted ∨ t.Has q := by
      rw [Adopts, get, modifyPending, Array.getElem?_modify] at h
      split at h
      · rw [Array.getElem?_eq_getElem hr, Option.map_some, Option.getD_some] at h
        rw [get, Array.getElem?_eq_getElem hr, Option.getD_some]
        split at h
        · exact .inl h
        · exact hf _ q h
      · exact .inl h
    exact hget.elim (fun hq => (ht r q hq).2) id
  · have hno : ¬ (t.modifyPending p f).Has r := fun h => hr ((hhas r).mp h)
    rw [Adopts, get, Array.getElem?_eq_none (Nat.le_of_not_lt hno)] at h
    cases h

lemma allocate? {name : String} (ht : t.Closed) (h : t.allocate? name = some (p, t')) : t'.Closed := by
  unfold ProtocolTable.allocate? at h
  split at h
  · cases h
  · cases h
    intro r q hq
    have hadopts : t.Adopts r q := by
      rw [Adopts, get, Array.getElem?_push] at hq
      split at hq
      · cases hq
      · exact hq
    obtain ⟨hr, hq⟩ := ht r q hadopts
    simp only [Has, Array.size_push] at hr hq ⊢
    omega

end Closed

end ProtocolTable

/-! ## Spaces -/

/-- A request about protocols. -/
inductive ProtocolRequest where
  | allocate (name : String)
  | declare (p : Option ProtocolId) (sel : Option Selector) (types : String)
      (required instanceSide : Bool)
  | adopt (p addition : Option ProtocolId)
  | register (p : Option ProtocolId)
  | join (c : Option ClassId) (p : Option ProtocolId)

/-- The protocols that a request names. -/
def ProtocolRequest.protocols : ProtocolRequest → List ProtocolId
  | allocate _ => []
  | declare p _ _ _ _ | register p | join _ p => p.toList
  | adopt p addition => p.toList ++ addition.toList

namespace ObjectSpace

variable {s : ObjectSpace} {q : ProtocolId}

/-- The space after a request about protocols. -/
def charter (s : ObjectSpace) : ProtocolRequest → ObjectSpace
  | .allocate name => (s.allocateProtocol name).2
  | .declare p sel types required instanceSide => s.declareMethod p sel types required instanceSide
  | .adopt p addition => s.adoptProtocol p addition
  | .register p => s.registerProtocol p
  | .join c p => (s.addProtocol c p).2

/-- **Chartered**: the spaces that requests about classes and protocols lead to, from an empty one or from
the root classes. Protocols may adopt each other in any way, in any order. -/
inductive Chartered : ObjectSpace → Prop
  | empty : Chartered {}
  | roots : Chartered initial
  /-- A request about classes and methods. -/
  | serve {s : ObjectSpace} (r : ClassRequest) (h : Chartered s) (hr : s.Valid r) :
      Chartered (s.serve r)
  /-- A request about protocols. -/
  | charter {s : ObjectSpace} (r : ProtocolRequest) (h : Chartered s)
      (hr : ∀ p ∈ r.protocols, s.protocols.Has p) : Chartered (s.charter r)

lemma protocols_allocateStorage (s : ObjectSpace) (extra : UInt64) :
    (s.allocateStorage extra).2.protocols = s.protocols := by
  unfold allocateStorage
  split
  · rfl
  · split <;> rfl

/-- Requests about classes do not touch the protocols. -/
lemma protocols_serve (s : ObjectSpace) (r : ClassRequest) : (s.serve r).protocols = s.protocols := by
  cases r with
  | allocatePair parent name extra =>
    simp only [serve, allocatePair]
    split
    · exact (protocols_allocateStorage _ _).trans (protocols_allocateStorage _ _)
    · rfl
  | addMethod c sel imp types =>
    simp only [serve, addMethod]
    repeat' split
    all_goals rfl
  | replaceMethod c sel imp types => cases c <;> cases sel <;> rfl
  | setImplementation m imp => cases m <;> cases imp <;> rfl
  | exchange m k => cases m <;> cases k <;> rfl
  | registerPair c => cases c <;> rfl
  | setSuperclass c parent => cases c <;> cases parent <;> rfl
  | lookup c sel => rfl

/-- Requests about protocols leave the hierarchy as it is. -/
lemma retains_charter (s : ObjectSpace) (r : ProtocolRequest) :
    s.classes.Retains (s.charter r).classes := by
  cases r with
  | allocate name =>
    simp only [charter, allocateProtocol]
    split <;> exact .refl _
  | declare p sel types required instanceSide => cases p <;> cases sel <;> exact .refl _
  | adopt p addition => cases p <;> cases addition <;> exact .refl _
  | register p => cases p <;> exact .refl _
  | join c p =>
    simp only [charter, addProtocol]
    split
    · split
      · next h =>
        unfold ClassTable.adopt? at h
        split at h
        · cases h
        · cases h
          exact .modify (by exact fun _ => ⟨rfl, rfl, rfl, rfl⟩) _ _
      · exact .refl _
    · exact .refl _

/-- **Requests about protocols** keep the table closed. -/
lemma closed_charter (hs : s.protocols.Closed) {r : ProtocolRequest}
    (hr : ∀ p ∈ r.protocols, s.protocols.Has p) : (s.charter r).protocols.Closed := by
  cases r with
  | allocate name =>
    simp only [charter, allocateProtocol]
    split
    · next h => exact hs.allocate? h
    · exact hs
  | declare p sel types required instanceSide =>
    cases p with
    | none => exact hs
    | some p =>
      cases sel with
      | none => exact hs
      | some sel => exact hs.adopts_of_modifyPending (by exact fun _ _ => .inl) p
  | adopt p addition =>
    cases p with
    | none => exact hs
    | some p =>
      cases addition with
      | none => exact hs
      | some addition =>
        refine hs.adopts_of_modifyPending (fun r q hq => ?_) p
        rcases List.mem_append.mp hq with hq | hq
        · exact .inl hq
        · obtain rfl := List.mem_singleton.mp hq
          exact .inr (hr q (by simp [ProtocolRequest.protocols]))
  | register p =>
    cases p with
    | none => exact hs
    | some p => exact hs.adopts_of_modifyPending (by exact fun _ _ => .inl) p
  | join c p =>
    have hsame : (s.charter (.join c p)).protocols = s.protocols := by
      simp only [charter, addProtocol]
      split
      · split <;> rfl
      · rfl
    rwa [hsame]

/-- **Requests keep** the hierarchy of the classes, and the table of the protocols closed. -/
theorem Chartered.hierarchy_closed (h : s.Chartered) : s.classes.Hierarchy ∧ s.protocols.Closed := by
  induction h with
  | empty => exact ⟨ClassTable.Untouched.empty.hierarchy, .empty⟩
  | roots =>
    refine ⟨untouched_initial.hierarchy, fun p q h => ?_⟩
    have hsize : initial.protocols.protocols.size = 0 := by decide +kernel
    rw [ProtocolTable.Adopts, ProtocolTable.get, Array.getElem?_eq_none (by omega)] at h
    cases h
  | serve r _ hr ih =>
    rw [protocols_serve]
    exact ⟨(change_serve ih.1 hr).hierarchy ih.1, ih.2⟩
  | charter r _ hr ih => exact ⟨(retains_charter _ r).hierarchy ih.1, closed_charter ih.2 hr⟩

/-! ## Classes -/

/-- **Circles**: the search through what classes adopt comes to a protocol from which it gets into a
circle. -/
def Circles (s : ObjectSpace) (goal : ProtocolId) (cs : List ClassId) : Prop :=
  ∃ p, s.protocols.LeadsTo goal (cs.flatMap fun k => (s.classes.get k).protocols) p ∧
    s.protocols.Circles goal p

/-- **Through the classes**, the search finds what they adopt, and has no answer just if it gets into a
circle. -/
lemma Chartered.conforms?_spec (h : s.Chartered) (hq : s.protocols.Has q) (c : ClassId) :
    (s.conforms? c q = none ↔ s.Circles q (s.classes.chain c)) ∧
    ∀ b, s.conforms? c q = some b →
      (b = true ↔ ∃ k ∈ s.classes.chain c, ∃ p ∈ (s.classes.get k).protocols, s.protocols.Reaches p q) := by
  have hright : s.protocols.Right q (fun p => s.protocols.conforms? p q) :=
    s.protocols.eq_true_iff_reaches q _
  constructor
  · unfold conforms?
    rw [hright.eq_none_iff]
    exact exists_congr fun p => and_congr_right fun _ => h.hierarchy_closed.2.circles_iff hq
  · intro b hb
    rw [hright.eq_true_iff hb]
    constructor
    · rintro ⟨p, hp, hreach⟩
      obtain ⟨k, hk, hp⟩ := List.mem_flatMap.mp hp
      exact ⟨k, hk, p, hp, hreach⟩
    · rintro ⟨k, hk, p, hp, hreach⟩
      exact ⟨p, List.mem_flatMap.mpr ⟨k, hk, hp⟩, hreach⟩

/-- **Conformance** is reaching by adoption, wherever the search comes back. It comes back just if it gets
into no circle, and the depth that it is given is no limit. A class conforms if a class on the way up from
it adopts a protocol that does. -/
theorem Chartered.conformance (h : s.Chartered) (hq : s.protocols.Has q) :
    (∀ p,
      ((∃ b, s.protocolConforms? (some p) (some q) = some b) ↔ ¬ s.protocols.Circles q p) ∧
      (∀ b, s.protocolConforms? (some p) (some q) = some b ↔
        ∃ depth, s.protocols.conformsWithin q depth p = some b) ∧
      ∀ b, s.protocolConforms? (some p) (some q) = some b → (b = true ↔ s.protocols.Reaches p q)) ∧
    ∀ c, s.classes.Has c → ∃ cs, s.classes.Ascends c cs ∧
      ((∃ b, s.classConforms? (some c) (some q) = some b) ↔ ¬ s.Circles q cs) ∧
      ∀ b, s.classConforms? (some c) (some q) = some b →
        (b = true ↔ ∃ k ∈ cs, ∃ p ∈ (s.classes.get k).protocols, s.protocols.Reaches p q) := by
  obtain ⟨hhierarchy, hclosed⟩ := h.hierarchy_closed
  constructor
  · intro p
    refine ⟨?_, fun b => hclosed.conforms?_eq_some_iff hq, s.protocols.eq_true_iff_reaches q _ p⟩
    rw [← hclosed.circles_iff hq, ← Option.ne_none_iff_exists']
    rfl
  · intro c hc
    obtain ⟨hnone, hright⟩ := h.conforms?_spec hq c
    refine ⟨_, hhierarchy.ascends_chain hc, ?_, hright⟩
    rw [← hnone, ← Option.ne_none_iff_exists']
    rfl

/-- **Without circles** every search comes back, so that protocols and classes conform or do not. -/
theorem Chartered.conformance_of_acyclic (h : s.Chartered) (hq : s.protocols.Has q)
    (hacyclic : ∀ r, ¬ TransGen s.protocols.Adopts r r) :
    (∀ p, ∃ b, s.protocolConforms? (some p) (some q) = some b) ∧
      ∀ c, ∃ b, s.classConforms? (some c) (some q) = some b := by
  constructor
  · intro p
    refine Option.ne_none_iff_exists'.mp fun hnone => ?_
    exact ProtocolTable.not_circles_of_acyclic hacyclic
      ((h.hierarchy_closed.2.circles_iff hq).mp hnone)
  · intro c
    refine Option.ne_none_iff_exists'.mp fun hnone => ?_
    obtain ⟨p, -, hcircles⟩ := (h.conforms?_spec hq c).1.mp hnone
    exact ProtocolTable.not_circles_of_acyclic hacyclic hcircles

/-- A protocol adopts another one, and the class `Object` adopts the first. -/
def adopting : ObjectSpace :=
  [.allocate "Alpha", .allocate "Beta", .adopt (some ⟨0⟩) (some ⟨1⟩), .register (some ⟨0⟩),
    .join (some ⟨1⟩) (some ⟨0⟩)].foldl charter initial

/-- The class conforms to the second protocol, and so does the class below it. -/
theorem conformance_adopting :
    adopting.Chartered ∧ adopting.protocols.Has ⟨1⟩ ∧ adopting.classes.Has ⟨3⟩ ∧
      adopting.protocols.Reaches ⟨0⟩ ⟨1⟩ ∧ ¬ adopting.protocols.Circles ⟨1⟩ ⟨0⟩ ∧
      ∃ cs, adopting.classes.Ascends ⟨3⟩ cs ∧
        ∃ k ∈ cs, ∃ p ∈ (adopting.classes.get k).protocols, adopting.protocols.Reaches p ⟨1⟩ := by
  have hchartered : adopting.Chartered :=
    ((((Chartered.roots.charter (.allocate "Alpha") (by decide +kernel)).charter
      (.allocate "Beta") (by decide +kernel)).charter
      (.adopt (some ⟨0⟩) (some ⟨1⟩)) (by decide +kernel)).charter
      (.register (some ⟨0⟩)) (by decide +kernel)).charter
      (.join (some ⟨1⟩) (some ⟨0⟩)) (by decide +kernel)
  have hq : adopting.protocols.Has ⟨1⟩ := by decide +kernel
  have hc : adopting.classes.Has ⟨3⟩ := by decide +kernel
  obtain ⟨hprotocols, hclasses⟩ := hchartered.conformance hq
  obtain ⟨hends, -, hright⟩ := hprotocols ⟨0⟩
  obtain ⟨cs, hcs, -, hclass⟩ := hclasses ⟨3⟩ hc
  have hanswer : adopting.protocolConforms? (some ⟨0⟩) (some ⟨1⟩) = some true := by decide +kernel
  have hanswer' : adopting.classConforms? (some ⟨3⟩) (some ⟨1⟩) = some true := by decide +kernel
  exact ⟨hchartered, hq, hc, (hright true hanswer).mp rfl, hends.mp ⟨true, hanswer⟩, cs, hcs,
    (hclass true hanswer').mp rfl⟩

/-- Two protocols that adopt each other, and a third one. -/
def entwined : ObjectSpace :=
  [.allocate "Alpha", .allocate "Beta", .allocate "Gamma", .adopt (some ⟨0⟩) (some ⟨1⟩),
    .adopt (some ⟨1⟩) (some ⟨0⟩)].foldl charter initial

/-- **The search for the third** goes round between the two, which do not reach it. -/
theorem endless_entwined :
    entwined.Chartered ∧ (entwined.protocols.Has ⟨0⟩ ∧ entwined.protocols.Has ⟨2⟩) ∧
      ¬ entwined.protocols.Reaches ⟨0⟩ ⟨2⟩ ∧
      entwined.protocolConforms? (some ⟨0⟩) (some ⟨2⟩) = none ∧
      ∀ depth, entwined.protocols.conformsWithin ⟨2⟩ depth ⟨0⟩ = none := by
  have hchartered : entwined.Chartered :=
    ((((Chartered.roots.charter (.allocate "Alpha") (by decide +kernel)).charter
      (.allocate "Beta") (by decide +kernel)).charter
      (.allocate "Gamma") (by decide +kernel)).charter
      (.adopt (some ⟨0⟩) (some ⟨1⟩)) (by decide +kernel)).charter
      (.adopt (some ⟨1⟩) (some ⟨0⟩)) (by decide +kernel)
  have hgoal : entwined.protocols.Has ⟨2⟩ := by decide +kernel
  have hnone : entwined.protocols.conforms? ⟨0⟩ ⟨2⟩ = none := by decide +kernel
  have hcircles := (hchartered.hierarchy_closed.2.circles_iff hgoal).mp hnone
  have hback (p r : ProtocolId) (h : entwined.protocols.Reaches p r) (hp : p = ⟨0⟩ ∨ p = ⟨1⟩) :
      r = ⟨0⟩ ∨ r = ⟨1⟩ := by
    induction h with
    | refl => exact hp
    | tail _ hstep ih =>
      have hadopted : (entwined.protocols.get ⟨0⟩).adopted = [⟨1⟩] ∧
          (entwined.protocols.get ⟨1⟩).adopted = [⟨0⟩] := by decide +kernel
      unfold ProtocolTable.Adopts at hstep
      rcases ih with rfl | rfl
      · rw [hadopted.1] at hstep
        exact .inr (List.mem_singleton.mp hstep)
      · rw [hadopted.2] at hstep
        exact .inl (List.mem_singleton.mp hstep)
  refine ⟨hchartered, ⟨by decide +kernel, hgoal⟩, fun h => ?_, hnone, hcircles.endless⟩
  rcases hback _ _ h (.inl rfl) with heq | heq <;> cases heq

end ObjectSpace

end MessageBridge
