import Mathlib.Data.List.Forall2
import Mathlib.Data.List.Sort

/-!
# Lists that are searched

What is searched here is mostly a list: a table of pairs that is filtered, or entries that were sorted.
This module says which answers such a search has in common with one of the list as it was.

## Main results

* `lookup_filter` — a look-up does not see what it does not look for.
* `find?_flatMap_map` — a search through what many indices refer to is one for the first index.
* `filter_mergeSort`, `find?_mergeSort` — sorting keeps the order of entries that count as equal, and
  so the first one of them.
* `exists_forall₂_iff` — a list can be read if and only if each of its members can.
-/

namespace MessageBridge

section Tables

variable {α β : Type} [BEq α] [LawfulBEq α]

/-- A look-up does not see what it does not look for. -/
lemma lookup_filter {p : α → Bool} {k : α} (h : p k = true) (l : List (α × β)) :
    (l.filter fun e => p e.1).lookup k = l.lookup k := by
  induction l with
  | nil => rfl
  | cons e l ih =>
    obtain ⟨key, v⟩ := e
    cases hkey : p key with
    | true => simp [List.lookup_cons, ih, hkey]
    | false =>
      have hne : (k == key) = false := by
        rw [beq_eq_false_iff_ne]
        rintro rfl
        cases h.symm.trans hkey
      simp [List.lookup_cons, ih, hkey, hne]

lemma lookup_filter_ne {k k' : α} (h : k ≠ k') (l : List (α × β)) :
    (l.filter fun e => e.1 != k').lookup k = l.lookup k :=
  lookup_filter (p := (· != k')) (by simpa using h) l

end Tables

/-- The first reference for a key, where each index refers to its entries by their keys, is that of the
first index that has an entry for the key. -/
lemma find?_flatMap_map {ι β κ ρ : Type} [BEq κ] [LawfulBEq κ] {ref : ι → κ → ρ} {keyOf : ρ → κ}
    (href : ∀ k x, keyOf (ref k x) = x) (entries : ι → List β) (key : β → κ) (ks : List ι) (x : κ) :
    (ks.flatMap fun k => (entries k).map fun e => ref k (key e)).find? (fun r => keyOf r == x) =
      (ks.find? fun k => ((entries k).find? fun e => key e == x).isSome).map (ref · x) := by
  induction ks with
  | nil => rfl
  | cons k ks ih =>
    have hkeys : (fun r => keyOf r == x) ∘ (fun e => ref k (key e)) = fun e => key e == x :=
      funext fun e => by rw [Function.comp_apply, href]
    rw [List.flatMap_cons, List.find?_append, ih, List.find?_cons, List.find?_map, hkeys]
    cases he : (entries k).find? fun e => key e == x with
    | none => rfl
    | some e =>
      have hkey : key e = x := by simpa using List.find?_some he
      rw [Option.map_some, hkey]
      rfl

section Sorting

variable {α : Type} {le : α → α → Bool} {p : α → Bool}

/-- **Sorting is stable**: it keeps the order of entries that count as equal. -/
lemma filter_mergeSort (htrans : ∀ a b c, le a b = true → le b c = true → le a c = true)
    (htotal : ∀ a b, (le a b || le b a) = true)
    (heq : ∀ a b, p a = true → p b = true → le a b = true) (l : List α) :
    (l.mergeSort le).filter p = l.filter p := by
  have hsorted : (l.filter p).Pairwise fun a b => le a b = true :=
    List.pairwise_of_forall_mem_list fun a ha b hb =>
      heq a b (List.mem_filter.mp ha).2 (List.mem_filter.mp hb).2
  have hsub : (l.filter p).Sublist (l.mergeSort le) :=
    List.sublist_mergeSort htrans htotal hsorted List.filter_sublist
  have hkeep := hsub.filter p
  rw [List.filter_filter] at hkeep
  simp only [Bool.and_self] at hkeep
  exact (hkeep.eq_of_length ((List.mergeSort_perm l le).filter p).length_eq.symm).symm

end Sorting

/-- A list can be read if and only if each of its members can. -/
lemma exists_forall₂_iff {α β : Type} {R : α → β → Prop} {l : List α} :
    (∃ xs, List.Forall₂ R l xs) ↔ ∀ a ∈ l, ∃ x, R a x := by
  induction l with
  | nil => exact iff_of_true ⟨[], .nil⟩ (by simp)
  | cons a l ih =>
    rw [List.forall_mem_cons, ← ih]
    constructor
    · rintro ⟨_, hxs⟩
      cases hxs with
      | cons hx hxs => exact ⟨⟨_, hx⟩, _, hxs⟩
    · rintro ⟨⟨x, hx⟩, xs, hxs⟩
      exact ⟨x :: xs, .cons hx hxs⟩

end MessageBridge
