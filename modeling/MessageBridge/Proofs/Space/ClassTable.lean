import MessageBridge.Space.ClassTable
import Mathlib.Tactic.Common

/-!
# What a class table holds apart from its caches

Looking an implementation up fills the cache of a class. Nothing that is asked about classes and
methods depends on the caches, so a look-up changes none of these answers.

## Main definitions

* `ClassTable.bare` — the table with empty caches.
* `ClassTable.ownerOf?` — the first method on a chain that runs given code.

## Main results

* `ClassTable.bare_lookup` — a look-up fills caches and does nothing else.
* `ClassTable.findMethod?_bare`, `ClassTable.method?_bare`, `ClassTable.ownerOf?_bare` — methods are
  found without looking at the caches.
-/

namespace MessageBridge

/-- The record with an empty cache. -/
def ClassRecord.bare (r : ClassRecord) : ClassRecord := { r with cache := {} }

namespace ClassTable

/-- The table with empty caches. -/
def bare (t : ClassTable) : ClassTable := { t with records := t.records.map ClassRecord.bare }

/-- The first method for the selector on the chain of a class that runs the given code. -/
def ownerOf? (t : ClassTable) (c : ClassId) (sel : Selector) (code : Implementation) :
    Option MethodRef :=
  ((t.chain c).find? fun k =>
    (t.method? ⟨k, sel⟩).bind Method.implementation? == some code).map (⟨·, sel⟩)

variable (t : ClassTable) (c : ClassId) (sel : Selector)

@[simp] lemma get_bare : t.bare.get c = (t.get c).bare := by
  simp only [get, bare, Array.getElem?_map]
  cases t.records[c.index]? <;> rfl

lemma chainUpTo_bare (count : Nat) : t.bare.chainUpTo count c = t.chainUpTo count c := by
  induction count generalizing c with
  | zero => rfl
  | succ count ih =>
    have hsuper : (t.get c).bare.superclass? = (t.get c).superclass? := rfl
    simp only [chainUpTo, get_bare, hsuper]
    cases (t.get c).superclass? with
    | some parent => simp only [ih]
    | none => rfl

@[simp] lemma chain_bare : t.bare.chain c = t.chain c := by
  unfold chain
  rw [chainUpTo_bare]
  simp [bare]

@[simp] lemma method?_bare (m : MethodRef) : t.bare.method? m = t.method? m := by
  simp only [method?, get_bare]
  rfl

@[simp] lemma findMethod?_bare : t.bare.findMethod? c sel = t.findMethod? c sel := by
  simp only [findMethod?, chain_bare, get_bare]
  rfl

/-- A new cache for one class is all that a look-up leaves behind. -/
@[simp] lemma bare_lookup : (t.lookup c sel).2.bare = t.bare := by
  have hmodify (f : ClassRecord → ClassRecord) (hf : ∀ r, (f r).bare = r.bare) :
      (t.modify c f).bare = t.bare := by
    simp only [modify, bare]
    congr 1
    refine Array.ext_getElem? fun i => ?_
    simp only [Array.getElem?_map, Array.getElem?_modify]
    split
    · cases t.records[i]? with
      | none => rfl
      | some r => exact congrArg some (hf r)
    · rfl
  unfold lookup
  split
  · rfl
  · split
    · exact hmodify _ fun _ => rfl
    · rfl

end ClassTable

end MessageBridge
