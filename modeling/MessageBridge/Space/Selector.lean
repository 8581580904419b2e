import MessageBridge.Number.Word

/-!
# Selectors

A selector stands for the name of a message. Equal names have the same selector, so that selectors
are compared without looking at their names.

## Main definitions

* `Selector`, `SelectorTable` : selectors and the table of their names.
* `SelectorTable.intern` : the selector of a name, new if the name has none yet.

## Main results

* `SelectorTable.name_intern` : the interned selector has the name.
* `SelectorTable.name_intern_of_mem` : the names of the other selectors stay.
-/

namespace MessageBridge

/-- The selector of a message name, as its number in the table of names. -/
structure Selector where
  index : Nat
deriving DecidableEq, Repr, Inhabited

namespace Selector

/-- Where the selectors lie in memory. -/
def base : Nat := 0x20000000000

/-- The distance between two selectors in memory. -/
def stride : Nat := 16

/-- The number of selectors for which there is room. -/
def maxCount : Nat := 0x1000000000

/-- The address of a selector. -/
def address (s : Selector) : Address := UInt64.ofNat (base + stride * s.index)

end Selector

/-- The names of the selectors, each once. -/
structure SelectorTable where
  names : Array String := #[]
deriving Repr

namespace SelectorTable

/-- The name of a selector. -/
def name (t : SelectorTable) (s : Selector) : String := t.names[s.index]?.getD ""

/-- The selector of a name, if it has one. -/
def find? (t : SelectorTable) (name : String) : Option Selector :=
  (t.names.findIdx? (· == name)).map Selector.mk

/-- The selector of a name, and the table in which it has that name. -/
def intern (t : SelectorTable) (name : String) : Selector × SelectorTable :=
  match t.find? name with
  | some s => (s, t)
  | none => (⟨t.names.size⟩, ⟨t.names.push name⟩)

/-- The selector at an address. -/
def ofAddress? (t : SelectorTable) (a : Address) : Option Selector :=
  let offset := a.toNat - Selector.base
  if Selector.base ≤ a.toNat ∧ offset % Selector.stride = 0 ∧
      offset / Selector.stride < t.names.size then
    some ⟨offset / Selector.stride⟩
  else none

theorem name_of_find? {t : SelectorTable} {name : String} {s : Selector}
    (h : t.find? name = some s) : s.index < t.names.size ∧ t.name s = name := by
  simp only [find?, Option.map_eq_some_iff, Array.findIdx?_eq_some_iff_getElem] at h
  obtain ⟨i, ⟨hi, hname, -⟩, rfl⟩ := h
  refine ⟨hi, ?_⟩
  simpa [SelectorTable.name, hi] using hname

@[simp] theorem name_intern (t : SelectorTable) (name : String) :
    (t.intern name).2.name (t.intern name).1 = name := by
  unfold intern
  split
  · next s h => exact (name_of_find? h).2
  · simp [SelectorTable.name]

/-- A name that has a selector keeps it. -/
theorem intern_intern (t : SelectorTable) (name : String) :
    (t.intern name).2.intern name = t.intern name := by
  have hfind : (t.intern name).2.find? name = some (t.intern name).1 := by
    unfold intern
    split
    · next s h => exact h
    · next h =>
      rw [find?, Option.map_eq_none_iff] at h
      simp [find?, Array.findIdx?_push, h]
  rw [intern.eq_def (t.intern name).2, hfind]

theorem index_intern_lt (t : SelectorTable) (name : String) :
    (t.intern name).1.index < (t.intern name).2.names.size := by
  unfold intern
  split
  · next s h => exact (name_of_find? h).1
  · simp

theorem name_intern_of_mem (t : SelectorTable) (name : String) {s : Selector}
    (h : s.index < t.names.size) : (t.intern name).2.name s = t.name s := by
  unfold intern
  split
  · rfl
  · have hne : s.index ≠ t.names.size := Nat.ne_of_lt h
    simp [SelectorTable.name, Array.getElem?_push, hne]

end SelectorTable

end MessageBridge
