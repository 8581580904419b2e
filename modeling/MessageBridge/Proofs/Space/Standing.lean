import MessageBridge.Proofs.Space.Coherence
import MessageBridge.Proofs.Space.Residence

/-!
# Names and forms of classes

A name is given to one class, pending or registered, and stays with it. What instances of a class
look like is open while the class is pending and settled when it is registered. Most requests change
neither names nor what is registered; two do, allocation and registration.

## Main definitions

* `ClassRecord.Form` — what instances of a class look like.
* `ClassTable.Registered` — a class that is registered.
* `ClassTable.Distinct` — no two classes have one name, and the class of a class is a metaclass.
* `ClassTable.Worked` — work on pending classes.
* `ClassTable.Later` — a table after any such steps.

## Main results

* `ClassTable.Worked.later`, `ClassTable.Allocated.later`, `ClassTable.later_register` — classes
  keep their names, and registered ones their forms.
* `ClassTable.Distinct.worked`, `ClassTable.Distinct.allocated`, `ClassTable.Distinct.register` —
  names stay distinct.
* `ClassTable.Distinct.find?_eq_some_iff`, `ClassTable.Distinct.lookupClass?_eq_some_iff`,
  `ClassTable.mem_registeredClasses` — what is found and listed.
-/

namespace MessageBridge

/-- **The form** of a class: what its instances look like. -/
structure ClassRecord.Form where
  instanceSize : UInt64
  ivars : List Ivar
  layout? : Option (List UInt8)
  weakLayout? : Option (List UInt8)
deriving DecidableEq

/-- The form that the record says. -/
def ClassRecord.form (r : ClassRecord) : ClassRecord.Form :=
  ⟨r.instanceSize, r.ivars, r.layout?, r.weakLayout?⟩

namespace ClassTable

variable {t t' t'' : ClassTable} {c d : ClassId}

/-- A class that is registered. -/
def Registered (t : ClassTable) (c : ClassId) : Prop :=
  t.HasClass c ∧ (t.get c).registered = true

instance (t : ClassTable) (c : ClassId) : Decidable (t.HasClass c) :=
  inferInstanceAs (Decidable (_ ∧ _))

instance (t : ClassTable) (c : ClassId) : Decidable (t.Registered c) :=
  inferInstanceAs (Decidable (_ ∧ _))

/-! ## Later tables -/

/-- **Worked**: the same classes, of the same names and registered or not as before, and those that
are registered have the form that they had. -/
structure Worked (t t' : ClassTable) : Prop extends AlikeAbove t t' where
  name : ∀ c, (t'.get c).name = (t.get c).name
  registered : ∀ c, (t'.get c).registered = (t.get c).registered
  form : ∀ c, (t.get c).registered = true → (t'.get c).form = (t.get c).form

/-- **Later**: classes are still there under their names, and those that are registered stay so and
keep their form. -/
structure Later (t t' : ClassTable) : Prop where
  has : ∀ c, t.Has c → t'.Has c
  isMeta : ∀ c, t.Has c → (t'.get c).isMeta = (t.get c).isMeta
  name : ∀ c, t.Has c → (t'.get c).name = (t.get c).name
  registered : ∀ c, t.Has c → (t.get c).registered = true → (t'.get c).registered = true
  form : ∀ c, t.Has c → (t.get c).registered = true → (t'.get c).form = (t.get c).form

namespace Later

lemma refl (t : ClassTable) : t.Later t :=
  ⟨fun _ => id, fun _ _ => rfl, fun _ _ => rfl, fun _ _ => id, fun _ _ _ => rfl⟩

lemma trans (h : t.Later t') (h' : t'.Later t'') : t.Later t'' where
  has c hc := h'.has c (h.has c hc)
  isMeta c hc := (h'.isMeta c (h.has c hc)).trans (h.isMeta c hc)
  name c hc := (h'.name c (h.has c hc)).trans (h.name c hc)
  registered c hc hreg := h'.registered c (h.has c hc) (h.registered c hc hreg)
  form c hc hreg := (h'.form c (h.has c hc) (h.registered c hc hreg)).trans (h.form c hc hreg)

lemma hasClass (h : t.Later t') (hc : t.HasClass c) : t'.HasClass c :=
  ⟨h.has c hc.1, (h.isMeta c hc.1).trans hc.2⟩

lemma size_le (h : t.Later t') : t.records.size ≤ t'.records.size :=
  Nat.le_of_not_lt fun hlt => Nat.lt_irrefl _ (h.has ⟨t'.records.size⟩ hlt)

lemma registered' (h : t.Later t') (hc : t.Registered c) : t'.Registered c :=
  ⟨h.hasClass hc.1, h.registered c hc.1.1 hc.2⟩

end Later

/-! ## Work on pending classes -/

namespace Worked

lemma refl (t : ClassTable) : t.Worked t :=
  ⟨⟨rfl, fun _ => rfl, fun _ => rfl, fun _ => rfl⟩, fun _ => rfl, fun _ => rfl, fun _ _ => rfl⟩

lemma trans (h : t.Worked t') (h' : t'.Worked t'') : t.Worked t'' :=
  ⟨h.toAlikeAbove.trans h'.toAlikeAbove, fun c => (h'.name c).trans (h.name c),
    fun c => (h'.registered c).trans (h.registered c),
    fun c hc => (h'.form c ((h.registered c).trans hc)).trans (h.form c hc)⟩

lemma later (h : t.Worked t') : t.Later t' :=
  ⟨fun _ => h.has_iff.mpr, fun c _ => h.isMeta c, fun c _ => h.name c,
    fun c _ hc => (h.registered c).trans hc, fun c _ => h.form c⟩

/-- A change of one record that may give it another form only if the class is not registered. -/
lemma modify {f : ClassRecord → ClassRecord} (hmeta : ∀ r, (f r).isMeta = r.isMeta)
    (hisa : ∀ r, (f r).isa = r.isa) (hsuper : ∀ r, (f r).superclass? = r.superclass?)
    (hname : ∀ r, (f r).name = r.name) (hregistered : ∀ r, (f r).registered = r.registered)
    (hform : (t.get c).registered = true → (f (t.get c)).form = (t.get c).form) :
    t.Worked (t.modify c f) where
  toAlikeAbove := .modify hmeta hisa hsuper t c
  name d := get_modify_of_eq ClassRecord.name hname t c d
  registered d := get_modify_of_eq ClassRecord.registered hregistered t c d
  form d hd := by
    rw [get_modify]
    split
    · next h => exact h.1 ▸ hform (h.1 ▸ hd)
    · rfl

/-- A look-up changes no more than a cache. -/
lemma lookup (t : ClassTable) (c : ClassId) (sel : Selector) : t.Worked (t.lookup c sel).2 := by
  unfold ClassTable.lookup
  split
  · exact .refl t
  · split
    · exact .modify (fun _ => by rfl) (fun _ => by rfl) (fun _ => by rfl) (fun _ => by rfl)
        (fun _ => by rfl) fun _ => by rfl
    · exact .refl t

lemma addMethod? {sel : Selector} {imp : Implementation} {types : String}
    (h : t.addMethod? c sel imp types = some t') : t.Worked t' := by
  unfold ClassTable.addMethod? at h
  split at h
  · cases h
  · cases h
    have hmodify : t.Worked (t.modify c fun r =>
        { r with methods := r.methods ++ [⟨sel, types, some imp⟩] }) :=
      .modify (fun _ => rfl) (fun _ => rfl) (fun _ => rfl) (fun _ => rfl) (fun _ => rfl) fun _ => rfl
    exact ⟨⟨hmodify.size, hmodify.isMeta, hmodify.isa, hmodify.superclass⟩, hmodify.name,
      hmodify.registered, hmodify.form⟩

/-- Variables are added to pending classes only. -/
lemma addIvar? {name types : String} {size : UInt64} {exponent : UInt8}
    (h : t.addIvar? c name size exponent types = some t') : t.Worked t' := by
  unfold ClassTable.addIvar? at h
  simp only at h
  split at h
  · cases h
  · next hguard =>
    simp only [Bool.or_eq_true, not_or, Bool.not_eq_true] at hguard
    obtain ⟨⟨⟨⟨-, hpending⟩, -⟩, -⟩, -⟩ := hguard
    split at h
    · cases h
    · cases h
      exact .modify (fun _ => rfl) (fun _ => rfl) (fun _ => rfl) (fun _ => rfl) (fun _ => rfl)
        fun hc => absurd hc (by rw [hpending]; decide)

/-- Layout strings are set for pending classes only. -/
lemma setLayout (t : ClassTable) (c : ClassId) (weak : Bool) (layout : Option (List UInt8)) :
    t.Worked (t.setLayout c weak layout) := by
  unfold ClassTable.setLayout
  split
  · exact .refl t
  · next hpending =>
    cases weak with
    | true =>
      exact .modify (fun _ => rfl) (fun _ => rfl) (fun _ => rfl) (fun _ => rfl) (fun _ => rfl)
        fun hc => absurd hc hpending
    | false =>
      exact .modify (fun _ => rfl) (fun _ => rfl) (fun _ => rfl) (fun _ => rfl) (fun _ => rfl)
        fun hc => absurd hc hpending

lemma adopt? {p : ProtocolId} (h : t.adopt? c p = some t') : t.Worked t' := by
  unfold ClassTable.adopt? at h
  split at h
  · cases h
  · cases h
    exact .modify (fun _ => rfl) (fun _ => rfl) (fun _ => rfl) (fun _ => rfl) (fun _ => rfl)
      fun _ => rfl

end Worked

/-! ## Allocation -/

lemma Allocated.later {parent : Option ClassId} (h : t.Allocated parent c t') : t.Later t' where
  has _ hd := h.has hd
  isMeta d hd := by rw [h.get_eq d hd]
  name d hd := by rw [h.get_eq d hd]
  registered d hd hreg := by rwa [h.get_eq d hd]
  form d hd _ := by rw [h.get_eq d hd]

/-- What an allocation that succeeds says about the name: it was free, and it is that of the new
class, which is pending. -/
lemma named_of_allocatePair? {parent : Option ClassId} {name : String}
    {metaStorage classStorage : Option Address}
    (h : t.allocatePair? parent name metaStorage classStorage = some (c, t')) :
    t.find? name = none ∧ (t'.get c).name = name ∧ (t'.get c).registered = false := by
  unfold allocatePair? at h
  split at h
  · cases h
  · next hguard =>
    simp only [Bool.or_eq_true, not_or, Bool.not_eq_true, Option.isSome_eq_false_iff,
      Option.isNone_iff_eq_none] at hguard
    simp only [Option.some.injEq, Prod.mk.injEq] at h
    obtain ⟨rfl, rfl⟩ := h
    refine ⟨hguard.2, ?_, ?_⟩
    · simp only [get, Array.getElem?_push, Array.size_push, if_true, Option.getD_some]
    · simp only [get, Array.getElem?_push, Array.size_push, if_true, Option.getD_some]

/-! ## Registration -/

/-- Registering a class leaves everything else about all classes as it is. -/
lemma get_register (t : ClassTable) (c d : ClassId) :
    ((t.register c).get d).name = (t.get d).name ∧ ((t.register c).get d).form = (t.get d).form ∧
      ((t.get d).registered = true → ((t.register c).get d).registered = true) := by
  have hmodify (t : ClassTable) (c : ClassId) :
      ((t.modify c fun r => { r with registered := true }).get d).name = (t.get d).name ∧
        ((t.modify c fun r => { r with registered := true }).get d).form = (t.get d).form ∧
        ((t.get d).registered = true →
          ((t.modify c fun r => { r with registered := true }).get d).registered = true) := by
    rw [get_modify]
    split
    · exact ⟨rfl, rfl, fun _ => rfl⟩
    · exact ⟨rfl, rfl, id⟩
  unfold register
  split
  · exact ⟨rfl, rfl, id⟩
  · have hmeta := hmodify t (t.metaclass c)
    have hclass := hmodify (t.modify (t.metaclass c) fun r => { r with registered := true }) c
    exact ⟨hclass.1.trans hmeta.1, hclass.2.1.trans hmeta.2.1, hclass.2.2 ∘ hmeta.2.2⟩

lemma later_register (t : ClassTable) (c : ClassId) : t.Later (t.register c) where
  has _ := (Retains.register t c).has_iff.mpr
  isMeta d _ := (Retains.register t c).isMeta d
  name d _ := (get_register t c d).1
  registered d _ := (get_register t c d).2.2
  form d _ _ := (get_register t c d).2.1

/-! ## Distinct names -/

/-- **Distinct**: no two classes have one name, and the class of a class is a metaclass. -/
structure Distinct (t : ClassTable) : Prop where
  name : ∀ c d, t.HasClass c → t.HasClass d → (t.get c).name = (t.get d).name → c = d
  isa : ∀ c, t.Has c → t.Has (t.get c).isa ∧ (t.get (t.get c).isa).isMeta = true

/-- The record of a class of the table. -/
lemma get_eq_getElem (hc : c.index < t.records.size) : t.get c = t.records[c.index] := by
  rw [get, Array.getElem?_eq_getElem hc, Option.getD_some]

/-- A name is free just if no class has it. -/
lemma find?_eq_none_iff {name : String} :
    t.find? name = none ↔ ∀ c, t.HasClass c → (t.get c).name ≠ name := by
  rw [find?, Option.map_eq_none_iff, Array.findIdx?_eq_none_iff]
  constructor
  · intro h c hc heq
    have hno := h (t.get c) (get_eq_getElem hc.1 ▸ Array.getElem_mem hc.1)
    rw [hc.2, heq] at hno
    simp at hno
  · intro h r hr
    obtain ⟨i, hi, rfl⟩ := Array.getElem_of_mem hr
    rw [← get_eq_getElem (c := ⟨i⟩) hi]
    cases hmeta : (t.get ⟨i⟩).isMeta with
    | true => rfl
    | false => simpa using h ⟨i⟩ ⟨hi, hmeta⟩

/-- What is found under a name is a class of the name. -/
lemma hasClass_of_find? {name : String} (h : t.find? name = some c) :
    t.HasClass c ∧ (t.get c).name = name := by
  obtain ⟨i, hi, rfl⟩ := Option.map_eq_some_iff.mp h
  obtain ⟨hlt, htest, -⟩ := Array.findIdx?_eq_some_iff_getElem.mp hi
  have hget : t.get ⟨i⟩ = t.records[i] := get_eq_getElem hlt
  simp only [Bool.and_eq_true, Bool.not_eq_true', beq_iff_eq] at htest
  exact ⟨⟨hlt, hget ▸ htest.1⟩, hget ▸ htest.2⟩

/-- **The listed classes** are those that are registered. -/
lemma mem_registeredClasses : c ∈ t.registeredClasses ↔ t.Registered c := by
  simp only [registeredClasses, List.mem_filter, List.mem_map, List.mem_range, Registered, HasClass,
    Has, Bool.and_eq_true, Bool.not_eq_true']
  constructor
  · rintro ⟨⟨i, hi, rfl⟩, hmeta, hreg⟩
    exact ⟨⟨hi, hmeta⟩, hreg⟩
  · rintro ⟨⟨hi, hmeta⟩, hreg⟩
    exact ⟨⟨c.index, hi, rfl⟩, hmeta, hreg⟩

lemma nodup_registeredClasses (t : ClassTable) : t.registeredClasses.Nodup :=
  (List.nodup_range.map fun _ _ h => congrArg ClassId.index h).filter _

namespace Distinct

/-- **A name** finds the one class that has it. -/
lemma find?_eq_some_iff (h : t.Distinct) {name : String} :
    t.find? name = some c ↔ t.HasClass c ∧ (t.get c).name = name := by
  refine ⟨hasClass_of_find?, fun ⟨hc, hname⟩ => ?_⟩
  cases hfind : t.find? name with
  | none => exact absurd hname (find?_eq_none_iff.mp hfind c hc)
  | some d =>
    obtain ⟨hd, hd'⟩ := hasClass_of_find? hfind
    rw [h.name c d hc hd (hname.trans hd'.symm)]

lemma lookupClass?_eq_some_iff (h : t.Distinct) {name : String} :
    t.lookupClass? name = some c ↔ t.Registered c ∧ (t.get c).name = name := by
  rw [lookupClass?, Option.filter_eq_some_iff, h.find?_eq_some_iff, Registered]
  tauto

/-- Only names, and what is a metaclass of what, matter. -/
lemma congr (h : t.Distinct) (halike : t.AlikeAbove t')
    (hname : ∀ c, (t'.get c).name = (t.get c).name) : t'.Distinct where
  name c d hc hd heq := by
    rw [hname, hname] at heq
    exact h.name c d (halike.hasClass_iff.mp hc) (halike.hasClass_iff.mp hd) heq
  isa c hc := by
    rw [halike.isa, halike.has_iff, halike.isMeta]
    exact h.isa c (halike.has_iff.mp hc)

lemma worked (h : t.Distinct) (hw : t.Worked t') : t'.Distinct := h.congr hw.toAlikeAbove hw.name

lemma register (h : t.Distinct) (c : ClassId) : (t.register c).Distinct :=
  h.congr (Retains.register t c).toAlikeAbove fun d => (get_register t c d).1

/-- A new class has a name that was free. -/
lemma allocated (h : t.Distinct) {parent : Option ClassId} {name : String}
    {metaStorage classStorage : Option Address} (hparent : ∀ p ∈ parent, t.Has p)
    (hpair : t.allocatePair? parent name metaStorage classStorage = some (c, t')) : t'.Distinct := by
  have halloc := allocated_of_allocatePair? hpair
  obtain ⟨hfree, hname, -⟩ := named_of_allocatePair? hpair
  have hnew {d : ClassId} (hd : t.HasClass d) : (t'.get d).name ≠ (t'.get c).name := by
    rw [halloc.get_eq d hd.1, hname]
    exact find?_eq_none_iff.mp hfree d hd
  have hold {d : ClassId} (hd : t.Has d) (hmeta : (t.get d).isMeta = true) :
      t'.Has d ∧ (t'.get d).isMeta = true :=
    ⟨halloc.has hd, by rw [halloc.get_eq d hd, hmeta]⟩
  have hmetaclass : t'.Has (t'.metaclass c) ∧ (t'.get (t'.metaclass c)).isMeta = true :=
    ⟨(halloc.has_iff _).mpr (.inr (.inl rfl)), halloc.isMeta.2⟩
  refine ⟨fun d e hd he heq => ?_, fun d hd => ?_⟩
  · rcases halloc.hasClass_iff.mp hd with hd | rfl <;>
      rcases halloc.hasClass_iff.mp he with he | rfl
    · rw [halloc.get_eq d hd.1, halloc.get_eq e he.1] at heq
      exact h.name d e hd he heq
    · exact absurd heq (hnew hd)
    · exact absurd heq.symm (hnew he)
    · rfl
  · rcases (halloc.has_iff d).mp hd with hd | rfl | rfl
    · rw [halloc.get_eq d hd]
      exact hold (h.isa d hd).1 (h.isa d hd).2
    · rw [isa_metaclass_of_allocatePair? hpair]
      cases parent with
      | none => exact hmetaclass
      | some p =>
        have hp := (h.isa p (hparent p rfl)).1
        exact hold (h.isa _ hp).1 (h.isa _ hp).2
    · exact hmetaclass

/-- **Registering** a class registers it and no other class. -/
lemma registered_register_iff (h : t.Distinct) (hc : t.HasClass c) :
    (t.register c).Registered d ↔ t.Registered d ∨ d = c := by
  have hregister : t.register c =
      (t.modify (t.metaclass c) fun r => { r with registered := true }).modify c
        fun r => { r with registered := true } := if_neg (by rw [hc.2]; decide)
  have hmeta := (h.isa c hc.1).2
  rw [Registered, (Retains.register t c).hasClass_iff, Registered]
  by_cases hdc : d = c
  · subst hdc
    refine iff_of_true ⟨hc, ?_⟩ (.inr rfl)
    rw [hregister, get_modify, if_pos ⟨rfl, has_modify.mpr hc.1⟩]
  · rw [or_iff_left hdc]
    refine and_congr_right fun hd => ?_
    have hne : d ≠ t.metaclass c := by
      rintro rfl
      exact absurd (hmeta.symm.trans hd.2) (by decide)
    rw [hregister, get_modify, if_neg fun hand => hdc hand.1, get_modify,
      if_neg fun hand => hne hand.1]

/-- The other classes are as registered as they were. -/
lemma registered_register (h : t.Distinct) (hc : t.HasClass c) (hd : t.HasClass d) (hne : d ≠ c) :
    ((t.register c).get d).registered = (t.get d).registered := by
  have hiff := h.registered_register_iff (d := d) hc
  rw [or_iff_left hne, Registered, (Retains.register t c).hasClass_iff, Registered,
    and_congr_right_iff] at hiff
  exact Bool.eq_iff_iff.mpr (hiff hd)

end Distinct

end ClassTable

/-- The root classes have different names. -/
lemma distinct_initial : ObjectSpace.initial.classes.Distinct where
  name c d hc hd heq := by
    have hnames : ∀ i < ObjectSpace.initial.classes.records.size,
        ∀ j < ObjectSpace.initial.classes.records.size,
          (ObjectSpace.initial.classes.get ⟨i⟩).isMeta = false →
          (ObjectSpace.initial.classes.get ⟨j⟩).isMeta = false →
          (ObjectSpace.initial.classes.get ⟨i⟩).name = (ObjectSpace.initial.classes.get ⟨j⟩).name →
            i = j := by
      decide +kernel
    exact congrArg ClassId.mk (hnames c.index hc.1 d.index hd.1 hc.2 hd.2 heq)
  isa c hc := by
    have hisa : ∀ i < ObjectSpace.initial.classes.records.size,
        ObjectSpace.initial.classes.Has (ObjectSpace.initial.classes.get ⟨i⟩).isa ∧
          (ObjectSpace.initial.classes.get
            (ObjectSpace.initial.classes.get ⟨i⟩).isa).isMeta = true := by
      decide +kernel
    exact hisa c.index hc

end MessageBridge
