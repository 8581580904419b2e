import MessageBridge.Proofs.Encoding.InlineStruct

/-!
# What reading depends on

How a reader proceeds depends on which names the table of layouts knows, and not on the layouts that
it knows under them: these are part of what is read and nothing else. So two tables that know the same
names lead to the same refusals, and to the same descriptors but for the layouts in them.

## Main definitions

* `Descriptor.outline` — the descriptor without what it says of layouts but for their names.
* `Encoding.SameNames` — two tables that know the same names.
* `Encoding.structName` — the name of the struct that an encoding begins with.
* `Translator.Steered` — a translation that goes the same way where the same names are known.

## Main results

* `Encoding.outline_readType` — with the same names known, a type is read with the same outline, or
  refused alike.
* `Translator.steered_translate`, `Translator.steered_structLayout` — translations are steered by the
  names that are known.
* `Translator.name_of_structLayout` — a struct encoding has a layout of the name that it begins with.
-/

namespace MessageBridge

/-- The shape, with nothing but the names of layouts. -/
def Shape.outline : Shape → Shape
  | .pointer levels _ => .pointer levels none
  | .aggregate l => .aggregate (.mk l.name [] 0 0)
  | s => s

/-- **Outline**: the descriptor, with nothing but the names of layouts. -/
def Descriptor.outline (d : Descriptor) : Descriptor := .mk d.encoding d.shape.outline

@[simp] lemma Descriptor.isVoid_outline (d : Descriptor) : d.outline.isVoid = d.isVoid := by
  obtain ⟨e, s⟩ := d
  cases s <;> rfl

namespace Encoding

/-! ## Results that look the same -/

/-- Results that look the same are both good, or are the same error. -/
lemma cases_of_map_eq {ε α γ : Type} {v : α → γ} {x x' : Except ε α} (h : v <$> x = v <$> x') :
    (∃ a a', x = .ok a ∧ x' = .ok a' ∧ v a = v a') ∨ ∃ e, x = .error e ∧ x' = .error e := by
  cases x with
  | error e =>
    cases x' with
    | error e' =>
      obtain rfl := Except.error.inj h
      exact .inr ⟨e, rfl, rfl⟩
    | ok a' => cases h
  | ok a =>
    cases x' with
    | error e' => cases h
    | ok a' => exact .inl ⟨a, a', rfl, rfl, Except.ok.inj h⟩

/-- A sequence looks the same if its parts do. -/
lemma map_bind_congr {ε α β γ δ : Type} {v : α → γ} {w : β → δ} {x x' : Except ε α}
    {f f' : α → Except ε β} (hx : v <$> x = v <$> x')
    (hf : ∀ a a', v a = v a' → w <$> f a = w <$> f' a') :
    w <$> (x >>= f) = w <$> (x' >>= f') := by
  rcases cases_of_map_eq hx with ⟨a, a', rfl, rfl, h⟩ | ⟨e, rfl, rfl⟩
  · exact hf a a' h
  · rfl

/-- What was read, in outline. -/
def outlined (r : Descriptor × List Char) : Descriptor × List Char := (r.1.outline, r.2)

/-- Fields that were read, in outline. -/
def outlinedFields (r : List (Option String × Descriptor) × List Char) :
    List (Option String × Descriptor) × List Char :=
  (r.1.map fun f => (f.1, f.2.outline), r.2)

/-- **Same names**: the tables know the same names, and know their layouts under their own names. -/
structure SameNames (layout? layout?' : String → Option Layout) : Prop where
  isSome : ∀ n, (layout? n).isSome = (layout?' n).isSome
  name : ∀ n l, layout? n = some l → l.name = n
  name' : ∀ n l, layout?' n = some l → l.name = n

section Readers

variable {layout? layout?' : String → Option Layout} {r r' : Reader Descriptor}

/-- Reads a type and gives only what stands after it. -/
def readPast (r : Reader Descriptor) (s : List Char) :
    Except Refusal (Option String × List Char) := do
  let (_, rest) ← r s
  return (none, rest)

lemma readPast_congr (h : ∀ s, outlined <$> r s = outlined <$> r' s) (s : List Char) :
    readPast r s = readPast r' s := by
  let k (a : Descriptor × List Char) : Except Refusal (Option String × List Char) :=
    pure (none, a.2)
  have hrest : ∀ a a', outlined a = outlined a' → id <$> k a = id <$> k a' :=
    fun a a' heq => by rw [show k a = k a' by simp only [k, (Prod.mk.inj heq).2]]
  have hbind : r s >>= k = r' s >>= k := by simpa only [id_map] using map_bind_congr (h s) hrest
  exact hbind

/-- What stands behind a pointer is skipped in the same way. -/
lemma skipPointee_congr (h : ∀ s, outlined <$> r s = outlined <$> r' s) (s : List Char) :
    skipPointee r s = skipPointee r' s := by
  cases s with
  | nil => rfl
  | cons c rest =>
    simp only [skipPointee]
    split_ifs
    · rfl
    · rfl
    · rfl
    · rfl
    · rfl
    · exact readPast_congr h (c :: rest)

/-- A field whose label was read, and the fields after it. -/
def readField (r : Reader Descriptor) (named : Bool) (count : Nat)
    (label : Option String × List Char) :
    Except Refusal (List (Option String × Descriptor) × List Char) := do
  let (d, s) ← r label.2
  if d.isVoid then throw (.malformed .voidField s)
  let (fields, s) ← readFields r named count s
  return ((label.1, d) :: fields, s)

lemma readFields_eq_bind {c : Char} (hc : c ≠ '\x7d') (named : Bool) (count : Nat)
    (rest : List Char) :
    readFields r named (count + 1) (c :: rest) =
      (if named then (fun q => (some q.1, q.2)) <$> readQuoted (c :: rest)
        else pure (none, c :: rest)) >>= readField r named count := by
  rw [readFields, if_neg hc]
  cases named <;> rfl

/-- Fields look the same if each one does. -/
lemma outline_readFields (h : ∀ s, outlined <$> r s = outlined <$> r' s) (named : Bool)
    (count : Nat) (s : List Char) :
    outlinedFields <$> readFields r named count s = outlinedFields <$> readFields r' named count s := by
  induction count generalizing s with
  | zero => rfl
  | succ count ih =>
    cases s with
    | nil => rfl
    | cons c rest =>
      by_cases hc : c = '\x7d'
      · simp only [readFields, if_pos hc]
      · rw [readFields_eq_bind hc, readFields_eq_bind hc]
        refine map_bind_congr (v := id) rfl fun label _ hlabel => ?_
        obtain rfl := hlabel
        refine map_bind_congr (h _) ?_
        rintro ⟨d, s⟩ ⟨d', _⟩ hd
        obtain ⟨hoff, rfl⟩ := Prod.mk.inj hd
        have hvoid : d.isVoid = d'.isVoid := by
          rw [← Descriptor.isVoid_outline, show d.outline = d'.outline from hoff,
            Descriptor.isVoid_outline]
        simp only [hvoid]
        split
        · rfl
        · refine map_bind_congr (ih _) fun fs fs' hfs => ?_
          obtain ⟨hfields, hafter⟩ := Prod.mk.inj hfs
          simp only [outlinedFields, map_pure, List.map_cons, hoff, hfields, hafter, id_eq]

/-- A layout that was read has the name that was read. -/
lemma name_adoptNames (hname : ∀ n l, layout? n = some l → l.name = n) (read : Layout) :
    (adoptNames layout? read).name = read.name := by
  rcases adoptNames_eq layout? read with ⟨heq, -⟩ | ⟨heq, -⟩
  · rw [heq]
  · exact hname _ _ heq

/-- A struct looks the same if its fields do and the same names are known. -/
lemma outline_readStruct (hsame : SameNames layout? layout?') {r r' : Bool → Reader Descriptor}
    (h : ∀ named s, outlined <$> r named s = outlined <$> r' named s) (start s : List Char) :
    outlined <$> readStruct layout? r start s = outlined <$> readStruct layout?' r' start s := by
  simp only [readStruct]
  cases s.dropWhile (!endsName ·) with
  | nil => rfl
  | cons c body =>
    simp only
    split
    · have hsome := hsame.isSome (String.ofList (s.takeWhile (!endsName ·)))
      cases hl : layout? (String.ofList (s.takeWhile (!endsName ·))) with
      | none =>
        cases hl' : layout?' (String.ofList (s.takeWhile (!endsName ·))) with
        | none => rfl
        | some l' => rw [hl, hl'] at hsome; cases hsome
      | some l =>
        cases hl' : layout?' (String.ofList (s.takeWhile (!endsName ·))) with
        | none => rw [hl, hl'] at hsome; cases hsome
        | some l' =>
          simp only [Except.map_ok, outlined, Descriptor.outline, Descriptor.encoding,
            Descriptor.shape, Shape.outline, hsame.name _ _ hl, hsame.name' _ _ hl']
    · refine map_bind_congr (outline_readFields (h _) _ _ _) fun fs fs' hfs => ?_
      obtain ⟨hfields, hafter⟩ := Prod.mk.inj hfs
      have hempty : fs.1.isEmpty = fs'.1.isEmpty := by
        rw [← List.isEmpty_map, hfields, List.isEmpty_map]
      rw [hempty, hafter]
      split
      · rfl
      · simp only [map_pure, outlined, Descriptor.outline, Descriptor.encoding, Descriptor.shape,
          Shape.outline]
        split
        · rfl
        · rw [name_adoptNames hsame.name, name_adoptNames hsame.name']
          rfl

/-- **With the same names known**, a type is read with the same outline, or refused alike. -/
lemma outline_readType (hsame : SameNames layout? layout?') (depth : Nat) (named : Bool)
    (s : List Char) :
    outlined <$> readType layout? depth named s = outlined <$> readType layout?' depth named s := by
  induction depth generalizing named s with
  | zero => rfl
  | succ depth ih =>
    simp only [readType]
    split
    · rfl
    · next c rest _ =>
      split
      · rfl
      -- the letters with a reading of their own
      iterate 5
        split
        · rfl
      split
      · rw [skipPointee_congr (ih false)]
        refine map_bind_congr (v := id) rfl fun pointee _ hpointee => ?_
        obtain rfl := hpointee
        rfl
      · split
        · exact outline_readStruct hsame ih _ _
        · rfl

end Readers

/-! ## The name of a struct -/

/-- **The name of the struct** that an encoding begins with. -/
def structName (encoding : String) : String :=
  String.ofList (((skipQualifiers encoding.toList).drop 1).takeWhile (!endsName ·))

/-- A text that spells a struct begins with the name of its layout. -/
lemma Spells.name_eq {layout? : String → Option Layout} {named : Bool} {u : List Char} {l : Layout}
    {tail : Tail} (hname : ∀ n l, layout? n = some l → l.name = n)
    (h : Spells layout? named u (.aggregate l) tail) (rest : List Char) :
    l.name = String.ofList (((u ++ rest).drop 1).takeWhile (!endsName ·)) := by
  cases h with
  | known hn hl =>
    have htake := takeWhile_name hn endsName_brace rest
    simpa [htake] using hname _ _ hl
  | @struct _ inner name body fields hn _ _ _ =>
    have htake := takeWhile_name hn endsName_equals (body ++ '\x7d' :: rest)
    have hown : (structLayout layout? inner (String.ofList name) fields).name = String.ofList name := by
      unfold structLayout
      split
      · rfl
      · exact name_adoptNames hname _
    simpa [htake] using hown

end Encoding

namespace Translator

open Encoding

variable {t t' : Translator} {l : Layout} {name e : String}

/-- **Knows**: a layout of the name is registered. -/
def Knows (t : Translator) (name : String) : Prop := ∃ l, t.layout? name = some l

lemma not_knows_iff : ¬ t.Knows name ↔ t.layout? name = none := by
  rw [Knows, Option.eq_none_iff_forall_ne_some, not_exists]

/-- Known layouts have the names that they are known under. -/
lemma name_of_layout? (h : t.layout? name = some l) : l.name = name := by
  have hfind := List.find?_some h
  simpa using hfind

/-- What is known after a layout was registered. -/
lemma knows_insert : (t.insert l).Knows name ↔ l.name = name ∨ t.Knows name := by
  by_cases h : l.name = name
  · subst h
    exact iff_of_true ⟨l, layout?_insert_self t l⟩ (.inl rfl)
  · rw [Knows, layout?_insert_of_ne t h, ← Knows, or_iff_right h]

/-- **Struct encodings** have layouts of the names that they begin with. -/
lemma name_of_structLayout (h : t.structLayout e = .ok l) : l.name = structName e := by
  obtain ⟨d, hd, h⟩ := bind_eq_ok.mp h
  split at h
  · next hshape =>
    cases h
    rw [translate] at hd
    split at hd
    · next d' hone =>
      cases hd
      obtain ⟨q, u, shape, tail, he, hq, hu, rfl, -⟩ := readOne_eq_ok_iff.mp hone
      obtain rfl : shape = .aggregate l := hshape
      obtain ⟨c, v, rfl, hstart⟩ := hu.exists_cons
      rw [structName, he, skipQualifiers_append hq, List.cons_append,
        skipQualifiers_cons hstart.isQualifier, ← List.cons_append]
      exact hu.name_eq (fun _ _ => name_of_layout?) []
    · cases hd
    · cases hd
  · cases h

/-- **Steered**: with the same names known, the translation gives results that look the same, or
fails with the same error. -/
def Steered {α γ : Type} (view : α → γ) (f : Translator → Except Error α) : Prop :=
  ∀ t t' : Translator, (∀ n, t.Knows n ↔ t'.Knows n) → view <$> f t = view <$> f t'

lemma sameNames (h : ∀ n, t.Knows n ↔ t'.Knows n) : SameNames t.layout? t'.layout? where
  isSome n := by
    rw [Bool.eq_iff_iff, Option.isSome_iff_exists, Option.isSome_iff_exists]
    exact h n
  name _ _ := name_of_layout?
  name' _ _ := name_of_layout?

lemma outline_readOne (h : ∀ n, t.Knows n ↔ t'.Knows n) (s : List Char) :
    outlined <$> t.readOne s = outlined <$> t'.readOne s :=
  map_bind_congr (v := id) rfl fun _ _ _ => outline_readType (sameNames h) _ _ _

/-- **Translating an encoding** is steered by the names that are known. -/
lemma steered_translate (e : String) : Steered Descriptor.outline (·.translate e) := by
  intro t t' h
  simp only [translate]
  rcases cases_of_map_eq (outline_readOne h e.toList) with
    ⟨⟨d, rest⟩, ⟨d', rest'⟩, hread, hread', hone⟩ | ⟨refusal, hread, hread'⟩
  · rw [hread, hread']
    obtain ⟨hd, rfl⟩ := Prod.mk.inj hone
    cases rest with
    | nil => exact congrArg Except.ok hd
    | cons c rest => rfl
  · rw [hread, hread']

/-- **The layout of a struct encoding** is steered by them. -/
lemma steered_structLayout (e : String) : Steered Layout.name (·.structLayout e) := by
  intro t t' h
  refine map_bind_congr (steered_translate e t t' h) ?_
  rintro ⟨e, s⟩ ⟨e', s'⟩ hd
  obtain ⟨-, hs⟩ := Descriptor.mk.inj hd
  cases s with
  | aggregate l =>
    cases s' with
    | aggregate l' =>
      have hname : l.name = l'.name := by
        simp only [Descriptor.shape, Shape.outline, Shape.aggregate.injEq, Layout.mk.injEq] at hs
        exact hs.1
      exact congrArg Except.ok hname
    | _ => cases hs
  | _ =>
    cases s' with
    | aggregate => cases hs
    | _ => rfl

end Translator

end MessageBridge
