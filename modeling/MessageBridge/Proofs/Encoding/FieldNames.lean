import MessageBridge.Proofs.Encoding.InlineStruct
import MessageBridge.Proofs.Lists
import Mathlib.Data.List.Forall2

/-!
# Field names

A struct can be written with a quoted name before each field, or without any. The names take no room in
the struct, so that both texts should give the same layout. They do where each field ends before the
next name. The sign of an object behind a pointer does not: it takes the quotes after it for those of a
class name, whatever struct it stands in.

## Main definitions

* `Encoding.FieldText` — a field as it is written.
* `Encoding.FieldText.Denotes` — its type can be that of a field, and names no class.
* `Encoding.FieldText.AwaitsClass` — it is a pointer to an object, the class of which could be named.
* `Layout.rename` — the fields of a layout under other names.

## Main results

* `Encoding.Spells.unique` — what a text at the front of another one spells is determined.
* `Encoding.FieldText.spellsFields_of_length` — fields side by side are read one by one if as many are
  read as there are.
* `Layout.ofFields_names` — names take no room.
* `Translator.naming_iff` — when naming the fields of a struct changes nothing but the names.
-/

namespace MessageBridge

namespace Encoding

variable {layout? : String → Option Layout} {named : Bool} {u u' v rest rest' : List Char}
  {shape shape' : Shape} {tail tail' : Tail}

/-! ## What is at the front of a text -/

/-- **Determined**: two types that are at the front of one text, and that stop before what is left of
it, are the same. -/
lemma Spells.unique (h : Spells layout? named u shape tail) (h' : Spells layout? named u' shape' tail')
    (hstop : tail.Stops rest) (hstop' : tail'.Stops rest') (heq : u ++ rest = u' ++ rest') :
    u' = u ∧ shape' = shape ∧ rest' = rest := by
  have hread := reads (u.length + u'.length + 1) named .nil h (by omega) hstop
  have hread' := reads (u.length + u'.length + 1) named .nil h' (by omega) hstop'
  rw [List.nil_append] at hread hread'
  rw [heq, hread'] at hread
  simp only [Except.ok.injEq, Prod.mk.injEq, Descriptor.mk.injEq] at hread
  obtain ⟨⟨-, hshape⟩, rfl⟩ := hread
  exact ⟨(List.append_cancel_right heq).symm, hshape, rfl⟩

/-- Qualifiers end where a type starts. -/
lemma Qualifiers.unique {q q' : List Char} (hq : Qualifiers q) (hq' : Qualifiers q')
    (h : Spells layout? named u shape tail) (h' : Spells layout? named u' shape' tail')
    (heq : q ++ (u ++ rest) = q' ++ (u' ++ rest')) : q' = q ∧ u ++ rest = u' ++ rest' := by
  obtain ⟨c, v, rfl, hc⟩ := h.exists_cons
  obtain ⟨c', v', rfl, hc'⟩ := h'.exists_cons
  have hskip := congrArg skipQualifiers heq
  rw [skipQualifiers_append hq, skipQualifiers_append hq', List.cons_append, List.cons_append,
    skipQualifiers_cons hc.isQualifier, skipQualifiers_cons hc'.isQualifier] at hskip
  rw [List.cons_append, List.cons_append, hskip] at heq
  exact ⟨(List.append_cancel_right heq).symm, hskip⟩

mutual

/-- What takes in a question mark takes in a quote too, except for the sign of an object in a struct with
field names. -/
lemma Spells.takes_quote {named : Bool} {u : List Char} {shape : Shape} {tail : Tail} :
    Spells layout? named u shape tail →
      tail.takes '"' = (tail.takes '?' && (!named || u.head? == some '^'))
  | .object => by cases named <;> rfl
  | .scalar _ | .block | .className _ | .classRef | .selector | .cString | .unknown | .known _ _
  | .struct _ _ _ _ => rfl
  | .pointer _ h => by simp [h.takes_quote]

lemma SpellsPointee.takes_quote {u : List Char} {struct? : Option String} {tail : Tail} :
    SpellsPointee layout? u struct? tail → tail.takes '"' = tail.takes '?'
  | .type h _ _ => by simpa using h.takes_quote
  | .struct _ | .array _ | .union _ | .longDouble => rfl
  | .bitField _ => by decide

end

/-- No text takes in a closing brace. -/
lemma Tail.stops_brace (tail : Tail) (rest : List Char) : tail.Stops ('\x7d' :: rest) := by
  intro c hc
  cases hc
  cases tail with
  | closed => rfl
  | object quotes => cases quotes <;> rfl
  | width => rfl

mutual

/-- The sign of an object and a question mark after it are a block. -/
lemma Spells.absorb {named : Bool} {u : List Char} {shape : Shape} {tail : Tail} :
    Spells layout? named u shape tail → tail.takes '?' = true →
      ∃ shape, Spells layout? named (u ++ ['?']) shape .closed
  | .object, _ => ⟨_, .block⟩
  | .pointer hsigns h, htakes => by
    obtain ⟨struct?, h'⟩ := h.absorb htakes
    rw [List.cons_append, List.append_assoc]
    exact ⟨_, .pointer hsigns h'⟩

lemma SpellsPointee.absorb {u : List Char} {struct? : Option String} {tail : Tail} :
    SpellsPointee layout? u struct? tail → tail.takes '?' = true →
      ∃ struct?, SpellsPointee layout? (u ++ ['?']) struct? .closed
  | .type h hpointer hstruct, htakes => by
    obtain ⟨shape, h'⟩ := h.absorb htakes
    exact ⟨none, .type h' hpointer hstruct⟩

end

mutual

/-- **A class name**: what takes in a quote takes in a name in quotes. -/
lemma Spells.absorbClass {named : Bool} {u name : List Char} {shape : Shape} {tail : Tail}
    (hname : '"' ∉ name) : Spells layout? named u shape tail → tail.takes '"' = true →
      ∃ shape, Spells layout? named (u ++ '"' :: (name ++ ['"'])) shape .closed
  | .object, htakes => by
    cases named with
    | false => exact ⟨_, .className hname⟩
    | true => cases htakes
  | .pointer hsigns h, htakes => by
    obtain ⟨struct?, h'⟩ := h.absorbClass hname htakes
    rw [List.cons_append, List.append_assoc]
    exact ⟨_, .pointer hsigns h'⟩

lemma SpellsPointee.absorbClass {u name : List Char} {struct? : Option String} {tail : Tail}
    (hname : '"' ∉ name) : SpellsPointee layout? u struct? tail → tail.takes '"' = true →
      ∃ struct?, SpellsPointee layout? (u ++ '"' :: (name ++ ['"'])) struct? .closed
  | .type h hpointer hstruct, htakes => by
    obtain ⟨shape, h'⟩ := h.absorbClass hname htakes
    exact ⟨none, .type h' hpointer hstruct⟩

end

/-- Where a text does not tell of which class an object is, it can stand in a struct with field names
just as well. -/
lemma Spells.toNamed (h : Spells layout? false u shape tail)
    (hclass : ∀ c, shape ≠ .object (some c)) : ∃ tail, Spells layout? true u shape tail := by
  cases h with
  | scalar p => exact ⟨_, .scalar p⟩
  | object => exact ⟨_, .object⟩
  | block => exact ⟨_, .block⟩
  | className => exact absurd rfl (hclass _)
  | classRef => exact ⟨_, .classRef⟩
  | selector => exact ⟨_, .selector⟩
  | cString => exact ⟨_, .cString⟩
  | unknown => exact ⟨_, .unknown⟩
  | pointer hsigns h => exact ⟨_, .pointer hsigns h⟩
  | known hname h => exact ⟨_, .known hname h⟩
  | struct hname hinner h hne => exact ⟨_, .struct hname hinner h hne⟩

/-- A type that starts with a question mark is that of something unknown. -/
lemma Spells.eq_of_question (h : Spells layout? named ('?' :: v) shape tail) : v = [] := by
  generalize hu : '?' :: v = u at h
  cases h with
  | scalar p => cases p <;> cases hu
  | unknown => exact (List.cons.inj hu).2
  | _ => cases hu

/-- Labels are as long as their quotes say. -/
lemma Label.unique {label label' : List Char} {name name' : Option String}
    (h : Label named label name) (h' : Label named label' name')
    (heq : label ++ rest = label' ++ rest') : name' = name ∧ rest = rest' := by
  cases h with
  | unnamed =>
    cases h'
    exact ⟨rfl, heq⟩
  | named hn =>
    cases h' with
    | named hn' =>
      have hquoted := readQuoted_append hn rest
      simp only [List.cons_append, List.append_assoc, List.nil_append, List.cons.injEq,
        true_and] at heq
      rw [heq, readQuoted_append hn'] at hquoted
      simp only [Except.ok.injEq, Prod.mk.injEq] at hquoted
      exact ⟨congrArg some hquoted.1, hquoted.2.symm⟩

/-- **The first field**: a field that is at the front of the text, and that stops before what is left
of it, is the first one. -/
lemma SpellsFields.of_front {label q : List Char} {name : Option String}
    {fields : List (Option String × Descriptor)}
    (h : SpellsFields layout? named (label ++ (q ++ (u ++ v))) fields)
    (hlabel : Label named label name) (hq : Qualifiers q) (hu : Spells layout? named u shape tail)
    (hstop : tail.Stops (v ++ ['\x7d'])) :
    ∃ rest, fields = (name, .mk (String.ofList u) shape) :: rest ∧
      SpellsFields layout? named v rest := by
  generalize htext : label ++ (q ++ (u ++ v)) = text at h
  cases h with
  | nil =>
    obtain ⟨c, w, rfl, -⟩ := hu.exists_cons
    simp at htext
  | cons hlabel' hq' hu' _ hstop' hrest =>
    obtain ⟨rfl, htext⟩ := hlabel.unique hlabel' htext
    have hclosed := congrArg (· ++ ['\x7d']) htext
    simp only [List.append_assoc] at hclosed
    obtain ⟨rfl, htype⟩ := hq.unique hq' hu hu' hclosed
    obtain ⟨rfl, rfl, -⟩ := hu.unique hu' hstop hstop' htype
    rw [List.append_cancel_left_eq, List.append_cancel_left_eq] at htext
    subst htext
    exact ⟨_, rfl, hrest⟩

/-- A field that has a name starts with a quote. -/
lemma SpellsFields.head_eq {c : Char} {fields : List (Option String × Descriptor)}
    (h : SpellsFields layout? true v fields) (hv : v = c :: u) : c = '"' := by
  cases h with
  | nil => cases hv
  | cons hlabel _ _ _ _ _ =>
    cases hlabel
    exact (List.cons.inj hv).1.symm

/-! ## Fields as they are written -/

/-- A field as it is written, its name without the quotes. -/
structure FieldText where
  name : List Char
  type : List Char

namespace FieldText

variable {f : FieldText} {fs : List FieldText} {d : Descriptor} {ds : List Descriptor}
  {fields : List (Option String × Descriptor)}

/-- The field with its name. -/
def labelled (f : FieldText) : List Char := '"' :: (f.name ++ ['"']) ++ f.type

/-- **Denotes**: the type is one that a field can have, and does not tell of which class an object
is. -/
def Denotes (layout? : String → Option Layout) (f : FieldText) (d : Descriptor) : Prop :=
  ∃ q u shape tail, f.type = q ++ u ∧ Qualifiers q ∧ Spells layout? false u shape tail ∧
    d = .mk (String.ofList u) shape ∧ shape ≠ .scalar .void ∧ d.className? = none

/-- **Awaits a class**: the type is a pointer to an object, the class of which could follow in
quotes. -/
def AwaitsClass (f : FieldText) : Prop :=
  (skipQualifiers f.type).head? = some '^' ∧ f.type.getLast? = some '@'

instance (f : FieldText) : Decidable f.AwaitsClass := inferInstanceAs (Decidable (_ ∧ _))

/-- The fields that the types denote, each with its name. -/
def zipNames (fs : List FieldText) (ds : List Descriptor) : List (Option String × Descriptor) :=
  List.zipWith (fun f d => (some (String.ofList f.name), d)) fs ds

/-- No type starts with a quote. -/
lemma Denotes.exists_cons (h : f.Denotes layout? d) : ∃ c v, f.type = c :: v ∧ c ≠ '"' := by
  obtain ⟨q, u, shape, tail, htype, hq, hu, -⟩ := h
  cases q with
  | nil =>
    obtain ⟨c, v, rfl, hstart⟩ := hu.exists_cons
    exact ⟨c, v, htype, hstart.ne_quote⟩
  | cons c q =>
    refine ⟨c, q ++ u, htype, ?_⟩
    rintro rfl
    cases hq '"' List.mem_cons_self

/-- A type that does not stop before the next ones takes in a question mark, which is the next one. -/
lemma exists_question (hds : List.Forall₂ (Denotes layout?) fs ds)
    (hstop : ¬ tail.Stops (fs.flatMap type ++ ['\x7d'])) :
    tail.takes '?' = true ∧ ∃ g gs, fs = g :: gs ∧ g.type = ['?'] := by
  cases hds with
  | nil => exact absurd (tail.stops_brace []) hstop
  | @cons g _ gs _ hd _ =>
    obtain ⟨q, u, shape', tail', htype, hq, hu', -⟩ := hd
    rw [List.flatMap_cons, htype] at hstop
    cases q with
    | nil =>
      obtain ⟨c, v, rfl, hstart⟩ := hu'.exists_cons
      have htakes : tail.takes c = true := by simpa [Tail.Stops] using hstop
      obtain ⟨hquestion, rfl⟩ := (Tail.takes_iff hstart.ne_quote hstart.isOffset).mp htakes
      exact ⟨hquestion, g, gs, rfl, by rw [htype, hu'.eq_of_question]; rfl⟩
    | cons c q =>
      have htakes : tail.takes c = true := by simpa [Tail.Stops] using hstop
      have hc : isQualifier c = true := hq c List.mem_cons_self
      have hne : c ≠ '"' := by rintro rfl; cases hc
      obtain ⟨-, rfl⟩ := (Tail.takes_iff hne (isOffset_of_isQualifier hc)).mp htakes
      cases hc

/-- **Without names**: the types of fields side by side are read as at most as many fields. If they are
as many, they are the ones that the types denote. -/
lemma spellsFields_of_length (hds : List.Forall₂ (Denotes layout?) fs ds)
    (h : SpellsFields layout? false (fs.flatMap type) fields) :
    fields.length ≤ fs.length ∧ (fields.length = fs.length → fields = ds.map (none, ·)) := by
  induction hn : fs.length using Nat.strong_induction_on generalizing fs ds fields with
  | _ n ih =>
    subst hn
    cases hds with
    | nil =>
      obtain rfl : fields = [] := List.length_eq_zero_iff.mp (Nat.le_zero.mp h.length_le)
      exact ⟨le_rfl, fun _ => rfl⟩
    | @cons f d fs ds hd hds =>
      obtain ⟨q, u, shape, tail, htype, hq, hu, rfl, -⟩ := hd
      rw [List.flatMap_cons, htype, List.append_assoc] at h
      by_cases hstop : tail.Stops (fs.flatMap type ++ ['\x7d'])
      · obtain ⟨rest, rfl, hrest⟩ := h.of_front .unnamed hq hu hstop
        have hle := ih _ (Nat.lt_succ_self _) hds hrest rfl
        refine ⟨Nat.succ_le_succ hle.1, fun heq => ?_⟩
        rw [hle.2 (Nat.succ.inj heq), List.map_cons]
      · -- the next type is a question mark, which makes a block of the sign of an object
        obtain ⟨htakes, g, gs, rfl, hg⟩ := exists_question hds hstop
        obtain ⟨shape', hblock⟩ := hu.absorb htakes
        rw [List.flatMap_cons, hg, ← List.append_assoc u] at h
        obtain ⟨rest, rfl, hrest⟩ := h.of_front .unnamed hq hblock (Tail.stops_closed _)
        cases hds with
        | cons _ hds =>
          have hle := (ih gs.length (by simp only [List.length_cons]; omega) hds hrest rfl).1
          simp only [List.length_cons]
          omega

/-- A type that awaits a class takes in the quotes after it in a struct with field names, and no other
type does. -/
lemma takes_quote_iff {q : List Char} (htype : f.type = q ++ u) (hq : Qualifiers q)
    (hu : Spells layout? true u shape tail) : tail.takes '"' = true ↔ f.AwaitsClass := by
  rw [AwaitsClass, htype, skipQualifiers_append hq, hu.takes_quote, Bool.and_eq_true, And.comm]
  obtain ⟨c, v, rfl, hstart⟩ := hu.exists_cons
  rw [skipQualifiers_cons hstart.isQualifier, List.getLast?_append_of_ne_nil _ (List.cons_ne_nil c v),
    hu.getLast?_eq_iff]
  simp

/-- **With names**: fields are read one by one where none but the last one awaits a class. -/
lemma spellsFields_labelled (hds : List.Forall₂ (Denotes layout?) fs ds)
    (hname : ∀ f ∈ fs, '"' ∉ f.name) (hclass : ∀ f ∈ fs.dropLast, ¬ f.AwaitsClass) :
    SpellsFields layout? true (fs.flatMap labelled) (zipNames fs ds) := by
  induction hds with
  | nil => exact .nil
  | @cons f d fs ds hd hds ih =>
    obtain ⟨q, u, shape, tail, htype, hq, hu, rfl, hvoid, hnone⟩ := hd
    obtain ⟨tail, hu⟩ := hu.toNamed fun c hc => by subst hc; cases hnone
    obtain ⟨hf, hname⟩ := List.forall_mem_cons.mp hname
    have hstop : tail.Stops (fs.flatMap labelled ++ ['\x7d']) ∧
        ∀ g ∈ fs.dropLast, ¬ g.AwaitsClass := by
      cases fs with
      | nil => exact ⟨tail.stops_brace [], by simp⟩
      | cons g fs =>
        rw [List.dropLast_cons_cons] at hclass
        obtain ⟨hnot, hclass⟩ := List.forall_mem_cons.mp hclass
        rw [← takes_quote_iff htype hq hu, Bool.not_eq_true] at hnot
        exact ⟨by simpa [Tail.Stops, labelled] using hnot, hclass⟩
    have h := SpellsFields.cons (.named hf) hq hu hvoid hstop.1 (ih hname hstop.2)
    simpa [labelled, zipNames, htype] using h

/-- A text with field names can only be read if no field but the last one awaits a class. -/
lemma not_awaitsClass_of_spellsFields (hds : List.Forall₂ (Denotes layout?) fs ds)
    (hname : ∀ f ∈ fs, '"' ∉ f.name) (h : SpellsFields layout? true (fs.flatMap labelled) fields) :
    ∀ f ∈ fs.dropLast, ¬ f.AwaitsClass := by
  induction hds generalizing fields with
  | nil => simp
  | @cons f d fs ds hd hds ih =>
    obtain ⟨q, u, shape, tail, htype, hq, hu, rfl, hvoid, hnone⟩ := hd
    obtain ⟨tail, hu⟩ := hu.toNamed fun c hc => by subst hc; cases hnone
    obtain ⟨hf, hname⟩ := List.forall_mem_cons.mp hname
    cases hds with
    | nil => simp
    | @cons g d' fs ds hd' hds =>
      have htext : (f :: g :: fs).flatMap labelled = ('"' :: (f.name ++ ['"'])) ++
          (q ++ (u ++ ('"' :: (g.name ++ ['"']) ++ (g.type ++ fs.flatMap labelled)))) := by
        simp [labelled, htype]
      rw [htext] at h
      rw [List.dropLast_cons_cons, List.forall_mem_cons]
      suffices hnot : ¬ f.AwaitsClass by
        refine ⟨hnot, ?_⟩
        rw [← takes_quote_iff htype hq hu, Bool.not_eq_true] at hnot
        obtain ⟨rest, -, hrest⟩ := h.of_front (.named hf) hq hu (by simpa [Tail.Stops] using hnot)
        exact ih hname (by simpa [labelled] using hrest)
      -- the name of the next field would be read as that of a class, and its type as a label
      intro hawaits
      obtain ⟨shape', hclass⟩ :=
        hu.absorbClass (List.forall_mem_cons.mp hname).1 ((takes_quote_iff htype hq hu).mpr hawaits)
      rw [← List.append_assoc u] at h
      obtain ⟨rest, -, hrest⟩ := h.of_front (.named hf) hq hclass (Tail.stops_closed _)
      obtain ⟨c, w, htype', hne⟩ := hd'.exists_cons
      rw [htype'] at hrest
      exact hne (hrest.head_eq rfl)

end FieldText

end Encoding

/-! ## Layouts under other names -/

namespace Layout

/-- **Renamed**: the same fields, under the given names. -/
def rename (own : Layout) (names : List String) : Layout :=
  .mk own.name (List.zipWith (fun n f => .mk (some n) f.offset f.descriptor) names own.fields) own.size
    own.alignment

variable {names : List String} {ds : List Descriptor}

/-- Fields are placed where they are whatever their names are. -/
lemma place_names (hlength : names.length = ds.length) (start : Nat) :
    place start (List.zipWith (fun n d => (some n, d)) names ds) =
      (List.zipWith (fun n f => .mk (some n) f.offset f.descriptor) names
        (place start (ds.map (none, ·))).1, (place start (ds.map (none, ·))).2) := by
  induction ds generalizing names start with
  | nil => cases names <;> rfl
  | cons d ds ih =>
    cases names with
    | nil => cases hlength
    | cons n names =>
      simp only [List.zipWith_cons_cons, List.map_cons, place, ih (Nat.succ.inj hlength),
        Field.offset, Field.descriptor]

lemma maxAlignment_congr {fields fields' : List (Option String × Descriptor)}
    (h : fields.map Prod.snd = fields'.map Prod.snd) : maxAlignment fields = maxAlignment fields' := by
  have hfold (fs : List (Option String × Descriptor)) :
      maxAlignment fs = (fs.map Prod.snd).foldl (fun a d => max a d.alignment) 1 := by
    rw [List.foldl_map]
    rfl
  rw [hfold, hfold, h]

/-- **Names take no room**: fields with names are laid out as they are without. -/
lemma ofFields_names (name : String) (hlength : names.length = ds.length) :
    ofFields name (List.zipWith (fun n d => (some n, d)) names ds) =
      (ofFields name (ds.map (none, ·))).rename names := by
  have halign : maxAlignment (List.zipWith (fun n d => (some n, d)) names ds) =
      maxAlignment (ds.map (none, ·)) := by
    refine maxAlignment_congr (List.ext_getElem (by simp [hlength]) fun i _ _ => ?_)
    simp
  simp only [ofFields, rename, place_names hlength, halign, Layout.name, Layout.fields, Layout.size,
    Layout.alignment]

end Layout

namespace Translator

open Encoding

variable {t : Translator} {name : List Char} {fields : List FieldText} {own : Layout}
  {unnamed : String}

/-- A type that is translated as that of a field, and that does not tell of which class an object is. -/
lemma denotes_of_translate {f : FieldText} {d : Descriptor}
    (h : t.translate (String.ofList f.type) = .ok d) (hvoid : d.isVoid = false)
    (hclass : d.className? = none) : f.Denotes t.layout? d := by
  rw [translate, String.toList_ofList] at h
  split at h
  · next d' hone =>
    cases h
    obtain ⟨q, u, shape, tail, heq, hq, hu, rfl, -⟩ := readOne_eq_ok_iff.mp hone
    rw [List.append_nil] at heq
    refine ⟨q, u, shape, tail, heq, hq, hu, rfl, ?_, hclass⟩
    rintro rfl
    cases hvoid
  · cases h
  · cases h

/-- The struct whose fields are side by side is laid out from what they are each translated into. -/
lemma eq_ofFields_of_translate {ds : List Descriptor} (hname : ∀ c ∈ name, endsName c = false)
    (hlayout : t.layout? (String.ofList name) = none)
    (hds : List.Forall₂ (FieldText.Denotes t.layout?) fields ds)
    (h : t.translate (String.ofList (inlineText [] name (fields.flatMap FieldText.type))) =
      .ok (.mk unnamed (.aggregate own))) (hlength : own.fields.length = fields.length) :
    own = .ofFields (String.ofList name) (ds.map (none, ·)) := by
  have hbody : (fields.flatMap FieldText.type).head? ≠ some '"' := by
    cases hds with
    | nil => simp
    | cons hd _ =>
      obtain ⟨c, v, htype, hne⟩ := hd.exists_cons
      simpa [htype] using hne
  obtain ⟨shape, tail, hu, heq⟩ := spells_of_translate .nil rfl h
  obtain ⟨fs, hfs, rfl⟩ := hu.exists_fields hname hbody
  rcases adoptNames_eq t.layout? (.ofFields (String.ofList name) fs) with ⟨hadopt, -⟩ | ⟨hadopt, -⟩
  · rw [hadopt] at heq
    obtain rfl := Shape.aggregate.inj (Descriptor.mk.inj heq).2
    rw [Layout.length_fields_ofFields] at hlength
    rw [(FieldText.spellsFields_of_length hds hfs).2 hlength]
  · exact absurd (hlayout.symm.trans hadopt) nofun

/-- **Naming the fields of a struct**: let the fields of a struct be read one by one when they are side
by side. With a name before each of them, they are read if and only if none but the last one is a
pointer to an object. The struct then differs in nothing but the names. -/
theorem naming_iff (hname : ∀ c ∈ name, endsName c = false)
    (hlayout : t.layout? (String.ofList name) = none) (hne : fields ≠ [])
    (hquote : ∀ f ∈ fields, '"' ∉ f.name)
    (hfields : ∀ f ∈ fields, ∃ d, t.translate (String.ofList f.type) = .ok d ∧ d.isVoid = false ∧
      d.className? = none)
    (hown : t.translate (String.ofList (inlineText [] name (fields.flatMap FieldText.type))) =
      .ok (.mk unnamed (.aggregate own)))
    (hlength : own.fields.length = fields.length) (d : Descriptor) :
    t.translate (String.ofList (inlineText [] name (fields.flatMap FieldText.labelled))) = .ok d ↔
      d = .mk (String.ofList (inlineText [] name (fields.flatMap FieldText.labelled)))
        (.aggregate (own.rename (fields.map fun f => String.ofList f.name))) ∧
      ∀ f ∈ fields.dropLast, ¬ f.AwaitsClass := by
  obtain ⟨ds, hds⟩ := exists_forall₂_iff.mpr fun f hf =>
    (hfields f hf).imp fun d h => denotes_of_translate h.1 h.2.1 h.2.2
  have hinner : ((fields.flatMap FieldText.labelled ++ ['\x7d']).head? == some '"') = true := by
    cases fields with
    | nil => exact absurd rfl hne
    | cons f fields => rfl
  have htranslate (hclass : ∀ f ∈ fields.dropLast, ¬ f.AwaitsClass) :
      t.translate (String.ofList (inlineText [] name (fields.flatMap FieldText.labelled))) =
        .ok (.mk (String.ofList (inlineText [] name (fields.flatMap FieldText.labelled)))
          (.aggregate (own.rename (fields.map fun f => String.ofList f.name)))) := by
    have hnamed := FieldText.spellsFields_labelled hds hquote hclass
    have hzip : FieldText.zipNames fields ds =
        List.zipWith (fun n d => (some n, d)) (fields.map fun f => String.ofList f.name) ds := by
      rw [List.zipWith_map_left]
      rfl
    have hlayoutNamed := Layout.ofFields_names (String.ofList name)
      ((List.length_map (fun f => String.ofList f.name)).trans hds.length_eq)
    rw [← eq_ofFields_of_translate hname hlayout hds hown hlength, ← hzip] at hlayoutNamed
    rw [← hlayoutNamed]
    refine translate_of_spells (.struct hname hinner.symm hnamed fun hnil => ?_)
    have hcount := congrArg List.length hnil
    simp [FieldText.zipNames, ← hds.length_eq, hne] at hcount
  constructor
  · intro h
    obtain ⟨shape, tail, hu, -⟩ := spells_of_translate .nil rfl h
    have hfs := hu.exists_body hname
    rw [hinner] at hfs
    obtain ⟨fs, hfs, -⟩ := hfs
    have hclass := FieldText.not_awaitsClass_of_spellsFields hds hquote hfs
    exact ⟨Except.ok.inj (h.symm.trans (htranslate hclass)), hclass⟩
  · rintro ⟨rfl, hclass⟩
    exact htranslate hclass

/-- An object, and a pointer to one. -/
def objectFields : List FieldText := [⟨['a'], ['@']⟩, ⟨['b'], ['^', '@']⟩]

/-- They are the fields of a struct with names just as without. -/
theorem naming_iff_objects :
    ({} : Translator).translate "\x7bP=\"a\"@\"b\"^@\x7d" =
      .ok (.mk "\x7bP=\"a\"@\"b\"^@\x7d" (.aggregate (.ofFields "P" [(some "a", .object),
        (some "b", .mk "^@" (.pointer 1 none))]))) := by
  have hfields : ∀ f ∈ objectFields, ∃ d, ({} : Translator).translate (String.ofList f.type) = .ok d ∧
      d.isVoid = false ∧ d.className? = none :=
    List.forall_mem_cons.mpr ⟨⟨.object, by decide +kernel⟩,
      List.forall_mem_singleton.mpr ⟨.mk "^@" (.pointer 1 none), by decide +kernel⟩⟩
  have hown : ({} : Translator).translate
      (String.ofList (inlineText [] ['P'] (objectFields.flatMap FieldText.type))) =
        .ok (.mk "\x7bP=@^@\x7d" (.aggregate (.ofFields "P" [(none, .object),
          (none, .mk "^@" (.pointer 1 none))]))) := by
    decide +kernel
  have hname : ∀ c ∈ ['P'], endsName c = false := List.forall_mem_singleton.mpr rfl
  exact (naming_iff hname rfl (by decide) (by decide) hfields hown (by decide) _).mpr ⟨rfl, by decide⟩

/-- A pointer to an object, and an int. -/
def pointerFields : List FieldText := [⟨['a'], ['^', '@']⟩, ⟨['b'], ['i']⟩]

/-- **A name that is taken for that of a class**: without names the struct is read, and each of its
fields on its own. With names it is not. -/
theorem not_naming_pointer :
    (∀ f ∈ pointerFields, '"' ∉ f.name ∧ ∃ d, ({} : Translator).translate (String.ofList f.type) =
        .ok d ∧ d.isVoid = false ∧ d.className? = none) ∧
      (∃ own, ({} : Translator).translate "\x7bN=^@i\x7d" = .ok (.mk "\x7bN=^@i\x7d" (.aggregate own)) ∧
        own.fields.length = pointerFields.length) ∧
      ∀ d, ({} : Translator).translate "\x7bN=\"a\"^@\"b\"i\x7d" ≠ .ok d := by
  refine ⟨List.forall_mem_cons.mpr ⟨⟨by decide, .mk "^@" (.pointer 1 none), by decide +kernel⟩,
    List.forall_mem_singleton.mpr ⟨by decide, .scalar .int, by decide +kernel⟩⟩,
    ⟨.ofFields "N" [(none, .mk "^@" (.pointer 1 none)), (none, .scalar .int)], by decide +kernel, rfl⟩,
    fun d hd => ?_⟩
  have hfail : (({} : Translator).translate "\x7bN=\"a\"^@\"b\"i\x7d").isOk = false := by
    decide +kernel
  rw [hd] at hfail
  cases hfail

end Translator

end MessageBridge
