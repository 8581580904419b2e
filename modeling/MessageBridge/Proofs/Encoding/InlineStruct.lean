import MessageBridge.Proofs.Encoding.Reading

/-!
# Structs with a body of their own

A struct that is given with its fields, none of them named, takes its names from the layout that is
registered under its name. A registered layout of the same size with as many fields is taken over as a
whole. It need not have the fields of the body: two floats fit two ints. So the shape of the body is
kept just if the layout that is taken over has that shape.

## Main definitions

* `Layout.alike` — the fields of two layouts have the same kinds, scalar types, sizes and offsets, at
  every depth.
* `Layout.Fits` — as many fields and the same size.
* `Encoding.inlineText` — the text of a struct with a body.

## Main results

* `Translator.alike_inline_iff` — what such a text is translated into, and when it has the shape of
  the body.
-/

namespace MessageBridge

/-! ## Shapes alike -/

mutual

/-- Whether two shapes are of the same kind, and structs with fields alike. What an object is an
instance of and what a pointer points at do not matter. -/
def Shape.alike : Shape → Shape → Bool
  | .scalar p, .scalar q => p == q
  | .object _, .object _ => true
  | .classRef, .classRef => true
  | .selector, .selector => true
  | .cString, .cString => true
  | .pointer _ _, .pointer _ _ => true
  | .aggregate l, .aggregate l' => l.alike l'
  | _, _ => false
termination_by structural s => s

/-- **Alike**: two layouts have as many fields, and alike. -/
def Layout.alike : Layout → Layout → Bool
  | ⟨_, fs, _, _⟩, ⟨_, fs', _, _⟩ => Field.alikeAll fs fs'
termination_by structural l => l

/-- Whether the fields are as many, and alike. -/
def Field.alikeAll : List Field → List Field → Bool
  | [], [] => true
  | f :: fs, g :: gs => f.alike g && Field.alikeAll fs gs
  | _, _ => false
termination_by structural fs => fs

/-- Whether two fields have the same offset and size, and shapes alike. The names do not matter. -/
def Field.alike : Field → Field → Bool
  | ⟨_, o, ⟨_, s⟩⟩, ⟨_, o', ⟨_, s'⟩⟩ => o == o' && s.size == s'.size && s.alike s'
termination_by structural f => f

end

mutual

lemma Shape.alike_refl : (s : Shape) → s.alike s = true
  | .scalar p => by simp [Shape.alike]
  | .object _ | .classRef | .selector | .cString | .pointer _ _ => by simp [Shape.alike]
  | .aggregate l => by rw [Shape.alike, l.alike_refl]

lemma Layout.alike_refl : (l : Layout) → l.alike l = true
  | ⟨_, fs, _, _⟩ => by rw [Layout.alike, Field.alikeAll_refl fs]

lemma Field.alikeAll_refl : (fs : List Field) → Field.alikeAll fs fs = true
  | [] => rfl
  | f :: fs => by rw [Field.alikeAll, f.alike_refl, Field.alikeAll_refl fs]; rfl

lemma Field.alike_refl : (f : Field) → f.alike f = true
  | ⟨_, _, ⟨_, s⟩⟩ => by simp [Field.alike, s.alike_refl]

end

lemma Field.length_eq_of_alikeAll {fs gs : List Field} (h : Field.alikeAll fs gs = true) :
    gs.length = fs.length := by
  induction fs generalizing gs with
  | nil =>
    cases gs with
    | nil => rfl
    | cons => cases h
  | cons f fs ih =>
    cases gs with
    | nil => cases h
    | cons g gs =>
      rw [Field.alikeAll, Bool.and_eq_true] at h
      rw [List.length_cons, List.length_cons, ih h.2]

/-- **Fits**: as large, and with as many fields. -/
def Layout.Fits (known own : Layout) : Prop :=
  known.size = own.size ∧ known.fields.length = own.fields.length

instance (known own : Layout) : Decidable (known.Fits own) := inferInstanceAs (Decidable (_ ∧ _))

namespace Encoding

variable {layout? : String → Option Layout} {own : Layout}

/-! ## Taking over a registered layout -/

/-- A registered layout is taken over where it fits. -/
lemma adoptNames_eq (layout? : String → Option Layout) (own : Layout) :
    adoptNames layout? own = own ∧ (∀ known, layout? own.name = some known → ¬ known.Fits own) ∨
      layout? own.name = some (adoptNames layout? own) ∧ (adoptNames layout? own).Fits own := by
  unfold adoptNames
  cases h : layout? own.name with
  | none => exact .inl ⟨rfl, nofun⟩
  | some known =>
    simp only [Bool.and_eq_true, decide_eq_true_eq, Option.some.injEq, forall_eq']
    split
    · next hfits => exact .inr ⟨rfl, hfits⟩
    · next hfits => exact .inl ⟨rfl, hfits⟩

/-- **When the shape is kept**: a layout that is taken over must have it. -/
lemma alike_adoptNames_iff (layout? : String → Option Layout) (own : Layout) :
    (adoptNames layout? own).alike own = true ↔
      ∀ known, layout? own.name = some known → known.Fits own → known.alike own = true := by
  rcases adoptNames_eq layout? own with ⟨heq, hnone⟩ | ⟨heq, hfits⟩
  · rw [heq]
    exact iff_of_true own.alike_refl fun known h hfits => absurd hfits (hnone known h)
  · refine ⟨fun halike known h _ => ?_, fun h => h _ heq hfits⟩
    obtain rfl := Option.some.inj (heq.symm.trans h)
    exact halike

/-! ## The text of a struct with a body -/

/-- The text of a struct with a body, qualifiers before it. -/
def inlineText (q name body : List Char) : List Char :=
  q ++ '\x7b' :: (name ++ '=' :: (body ++ ['\x7d']))

section Spells

variable {named : Bool} {name body u : List Char} {shape : Shape} {tail : Tail}
  {fields fields' : List (Option String × Descriptor)}

/-- The fields of a text are those that are read from it. -/
lemma SpellsFields.unique (h : SpellsFields layout? named body fields)
    (h' : SpellsFields layout? named body fields') : fields' = fields := by
  have hcount (fs : List (Option String × Descriptor)) (hfs : SpellsFields layout? named body fs) :
      readFields (readType layout? (body.length + 1) named) named (body.length + 1)
        (body ++ ['\x7d']) = .ok (fs, []) :=
    readFields_append (reads _ _) hfs (Nat.lt_succ_self _) (Nat.lt_succ_of_le hfs.length_le) []
  have heq := (hcount _ h').symm.trans (hcount _ h)
  cases heq
  rfl

/-- A text with a body is that of a struct with the fields of the body, which have names if the body
starts with a quote. -/
lemma Spells.exists_body (hname : ∀ c ∈ name, endsName c = false)
    (h : Spells layout? named ('\x7b' :: (name ++ '=' :: (body ++ ['\x7d']))) shape tail) :
    ∃ fields, let inner := (body ++ ['\x7d']).head? == some '"'
      SpellsFields layout? inner body fields ∧
        shape = .aggregate (structLayout layout? inner (String.ofList name) fields) := by
  generalize hu : '\x7b' :: (name ++ '=' :: (body ++ ['\x7d'])) = u at h
  cases h with
  | scalar p => cases p <;> cases hu
  | @known _ name' _ hname' =>
    have hrest := (List.cons.inj hu).2
    have htake := congrArg (·.dropWhile (!endsName ·)) hrest
    simp only [dropWhile_name hname endsName_equals, dropWhile_name hname' endsName_brace] at htake
    cases htake
  | @struct _ inner name' body' fields hname' hinner hfields hne =>
    have hrest := (List.cons.inj hu).2
    have htake := congrArg (·.takeWhile (!endsName ·)) hrest
    have hdrop := congrArg (·.dropWhile (!endsName ·)) hrest
    simp only [takeWhile_name hname endsName_equals, takeWhile_name hname' endsName_equals] at htake
    simp only [dropWhile_name hname endsName_equals, dropWhile_name hname' endsName_equals,
      List.cons.injEq, true_and, List.append_cancel_right_eq] at hdrop
    subst htake hdrop hinner
    exact ⟨fields, hfields, rfl⟩
  | _ => cases hu

/-- A text with a body, the fields of which have no names, is that of a struct with these fields. -/
lemma Spells.exists_fields (hname : ∀ c ∈ name, endsName c = false) (hbody : body.head? ≠ some '"')
    (h : Spells layout? named ('\x7b' :: (name ++ '=' :: (body ++ ['\x7d']))) shape tail) :
    ∃ fields, SpellsFields layout? false body fields ∧
      shape = .aggregate (adoptNames layout? (.ofFields (String.ofList name) fields)) := by
  have hunnamed : ((body ++ ['\x7d']).head? == some '"') = false := by
    rw [beq_eq_false_iff_ne]
    cases body with
    | nil => decide
    | cons c body => exact hbody
  have hfields := h.exists_body hname
  rw [hunnamed] at hfields
  exact hfields

/-- Each field has no name, and its text denotes it. -/
lemma SpellsFields.forall_mem (h : SpellsFields layout? false body fields) :
    ∀ f ∈ fields, f.1 = none ∧ ∃ u shape tail, f.2 = .mk (String.ofList u) shape ∧
      Spells layout? false u shape tail := by
  induction fields generalizing body with
  | nil => nofun
  | cons f fields ih =>
    cases h with
    | cons hlabel _ hu _ _ hrest =>
      cases hlabel
      exact List.forall_mem_cons.mpr ⟨⟨rfl, _, _, _, rfl, hu⟩, ih hrest⟩

end Spells

end Encoding

namespace Translator

open Encoding

variable {t : Translator} {q name body u : List Char} {d : Descriptor} {shape : Shape} {tail : Tail}

/-- A text without qualifiers is translated into what it spells. -/
lemma translate_of_spells (h : Spells t.layout? false u shape tail) :
    t.translate (String.ofList u) = .ok (.mk (String.ofList u) shape) := by
  have hone : t.readOne u = .ok (.mk (String.ofList u) shape, []) :=
    readOne_eq_ok_iff.mpr ⟨[], u, shape, tail, by simp, .nil, h, rfl, nofun⟩
  rw [translate, String.toList_ofList, hone]

/-- A text that is translated spells what it is translated into. -/
lemma spells_of_translate {c : Char} (hq : Qualifiers q) (hc : isQualifier c = false)
    (h : t.translate (String.ofList (q ++ c :: u)) = .ok d) :
    ∃ shape tail, Spells t.layout? false (c :: u) shape tail ∧
      d = .mk (String.ofList (c :: u)) shape := by
  rw [translate, String.toList_ofList] at h
  split at h
  · next d' hone =>
    cases h
    obtain ⟨q', u', shape, tail, heq, hq', hu, rfl, -⟩ := readOne_eq_ok_iff.mp hone
    obtain ⟨c', v, rfl, hstart⟩ := hu.exists_cons
    -- both texts are what is left without the qualifiers
    have hskip := congrArg skipQualifiers heq
    rw [skipQualifiers_append hq, skipQualifiers_append hq', skipQualifiers_cons hc, List.append_nil,
      skipQualifiers_cons hstart.isQualifier] at hskip
    obtain ⟨rfl, rfl⟩ := List.cons.inj hskip
    exact ⟨shape, tail, hu, rfl⟩
  · cases h
  · cases h

/-- **Structs with a body**: the text of a struct whose body has no field names is translated into a
layout that is the one of the body, or a registered one of the same name that fits it. Size and number
of fields are those of the body in any case. The fields have their kinds, scalar types, sizes and
offsets, at every depth, if and only if a registered layout that fits has them. The fields of the body
are determined by it, and are each what their own text is translated into. -/
theorem alike_inline_iff (hq : Qualifiers q) (hname : ∀ c ∈ name, endsName c = false)
    (hbody : body.head? ≠ some '"')
    (h : t.translate (String.ofList (inlineText q name body)) = .ok d) :
    ∃ fields own layout, (∀ fs, SpellsFields t.layout? false body fs ↔ fs = fields) ∧
      (∀ f ∈ fields, f.1 = none ∧ t.translate f.2.encoding = .ok f.2) ∧
      own = .ofFields (String.ofList name) fields ∧
      d = .mk (String.ofList (inlineText [] name body)) (.aggregate layout) ∧
      (layout = own ∨ t.layout? (String.ofList name) = some layout) ∧
      layout.size = own.size ∧ layout.fields.length = fields.length ∧
      (layout.alike own = true ↔ ∀ known, t.layout? (String.ofList name) = some known →
        known.Fits own → known.alike own = true) := by
  obtain ⟨shape, tail, hu, rfl⟩ := spells_of_translate hq rfl h
  obtain ⟨fields, hfields, rfl⟩ := hu.exists_fields hname hbody
  refine ⟨fields, _, _, fun fs => ⟨hfields.unique, fun heq => heq ▸ hfields⟩, fun f hf => ?_, rfl, rfl,
    ?_, ?_, ?_, alike_adoptNames_iff t.layout? _⟩
  · obtain ⟨hnone, u, shape, tail, heq, hu⟩ := hfields.forall_mem f hf
    rw [heq]
    exact ⟨hnone, translate_of_spells hu⟩
  · exact (adoptNames_eq t.layout? _).imp And.left And.left
  · rcases adoptNames_eq t.layout? (.ofFields (String.ofList name) fields) with ⟨heq, -⟩ | ⟨-, hfits⟩
    · rw [heq]
    · exact hfits.1
  · rcases adoptNames_eq t.layout? (.ofFields (String.ofList name) fields) with ⟨heq, -⟩ | ⟨-, hfits⟩
    · rw [heq, Layout.length_fields_ofFields]
    · rw [hfits.2, Layout.length_fields_ofFields]

/-- A struct of two floats that have names. -/
def floatPair : Layout :=
  .ofFields "P" [(some "x", .scalar .float), (some "y", .scalar .float)]

/-- The translator with which the struct is registered. -/
def floatPairs : Translator := ({} : Translator).insert floatPair

lemma register_floatPair :
    ({} : Translator).register "\x7bP=\"x\"f\"y\"f\x7d" = .ok (floatPair, floatPairs) := by
  have hlayout : ({} : Translator).structLayout "\x7bP=\"x\"f\"y\"f\x7d" = .ok floatPair := by
    decide +kernel
  rw [register, hlayout]
  rfl

/-- Two scalars without names are the fields of a struct. -/
lemma spellsFields_pair {layout? : String → Option Layout} (p : Primitive) (hp : p ≠ .void) :
    SpellsFields layout? false [p.code, p.code] [(none, .scalar p), (none, .scalar p)] := by
  have hvoid : Shape.scalar p ≠ .scalar .void := fun h => hp (Shape.scalar.inj h)
  exact .cons (q := []) .unnamed .nil (.scalar p) hvoid (Tail.stops_closed _)
    (.cons (q := []) .unnamed .nil (.scalar p) hvoid (Tail.stops_closed _) .nil)

/-- Two floats are translated into the registered layout, which names them. -/
theorem alike_inline_floats :
    ∃ fields layout, SpellsFields floatPairs.layout? false ['f', 'f'] fields ∧
      floatPairs.translate "\x7bP=ff\x7d" = .ok (.mk "\x7bP=ff\x7d" (.aggregate layout)) ∧
      layout.fieldIndex? "y" = some 1 ∧ layout.alike (.ofFields "P" fields) = true := by
  have htranslate : floatPairs.translate (String.ofList (inlineText [] ['P'] ['f', 'f'])) =
      .ok (.mk "\x7bP=ff\x7d" (.aggregate floatPair)) := by decide +kernel
  obtain ⟨fields, own, layout, hfields, -, rfl, hd, -, -, -, halike⟩ :=
    alike_inline_iff .nil (List.forall_mem_singleton.mpr rfl) (by decide) htranslate
  cases hd
  obtain rfl := (hfields _).mp (spellsFields_pair .float nofun)
  refine ⟨_, _, spellsFields_pair .float nofun, htranslate, rfl, halike.mpr fun known hknown _ => ?_⟩
  obtain rfl : floatPair = known := Option.some.inj hknown
  decide +kernel

/-- **Another shape of the same size**: two ints are translated into the registered layout too, whose
fields are floats. -/
theorem not_alike_inline_ints :
    ({} : Translator).register "\x7bP=\"x\"f\"y\"f\x7d" = .ok (floatPair, floatPairs) ∧
      ∃ fields layout, SpellsFields floatPairs.layout? false ['i', 'i'] fields ∧
        floatPairs.translate "\x7bP=ii\x7d" = .ok (.mk "\x7bP=ii\x7d" (.aggregate layout)) ∧
        layout.alike (.ofFields "P" fields) = false :=
  ⟨register_floatPair, _, floatPair, spellsFields_pair .int nofun, by decide +kernel,
    by decide +kernel⟩

end Translator

end MessageBridge
