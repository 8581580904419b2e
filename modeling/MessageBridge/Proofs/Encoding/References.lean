import MessageBridge.Proofs.Encoding.InlineStruct

/-!
# References to structs

A struct can be given by its name only. What such a type is translated into depends on the table of
layouts, and on nothing of the table but the layout of that name. This module is about types that are
references or have no struct in them, and about structs whose fields are such types: which names they
refer to, and how reading them ends with a table in which some of the names are missing.

## Main definitions

* `Encoding.PlainType` — a type that is a reference, or has a shape in which no layout has a part.
* `Encoding.PlainFields` — fields of such types.
* `Encoding.PlainStruct` — a struct with such fields.

## Main results

* `Encoding.PlainType.of_spells` — a text without braces is plain.
* `Encoding.PlainStruct.exists_layout`, `Encoding.PlainStruct.structLayout_eq_error` — the layout of
  such a struct is found if all the names are known, and a missing one is complained about if not.
-/

namespace MessageBridge.Encoding

variable {layout? layout?' : String → Option Layout} {named : Bool} {u body : List Char} {tail : Tail}
  {refs : List String}

/-! ## Plain types -/

/-- **Plain types**: a struct that is given by its name only, or a type that has its shape whatever
the layouts are. `refs` are the names that it refers to. -/
inductive PlainType (named : Bool) : List Char → Tail → List String → Prop
  | reference (name : List Char) (hname : ∀ c ∈ name, endsName c = false) :
      PlainType named ('\x7b' :: (name ++ ['\x7d'])) .closed [String.ofList name]
  | structless {u : List Char} {shape : Shape} {tail : Tail}
      (h : ∀ layout?, Spells layout? named u shape tail) : PlainType named u tail []

/-- Fields of plain types, each of which stops before the next one or before the closing brace. -/
inductive PlainFields (named : Bool) : List Char → List String → Prop
  | nil : PlainFields named [] []
  | cons {label q u v : List Char} {name : Option String} {tail : Tail} {refs refs' : List String}
      (hlabel : Label named label name) (hq : Qualifiers q) (h : PlainType named u tail refs)
      (hvoid : u ≠ ['v']) (hstop : tail.Stops (v ++ ['\x7d'])) (hrest : PlainFields named v refs') :
      PlainFields named (label ++ (q ++ (u ++ v))) (refs ++ refs')

mutual

/-- **Without braces** a text denotes the same shape whatever the layouts are. -/
lemma Spells.structless {named : Bool} {u : List Char} {shape : Shape} {tail : Tail} :
    Spells layout? named u shape tail → '\x7b' ∉ u → Spells layout?' named u shape tail
  | .scalar p, _ => .scalar p
  | .object, _ => .object
  | .block, _ => .block
  | .className h, _ => .className h
  | .classRef, _ => .classRef
  | .selector, _ => .selector
  | .cString, _ => .cString
  | .unknown, _ => .unknown
  | .pointer (u := u) hsigns h, hbrace => by
    have hu : '\x7b' ∉ u := fun hmem =>
      hbrace (List.mem_cons_of_mem _ (List.mem_append_right _ hmem))
    obtain ⟨rfl, h'⟩ := SpellsPointee.structless h hu
    exact .pointer hsigns h'
  | .known _ _, hbrace => absurd List.mem_cons_self hbrace
  | .struct _ _ _ _, hbrace => absurd List.mem_cons_self hbrace

/-- What stands behind a pointer is then no struct. -/
lemma SpellsPointee.structless {u : List Char} {struct? : Option String} {tail : Tail} :
    SpellsPointee layout? u struct? tail → '\x7b' ∉ u →
      struct? = none ∧ SpellsPointee layout?' u none tail
  | .type h hpointer hstruct, hbrace => ⟨rfl, .type (h.structless hbrace) hpointer hstruct⟩
  | .struct _, hbrace => absurd List.mem_cons_self hbrace
  | .array h, _ => ⟨rfl, .array h⟩
  | .union h, _ => ⟨rfl, .union h⟩
  | .bitField h, _ => ⟨rfl, .bitField h⟩
  | .longDouble, _ => ⟨rfl, .longDouble⟩

end

/-- A text without braces is plain. -/
lemma PlainType.of_spells (layout? : String → Option Layout) {shape : Shape}
    (h : Spells layout? named u shape tail)
    (hbrace : '\x7b' ∉ u) : PlainType named u tail [] :=
  .structless fun _ => h.structless hbrace

/-- A plain type has characters. -/
lemma PlainType.exists_cons (h : PlainType named u tail refs) : ∃ c v, u = c :: v ∧ Starts c := by
  cases h with
  | reference => exact ⟨_, _, rfl, by constructor <;> decide⟩
  | structless h => exact (h fun _ => none).exists_cons

/-- **A plain type whose names are known** denotes a shape, and denotes it with all tables that have
the same layouts for these names. -/
lemma PlainType.exists_spells (h : PlainType named u tail refs)
    (hknown : ∀ n ∈ refs, ∃ l, layout? n = some l) :
    ∃ shape, ∀ layout?', (∀ n ∈ refs, layout?' n = layout? n) → Spells layout?' named u shape tail := by
  cases h with
  | reference _ hname =>
    obtain ⟨l, hl⟩ := hknown _ (List.mem_singleton_self _)
    exact ⟨_, fun layout?' hagree =>
      .known hname ((hagree _ (List.mem_singleton_self _)).trans hl)⟩
  | structless h => exact ⟨_, fun layout?' _ => h layout?'⟩

/-- The only type that is void has its one letter. -/
lemma Spells.ne_void {shape : Shape} (h : Spells layout? named u shape tail) (hvoid : u ≠ ['v']) :
    shape ≠ .scalar .void := by
  rintro rfl
  cases h
  exact hvoid rfl

/-- **Fields whose names are known** are denoted alike. -/
lemma PlainFields.exists_spells (h : PlainFields named body refs)
    (hknown : ∀ n ∈ refs, ∃ l, layout? n = some l) :
    ∃ fields, ∀ layout?', (∀ n ∈ refs, layout?' n = layout? n) →
      SpellsFields layout?' named body fields := by
  induction h with
  | nil => exact ⟨[], fun _ _ => .nil⟩
  | @cons label q u v name tail refs refs' hlabel hq h hvoid hstop hrest ih =>
    simp only [List.forall_mem_append] at hknown ⊢
    obtain ⟨shape, hshape⟩ := h.exists_spells hknown.1
    obtain ⟨fields, hfields⟩ := ih hknown.2
    have hne : shape ≠ .scalar .void := (hshape layout? fun _ _ => rfl).ne_void hvoid
    exact ⟨_, fun layout?' hagree =>
      .cons hlabel hq (hshape _ hagree.1) hne hstop (hfields _ hagree.2)⟩

/-! ## Missing names -/

section Missing

variable {n count : Nat}

/-- A plain type one of whose names is missing is refused for a missing name. -/
lemma PlainType.readType_eq_error (h : PlainType named u tail refs)
    (hmissing : ∃ m ∈ refs, layout? m = none) {q : List Char} (hq : Qualifiers q)
    (rest : List Char) :
    ∃ m ∈ refs, layout? m = none ∧
      readType layout? (n + 1) named (q ++ (u ++ rest)) = .error (.unknownStruct m) := by
  cases h with
  | @reference name hname =>
    obtain ⟨_, hm, hnone⟩ := hmissing
    obtain rfl := List.mem_singleton.mp hm
    have hskip : skipQualifiers (q ++ ('\x7b' :: (name ++ ['\x7d']) ++ rest)) =
        '\x7b' :: (name ++ '\x7d' :: rest) := by
      rw [skipQualifiers_append hq, List.cons_append, skipQualifiers_cons (by decide)]
      simp
    refine ⟨_, hm, hnone, ?_⟩
    simp only [readType, hskip]
    change readStruct layout? (readType layout? n) _ (name ++ '\x7d' :: rest) = _
    simp only [readStruct, takeWhile_name hname endsName_brace, dropWhile_name hname endsName_brace,
      if_true, hnone]
  | structless =>
    obtain ⟨_, hm, -⟩ := hmissing
    cases hm

/-- A field that is refused makes the struct refused in the same way. -/
lemma readFields_eq_error {label q : List Char} {name : Option String} {refusal : Refusal}
    (hlabel : Label named label name) (hq : Qualifiers q) (hcons : ∃ c v, u = c :: v ∧ Starts c)
    (rest : List Char)
    (h : readType layout? n named (q ++ (u ++ rest)) = .error refusal) :
    readFields (readType layout? n named) named (count + 1) (label ++ (q ++ (u ++ rest))) =
      .error refusal := by
  cases hlabel with
  | unnamed =>
    obtain ⟨c, s, hcons, hc⟩ : ∃ c s, q ++ (u ++ rest) = c :: s ∧ c ≠ '\x7d' := by
      obtain ⟨c, v, rfl, hstart⟩ := hcons
      cases q with
      | nil => exact ⟨c, v ++ rest, rfl, hstart.ne_brace⟩
      | cons c' q =>
        refine ⟨c', q ++ (c :: v ++ rest), rfl, ?_⟩
        rintro rfl
        exact absurd (hq _ List.mem_cons_self) (by decide)
    rw [hcons] at h
    rw [List.nil_append, hcons]
    simp only [readFields, hc, if_false, Bool.false_eq_true, pure_bind, h]
    rfl
  | @named label hquote =>
    have hquoted := readQuoted_append hquote (q ++ (u ++ rest))
    have hbrace : ('"' : Char) ≠ '\x7d' := by decide
    simp only [List.cons_append, List.append_assoc, List.nil_append, readFields, hbrace, if_false,
      if_true, hquoted, Except.map_ok, ok_bind, h]
    rfl

/-- **Fields of which a name is missing** are refused for a missing name: the first one that is. -/
lemma PlainFields.readFields_eq_error (h : PlainFields named body refs)
    (hmissing : ∃ m ∈ refs, layout? m = none) (n count : Nat) (hlen : body.length < n)
    (hcount : body.length < count) (rest : List Char) :
    ∃ m ∈ refs, layout? m = none ∧
      readFields (readType layout? n named) named count (body ++ '\x7d' :: rest) =
        .error (.unknownStruct m) := by
  induction h generalizing count with
  | nil =>
    obtain ⟨_, hm, -⟩ := hmissing
    cases hm
  | @cons label q u v name tail refs refs' hlabel hq h hvoid hstop hrest ih =>
    obtain ⟨count, rfl⟩ : ∃ k, count = k + 1 := ⟨count - 1, by omega⟩
    simp only [List.length_append] at hlen hcount
    have hcons := h.exists_cons
    have hpos : 0 < u.length := by
      obtain ⟨c, u', rfl, -⟩ := hcons
      exact Nat.succ_pos _
    simp only [List.append_assoc, List.mem_append]
    by_cases hfirst : ∃ m ∈ refs, layout? m = none
    · obtain ⟨n, rfl⟩ : ∃ k, n = k + 1 := ⟨n - 1, by omega⟩
      obtain ⟨m, hm, hnone, hread⟩ := h.readType_eq_error (n := n) hfirst hq (v ++ '\x7d' :: rest)
      exact ⟨m, .inl hm, hnone, Encoding.readFields_eq_error hlabel hq hcons _ hread⟩
    · -- the first field is read, and a later one refers to the missing name
      push Not at hfirst
      obtain ⟨shape, hshape⟩ := h.exists_spells fun m hm => Option.ne_none_iff_exists'.mp (hfirst m hm)
      have hspells := hshape layout? fun _ _ => rfl
      have hlater : ∃ m ∈ refs', layout? m = none := by
        obtain ⟨m, hm, hnone⟩ := hmissing
        exact ⟨m, (List.mem_append.mp hm).resolve_left fun hm => hfirst m hm hnone, hnone⟩
      have hstop' : tail.Stops (v ++ '\x7d' :: rest) := hstop.congr (by cases v <;> rfl)
      obtain ⟨m, hm, hnone, hread⟩ := ih hlater count (by omega) (by omega)
      refine ⟨m, .inr hm, hnone, ?_⟩
      rw [readFields_cons (reads _ _) hlabel hq hspells (hspells.ne_void hvoid) (by omega) hstop',
        hread]
      rfl

end Missing

/-! ## Plain encodings -/

/-- **Plain encodings**: a plain type behind its qualifiers. -/
def PlainEncoding (e : String) (refs : List String) : Prop :=
  ∃ q u tail, e.toList = q ++ u ∧ Qualifiers q ∧ PlainType false u tail refs

namespace PlainEncoding

variable {e : String}

/-- **A plain encoding whose names are known** is translated, and alike by all translators that have
the same layouts for these names. -/
lemma exists_descriptor (h : PlainEncoding e refs) (hknown : ∀ n ∈ refs, ∃ l, layout? n = some l) :
    ∃ d, ∀ t : Translator, (∀ n ∈ refs, t.layout? n = layout? n) → t.translate e = .ok d := by
  obtain ⟨q, u, tail, he, hq, hu⟩ := h
  obtain ⟨shape, hshape⟩ := hu.exists_spells hknown
  refine ⟨.mk (String.ofList u) shape, fun t hagree => ?_⟩
  have hone : t.readOne e.toList = .ok (.mk (String.ofList u) shape, []) :=
    readOne_eq_ok_iff.mpr ⟨q, u, shape, tail, by rw [he, List.append_nil], hq, hshape _ hagree, rfl,
      nofun⟩
  rw [Translator.translate, hone]

/-- **A plain encoding one of whose names is missing** is refused for a missing name. -/
lemma translate_eq_error (h : PlainEncoding e refs) {t : Translator}
    (hmissing : ∃ n ∈ refs, t.layout? n = none) :
    ∃ n ∈ refs, t.layout? n = none ∧ t.translate e = .error (.unknownAggregate n) := by
  obtain ⟨q, u, tail, he, hq, hu⟩ := h
  obtain ⟨n, hn, hnone, hread⟩ := hu.readType_eq_error (n := e.toList.length) hmissing hq []
  have hrefuse : refuseUnsupported e.toList = .ok () := by
    obtain ⟨c, v, rfl, hstart⟩ := hu.exists_cons
    rw [refuseUnsupported, he, skipQualifiers_append hq, skipQualifiers_cons hstart.isQualifier]
    simp [hstart.isUnsupported]
  refine ⟨n, hn, hnone, ?_⟩
  rw [List.append_nil, ← he] at hread
  rw [Translator.translate, Translator.readOne, hrefuse, ok_bind, hread]
  rfl

end PlainEncoding

/-! ## Plain structs -/

/-- **Plain structs**: a name and the text of fields that are plain types. -/
structure PlainStruct where
  name : String
  body : List Char
  /-- The names that the fields refer to. -/
  refs : List String
  forall_name : ∀ c ∈ name.toList, endsName c = false
  plain : PlainFields (body.head? == some '"') body refs
  ne_nil : body ≠ []

namespace PlainStruct

/-- The encoding of the struct, with its fields. -/
def encoding (s : PlainStruct) : String :=
  String.ofList (inlineText [] s.name.toList s.body)

/-- Whether the fields have names can be seen from the first character. -/
lemma head?_body (s : PlainStruct) (rest : List Char) :
    ((s.body ++ rest).head? == some '"') = (s.body.head? == some '"') := by
  obtain ⟨c, v, hbody⟩ := List.exists_cons_of_ne_nil s.ne_nil
  rw [hbody]
  rfl

/-- **The layout of a plain struct**: the one that its encoding is translated into, by all translators
that have the same layouts for the names that it refers to, unless they know the struct itself with
another layout. -/
structure IsLayout (s : PlainStruct) (layout? : String → Option Layout)
    (own : Layout) : Prop where
  name : own.name = s.name
  structLayout : ∀ t : Translator, (∀ n ∈ s.refs, t.layout? n = layout? n) →
    (∀ l, t.layout? s.name = some l → l = own) → t.structLayout s.encoding = .ok own

lemma IsLayout.congr {s : PlainStruct} {own : Layout} (h : s.IsLayout layout? own)
    (heq : ∀ n ∈ s.refs, layout?' n = layout? n) : s.IsLayout layout?' own :=
  ⟨h.name, fun t hagree => h.structLayout t fun n hn => (hagree n hn).trans (heq n hn)⟩

/-- **A plain struct whose names are known** has a layout. -/
lemma exists_layout (s : PlainStruct) (hknown : ∀ n ∈ s.refs, ∃ l, layout? n = some l) :
    ∃ own, s.IsLayout layout? own := by
  obtain ⟨fields, hfields⟩ := s.plain.exists_spells hknown
  have hne : fields ≠ [] := by
    rintro rfl
    have hnil := (hfields layout? fun _ _ => rfl)
    generalize s.body = body, hbody : s.body = body at hnil
    cases hnil
    exact s.ne_nil hbody
  refine ⟨.ofFields s.name fields, rfl, fun t hagree hself => ?_⟩
  have hspells : Spells t.layout? false (inlineText [] s.name.toList s.body) _ .closed :=
    .struct s.forall_name (s.head?_body _).symm (hfields _ hagree) hne
  rw [Translator.structLayout, encoding, Translator.translate_of_spells hspells, ok_bind]
  have hown : structLayout t.layout? (s.body.head? == some '"') (String.ofList s.name.toList) fields =
      .ofFields s.name fields := by
    rw [String.ofList_toList, structLayout]
    split
    · rfl
    · rcases adoptNames_eq t.layout? (.ofFields s.name fields) with ⟨heq, -⟩ | ⟨heq, -⟩
      · exact heq
      · exact hself _ heq
  simp only [Descriptor.shape, hown]
  rfl

/-- **A plain struct one of whose names is missing** is refused for a missing name. -/
lemma structLayout_eq_error (s : PlainStruct) {t : Translator}
    (hmissing : ∃ n ∈ s.refs, t.layout? n = none) :
    ∃ n ∈ s.refs, t.layout? n = none ∧
      t.structLayout s.encoding = .error (.unknownAggregate n) := by
  obtain ⟨n, hn, hnone, hread⟩ := s.plain.readFields_eq_error hmissing
    (inlineText [] s.name.toList s.body).length (s.body.length + 2)
    (by simp only [inlineText, List.nil_append, List.length_cons, List.length_append]; omega)
    (by omega) []
  have hequals : ('=' : Char) ≠ '\x7d' := by decide
  have hone : t.readOne (inlineText [] s.name.toList s.body) = .error (.unknownStruct n) := by
    change readStruct t.layout? (readType t.layout? _) _ (s.name.toList ++ '=' :: (s.body ++ ['\x7d']))
      = _
    simp only [readStruct, takeWhile_name s.forall_name endsName_equals,
      dropWhile_name s.forall_name endsName_equals, hequals, if_false, head?_body,
      List.length_append, List.length_singleton]
    rw [hread]
    rfl
  refine ⟨n, hn, hnone, ?_⟩
  rw [Translator.structLayout, encoding, Translator.translate, String.toList_ofList, hone]
  rfl

end PlainStruct

end MessageBridge.Encoding
