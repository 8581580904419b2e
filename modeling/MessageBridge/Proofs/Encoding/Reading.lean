import MessageBridge.Proofs.Encoding.Grammar

/-!
# The readers and the grammar

The readers of type encodings accept just the texts that the grammar derives.

## Main results

* `Encoding.reads` — completeness: a text that spells a type is read to its end, whatever follows it
  that it cannot take in.
* `Encoding.derives` — soundness: what is read is spelled by the text, and stops where its text cannot
  take in what follows.
* `Encoding.readOne_eq_ok_iff` — both, at the top level.
-/

namespace MessageBridge.Encoding

variable {layout? : String → Option Layout} {n : Nat} {named : Bool}

@[simp] lemma textBetween_append (u rest : List Char) :
    textBetween (u ++ rest) rest = String.ofList u := by
  simp [textBetween]

/-! ## Readers in sequence -/

lemma ok_bind {ε α β : Type} (a : α) (f : α → Except ε β) : (Except.ok a >>= f) = f a := rfl

/-- **How a sequence succeeds**: both parts do, one after the other. -/
lemma bind_eq_ok {ε α β : Type} {x : Except ε α} {f : α → Except ε β} {b : β} :
    (x >>= f) = .ok b ↔ ∃ a, x = .ok a ∧ f a = .ok b := by
  cases x with
  | error e =>
    constructor
    · intro h
      cases h
    · rintro ⟨a, h, -⟩
      cases h
  | ok a =>
    constructor
    · intro h
      exact ⟨a, rfl, h⟩
    · rintro ⟨a', h, h'⟩
      cases h
      exact h'

/-! ## Completeness -/

section Completeness

/-- **Reads**: the texts of types that are shorter than the depth are read. -/
def Reads (layout? : String → Option Layout) (n : Nat) (named : Bool) : Prop :=
  ∀ {q u rest : List Char} {shape : Shape} {tail : Tail}, Qualifiers q →
    Spells layout? named u shape tail → u.length < n → tail.Stops rest →
      readType layout? n named (q ++ (u ++ rest)) = .ok (.mk (String.ofList u) shape, rest)

/-- A quoted text is read up to its closing quote. -/
lemma readQuoted_append {name : List Char} (h : '"' ∉ name) (rest : List Char) :
    readQuoted ('"' :: (name ++ '"' :: rest)) = .ok (String.ofList name, rest) := by
  have hname : ∀ c ∈ name, (c != '"') = true := fun c hc => by
    simpa using ne_of_mem_of_not_mem hc h
  simp [readQuoted, List.takeWhile_append_of_pos hname, List.dropWhile_append_of_pos hname]

/-- The end of the name of a struct is before the end of its text. -/
lemma mem_of_group {u : List Char} (h : Group '\x7b' '\x7d' ('\x7b' :: u)) : '\x7d' ∈ u := by
  have hlast := getLast?_of_closeGroup h
  cases u with
  | nil => cases hlast
  | cons c u =>
    rw [List.getLast?_cons_cons] at hlast
    exact List.mem_of_getLast? hlast

/-- A struct behind a pointer is skipped, and its name is read. -/
lemma skipStruct_append {u : List Char} (h : Group '\x7b' '\x7d' ('\x7b' :: u)) (rest : List Char) :
    skipStruct ('\x7b' :: (u ++ rest)) =
      .ok (String.ofList (u.takeWhile (!endsName ·)), rest) := by
  have hmem := mem_of_group h
  have hany : (u ++ rest).any endsName = true :=
    List.any_eq_true.mpr ⟨_, List.mem_append_left _ hmem, rfl⟩
  have hname : (u ++ rest).takeWhile (!endsName ·) = u.takeWhile (!endsName ·) := by
    rw [List.takeWhile_append, if_neg]
    intro hlen
    have hall := List.takeWhile_eq_self_iff.mp
      ((List.takeWhile_prefix (!endsName ·)).eq_of_length hlen)
    exact absurd (hall _ hmem) (by decide)
  have hgroup : skipGroup '\x7b' '\x7d' ('\x7b' :: (u ++ rest)) = .ok rest := skipGroup_append h
  simp only [skipStruct, List.drop_succ_cons, List.drop_zero, hany, if_true, hgroup, hname]
  rfl

/-- What stands behind a pointer starts with no sign. -/
lemma SpellsPointee.isSign_head {u : List Char} {struct? : Option String} {tail : Tail}
    (h : SpellsPointee layout? u struct? tail) (rest : List Char) :
    ∀ c ∈ (u ++ rest).head?, isSign c = false := by
  cases h with
  | type h hpointer hstruct =>
    obtain ⟨_, v, hcons, hstart⟩ := h.exists_cons
    cases hcons
    intro c hc
    cases hc
    simp [isSign, hstart.isQualifier, hpointer]
  | _ =>
    intro c hc
    cases hc
    decide

/-- The width of a bit-field is skipped up to what does not belong to it. -/
lemma skipOffset_append {width rest : List Char} (h : ∀ c ∈ width, isOffset c = true)
    (hstop : Tail.width.Stops rest) : skipOffset (width ++ rest) = rest := by
  rw [skipOffset, List.dropWhile_append_of_pos h]
  cases rest with
  | nil => rfl
  | cons c rest =>
    rw [List.dropWhile_cons, if_neg (by simp [show isOffset c = false from hstop c rfl])]

/-- What stands behind a pointer is skipped. -/
lemma skipPointee_append (hread : Reads layout? n false) {u rest : List Char}
    {struct? : Option String} {tail : Tail} (h : SpellsPointee layout? u struct? tail)
    (hlen : u.length < n) (hstop : tail.Stops rest) :
    skipPointee (readType layout? n false) (u ++ rest) = .ok (struct?, rest) := by
  cases h with
  | @type c u shape _ h hpointer hstruct =>
    obtain ⟨_, v, hcons, hstart⟩ := h.exists_cons
    cases hcons
    have hunsupported := hstart.isUnsupported
    simp only [isUnsupported, List.contains_cons, Bool.or_eq_false_iff,
      beq_eq_false_iff_ne] at hunsupported
    have hrun := hread Qualifiers.nil h hlen hstop
    simp only [List.nil_append, List.cons_append] at hrun
    simp [skipPointee, hstruct, hunsupported, hrun, bind, Except.bind, pure, Except.pure]
  | @struct u h =>
    simp [skipPointee, skipStruct_append h, bind, Except.bind, pure, Except.pure]
  | @array u h =>
    have hgroup : skipGroup '[' ']' ('[' :: (u ++ rest)) = .ok rest := skipGroup_append h
    simp [skipPointee, hgroup, bind, Except.bind, pure, Except.pure]
  | @union u h =>
    have hgroup : skipGroup '(' ')' ('(' :: (u ++ rest)) = .ok rest := skipGroup_append h
    simp [skipPointee, hgroup, bind, Except.bind, pure, Except.pure]
  | @bitField width h =>
    simp [skipPointee, skipOffset_append h hstop, pure, Except.pure]
  | longDouble => rfl

/-- The text of a field does not start with a closing brace. -/
lemma Label.ne_brace {label q u : List Char} {name : Option String} {shape : Shape} {tail : Tail}
    (hlabel : Label named label name) (hq : Qualifiers q) (h : Spells layout? named u shape tail)
    (rest : List Char) : ∃ c s, label ++ (q ++ (u ++ rest)) = c :: s ∧ c ≠ '\x7d' := by
  cases hlabel with
  | named => exact ⟨_, _, rfl, by decide⟩
  | unnamed =>
    cases q with
    | nil =>
      obtain ⟨c, v, rfl, hstart⟩ := h.exists_cons
      exact ⟨c, v ++ rest, rfl, hstart.ne_brace⟩
    | cons c q =>
      refine ⟨c, q ++ (u ++ rest), rfl, ?_⟩
      rintro rfl
      exact absurd (hq _ List.mem_cons_self) (by decide)

/-- Only the scalar `void` makes a type void. -/
lemma isVoid_mk {e : String} {shape : Shape} :
    (Descriptor.mk e shape).isVoid = false ↔ shape ≠ .scalar .void := by
  cases shape <;> simp [Descriptor.isVoid, Descriptor.scalar?, Descriptor.shape]

/-- One field is read before the others. -/
lemma readFields_cons (hread : Reads layout? n named) {label q u : List Char}
    {name : Option String} {shape : Shape} {tail : Tail} (hlabel : Label named label name)
    (hq : Qualifiers q) (h : Spells layout? named u shape tail) (hvoid : shape ≠ .scalar .void)
    (hlen : u.length < n) {rest : List Char} (hstop : tail.Stops rest) (count : Nat) :
    readFields (readType layout? n named) named (count + 1) (label ++ (q ++ (u ++ rest))) =
      (fun r => ((name, .mk (String.ofList u) shape) :: r.1, r.2)) <$>
        readFields (readType layout? n named) named count rest := by
  have hfield := hread hq h hlen hstop
  cases hlabel with
  | unnamed =>
    obtain ⟨c, s, hcons, hc⟩ := Label.unnamed.ne_brace hq h rest
    simp only [List.nil_append] at hcons ⊢
    rw [hcons] at hfield ⊢
    simp only [readFields, hc, if_false, Bool.false_eq_true, pure_bind, hfield, ok_bind,
      isVoid_mk.mpr hvoid]
    rfl
  | @named label hquote =>
    have hquoted := readQuoted_append hquote (q ++ (u ++ rest))
    have hbrace : ('"' : Char) ≠ '\x7d' := by decide
    simp only [List.cons_append, List.append_assoc, List.nil_append, readFields, hbrace, if_false,
      if_true, hquoted, Except.map_ok, ok_bind, hfield, isVoid_mk.mpr hvoid]
    rfl

/-- The texts of fields are read one after another, up to the closing brace. -/
lemma readFields_append (hread : Reads layout? n named) {body : List Char}
    {fields : List (Option String × Descriptor)} (h : SpellsFields layout? named body fields)
    (hlen : body.length < n) {count : Nat} (hcount : fields.length < count) (rest : List Char) :
    readFields (readType layout? n named) named count (body ++ '\x7d' :: rest) =
      .ok (fields, rest) := by
  induction fields generalizing body count with
  | nil =>
    obtain ⟨count, rfl⟩ := Nat.exists_eq_add_of_lt hcount
    cases h
    simp [readFields]
  | cons field fields ih =>
    cases h with
    | @cons _ label q u v name shape tail _ hlabel hq h hvoid hstop hrest =>
      obtain ⟨count, rfl⟩ : ∃ k, count = k + 1 := ⟨count - 1, by omega⟩
      simp only [List.length_append] at hlen
      have hstop' : tail.Stops (v ++ '\x7d' :: rest) := hstop.congr (by cases v <;> rfl)
      simp only [List.append_assoc]
      rw [readFields_cons hread hlabel hq h hvoid (by omega) hstop' count,
        ih hrest (by omega) (Nat.lt_of_succ_lt_succ hcount)]
      rfl

/-- A field is not empty. -/
lemma SpellsFields.length_le {body : List Char} {fields : List (Option String × Descriptor)}
    (h : SpellsFields layout? named body fields) : fields.length ≤ body.length := by
  induction fields generalizing body with
  | nil => exact Nat.zero_le _
  | cons field fields ih =>
    cases h with
    | cons hlabel hq h hvoid hstop hrest =>
      have hle := ih hrest
      obtain ⟨c, u, rfl, -⟩ := h.exists_cons
      simp only [List.length_cons, List.length_append]
      omega

/-- The name of a struct is read up to the character that ends it. -/
lemma takeWhile_name {name : List Char} (hname : ∀ c ∈ name, endsName c = false) {c : Char}
    (hc : endsName c = true) (rest : List Char) :
    (name ++ c :: rest).takeWhile (!endsName ·) = name := by
  rw [List.takeWhile_append_of_pos fun c hc => by simp [hname c hc]]
  simp [hc]

lemma dropWhile_name {name : List Char} (hname : ∀ c ∈ name, endsName c = false) {c : Char}
    (hc : endsName c = true) (rest : List Char) :
    (name ++ c :: rest).dropWhile (!endsName ·) = c :: rest := by
  rw [List.dropWhile_append_of_pos fun c hc => by simp [hname c hc]]
  simp [hc]

lemma endsName_brace : endsName '\x7d' = true := rfl

lemma endsName_equals : endsName '=' = true := rfl

/-- A struct that is known by its name is looked up. -/
lemma readStruct_known {name : List Char} (hname : ∀ c ∈ name, endsName c = false)
    {layout : Layout} (h : layout? (String.ofList name) = some layout)
    (readType : Bool → Reader Descriptor) (rest : List Char) :
    readStruct layout? readType ('\x7b' :: (name ++ '\x7d' :: rest)) (name ++ '\x7d' :: rest) =
      .ok (.mk (String.ofList ('\x7b' :: (name ++ ['\x7d']))) (.aggregate layout), rest) := by
  have htext := textBetween_append ('\x7b' :: (name ++ ['\x7d'])) rest
  simp only [List.cons_append, List.append_assoc, List.nil_append] at htext
  simp only [readStruct, takeWhile_name hname endsName_brace, dropWhile_name hname endsName_brace,
    if_true, h, htext]

/-- A struct with its fields is read. -/
lemma readStruct_fields {inner : Bool} (hread : Reads layout? n inner) {name body : List Char}
    {fields : List (Option String × Descriptor)} (hname : ∀ c ∈ name, endsName c = false)
    (hinner : inner = ((body ++ ['\x7d']).head? == some '"'))
    (h : SpellsFields layout? inner body fields) (hne : fields ≠ []) (hlen : body.length < n)
    (rest : List Char) :
    readStruct layout? (readType layout? n)
        ('\x7b' :: (name ++ '=' :: (body ++ '\x7d' :: rest)))
        (name ++ '=' :: (body ++ '\x7d' :: rest)) =
      .ok (.mk (String.ofList ('\x7b' :: (name ++ '=' :: (body ++ ['\x7d']))))
        (.aggregate (structLayout layout? inner (String.ofList name) fields)), rest) := by
  have htext := textBetween_append ('\x7b' :: (name ++ '=' :: (body ++ ['\x7d']))) rest
  have hhead : ((body ++ '\x7d' :: rest).head? == some '"') = inner := by
    rw [hinner]
    cases body <;> rfl
  have hcount : fields.length < (body ++ '\x7d' :: rest).length + 1 := by
    have hle := h.length_le
    simp only [List.length_append]
    omega
  have hfields := readFields_append hread h hlen hcount rest
  have hempty : fields.isEmpty = false := by simpa using hne
  have hequals : ('=' : Char) ≠ '\x7d' := by decide
  simp only [List.cons_append, List.append_assoc, List.nil_append] at htext
  simp only [readStruct, takeWhile_name hname endsName_equals, dropWhile_name hname endsName_equals,
    hequals, if_false, hhead, hfields, ok_bind, htext, hempty, Bool.false_eq_true]
  rfl

/-- **Completeness**: a text that spells a type is read to its end, whatever follows it that it cannot
take in. -/
theorem reads (n : Nat) (named : Bool) : Reads layout? n named := by
  induction n generalizing named with
  | zero =>
    intro q u rest shape tail _ _ hlen
    exact absurd hlen (Nat.not_lt_zero _)
  | succ n ih =>
    intro q u rest shape tail hq h hlen hstop
    have hskip : skipQualifiers (q ++ (u ++ rest)) = u ++ rest := by
      obtain ⟨c, v, rfl, hstart⟩ := h.exists_cons
      rw [skipQualifiers_append hq, List.cons_append, skipQualifiers_cons hstart.isQualifier]
    simp only [readType, hskip]
    cases h with
    | scalar p =>
      simp only [List.cons_append, List.nil_append, Primitive.ofCode?_code]
      rfl
    | object =>
      change readObject named ('@' :: rest) rest = _
      cases rest with
      | nil => rfl
      | cons c rest =>
        obtain ⟨hblock, hname⟩ : c ≠ '?' ∧ (decide (c = '"') && !named) = false := by
          have hc := hstop c rfl
          cases named <;> simpa [Tail.takes] using hc
        simp only [readObject, hblock, hname, if_false, Bool.false_eq_true]
        rfl
    | block =>
      change readObject named ('@' :: '?' :: rest) ('?' :: rest) = _
      simp only [readObject, if_true]
      rw [show '@' :: '?' :: rest = ['@', '?'] ++ rest from rfl, textBetween_append]
    | @className name h =>
      change readObject false ('@' :: '"' :: (name ++ ['"'] ++ rest))
        ('"' :: (name ++ ['"'] ++ rest)) = _
      have hquoted := readQuoted_append h rest
      have htext := textBetween_append ('@' :: '"' :: (name ++ ['"'])) rest
      simp only [List.cons_append, List.append_assoc, List.nil_append] at htext ⊢
      simp [readObject, hquoted, htext, bind, Except.bind, pure, Except.pure]
    | classRef => rfl
    | selector => rfl
    | cString => rfl
    | unknown => rfl
    | @pointer _ signs u struct? _ hsigns h =>
      have hu : ∀ c ∈ (u ++ rest).head?, isSign c = false := h.isSign_head rest
      have hpointee := skipPointee_append (ih false) h
        (by simp only [List.length_cons, List.length_append] at hlen; omega) hstop
      have htext := textBetween_append ('^' :: (signs ++ u)) rest
      simp only [List.cons_append, List.append_assoc] at htext ⊢
      rw [skipLevels_append hsigns hu (by decide), hpointee, ok_bind, htext]
      rfl
    | @known _ name layout hname h =>
      have hstruct := readStruct_known hname h (readType layout? n) rest
      simp only [List.cons_append, List.append_assoc, List.nil_append]
      exact hstruct
    | @struct _ inner name body fields hname hinner h hne =>
      have hstruct := readStruct_fields (ih inner) hname hinner h hne
        (by simp only [List.length_cons, List.length_append] at hlen; omega) rest
      simp only [List.cons_append, List.append_assoc, List.nil_append]
      exact hstruct

end Completeness

/-! ## Soundness -/

section Soundness

/-- **Derives**: what is read at the depth is spelled by the text, behind its qualifiers, and stops
where its text cannot take in what follows. -/
def Derives (layout? : String → Option Layout) (n : Nat) (named : Bool) : Prop :=
  ∀ {s rest : List Char} {d : Descriptor}, readType layout? n named s = .ok (d, rest) →
    ∃ q u shape tail, s = q ++ (u ++ rest) ∧ Qualifiers q ∧ Spells layout? named u shape tail ∧
      d = .mk (String.ofList u) shape ∧ tail.Stops rest

variable {s rest : List Char}

/-- What is read in quotes is what stands between them. -/
lemma exists_of_readQuoted {text : String} (h : readQuoted s = .ok (text, rest)) :
    ∃ name, s = '"' :: (name ++ '"' :: rest) ∧ '"' ∉ name ∧ text = String.ofList name := by
  unfold readQuoted at h
  split at h
  · next s =>
    split at h
    · next c after hdrop =>
      cases h
      have hc : c = '"' := by
        have hhead := List.head?_dropWhile_not (· != '"') s
        simpa [hdrop] using hhead
      refine ⟨s.takeWhile (· != '"'), ?_, fun hmem => ?_, rfl⟩
      · rw [← hc, ← hdrop, hc, List.takeWhile_append_dropWhile]
      · simpa using List.mem_takeWhile_imp hmem
    · cases h
  · cases h

/-- What is read behind the sign of an object belongs to it. -/
lemma spells_of_readObject {d : Descriptor} (h : readObject named ('@' :: s) s = .ok (d, rest)) :
    ∃ u shape tail, '@' :: s = u ++ rest ∧ Spells layout? named u shape tail ∧
      d = .mk (String.ofList u) shape ∧ tail.Stops rest := by
  cases s with
  | nil =>
    cases h
    exact ⟨_, _, _, rfl, .object, rfl, fun c hc => by cases hc⟩
  | cons c s =>
    simp only [readObject] at h
    split_ifs at h with hblock hname
    · cases h
      subst hblock
      exact ⟨['@', '?'], _, _, rfl, .block, by rw [← textBetween_append]; rfl, by simp⟩
    · obtain ⟨rfl, rfl⟩ : c = '"' ∧ named = false := by simpa using hname
      obtain ⟨⟨text, after⟩, hquoted, hd⟩ := bind_eq_ok.mp h
      cases hd
      obtain ⟨name, hs, hnotin, rfl⟩ := exists_of_readQuoted hquoted
      have hs' : '@' :: '"' :: s = ('@' :: '"' :: (name ++ ['"'])) ++ after := by simp [hs]
      exact ⟨_, _, _, hs', .className hnotin, by rw [hs', textBetween_append], by simp⟩
    · cases h
      refine ⟨['@'], _, _, rfl, .object, rfl, fun x hx => ?_⟩
      cases hx
      cases named <;> simp_all [Tail.takes]

/-- What is skipped as a struct behind a pointer is a group. -/
lemma exists_of_skipStruct {name : String} (h : skipStruct ('\x7b' :: s) = .ok (name, rest)) :
    ∃ u, s = u ++ rest ∧ Group '\x7b' '\x7d' ('\x7b' :: u) ∧
      name = String.ofList (u.takeWhile (!endsName ·)) := by
  have hgroup : skipGroup '\x7b' '\x7d' ('\x7b' :: s) = .ok rest := by
    simp only [skipStruct] at h
    split_ifs at h
    obtain ⟨after, hgroup, hafter⟩ := bind_eq_ok.mp h
    cases hafter
    exact hgroup
  obtain ⟨g, hs, hg⟩ := exists_of_skipGroup hgroup
  cases g with
  | nil => cases hg
  | cons c u =>
    obtain ⟨rfl, rfl⟩ : '\x7b' = c ∧ s = u ++ rest := by simpa using hs
    rw [skipStruct_append hg] at h
    cases h
    exact ⟨u, rfl, hg, rfl⟩

/-- A group is skipped from its opening bracket. -/
lemma exists_of_skipGroup_cons {opening closing : Char}
    (h : skipGroup opening closing (opening :: s) = .ok rest) :
    ∃ u, s = u ++ rest ∧ Group opening closing (opening :: u) := by
  obtain ⟨g, hs, hg⟩ := exists_of_skipGroup h
  cases g with
  | nil => cases hg
  | cons c u =>
    obtain ⟨rfl, rfl⟩ : opening = c ∧ s = u ++ rest := by simpa using hs
    exact ⟨u, rfl, hg⟩

/-- What is skipped behind a pointer is a pointee. -/
lemma spells_of_skipPointee (hderives : Derives layout? n false) {struct? : Option String}
    (hsign : ∀ c ∈ s.head?, isSign c = false)
    (h : skipPointee (readType layout? n false) s = .ok (struct?, rest)) :
    ∃ u tail, s = u ++ rest ∧ SpellsPointee layout? u struct? tail ∧ tail.Stops rest := by
  cases s with
  | nil => cases h
  | cons c s =>
    have hc := hsign c rfl
    simp only [isSign, Bool.or_eq_false_iff, beq_eq_false_iff_ne] at hc
    simp only [skipPointee] at h
    split_ifs at h with hstruct harray hunion hbits hlong
    · subst hstruct
      obtain ⟨⟨name, after⟩, hskip, hname⟩ := bind_eq_ok.mp h
      cases hname
      obtain ⟨u, rfl, hg, rfl⟩ := exists_of_skipStruct hskip
      exact ⟨_, _, rfl, .struct hg, by simp⟩
    · subst harray
      obtain ⟨after, hskip, hname⟩ := bind_eq_ok.mp h
      cases hname
      obtain ⟨u, rfl, hg⟩ := exists_of_skipGroup_cons hskip
      exact ⟨_, _, rfl, .array hg, by simp⟩
    · subst hunion
      obtain ⟨after, hskip, hname⟩ := bind_eq_ok.mp h
      cases hname
      obtain ⟨u, rfl, hg⟩ := exists_of_skipGroup_cons hskip
      exact ⟨_, _, rfl, .union hg, by simp⟩
    · subst hbits
      cases h
      refine ⟨'b' :: s.takeWhile isOffset, .width, ?_, .bitField fun c hc =>
        List.mem_takeWhile_imp hc, fun c hc => ?_⟩
      · rw [skipOffset, List.cons_append, List.takeWhile_append_dropWhile]
      · have hhead := List.head?_dropWhile_not isOffset s
        rw [skipOffset] at hc
        rw [Option.mem_def.mp hc] at hhead
        exact hhead
    · subst hlong
      cases h
      exact ⟨['D'], _, rfl, .longDouble, by simp⟩
    · obtain ⟨⟨d, after⟩, hread, hname⟩ := bind_eq_ok.mp h
      cases hname
      obtain ⟨q, u, shape, tail, hs, hq, hu, -, hstop⟩ := hderives hread
      -- the text starts with no qualifier, so that none are skipped
      cases q with
      | cons x q =>
        cases hs
        exact absurd (hq _ List.mem_cons_self) (by simp [hc.1])
      | nil =>
        obtain ⟨x, v, rfl, -⟩ := hu.exists_cons
        cases hs
        exact ⟨_, _, rfl, .type hu hc.2 hstruct, hstop⟩

/-- A field that is read starts with the name that is asked for, and then its type is read. -/
lemma exists_label_of_readFields {readType : Reader Descriptor} {count : Nat} {c : Char}
    {fields : List (Option String × Descriptor)} (hc : c ≠ '\x7d')
    (h : readFields readType named (count + 1) (c :: s) = .ok (fields, rest)) :
    ∃ label name after, c :: s = label ++ after ∧ Label named label name ∧
      (do
        let (d, s) ← readType after
        if d.isVoid then throw (.malformed .voidField s)
        let (fields, s) ← readFields readType named count s
        return ((name, d) :: fields, s)) = Except.ok (fields, rest) := by
  cases named with
  | false => exact ⟨[], none, c :: s, rfl, .unnamed, by simpa [readFields, hc] using h⟩
  | true =>
    simp only [readFields, hc, if_false, if_true] at h
    obtain ⟨⟨name, after⟩, hname, h⟩ := bind_eq_ok.mp h
    rw [map_eq_pure_bind] at hname
    obtain ⟨⟨text, after'⟩, hquoted, hpair⟩ := bind_eq_ok.mp hname
    cases hpair
    obtain ⟨label, hs, hnotin, rfl⟩ := exists_of_readQuoted hquoted
    exact ⟨_, _, after', by simp [hs], .named hnotin, h⟩

/-- Fields that are read are spelled by the text before the closing brace. -/
lemma spells_of_readFields (hderives : Derives layout? n named) {count : Nat}
    {fields : List (Option String × Descriptor)}
    (h : readFields (readType layout? n named) named count s = .ok (fields, rest)) :
    ∃ body, s = body ++ '\x7d' :: rest ∧ SpellsFields layout? named body fields := by
  induction count generalizing s fields with
  | zero => cases h
  | succ count ih =>
    cases s with
    | nil => cases h
    | cons c s =>
      by_cases hc : c = '\x7d'
      · subst hc
        cases h
        exact ⟨[], rfl, .nil⟩
      · obtain ⟨label, name, after, hs, hlabel, h⟩ := exists_label_of_readFields hc h
        obtain ⟨⟨d, s₁⟩, hread, h⟩ := bind_eq_ok.mp h
        obtain ⟨q, u, shape, tail, rfl, hq, hu, rfl, hstop⟩ := hderives hread
        by_cases hvoid : (Descriptor.mk (String.ofList u) shape).isVoid = true
        · simp only [hvoid, if_true] at h
          cases h
        · simp only [hvoid] at h
          obtain ⟨⟨fields', s₂⟩, hrest, h⟩ := bind_eq_ok.mp h
          cases h
          obtain ⟨v, rfl, hv⟩ := ih hrest
          refine ⟨label ++ (q ++ (u ++ v)), by simp [hs], .cons hlabel hq hu ?_ ?_ hv⟩
          · exact isVoid_mk.mp (by simpa using hvoid)
          · exact hstop.congr (by cases v <;> rfl)

/-- A struct that is read is spelled by its text. -/
lemma spells_of_readStruct (hderives : ∀ inner, Derives layout? n inner) {d : Descriptor}
    (h : readStruct layout? (readType layout? n) ('\x7b' :: s) s = .ok (d, rest)) :
    ∃ u shape, '\x7b' :: s = u ++ rest ∧ Spells layout? named u shape .closed ∧
      d = .mk (String.ofList u) shape := by
  obtain ⟨name, after, hs, hname, hafter, hsplit⟩ :
      ∃ name after, s = name ++ after ∧ (∀ c ∈ name, endsName c = false) ∧
        (∀ c ∈ after.head?, endsName c = true) ∧
        s.takeWhile (!endsName ·) = name ∧ s.dropWhile (!endsName ·) = after := by
    refine ⟨_, _, List.takeWhile_append_dropWhile.symm,
      fun c hc => by simpa using List.mem_takeWhile_imp hc, fun c hc => ?_, rfl, rfl⟩
    have hhead := List.head?_dropWhile_not (!endsName ·) s
    rw [Option.mem_def.mp hc] at hhead
    simpa using hhead
  simp only [readStruct, hsplit.1, hsplit.2] at h
  cases after with
  | nil => cases h
  | cons c body =>
    subst hs
    by_cases hc : c = '\x7d'
    · subst hc
      simp only [if_true] at h
      split at h
      · next layout hlayout =>
        cases h
        have hs : '\x7b' :: (name ++ '\x7d' :: rest) = ('\x7b' :: (name ++ ['\x7d'])) ++ rest := by simp
        exact ⟨_, _, hs, .known hname hlayout, by rw [hs, textBetween_append]⟩
      · cases h
    · obtain rfl : c = '=' := by simpa [endsName, hc] using hafter c rfl
      simp only [hc, if_false] at h
      obtain ⟨⟨fields, rest'⟩, hfields, h⟩ := bind_eq_ok.mp h
      obtain ⟨body, rfl, hbody⟩ := spells_of_readFields (hderives _) hfields
      by_cases hempty : fields.isEmpty = true
      · simp only [hempty, if_true] at h
        cases h
      · simp only [hempty] at h
        cases h
        have hs : '\x7b' :: (name ++ '=' :: (body ++ '\x7d' :: rest)) =
            ('\x7b' :: (name ++ '=' :: (body ++ ['\x7d']))) ++ rest := by simp
        have hhead : ((body ++ '\x7d' :: rest).head? == some '"') =
            ((body ++ ['\x7d']).head? == some '"') := by cases body <;> rfl
        rw [hhead] at hbody
        refine ⟨_, _, hs, .struct hname rfl hbody (by simpa using hempty), ?_⟩
        rw [hs, textBetween_append, hhead]
        rfl

/-- **Soundness**: what is read is spelled by the text, behind its qualifiers, and stops where its text
cannot take in what follows. -/
theorem derives (n : Nat) (named : Bool) : Derives layout? n named := by
  induction n generalizing named with
  | zero =>
    intro s rest d h
    cases h
  | succ n ih =>
    intro s rest d h
    obtain ⟨q, hq, hs, hhead⟩ := exists_qualifiers s
    simp only [readType] at h
    cases hskip : skipQualifiers s with
    | nil =>
      rw [hskip] at h
      cases h
    | cons c s' =>
      rw [hskip] at h hs
      suffices ∃ u shape tail, c :: s' = u ++ rest ∧ Spells layout? named u shape tail ∧
          d = .mk (String.ofList u) shape ∧ tail.Stops rest by
        obtain ⟨u, shape, tail, hu, hspells, hd, hstop⟩ := this
        exact ⟨q, u, shape, tail, by rw [hs, hu], hq, hspells, hd, hstop⟩
      cases hcode : Primitive.ofCode? c with
      | some p =>
        simp only [hcode] at h
        cases h
        obtain rfl := Primitive.code_of_ofCode?_eq_some hcode
        exact ⟨_, _, _, rfl, .scalar p, rfl, by simp⟩
      | none =>
        simp only [hcode] at h
        split at h
        · next hobject =>
          subst hobject
          exact spells_of_readObject h
        split at h
        · next hclass =>
          cases h
          exact ⟨['#'], _, _, by rw [hclass]; rfl, .classRef, rfl, by simp⟩
        split at h
        · next hselector =>
          cases h
          exact ⟨[':'], _, _, by rw [hselector]; rfl, .selector, rfl, by simp⟩
        split at h
        · next hstring =>
          cases h
          exact ⟨['*'], _, _, by rw [hstring]; rfl, .cString, rfl, by simp⟩
        split at h
        · next hunknown =>
          cases h
          exact ⟨['?'], _, _, by rw [hunknown]; rfl, .unknown, rfl, by simp⟩
        split at h
        · next hpointer =>
          subst hpointer
          obtain ⟨signs, v, rfl, hsigns, hv⟩ := exists_signs s'
          rw [skipLevels_append hsigns hv (by decide)] at h
          obtain ⟨⟨struct?, after⟩, hpointee, h⟩ := bind_eq_ok.mp h
          cases h
          obtain ⟨u, tail, rfl, hu, hstop⟩ := spells_of_skipPointee (ih false) hv hpointee
          have hs : '^' :: (signs ++ (u ++ after)) = ('^' :: (signs ++ u)) ++ after := by simp
          exact ⟨_, _, _, hs, .pointer hsigns hu, by rw [hs, textBetween_append]; rfl, hstop⟩
        split at h
        · next hstruct =>
          subst hstruct
          obtain ⟨u, shape, hu, hspells, hd⟩ := spells_of_readStruct ih h
          exact ⟨u, shape, _, hu, hspells, hd, by simp⟩
        split at h <;> cases h

end Soundness

/-! ## The top level -/

/-- **One type** at the top level is read just if the grammar derives it from the text behind the
qualifiers, and it stops where the text cannot take in what follows. -/
theorem readOne_eq_ok_iff {t : Translator} {s rest : List Char} {d : Descriptor} :
    t.readOne s = .ok (d, rest) ↔
      ∃ q u shape tail, s = q ++ (u ++ rest) ∧ Qualifiers q ∧ Spells t.layout? false u shape tail ∧
        d = .mk (String.ofList u) shape ∧ tail.Stops rest := by
  constructor
  · intro h
    obtain ⟨_, -, h⟩ := bind_eq_ok.mp h
    exact derives _ _ h
  · rintro ⟨q, u, shape, tail, rfl, hq, hu, rfl, hstop⟩
    have hrefuse : refuseUnsupported (q ++ (u ++ rest)) = .ok () := by
      obtain ⟨c, v, rfl, hstart⟩ := hu.exists_cons
      rw [refuseUnsupported, skipQualifiers_append hq, List.cons_append,
        skipQualifiers_cons hstart.isQualifier]
      simp [hstart.isUnsupported]
    rw [Translator.readOne, hrefuse, ok_bind]
    exact reads _ _ hq hu (by simp only [List.length_append]; omega) hstop

end MessageBridge.Encoding
