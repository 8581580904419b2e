import MessageBridge.Proofs.Encoding.Reading

/-!
# Type trees

A type tree is a type as it is written in an encoding: its qualifiers, its pointer signs and its
structs with their fields, and behind a pointer also a type that cannot be passed by value. A tree has
a text and, without the readers, a denotation. Translating the text gives the denotation.

What is behind a pointer is not read but skipped, a struct by its braces. So a text inside must leave
the braces as it found them, which is why brackets are balanced.

## Main definitions

* `Encoding.Balanced` — texts with balanced brackets.
* `Encoding.TypeTree`, `Encoding.Pointee`, `Encoding.FieldTrees` — types, what is behind a pointer,
  and the fields of a struct.
* `Encoding.TypeTree.print`, `Encoding.TypeTree.denote` — the text and the denotation of a tree.
* `Encoding.TypeTree.Valid` — no field is void, and no field takes in the start of the next one.

## Main results

* `Encoding.TypeTree.spells` — the text of a tree, without its qualifiers, spells its denotation.
* `Encoding.TypeTree.translate_print` — the text of a tree is translated into its denotation.
-/

namespace MessageBridge.Encoding

/-! ## Balanced brackets -/

/-- The three kinds of brackets. -/
inductive Bracket where
  | curly
  | square
  | round
deriving DecidableEq

/-- The opening bracket. -/
def Bracket.opening : Bracket → Char
  | curly => '\x7b'
  | square => '['
  | round => '('

/-- The closing bracket. -/
def Bracket.closing : Bracket → Char
  | curly => '\x7d'
  | square => ']'
  | round => ')'

/-- **Balanced**: every bracket is closed by one of its kind, and brackets inside quotes do not
count. -/
inductive Balanced : List Char → Prop
  | nil : Balanced []
  | char {c : Char} {s : List Char} (hquote : c ≠ '"')
      (hbracket : ∀ b : Bracket, c ≠ b.opening ∧ c ≠ b.closing) (h : Balanced s) : Balanced (c :: s)
  | quoted {name s : List Char} (hname : '"' ∉ name) (h : Balanced s) :
      Balanced ('"' :: (name ++ '"' :: s))
  | group {inner s : List Char} (b : Bracket) (hinner : Balanced inner) (h : Balanced s) :
      Balanced (b.opening :: (inner ++ b.closing :: s))

/-- **Neutral**: inside a group the text closes every bracket that it opens, and no other one. -/
def Neutral (b : Bracket) (s : List Char) : Prop :=
  ∀ (depth : Nat) (rest : List Char), 0 < depth →
    closeGroup b.opening b.closing depth false (s ++ rest) =
      closeGroup b.opening b.closing depth false rest

namespace Neutral

variable {b : Bracket} {s s' name : List Char}

lemma nil : Neutral b [] := fun _ _ _ => rfl

lemma append (h : Neutral b s) (h' : Neutral b s') : Neutral b (s ++ s') := by
  intro depth rest hdepth
  rw [List.append_assoc, h depth _ hdepth, h' depth _ hdepth]

/-- A character that is neither a quote nor a bracket of the kind leaves everything as it is. -/
lemma cons {c : Char} (hquote : c ≠ '"') (hopening : c ≠ b.opening) (hclosing : c ≠ b.closing)
    (h : Neutral b s) : Neutral b (c :: s) := by
  intro depth rest hdepth
  rw [List.cons_append, closeGroup, if_neg hquote, if_neg Bool.false_ne_true, if_neg hopening,
    if_neg hclosing, h depth _ hdepth]

lemma of_forall (h : ∀ c ∈ s, c ≠ '"' ∧ c ≠ b.opening ∧ c ≠ b.closing) : Neutral b s := by
  induction s with
  | nil => exact nil
  | cons c s ih =>
    obtain ⟨⟨hquote, hopening, hclosing⟩, hs⟩ := List.forall_mem_cons.mp h
    exact cons hquote hopening hclosing (ih hs)

/-- Inside quotes every character leaves the brackets as they are. -/
lemma closeGroup_quoted (hname : '"' ∉ name) (depth : Nat) (rest : List Char) :
    closeGroup b.opening b.closing depth true (name ++ '"' :: rest) =
      closeGroup b.opening b.closing depth false rest := by
  induction name with
  | nil => simp [closeGroup]
  | cons c name ih =>
    obtain ⟨hc, hname⟩ : c ≠ '"' ∧ '"' ∉ name := by simpa [eq_comm] using hname
    rw [List.cons_append, closeGroup, if_neg hc, if_pos rfl, ih hname]

lemma quoted (hname : '"' ∉ name) (h : Neutral b s) : Neutral b ('"' :: (name ++ '"' :: s)) := by
  intro depth rest hdepth
  rw [List.cons_append, closeGroup, if_pos rfl, List.append_assoc, List.cons_append, Bool.not_false,
    closeGroup_quoted hname, h depth _ hdepth]

lemma opening_ne_quote (b : Bracket) : b.opening ≠ '"' := by cases b <;> decide

lemma closing_ne_quote (b : Bracket) : b.closing ≠ '"' := by cases b <;> decide

lemma closing_ne_opening (b : Bracket) : b.closing ≠ b.opening := by cases b <;> decide

/-- A group of the same kind is closed again. -/
lemma group (h : Neutral b s) (h' : Neutral b s') :
    Neutral b (b.opening :: (s ++ b.closing :: s')) := by
  intro depth rest hdepth
  rw [List.cons_append, closeGroup, if_neg (opening_ne_quote b), if_neg Bool.false_ne_true,
    if_pos rfl, List.append_assoc, h _ _ (Nat.succ_pos depth), List.cons_append, closeGroup,
    if_neg (closing_ne_quote b), if_neg Bool.false_ne_true, if_neg (closing_ne_opening b),
    if_pos rfl, if_neg (by omega), Nat.succ_sub_one, h' depth _ hdepth]

/-- A neutral text in brackets is a group. -/
lemma isGroup (h : Neutral b s) : Group b.opening b.closing (b.opening :: (s ++ [b.closing])) := by
  rw [Group, closeGroup, if_neg (opening_ne_quote b), if_neg Bool.false_ne_true, if_pos rfl,
    h _ _ (Nat.succ_pos 0), closeGroup, if_neg (closing_ne_quote b), if_neg Bool.false_ne_true,
    if_neg (closing_ne_opening b), if_pos rfl, if_pos (Nat.le_refl 1)]

end Neutral

/-- Balanced brackets leave those of every kind as they are. -/
lemma Balanced.neutral {s : List Char} (h : Balanced s) (b : Bracket) : Neutral b s := by
  induction h with
  | nil => exact .nil
  | char hquote hbracket _ ih => exact ih.cons hquote (hbracket b).1 (hbracket b).2
  | quoted hname _ ih => exact ih.quoted hname
  | group b' _ _ ihinner ih =>
    by_cases hb : b' = b
    · subst hb
      exact ihinner.group ih
    · -- brackets of another kind are characters like any other
      have hopening : b'.opening ≠ b.opening ∧ b'.opening ≠ b.closing := by
        revert hb
        cases b' <;> cases b <;> decide
      have hclosing : b'.closing ≠ b.opening ∧ b'.closing ≠ b.closing := by
        revert hb
        cases b' <;> cases b <;> decide
      exact .cons (Neutral.opening_ne_quote b') hopening.1 hopening.2
        (ihinner.append (ih.cons (Neutral.closing_ne_quote b') hclosing.1 hclosing.2))

/-! ## Trees -/

/-- A qualifier. -/
def Qualifier : Type := {c : Char // isQualifier c = true}

/-- The name of a class, which stands in quotes. -/
def ClassName : Type := {name : List Char // '"' ∉ name}

/-- The name of a struct: no bracket, quote or equals sign belongs to it. -/
def StructName : Type :=
  {name : List Char // ∀ c ∈ name, c ≠ '"' ∧ c ≠ '=' ∧ c ≠ '\x7b' ∧ c ≠ '\x7d'}

/-- A text with balanced brackets. -/
def BalancedText : Type := {text : List Char // Balanced text}

/-- The width of a bit-field. -/
def BitWidth : Type := {width : List Char // ∀ c ∈ width, c.isDigit = true}

mutual

/-- **Type trees.** -/
inductive TypeTree where
  | scalar (p : Primitive)
  | cString
  | classRef
  | selector
  | unknown
  | object
  | block
  | className (name : ClassName)
  | pointer (pointee : Pointee)
  | struct (name : StructName) (fields : FieldTrees)
  | qualified (q : Qualifier) (t : TypeTree)

/-- **Pointees**: what is behind a pointer is a type or one that cannot be passed by value. -/
inductive Pointee where
  | type (t : TypeTree)
  | array (text : BalancedText)
  | union (text : BalancedText)
  | bitField (width : BitWidth)
  | longDouble
  | qualified (q : Qualifier) (p : Pointee)

/-- **The fields of a struct**, of which there is at least one. -/
inductive FieldTrees where
  | last (t : TypeTree)
  | more (t : TypeTree) (fields : FieldTrees)

end

/-! ## The text of a tree -/

mutual

/-- The text of a tree. -/
def TypeTree.print : TypeTree → List Char
  | .scalar p => [p.code]
  | .cString => ['*']
  | .classRef => ['#']
  | .selector => [':']
  | .unknown => ['?']
  | .object => ['@']
  | .block => ['@', '?']
  | .className name => '@' :: '"' :: (name.val ++ ['"'])
  | .pointer p => '^' :: p.print
  | .struct name fields => '\x7b' :: (name.val ++ '=' :: (fields.print ++ ['\x7d']))
  | .qualified q t => q.val :: t.print

/-- The text behind a pointer sign. -/
def Pointee.print : Pointee → List Char
  | .type t => t.print
  | .array text => '[' :: (text.val ++ [']'])
  | .union text => '(' :: (text.val ++ [')'])
  | .bitField width => 'b' :: width.val
  | .longDouble => ['D']
  | .qualified q p => q.val :: p.print

/-- The texts of the fields, one after another. -/
def FieldTrees.print : FieldTrees → List Char
  | .last t => t.print
  | .more t fields => t.print ++ fields.print

end

/-- The tree without its leading qualifiers. -/
def TypeTree.bare : TypeTree → TypeTree
  | .qualified _ t => t.bare
  | t => t

/-! ## The denotation of a tree -/

mutual

/-- The number of pointer signs in front of what is pointed at in the end. -/
def TypeTree.carets : TypeTree → Nat
  | .pointer p => p.carets + 1
  | .qualified _ t => t.carets
  | _ => 0

/-- The number of pointer signs that follow a pointer sign. -/
def Pointee.carets : Pointee → Nat
  | .type t => t.carets
  | .qualified _ p => p.carets
  | _ => 0

end

mutual

/-- The shape that a tree denotes. -/
def TypeTree.shape : TypeTree → Shape
  | .scalar p => .scalar p
  | .cString => .cString
  | .classRef => .classRef
  | .selector => .selector
  | .unknown => .pointer 1 none
  | .object | .block => .object none
  | .className name => .object (some (String.ofList name.val))
  | .pointer p => .pointer (min (p.carets + 1) 255) none
  | .struct name fields => .aggregate (.ofFields (String.ofList name.val) fields.denote)
  | .qualified _ t => t.shape

/-- The fields that the trees denote, none of which has a name. -/
def FieldTrees.denote : FieldTrees → List (Option String × Descriptor)
  | .last t => [(none, .mk (String.ofList t.bare.print) t.shape)]
  | .more t fields => (none, .mk (String.ofList t.bare.print) t.shape) :: fields.denote

end

/-- **The denotation of a tree**: its shape, and its text without leading qualifiers. -/
def TypeTree.denote (t : TypeTree) : Descriptor := .mk (String.ofList t.bare.print) t.shape

/-! ## Valid trees -/

mutual

/-- **Valid**: no field of a struct is void, and no sign of an object at the end of a field stands
directly before a question mark that starts the next one. -/
def TypeTree.Valid : TypeTree → Prop
  | .pointer p => p.Valid
  | .struct _ fields => fields.Valid
  | .qualified _ t => t.Valid
  | _ => True

/-- Whether the tree behind a pointer is valid. -/
def Pointee.Valid : Pointee → Prop
  | .type t => t.Valid
  | .qualified _ p => p.Valid
  | _ => True

/-- Whether the fields are valid. -/
def FieldTrees.Valid : FieldTrees → Prop
  | .last t => t.Valid ∧ t.denote.isVoid = false
  | .more t fields => (t.Valid ∧ t.denote.isVoid = false) ∧
      ¬ (t.print.getLast? = some '@' ∧ fields.print.head? = some '?') ∧ fields.Valid

end

/-! ## The text behind a pointer -/

lemma Qualifier.ne {q : Qualifier} {c : Char} (hc : isQualifier c = false) : q.val ≠ c := by
  intro h
  rw [← h, q.property] at hc
  cases hc

/-- Between the braces of a struct the text is neutral if its fields are. -/
lemma StructName.neutral (name : StructName) {fields : List Char} (h : Neutral .curly fields) :
    Neutral .curly (name.val ++ '=' :: fields) := by
  refine .append (.of_forall fun c hc => ?_) (.cons (by decide) (by decide) (by decide) h)
  exact ⟨(name.property c hc).1, (name.property c hc).2.2⟩

lemma StructName.endsName (name : StructName) : ∀ c ∈ name.val, endsName c = false := by
  intro c hc
  obtain ⟨-, hequals, -, hbrace⟩ := name.property c hc
  simp [Encoding.endsName, hequals, hbrace]

mutual

/-- The text of a tree leaves the braces around it as they are. -/
lemma TypeTree.neutral : (t : TypeTree) → Neutral .curly t.print
  | .scalar p => by
    refine .of_forall fun c hc => ?_
    rw [List.mem_singleton.mp hc]
    cases p <;> decide
  | .cString | .classRef | .selector | .unknown | .object =>
    .cons (by decide) (by decide) (by decide) .nil
  | .block =>
    .cons (by decide) (by decide) (by decide) (.cons (by decide) (by decide) (by decide) .nil)
  | .className name => .cons (by decide) (by decide) (by decide) (.quoted name.property .nil)
  | .pointer p => .cons (by decide) (by decide) (by decide) p.neutral
  | .struct name fields => by
    have hgroup := (name.neutral fields.neutral).group .nil
    rw [List.append_assoc] at hgroup
    exact hgroup
  | .qualified q t =>
    .cons (Qualifier.ne (by decide)) (Qualifier.ne (by decide)) (Qualifier.ne (by decide)) t.neutral

lemma Pointee.neutral : (p : Pointee) → Neutral .curly p.print
  | .type t => t.neutral
  | .array text => (text.property.group .square .nil).neutral .curly
  | .union text => (text.property.group .round .nil).neutral .curly
  | .bitField width => by
    refine .cons (by decide) (by decide) (by decide) (.of_forall fun c hc => ?_)
    have hdigit := width.property c hc
    refine ⟨?_, ?_, ?_⟩ <;> rintro rfl <;> exact absurd hdigit (by decide)
  | .longDouble => .cons (by decide) (by decide) (by decide) .nil
  | .qualified q p =>
    .cons (Qualifier.ne (by decide)) (Qualifier.ne (by decide)) (Qualifier.ne (by decide)) p.neutral

lemma FieldTrees.neutral : (fields : FieldTrees) → Neutral .curly fields.print
  | .last t => t.neutral
  | .more t fields => t.neutral.append fields.neutral

end

/-! ## Trees are spelled -/

section Spelling

variable {layout? : String → Option Layout}

/-- The qualifiers of a tree come before the tree without them. -/
lemma TypeTree.exists_print_eq : (t : TypeTree) → ∃ q, Qualifiers q ∧ t.print = q ++ t.bare.print
  | .qualified q t => by
    obtain ⟨qs, hqs, hprint⟩ := t.exists_print_eq
    exact ⟨q.val :: qs, List.forall_mem_cons.mpr ⟨q.property, hqs⟩, by
      rw [TypeTree.print, hprint, TypeTree.bare, List.cons_append]⟩
  | .scalar _ | .cString | .classRef | .selector | .unknown | .object | .block | .className _
  | .pointer _ | .struct _ _ => ⟨[], .nil, rfl⟩

/-- A tree does not start with what could belong to the type before it, except for a question
mark. -/
lemma TypeTree.exists_cons (t : TypeTree) :
    ∃ c v, t.print = c :: v ∧ c ≠ '"' ∧ isOffset c = false := by
  cases t with
  | scalar p => exact ⟨_, _, rfl, by cases p <;> decide⟩
  | qualified q t =>
    exact ⟨_, _, rfl, Qualifier.ne (by decide), isOffset_of_isQualifier q.property⟩
  | _ => exact ⟨_, _, rfl, by decide⟩

lemma FieldTrees.exists_cons (fields : FieldTrees) :
    ∃ c v, fields.print = c :: v ∧ c ≠ '"' ∧ isOffset c = false := by
  cases fields with
  | last t => exact t.exists_cons
  | more t fields =>
    obtain ⟨c, v, hprint, hc⟩ := t.exists_cons
    exact ⟨c, v ++ fields.print, by rw [FieldTrees.print, hprint, List.cons_append], hc⟩

lemma FieldTrees.head_ne (fields : FieldTrees) :
    ∀ c ∈ fields.print.head?, c ≠ '"' ∧ isOffset c = false := by
  obtain ⟨c, v, hprint, hc⟩ := fields.exists_cons
  rw [hprint]
  simpa using hc

/-- **Pointed**: behind a pointer sign the text is more signs, so many of them pointer signs, and a
pointee. -/
def Pointed (layout? : String → Option Layout) (s : List Char) (carets : Nat) : Prop :=
  ∃ signs u struct? tail, s = signs ++ u ∧ (∀ c ∈ signs, isSign c = true) ∧
    signs.count '^' = carets ∧ SpellsPointee layout? u struct? tail

lemma SpellsPointee.pointed {u : List Char} {struct? : Option String} {tail : Tail}
    (h : SpellsPointee layout? u struct? tail) : Pointed layout? u 0 :=
  ⟨[], u, struct?, tail, rfl, by simp, rfl, h⟩

lemma Pointed.qualifier {s : List Char} {carets : Nat} (q : Qualifier)
    (h : Pointed layout? s carets) : Pointed layout? (q.val :: s) carets := by
  obtain ⟨signs, u, struct?, tail, rfl, hsigns, hcount, hu⟩ := h
  refine ⟨q.val :: signs, u, struct?, tail, rfl, List.forall_mem_cons.mpr ⟨?_, hsigns⟩, ?_, hu⟩
  · simp [isSign, q.property]
  · rw [List.count_cons_of_ne (Qualifier.ne (by decide)), hcount]

lemma Pointed.caret {s : List Char} {carets : Nat} (h : Pointed layout? s carets) :
    Pointed layout? ('^' :: s) (carets + 1) := by
  obtain ⟨signs, u, struct?, tail, rfl, hsigns, hcount, hu⟩ := h
  refine ⟨'^' :: signs, u, struct?, tail, rfl, List.forall_mem_cons.mpr ⟨rfl, hsigns⟩, ?_, hu⟩
  rw [List.count_cons_self, hcount]

/-- A pointer is spelled, without a layout where none is registered. -/
lemma Pointed.spells (hnone : ∀ name, layout? name = none) {s : List Char} {carets : Nat}
    (h : Pointed layout? s carets) :
    ∃ tail, Spells layout? false ('^' :: s) (.pointer (min (carets + 1) 255) none) tail := by
  obtain ⟨signs, u, struct?, tail, rfl, hsigns, rfl, hu⟩ := h
  have hpointer : Spells layout? false _ _ tail := .pointer hsigns hu
  have hlayout : (if levelsOf signs = 1 then struct?.bind layout? else none) = none := by
    cases struct? <;> simp [hnone]
  rw [hlayout, levelsOf, Nat.add_comm] at hpointer
  exact ⟨tail, hpointer⟩

/-- A type that is no pointer and no struct is spelled behind a pointer as anywhere else. -/
lemma Spells.pointed {c : Char} {u : List Char} {shape : Shape} {tail : Tail}
    (h : Spells layout? false (c :: u) shape tail) (hpointer : c ≠ '^') (hstruct : c ≠ '\x7b') :
    (∃ tail, Spells layout? false (c :: u) shape tail) ∧ Pointed layout? (c :: u) 0 :=
  ⟨⟨tail, h⟩, (SpellsPointee.type h hpointer hstruct).pointed⟩

/-- One field is spelled before the others. -/
lemma TypeTree.spells_field (t : TypeTree)
    (h : ∃ tail, Spells layout? false t.bare.print t.shape tail) (hvoid : t.denote.isVoid = false)
    {v : List Char} {fields : List (Option String × Descriptor)}
    (hapart : ¬ (t.print.getLast? = some '@' ∧ v.head? = some '?'))
    (hv : ∀ c ∈ v.head?, c ≠ '"' ∧ isOffset c = false)
    (hrest : SpellsFields layout? false v fields) :
    SpellsFields layout? false (t.print ++ v) ((none, t.denote) :: fields) := by
  obtain ⟨tail, hu⟩ := h
  obtain ⟨q, hq, hprint⟩ := t.exists_print_eq
  have hlast : t.print.getLast? = t.bare.print.getLast? := by
    obtain ⟨c, u, hbare, -⟩ := hu.exists_cons
    rw [hprint, List.getLast?_append_of_ne_nil _ (by simp [hbare])]
  have hstop : tail.Stops (v ++ ['\x7d']) := by
    rw [hu.stops_iff, ← hlast]
    · cases v with
      | nil => simp
      | cons c v => exact hapart
    · cases v with
      | nil => simp; decide
      | cons c v => exact hv
  rw [hprint, List.append_assoc]
  exact .cons .unnamed hq hu (isVoid_mk.mp hvoid) hstop hrest

mutual

/-- **Trees are spelled**: without its qualifiers, the text of a valid tree spells its shape; and the
text may stand behind a pointer. -/
lemma TypeTree.spells (hnone : ∀ name, layout? name = none) : (t : TypeTree) → t.Valid →
    (∃ tail, Spells layout? false t.bare.print t.shape tail) ∧ Pointed layout? t.print t.carets
  | .scalar p, _ => (Spells.scalar p).pointed (by cases p <;> decide) (by cases p <;> decide)
  | .cString, _ => Spells.cString.pointed (by decide) (by decide)
  | .classRef, _ => Spells.classRef.pointed (by decide) (by decide)
  | .selector, _ => Spells.selector.pointed (by decide) (by decide)
  | .unknown, _ => Spells.unknown.pointed (by decide) (by decide)
  | .object, _ => Spells.object.pointed (by decide) (by decide)
  | .block, _ => Spells.block.pointed (by decide) (by decide)
  | .className name, _ => (Spells.className name.property).pointed (by decide) (by decide)
  | .pointer p, h => ⟨(p.pointed hnone h).spells hnone, (p.pointed hnone h).caret⟩
  | .qualified q t, h => ⟨(t.spells hnone h).1, (t.spells hnone h).2.qualifier q⟩
  | .struct name fields, h => by
    have hfields := fields.spells hnone h
    have hname : ∀ c ∈ name.val, endsName c = false := name.endsName
    have hinner : false = ((fields.print ++ ['\x7d']).head? == some '"') := by
      obtain ⟨c, v, hprint, hquote, -⟩ := fields.exists_cons
      simp [hprint, hquote]
    have hne : fields.denote ≠ [] := by cases fields <;> simp [FieldTrees.denote]
    have hlayout : structLayout layout? false (String.ofList name.val) fields.denote =
        .ofFields (String.ofList name.val) fields.denote := by
      simp [structLayout, adoptNames, hnone]
    have hgroup := (name.neutral fields.neutral).isGroup
    rw [List.append_assoc] at hgroup
    refine ⟨⟨.closed, ?_⟩, (SpellsPointee.struct hgroup).pointed⟩
    rw [TypeTree.shape, ← hlayout]
    exact .struct hname hinner hfields hne

/-- The text behind a pointer sign may stand there. -/
lemma Pointee.pointed (hnone : ∀ name, layout? name = none) :
    (p : Pointee) → p.Valid → Pointed layout? p.print p.carets
  | .type t, h => (t.spells hnone h).2
  | .array text, _ => (SpellsPointee.array (text.property.neutral .square).isGroup).pointed
  | .union text, _ => (SpellsPointee.union (text.property.neutral .round).isGroup).pointed
  | .bitField width, _ => by
    refine (SpellsPointee.bitField fun c hc => ?_).pointed
    rw [isOffset, width.property c hc, Bool.true_or]
  | .longDouble, _ => SpellsPointee.longDouble.pointed
  | .qualified q p, h => (p.pointed hnone h).qualifier q

/-- The texts of valid fields list what they denote. -/
lemma FieldTrees.spells (hnone : ∀ name, layout? name = none) :
    (fields : FieldTrees) → fields.Valid →
      SpellsFields layout? false fields.print fields.denote
  | .last t, ⟨ht, hvoid⟩ => by
    have hfield := t.spells_field (t.spells hnone ht).1 hvoid (by simp) (by simp) .nil
    rw [List.append_nil] at hfield
    exact hfield
  | .more t fields, ⟨⟨ht, hvoid⟩, hapart, h⟩ =>
    t.spells_field (t.spells hnone ht).1 hvoid hapart fields.head_ne
      (fields.spells hnone h)

end

end Spelling

/-! ## Translation -/

/-- The shape does not depend on qualifiers. -/
lemma TypeTree.shape_bare : (t : TypeTree) → t.bare.shape = t.shape
  | .qualified _ t => t.shape_bare
  | .scalar _ | .cString | .classRef | .selector | .unknown | .object | .block | .className _
  | .pointer _ | .struct _ _ => rfl

lemma TypeTree.carets_bare : (t : TypeTree) → t.bare.carets = t.carets
  | .qualified _ t => t.carets_bare
  | .scalar _ | .cString | .classRef | .selector | .unknown | .object | .block | .className _
  | .pointer _ | .struct _ _ => rfl

lemma TypeTree.bare_ne_qualified :
    (t : TypeTree) → (q : Qualifier) → (t' : TypeTree) → t.bare ≠ .qualified q t'
  | .qualified _ t, q, t' => t.bare_ne_qualified q t'
  | .scalar _, _, _ | .cString, _, _ | .classRef, _, _ | .selector, _, _ | .unknown, _, _
  | .object, _, _ | .block, _, _ | .className _, _, _ | .pointer _, _, _ | .struct _ _, _, _ => nofun

/-- The number of pointer levels is the number of pointer signs, except that something unknown counts
as a pointer of one level. -/
lemma TypeTree.indirection_denote (t : TypeTree) :
    t.denote.indirection = if t.bare matches .unknown then 1 else min t.carets 255 := by
  rw [← t.carets_bare, denote, ← t.shape_bare]
  cases hbare : t.bare with
  | qualified q t' => exact absurd hbare (t.bare_ne_qualified q t')
  | _ => simp [Descriptor.indirection, Descriptor.shape, TypeTree.shape, TypeTree.carets]

/-- **Translation**: without registered layouts, the text of a valid tree is translated into the
denotation of the tree. A pointer takes a word and has no layout, whatever it points at. -/
theorem TypeTree.translate_print {t : TypeTree} (h : t.Valid) :
    ({} : Translator).translate (String.ofList t.print) = .ok t.denote ∧
      t.denote.indirection = (if t.bare matches .unknown then 1 else min t.carets 255) ∧
      ∀ p, t.bare = .pointer p → t.denote.size = 8 ∧ t.denote.layout? = none := by
  refine ⟨?_, t.indirection_denote, fun p hp => ?_⟩
  · have hnone (name : String) : ({} : Translator).layout? name = none := rfl
    obtain ⟨⟨tail, hu⟩, -⟩ := t.spells hnone h
    obtain ⟨q, hq, hprint⟩ := t.exists_print_eq
    have hone : ({} : Translator).readOne t.print = .ok (t.denote, []) :=
      readOne_eq_ok_iff.mpr ⟨q, _, _, tail, by rw [List.append_nil, hprint], hq, hu, rfl, nofun⟩
    rw [Translator.translate, String.toList_ofList, hone]
  · rw [denote, ← t.shape_bare, hp]
    exact ⟨rfl, rfl⟩

/-- The struct `Node` with a named object, a pointer to a pointer to a constant `Node`, a pointer to an
array of structs and a number. -/
def nodeTree : TypeTree :=
  let fields : Balanced ['P', '=', 'd', 'd'] :=
    .char (by decide) (by rintro ⟨⟩ <;> decide) (.char (by decide) (by rintro ⟨⟩ <;> decide)
      (.char (by decide) (by rintro ⟨⟩ <;> decide) (.char (by decide) (by rintro ⟨⟩ <;> decide)
        .nil)))
  let points : Balanced ['4', '\x7b', 'P', '=', 'd', 'd', '\x7d'] :=
    .char (by decide) (by rintro ⟨⟩ <;> decide) (.group .curly fields .nil)
  .struct ⟨['N', 'o', 'd', 'e'], by simp⟩
    (.more (.className ⟨['I', 't', 'e', 'm'], by decide⟩)
      (.more (.pointer (.type (.pointer (.qualified ⟨'r', rfl⟩ (.type
          (.struct ⟨['N', 'o', 'd', 'e'], by simp⟩ (.more (.scalar .int) (.last .object))))))))
        (.more (.pointer (.array ⟨_, points⟩)) (.last (.scalar .double)))))

example : String.ofList nodeTree.print =
    "\x7bNode=@\"Item\"^^r\x7bNode=i@\x7d^[4\x7bP=dd\x7d]d\x7d" := by decide

/-- Such a struct is translated. -/
theorem translate_print_node :
    nodeTree.Valid ∧
      ({} : Translator).translate (String.ofList nodeTree.print) = .ok nodeTree.denote := by
  have hvalid : nodeTree.Valid := by
    simp only [nodeTree, TypeTree.Valid, FieldTrees.Valid, Pointee.Valid]
    decide
  exact ⟨hvalid, (TypeTree.translate_print hvalid).1⟩

/-- Something unknown has a pointer level without a pointer sign. -/
theorem unknown_has_level :
    TypeTree.unknown.Valid ∧ ∃ d,
      ({} : Translator).translate (String.ofList TypeTree.unknown.print) = .ok d ∧
        d.indirection ≠ min TypeTree.unknown.carets 255 :=
  ⟨trivial, .mk "?" (.pointer 1 none), rfl, by decide⟩

end MessageBridge.Encoding
