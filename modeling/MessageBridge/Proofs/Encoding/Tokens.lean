import MessageBridge.Proofs.Encoding.Scan
import MessageBridge.Encoding.Token
import Mathlib.Data.List.Forall2

/-!
# Tokens and types

A type string is cut into tokens by the object space, which counts brackets, and read into descriptors
by the bridge, which follows the types. The two find the same boundaries. For a type string is built of
types, and types leave the scanner of brackets where it was; so whatever a reader takes for one type is
a text in which groups close where the brackets are level.

## Main definitions

* `Encoding.TypeText`, `Encoding.FieldTexts` — the texts of types and of the fields of a struct or
  union.
* `Encoding.TypeString` — types one after another, each with an offset after it or none.

## Main results

* `Encoding.TypeString.level` — type strings are level.
* `Encoding.Spells.level` — what a reader takes for a type is level where the scanner gets through.
* `Encoding.Spells.skipType_append` — a token ends where the type does.
* `Translator.exists_cut_of_split` — a type string that is read into descriptors is cut into as many
  tokens, which are their encodings with qualifiers before them.
-/

namespace MessageBridge

namespace Encoding

/-! ## Type strings -/

/-- The characters that stand for a type on their own. -/
inductive IsCode : Char → Prop
  | scalar (p : Primitive) : IsCode p.code
  | cString : IsCode '*'
  | classRef : IsCode '#'
  | selector : IsCode ':'
  | unknown : IsCode '?'
  | object : IsCode '@'
  | longDouble : IsCode 'D'

/-- Nothing, or a name in quotes. -/
inductive LabelText : List Char → Prop
  | none : LabelText []
  | quoted {name : List Char} (h : '"' ∉ name) : LabelText ('"' :: (name ++ ['"']))

mutual

/-- **Texts of types**: the grammar of type encodings, without regard to what can be passed by value. A
struct or union is given by its name, or with its fields. -/
inductive TypeText : List Char → Prop
  | code {c : Char} (h : IsCode c) : TypeText [c]
  | block : TypeText ['@', '?']
  | className {name : List Char} (h : '"' ∉ name) : TypeText ('@' :: '"' :: (name ++ ['"']))
  | bitField {width : List Char} (h : ∀ c ∈ width, c.isDigit = true) : TypeText ('b' :: width)
  | pointer {u : List Char} (h : TypeText u) : TypeText ('^' :: u)
  | qualified {c : Char} {u : List Char} (hc : isQualifier c = true) (h : TypeText u) :
      TypeText (c :: u)
  | array {count u : List Char} (hcount : ∀ c ∈ count, c.isDigit = true) (h : TypeText u) :
      TypeText ('[' :: ((count ++ u) ++ [']']))
  | named {b : Bracket} {name : List Char} (hb : b ≠ .square) (hname : IsName name) :
      TypeText (b.opening :: (name ++ [b.closing]))
  | compound {b : Bracket} {name fields : List Char} (hb : b ≠ .square) (hname : IsName name)
      (h : FieldTexts fields) : TypeText (b.opening :: (name ++ '=' :: (fields ++ [b.closing])))

/-- **Texts of fields**, each with its name in quotes before it or none. -/
inductive FieldTexts : List Char → Prop
  | nil : FieldTexts []
  | cons {label u v : List Char} (hlabel : LabelText label) (h : TypeText u)
      (hrest : FieldTexts v) : FieldTexts (label ++ (u ++ v))

end

/-- **Type strings**: types one after another, each with a stack offset after it or none. -/
inductive TypeString : List Char → Prop
  | nil : TypeString []
  | cons {u offset v : List Char} (h : TypeText u) (hoffset : ∀ c ∈ offset, isOffset c = true)
      (hrest : TypeString v) : TypeString (u ++ (offset ++ v))

/-! ## Type strings are level -/

section Marks

variable {c : Char} {s : List Char}

/-- A text of characters of which some property holds is a name if none of the marks has it. -/
lemma IsName.of_forall {p : Char → Bool} (h : ∀ c ∈ s, p c = true)
    (hmarks : ['"', '=', '\x7b', '[', '(', '\x7d', ']', ')'].any p = false) : IsName s := by
  intro c hc
  have hne : ∀ d ∈ ['"', '=', '\x7b', '[', '(', '\x7d', ']', ')'], c ≠ d := by
    rintro d hd rfl
    exact List.any_eq_false.mp hmarks c hd (h c hc)
  simp only [List.forall_mem_cons, List.not_mem_nil, false_implies, implies_true, and_true] at hne
  simp [markOf, hne]

lemma IsName.of_isOffset (h : ∀ c ∈ s, isOffset c = true) : IsName s := .of_forall h (by decide)

lemma IsName.of_isDigit (h : ∀ c ∈ s, c.isDigit = true) : IsName s := .of_forall h (by decide)

lemma IsName.of_isSign (h : ∀ c ∈ s, isSign c = true) : IsName s := .of_forall h (by decide)

lemma Qualifiers.level (h : Qualifiers s) : Level s := .of_isName (.of_forall h (by decide))

lemma IsCode.level (h : IsCode c) : Level [c] := by
  cases h with
  | scalar p => cases p <;> rfl
  | _ => rfl

lemma LabelText.level (h : LabelText s) : Level s := by
  cases h with
  | none => exact .nil
  | quoted hname => exact .quoted hname

end Marks

mutual

/-- **Types are level.** -/
lemma TypeText.level {u : List Char} : TypeText u → Level u
  | .code h => h.level
  | .block => rfl
  | .className h => Level.append (s := ['@']) rfl (.quoted h)
  | .bitField h => Level.append (s := ['b']) rfl (.of_isName (.of_isDigit h))
  | .pointer h => Level.append (s := ['^']) rfl h.level
  | .qualified (c := c) hc h =>
    Level.append (s := [c]) (Qualifiers.level (List.forall_mem_singleton.mpr hc)) h.level
  | .array hcount h => .array ((Level.of_isName (.of_isDigit hcount)).append h.level)
  | .named hb hname => .named hb hname
  | .compound hb hname h => .compound hb hname h.level

lemma FieldTexts.level {v : List Char} : FieldTexts v → Level v
  | .nil => .nil
  | .cons hlabel h hrest => hlabel.level.append (h.level.append hrest.level)

end

/-- **Type strings are level.** -/
lemma TypeString.level {s : List Char} (h : TypeString s) : Level s := by
  induction h with
  | nil => exact .nil
  | cons h hoffset _ ih => exact h.level.append ((Level.of_isName (.of_isOffset hoffset)).append ih)

/-! ## Types as they are read -/

section Spells

variable {layout? : String → Option Layout} {st : List Bracket} {x : List Bracket × Mode}
  {named : Bool} {u rest : List Char}

lemma Label.level {label : List Char} {name : Option String} (h : Label named label name) :
    Level label := by
  cases h with
  | unnamed => exact .nil
  | named hname => exact .quoted hname

lemma forall_isSign_cons {signs : List Char} (h : ∀ c ∈ signs, isSign c = true) :
    ∀ c ∈ '^' :: signs, isSign c = true :=
  List.forall_mem_cons.mpr ⟨rfl, h⟩

/-- Where the scanner gets through a struct, its name is a name, and the scanner gets through its
fields. -/
lemma scan_struct {name body : List Char} (hname : ∀ c ∈ name, endsName c = false)
    (h : scan (st, .plain) ('\x7b' :: (name ++ '=' :: (body ++ ['\x7d']))) = some x) :
    IsName name ∧ ∃ y, scan (.curly :: st, .plain) body = some y := by
  obtain ⟨hisName, h⟩ := isName_of_scan hname h
  obtain ⟨y, hy, -⟩ := scan_append_eq_some.mp (show scan (.curly :: st, .plain) (body ++ _) = _ from h)
  exact ⟨hisName, y, hy⟩

mutual

/-- **What is read as a type is level** where the scanner gets through it. -/
lemma Spells.level {named : Bool} {u : List Char} {shape : Shape} {tail : Tail}
    {st : List Bracket} {x : List Bracket × Mode} :
    Spells layout? named u shape tail → scan (st, .plain) u = some x → Level u
  | .scalar p, _ => (IsCode.scalar p).level
  | .object, _ | .block, _ | .classRef, _ | .selector, _ | .cString, _ | .unknown, _ => rfl
  | .className h, _ => Level.append (s := ['@']) rfl (.quoted h)
  | .pointer hsigns h, hx => by
    have hlevel := Level.of_isName (.of_isSign (forall_isSign_cons hsigns))
    rw [← List.cons_append] at hx ⊢
    exact hlevel.append (h.level (hlevel.of_append hx))
  | .known hname _, hx => .named (b := .curly) (by decide) (isName_of_scan hname hx).1
  | .struct hname _ h _, hx => by
    obtain ⟨hisName, y, hy⟩ := scan_struct hname hx
    exact .compound (b := .curly) (by decide) hisName (h.level hy)

lemma SpellsPointee.level {u : List Char} {struct? : Option String} {tail : Tail}
    {st : List Bracket} {x : List Bracket × Mode} :
    SpellsPointee layout? u struct? tail → scan (st, .plain) u = some x → Level u
  | .type h _ _, hx => h.level hx
  | .struct h, hx => level_of_group (b := .curly) h hx
  | .array h, hx => level_of_group (b := .square) h hx
  | .union h, hx => level_of_group (b := .round) h hx
  | .bitField h, _ => Level.append (s := ['b']) rfl (.of_isName (.of_isOffset h))
  | .longDouble, _ => rfl

lemma SpellsFields.level {named : Bool} {v : List Char}
    {fields : List (Option String × Descriptor)} {st : List Bracket} {x : List Bracket × Mode} :
    SpellsFields layout? named v fields → scan (st, .plain) v = some x → Level v
  | .nil, _ => .nil
  | .cons hlabel hq h _ _ hrest, hx => by
    have hx := hq.level.of_append (hlabel.level.of_append hx)
    obtain ⟨y, hy, -⟩ := scan_append_eq_some.mp hx
    have hlevel := h.level hy
    exact hlabel.level.append (hq.level.append (hlevel.append (hrest.level (hlevel.of_append hx))))

end

end Spells

/-! ## Tokens -/

section Tokens

open Token

variable {layout? : String → Option Layout} {s rest : List Char}

lemma skipType_cons {c : Char} (h : isSign c = true) (s : List Char) :
    skipType (c :: s) = skipType s := by
  exact if_pos h

lemma skipType_signs {signs : List Char} (h : ∀ c ∈ signs, isSign c = true) (s : List Char) :
    skipType (signs ++ s) = skipType s := by
  induction signs with
  | nil => rfl
  | cons c signs ih =>
    obtain ⟨hc, hsigns⟩ := List.forall_mem_cons.mp h
    rw [List.cons_append, skipType_cons hc, ih hsigns]

/-- A group is one token. -/
lemma skipType_group {b : Bracket} (h : Group b.opening b.closing (b.opening :: s))
    (rest : List Char) : skipType (b.opening :: s ++ rest) = .ok rest := by
  have hclose : closeGroup b.opening b.closing 0 false (b.opening :: s ++ rest) = some rest :=
    closeGroup_append h
  cases b <;> exact congrArg orTruncated hclose

lemma skipType_code (p : Primitive) (rest : List Char) : skipType (p.code :: rest) = .ok rest := by
  cases p <;> rfl

/-- What belongs to the sign of an object. -/
lemma skipType_at (s : List Char) :
    skipType ('@' :: s) = match s with
      | '?' :: rest => .ok rest
      | '"' :: rest =>
        match rest.dropWhile (· != '"') with
        | _ :: rest => .ok rest
        | [] => .error .truncated
      | rest => .ok rest := rfl

/-- The name of a class belongs to it. -/
lemma skipType_className {name : List Char} (h : '"' ∉ name) (rest : List Char) :
    skipType ('@' :: '"' :: (name ++ ['"']) ++ rest) = .ok rest := by
  have hdrop : (name ++ '"' :: rest).dropWhile (· != '"') = '"' :: rest := by
    rw [List.dropWhile_append_of_pos fun c hc => by simpa using ne_of_mem_of_not_mem hc h]
    simp
  rw [List.cons_append, List.cons_append, List.append_assoc, List.singleton_append, skipType_at]
  simp only [hdrop]

lemma skipType_object {c : Char} (hmark : c ≠ '?') (hquote : c ≠ '"') (rest : List Char) :
    skipType ('@' :: c :: rest) = .ok (c :: rest) := by
  rw [skipType_at]
  split
  · next heq => exact absurd (List.cons.inj heq).1 hmark
  · next heq => exact absurd (List.cons.inj heq).1 hquote
  · rfl

mutual

/-- **A token ends where the type does**, if its brackets are level. -/
lemma Spells.skipType_append {named : Bool} {u : List Char} {shape : Shape} {tail : Tail} :
    Spells layout? named u shape tail → named = false → Level u → tail.Stops rest →
      skipType (u ++ rest) = .ok rest
  | .scalar p, _, _, _ => skipType_code p rest
  | .object, hnamed, _, hstop => by
    subst hnamed
    cases rest with
    | nil => rfl
    | cons c rest =>
      have htakes := hstop c rfl
      simp only [Tail.takes, Bool.not_false, Bool.true_and, Bool.or_eq_false_iff,
        beq_eq_false_iff_ne] at htakes
      exact skipType_object htakes.1 htakes.2 rest
  | .block, _, _, _ => rfl
  | .classRef, _, _, _ | .selector, _, _, _ | .cString, _, _, _ | .unknown, _, _, _ => rfl
  | .className h, _, _, _ => skipType_className h rest
  | .pointer hsigns h, _, hlevel, hstop => by
    have hsigns := forall_isSign_cons hsigns
    rw [← List.cons_append] at hlevel ⊢
    have hpointee := (Level.of_isName (.of_isSign hsigns)).of_append hlevel
    rw [List.append_assoc, skipType_signs hsigns]
    exact h.skipType_append hpointee hstop
  | .known hname _, _, hlevel, _ =>
    have hisName := (isName_of_scan hname hlevel).1
    skipType_group (b := .curly) (hisName.neutral .curly).isGroup rest
  | .struct hname _ h _, _, hlevel, _ => by
    obtain ⟨hisName, y, hy⟩ := scan_struct hname hlevel
    have hneutral := (hisName.neutral .curly).append
      (.cons (c := '=') (by decide) (by decide) (by decide) ((h.level hy).neutral .curly))
    have hgroup := hneutral.isGroup
    rw [List.append_assoc, List.cons_append] at hgroup
    exact skipType_group hgroup rest

/-- The token of a pointer ends where what it points at does. -/
lemma SpellsPointee.skipType_append {u : List Char} {struct? : Option String} {tail : Tail} :
    SpellsPointee layout? u struct? tail → Level u → tail.Stops rest →
      skipType (u ++ rest) = .ok rest
  | .type h _ _, hlevel, hstop => h.skipType_append rfl hlevel hstop
  | .struct h, _, _ => skipType_group (b := .curly) h rest
  | .array h, _, _ => skipType_group (b := .square) h rest
  | .union h, _, _ => skipType_group (b := .round) h rest
  | .bitField h, _, hstop => congrArg Except.ok (skipOffset_append h hstop)
  | .longDouble, _, _ => rfl

end

end Tokens

/-- **A token of a type**: the encoding of the descriptor, with qualifiers before it. -/
def TokenOf (token : String) (d : Descriptor) : Prop :=
  ∃ q, Qualifiers q ∧ token.toList = q ++ d.encoding.toList

end Encoding

/-! ## Cutting and reading -/

namespace Translator

open Encoding Token

variable {t : Translator} {s : List Char} {d : Descriptor} {ds : List Descriptor}
  {x : List Bracket × Mode}

/-- An offset is level, so that the scanner gets through what is behind it. -/
lemma scan_skipOffset (h : scan ([], .plain) s = some x) : scan ([], .plain) (skipOffset s) = some x := by
  have hoffset : Level (s.takeWhile isOffset) :=
    .of_isName (.of_isOffset fun c hc => List.mem_takeWhile_imp hc)
  rw [← List.takeWhile_append_dropWhile (p := isOffset) (l := s)] at h
  exact hoffset.of_append h

/-- **The first token** is the one of the first type. -/
lemma skipType_of_readOne {rest : List Char} (hscan : scan ([], .plain) s = some x)
    (h : t.readOne s = .ok (d, rest)) :
    skipType s = .ok rest ∧ TokenOf (textBetween s rest) d ∧ scan ([], .plain) rest = some x := by
  obtain ⟨q, u, shape, tail, rfl, hq, hu, rfl, hstop⟩ := readOne_eq_ok_iff.mp h
  have hrest := hq.level.of_append hscan
  obtain ⟨y, hy, -⟩ := scan_append_eq_some.mp hrest
  have hlevel := hu.level hy
  have hsigns : ∀ c ∈ q, isSign c = true := fun c hc => by simp [isSign, hq c hc]
  refine ⟨?_, ⟨q, hq, ?_⟩, hlevel.of_append hrest⟩
  · rw [skipType_signs hsigns, hu.skipType_append rfl hlevel hstop]
  · rw [← List.append_assoc, textBetween_append, String.toList_ofList]
    simp [Descriptor.encoding]

/-- Types that are read one after another are cut one after another. -/
lemma exists_cutAll_of_readAll {count : Nat} (hscan : scan ([], .plain) s = some x)
    (h : t.readAll count s = .ok ds) :
    ∃ tokens, cutAll count s = .ok tokens ∧ List.Forall₂ TokenOf tokens ds := by
  induction count generalizing s ds with
  | zero =>
    cases h
    exact ⟨[], rfl, .nil⟩
  | succ count ih =>
    cases s with
    | nil =>
      cases h
      exact ⟨[], rfl, .nil⟩
    | cons c s =>
      obtain ⟨⟨d, rest⟩, hone, h⟩ := bind_eq_ok.mp h
      obtain ⟨ds', hall, h⟩ := bind_eq_ok.mp h
      cases h
      obtain ⟨hskip, htoken, hrest⟩ := skipType_of_readOne hscan hone
      obtain ⟨tokens, hcut, htokens⟩ := ih (scan_skipOffset hrest) hall
      refine ⟨textBetween (c :: s) rest :: tokens, ?_, .cons htoken htokens⟩
      rw [cutAll, hskip, ok_bind, hcut]
      rfl

/-- **Tokens are types**: a type string that is read into descriptors, whatever layouts are registered,
is cut into as many tokens, each of which is the encoding of its descriptor with only qualifiers before
it. -/
theorem exists_cut_of_split {types : String} (htypes : TypeString types.toList)
    (h : t.split types = .ok ds) :
    ∃ tokens, Token.cut types = .ok tokens ∧ tokens.length = ds.length ∧
      List.Forall₂ TokenOf tokens ds := by
  rw [split] at h
  cases hall : t.readAll types.toList.length types.toList with
  | error refusal =>
    rw [hall] at h
    cases h
  | ok ds' =>
    rw [hall] at h
    cases h
    obtain ⟨tokens, hcut, htokens⟩ := exists_cutAll_of_readAll htypes.level hall
    exact ⟨tokens, hcut, htokens.length_eq, htokens⟩

/-- A struct with named fields, one of them a struct and one a pointer to an array; a class name; a
pointer to a struct that has a pointer to a bit-field; a constant pointer; and a block. Two of them have
offsets behind them. -/
def nestedTypes : String :=
  "\x7bOuter=\"a\"\x7bInner=ii\x7d\"b\"^[4c]\x7d16@\"String\"^\x7bP=^b3\x7d-8r^v@?"

/-- The string has five types, and is cut into five tokens. -/
theorem exists_cut_of_split_nested :
    TypeString nestedTypes.toList ∧ ∃ ds tokens, ({} : Translator).split nestedTypes = .ok ds ∧
      Token.cut nestedTypes = .ok tokens ∧ tokens.length = 5 ∧ List.Forall₂ TokenOf tokens ds := by
  have hint : TypeText ['i'] := .code (.scalar .int)
  have hinner : TypeText ['\x7b', 'I', 'n', 'n', 'e', 'r', '=', 'i', 'i', '\x7d'] :=
    .compound (b := .curly) (by decide) (show IsName ['I', 'n', 'n', 'e', 'r'] by decide)
      (.cons .none hint (.cons .none hint .nil))
  have hpointer : TypeText ['^', '[', '4', 'c', ']'] :=
    .pointer (.array (List.forall_mem_singleton.mpr (show '4'.isDigit = true from rfl)) (.code (.scalar .char)))
  have houter := TypeText.compound (b := .curly) (by decide)
    (show IsName ['O', 'u', 't', 'e', 'r'] by decide)
    (.cons (.quoted (show '"' ∉ ['a'] by decide)) hinner
      (.cons (.quoted (show '"' ∉ ['b'] by decide)) hpointer .nil))
  have hbits := TypeText.bitField (List.forall_mem_singleton.mpr (show '3'.isDigit = true from rfl))
  have hstruct := TypeText.compound (b := .curly) (by decide) (show IsName ['P'] by decide)
    (.cons .none (.pointer hbits) .nil)
  have hconst : TypeText ['r', '^', 'v'] := .qualified rfl (.pointer (.code (.scalar .void)))
  have hstring := TypeText.className (show '"' ∉ ['S', 't', 'r', 'i', 'n', 'g'] by decide)
  have hnone : ∀ c ∈ ([] : List Char), isOffset c = true := nofun
  have htypes : TypeString nestedTypes.toList :=
    .cons houter (List.all_eq_true.mp (show ['1', '6'].all isOffset = true from rfl))
      (.cons hstring hnone
        (.cons (.pointer hstruct) (List.all_eq_true.mp (show ['-', '8'].all isOffset = true from rfl))
          (.cons hconst hnone (.cons .block hnone .nil))))
  have hlength : (({} : Translator).split nestedTypes).toOption.map List.length = some 5 := by
    decide +kernel
  cases hsplit : ({} : Translator).split nestedTypes with
  | error e => simp [hsplit, Except.toOption] at hlength
  | ok ds =>
    obtain ⟨tokens, hcut, hcount, htokens⟩ := exists_cut_of_split htypes hsplit
    have hds : ds.length = 5 := by simpa [hsplit, Except.toOption] using hlength
    exact ⟨htypes, ds, tokens, rfl, hcut, hcount.trans hds, htokens⟩

end Translator

end MessageBridge
